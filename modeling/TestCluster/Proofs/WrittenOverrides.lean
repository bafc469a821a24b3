import TestCluster.Proofs.EncodedText
import TestCluster.Proofs.LetterCase
import TestCluster.Proofs.MergedSettings
import TestCluster.Proofs.NodePortText
import TestCluster.Proofs.ScopedSettings

/-!
# Written overrides — what is found in the environment after it was set

    Each override is written into a variable of its own, and found there again
    (`said_setting`).  So after a row of settings each override is the last one that was
    written, or what it was before if none was (`ofEnvironment_written`).

    Of values that were written by hand a switch takes the spellings of yes and no
    (`SaysSwitch`), the port the numerals for sixteen bits, both with blanks around them, and
    the name anything but nothing.  A variable that says none of this counts as unset
    (`ofEnvironment_ignored`), be it that its bytes are no text.
-/

namespace TestCluster.Overrides

variable {env e : Environment} {value : String} {entries : List Entry} {entry : Entry}
  {o : Overrides} {b : Bool} {p : UInt16}

open Text

/-! ## What a value says -/

/-- What is its own in the name of each variable that is read. -/
def suffixes : List String := ["CLEANUP", "REUSE", "NAME", "INGRESS_PORT"]

/-- The spellings of yes and of no. -/
def spellings : Bool → List String
  | true => ["1", "true", "yes", "on", "enabled"]
  | false => ["0", "false", "no", "off", "disabled"]

/-- A text that says yes or no: one of the spellings, in any letter case and with blanks on
    either side. -/
inductive SaysSwitch (b : Bool) : List Char → Prop where
  | intro {word : String} {inner cs : List Char} :
      word ∈ spellings b → inner.map Char.toLower = word.toList → Padded inner cs →
      SaysSwitch b cs

/-- A variable that says an override, by its name and its value. -/
inductive Says : String → String → Entry → Prop where
  | cleanup {value : String} {b : Bool} :
      SaysSwitch b value.toList → Says (variableName "CLEANUP") value (.cleanup b)
  | reuse {value : String} {b : Bool} :
      SaysSwitch b value.toList → Says (variableName "REUSE") value (.reuse b)
  | name {value : String} : value ≠ "" → Says (variableName "NAME") value (.name value)
  | ingressPort {value : String} {p : UInt16} :
      NodePort.IsPort value.toList p →
      Says (variableName "INGRESS_PORT") value (.ingressPort p)

theorem readSwitch_eq_iff_mem :
    readSwitch value = some b ↔ lowercase (trim value) ∈ spellings b := by
  rw [readSwitch]
  cases b <;> split <;> simp_all [spellings]

/-- The spellings hold plain letters and digits, and no blank. -/
theorem plain_of_mem_spellings : ∀ word ∈ spellings b, ∀ c ∈ word.toList,
    IsPlainLetter c ∧ isBlank c = false := by
  have hall : ((spellings b).all fun word => word.toList.all fun c =>
      decide (IsPlainLetter c) && !isBlank c) = true := by
    cases b <;> decide +kernel
  simpa using hall

/-- What is no blank in lower case is none. -/
theorem isBlank_of_toLower {c : Char} (h : isBlank c.toLower = false) : isBlank c = false := by
  by_cases hcapital : 65 ≤ c.toNat ∧ c.toNat ≤ 90
  · simp only [isBlank, Bool.or_eq_false_iff, decide_eq_false_iff_not, beq_eq_false_iff_ne]
    omega
  · rwa [toLower_of_not_capital hcapital] at h

theorem isTrimmed_of_spelling {word : String} {inner : List Char} (hword : word ∈ spellings b)
    (h : inner.map Char.toLower = word.toList) : IsTrimmed inner := by
  have hnone : ∀ c ∈ inner, isBlank c = false := by
    intro c hc
    have hlower : c.toLower ∈ word.toList := h ▸ List.mem_map_of_mem hc
    exact isBlank_of_toLower (plain_of_mem_spellings word hword _ hlower).2
  constructor
  · intro c hc
    exact hnone c (List.mem_of_mem_head? hc)
  · intro c hc
    exact hnone c (List.mem_of_getLast? hc)

/-- A switch is read exactly if it says yes or no, and as that. -/
theorem readSwitch_eq_some_iff : readSwitch value = some b ↔ SaysSwitch b value.toList := by
  rw [readSwitch_eq_iff_mem]
  constructor
  · intro hmem
    have hspelt := (lowercase_eq_iff fun c hc => (plain_of_mem_spellings _ hmem c hc).1).1 rfl
    rw [trim, String.toList_ofList] at hspelt
    exact .intro hmem hspelt (padded_trimChars _)
  · intro hsaid
    cases hsaid with
    | @intro word inner _ hword hspelt hpadded =>
        have hinner : (trim value).toList = inner := by
          rw [trim, String.toList_ofList]
          exact hpadded.trimChars_eq (isTrimmed_of_spelling hword hspelt)
        rw [← hinner] at hspelt
        rw [(lowercase_eq_iff fun c hc => (plain_of_mem_spellings _ hword c hc).1).2 hspelt]
        exact hword

/-- A port is read exactly if it says one. -/
theorem readPort_eq_some_iff : readPort value = some p ↔ NodePort.IsPort value.toList p := by
  rw [← NodePort.readPart_eq_ok_iff, readPort]
  cases hread : Text.readPort (trimChars value.toList) with
  | error fault =>
      rw [NodePort.readPart_of_error hread]
      simp [Except.toOption]
  | ok q =>
      rw [NodePort.readPart_of_ok hread]
      simp [Except.toOption]

theorem readName_eq_some_iff {n : String} : readName value = some n ↔ value = n ∧ n ≠ "" := by
  rw [readName]
  split
  · rename_i hempty
    constructor
    · intro h
      cases h
    · rintro ⟨rfl, hn⟩
      exact absurd hempty hn
  · rename_i hfilled
    constructor
    · intro h
      obtain rfl := Option.some.inj h
      exact ⟨rfl, hfilled⟩
    · rintro ⟨rfl, -⟩
      rfl

/-! ## One setting -/

/-- The overrides with one of them made.  A value that was written by hand makes none. -/
def record (o : Overrides) : Entry → Overrides
  | .cleanup b => { o with cleanup := some b }
  | .reuse b => { o with reuse := some b }
  | .name value => { o with name := some value }
  | .ingressPort p => { o with ingressPort := some p }
  | .raw .. => o

/-- An override that can be written: one with a name that is not empty, and that the system
    takes. -/
def Entry.IsWritten : Entry → Prop
  | .name value => value ≠ "" ∧ '\x00' ∉ value.toList
  | .raw .. => False
  | .cleanup _ | .reuse _ | .ingressPort _ => True

instance : (entry : Entry) → Decidable entry.IsWritten
  | .name _ => inferInstanceAs (Decidable (_ ∧ _))
  | .raw .. => inferInstanceAs (Decidable False)
  | .cleanup _ | .reuse _ | .ingressPort _ => inferInstanceAs (Decidable True)

theorem update_bind_some {α : Type} {read : String → Option α} {name : String} {a : α}
    (hread : read value = some a) : (env.update name (some value) name).bind read = some a := by
  rw [Environment.update, if_pos rfl]
  exact hread

/-- A variable that says an override makes it, and no other. -/
theorem ofEnvironment_said {name : String} (h : Says name value entry) :
    ofEnvironment (env.update name (some value)) = (ofEnvironment env).record entry := by
  cases h with
  | cleanup hsaid =>
      refine (Overrides.mk.injEq ..).mpr ?_
      exact ⟨update_bind_some (readSwitch_eq_some_iff.2 hsaid), update_bind_other (by decide),
        update_bind_other (by decide), update_bind_other (by decide)⟩
  | reuse hsaid =>
      refine (Overrides.mk.injEq ..).mpr ?_
      exact ⟨update_bind_other (by decide), update_bind_some (readSwitch_eq_some_iff.2 hsaid),
        update_bind_other (by decide), update_bind_other (by decide)⟩
  | name hfilled =>
      refine (Overrides.mk.injEq ..).mpr ?_
      exact ⟨update_bind_other (by decide), update_bind_other (by decide),
        update_bind_some (readName_eq_some_iff.2 ⟨rfl, hfilled⟩), update_bind_other (by decide)⟩
  | ingressPort hport =>
      refine (Overrides.mk.injEq ..).mpr ?_
      exact ⟨update_bind_other (by decide), update_bind_other (by decide),
        update_bind_other (by decide), update_bind_some (readPort_eq_some_iff.2 hport)⟩

/-- What is written into a variable says the override that was to be written. -/
theorem said_setting (h : entry.IsWritten) :
    Says entry.setting.name entry.setting.value entry := by
  have hswitch : ∀ b, SaysSwitch b (switchText b).toList := by
    intro b
    refine readSwitch_eq_some_iff.1 ?_
    cases b <;> decide +kernel
  cases entry with
  | cleanup b => exact .cleanup (hswitch b)
  | reuse b => exact .reuse (hswitch b)
  | name value => exact .name h.1
  | ingressPort p =>
      refine .ingressPort ?_
      show NodePort.IsPort (String.ofList (decimalChars p.toNat)).toList p
      rw [String.toList_ofList]
      exact NodePort.isPort_decimalChars p
  | raw suffix value => exact h.elim

theorem isAccepted_of_suffix {suffix : String} (h : suffix ∈ suffixes)
    (hvalue : '\x00' ∉ value.toList) :
    (Environment.Setting.mk (variableName suffix) value).IsAccepted := by
  have hname : ∀ suffix ∈ suffixes, variableName suffix ≠ "" ∧
      '=' ∉ (variableName suffix).toList ∧ '\x00' ∉ (variableName suffix).toList := by decide
  obtain ⟨hfilled, hequals, hnul⟩ := hname suffix h
  exact ⟨hfilled, hequals, hnul, hvalue⟩

theorem isAccepted_setting (h : entry.IsWritten) : entry.setting.IsAccepted := by
  have hswitch : ∀ b, '\x00' ∉ (switchText b).toList := by decide
  cases entry with
  | cleanup b => exact isAccepted_of_suffix (by decide) (hswitch b)
  | reuse b => exact isAccepted_of_suffix (by decide) (hswitch b)
  | name value => exact isAccepted_of_suffix (by decide) h.2
  | ingressPort p =>
      refine isAccepted_of_suffix (by decide) ?_
      show '\x00' ∉ (String.ofList (decimalChars p.toNat)).toList
      rw [String.toList_ofList]
      intro hmem
      exact absurd (isDigit_of_mem_decimalChars hmem) (by decide)
  | raw suffix value => exact h.elim

/-! ## A row of settings -/

/-- The overrides that are made one after another are those that are found after all of them were
    written. -/
theorem ofEnvironment_written (env : Environment) (h : ∀ entry ∈ entries, entry.IsWritten) :
    ∃ e, env.apply (entries.map Entry.setting) = some e ∧
      ofEnvironment e = entries.foldl record (ofEnvironment env) := by
  have haccepted : ∀ s ∈ entries.map Entry.setting, s.IsAccepted :=
    List.forall_mem_map.2 fun entry hentry => isAccepted_setting (h entry hentry)
  refine ⟨_, Environment.apply_of_accepted haccepted, ?_⟩
  clear haccepted
  induction entries generalizing env with
  | nil => rfl
  | cons entry entries ih =>
      obtain ⟨hentry, hrest⟩ := List.forall_mem_cons.1 h
      rw [List.map_cons, List.foldl_cons, List.foldl_cons, ih _ hrest,
        ofEnvironment_said (said_setting hentry)]

/-- What an entry says of each override, if it is about that one. -/
def Entry.cleanup? : Entry → Option Bool
  | .cleanup b => some b
  | _ => none

@[inherit_doc Entry.cleanup?]
def Entry.reuse? : Entry → Option Bool
  | .reuse b => some b
  | _ => none

@[inherit_doc Entry.cleanup?]
def Entry.name? : Entry → Option String
  | .name value => some value
  | _ => none

@[inherit_doc Entry.cleanup?]
def Entry.ingressPort? : Entry → Option UInt16
  | .ingressPort p => some p
  | _ => none

/-- An override is the last one that is made, or else what it was before. -/
theorem foldl_record {α : Type} {field : Overrides → Option α} {about? : Entry → Option α}
    (h : ∀ o entry, field (record o entry) = (about? entry).or (field o)) (entries : List Entry)
    (o : Overrides) :
    field (entries.foldl record o) = (entries.filterMap about?).getLast?.or (field o) := by
  induction entries generalizing o with
  | nil => rfl
  | cons entry entries ih =>
      rw [List.foldl_cons, ih, h, List.filterMap_cons]
      cases about? entry with
      | none => rfl
      | some a =>
          rw [List.getLast?_cons]
          cases (entries.filterMap about?).getLast? <;> rfl

/-- Each override is the last one of its kind in a row of entries, and what it was before if there
    is none. -/
structure LastOf (entries : List Entry) (before after : Overrides) : Prop where
  cleanup : after.cleanup = (entries.filterMap Entry.cleanup?).getLast?.or before.cleanup
  reuse : after.reuse = (entries.filterMap Entry.reuse?).getLast?.or before.reuse
  name : after.name = (entries.filterMap Entry.name?).getLast?.or before.name
  ingressPort :
    after.ingressPort = (entries.filterMap Entry.ingressPort?).getLast?.or before.ingressPort

theorem lastOf_foldl (entries : List Entry) (o : Overrides) :
    LastOf entries o (entries.foldl record o) where
  cleanup := foldl_record (fun _ entry => by cases entry <;> rfl) entries o
  reuse := foldl_record (fun _ entry => by cases entry <;> rfl) entries o
  name := foldl_record (fun _ entry => by cases entry <;> rfl) entries o
  ingressPort := foldl_record (fun _ entry => by cases entry <;> rfl) entries o

/-! ## Values that say nothing -/

/-- A variable of another name is not looked at. -/
theorem ofEnvironment_other {name : String} {value? : Option String}
    (h : ∀ suffix ∈ suffixes, variableName suffix ≠ name) :
    ofEnvironment (env.update name value?) = ofEnvironment env := by
  refine (Overrides.mk.injEq ..).mpr ?_
  exact ⟨update_bind_other (h "CLEANUP" (by decide)), update_bind_other (h "REUSE" (by decide)),
    update_bind_other (h "NAME" (by decide)), update_bind_other (h "INGRESS_PORT" (by decide))⟩

theorem isIdle_or_said {suffix : String} (value : String) (h : suffix ∈ suffixes) :
    IsIdle suffix value ∨ ∃ entry, Says (variableName suffix) value entry := by
  simp only [suffixes, List.mem_cons, List.not_mem_nil, or_false] at h
  rcases h with rfl | rfl | rfl | rfl
  · cases hread : readSwitch value with
    | none => exact Or.inl (.cleanup hread)
    | some b => exact Or.inr ⟨_, .cleanup (readSwitch_eq_some_iff.1 hread)⟩
  · cases hread : readSwitch value with
    | none => exact Or.inl (.reuse hread)
    | some b => exact Or.inr ⟨_, .reuse (readSwitch_eq_some_iff.1 hread)⟩
  · by_cases hempty : value = ""
    · exact Or.inl (hempty ▸ .name)
    · exact Or.inr ⟨_, .name hempty⟩
  · cases hread : readPort value with
    | none => exact Or.inl (.ingressPort hread)
    | some p => exact Or.inr ⟨_, .ingressPort (readPort_eq_some_iff.1 hread)⟩

theorem update_update (name : String) (first second : Option String) :
    (env.update name first).update name second = env.update name second := by
  funext other
  rw [Environment.update, Environment.update, Environment.update]
  split <;> rfl

/-- A variable that says nothing counts as unset. -/
theorem ofEnvironment_ignored {name : String} (h : ∀ entry, ¬ Says name value entry) :
    ofEnvironment (env.update name (some value)) = ofEnvironment (env.update name none) := by
  by_cases hname : ∃ suffix ∈ suffixes, variableName suffix = name
  · obtain ⟨suffix, hmem, rfl⟩ := hname
    rcases isIdle_or_said value hmem with hidle | ⟨entry, hsaid⟩
    · have hset : env.update (variableName suffix) (some value) (variableName suffix) =
          some value := if_pos rfl
      rw [← ofEnvironment_unset hset hidle, update_update]
    · exact absurd hsaid (h entry)
  · have hother : ∀ suffix ∈ suffixes, variableName suffix ≠ name := by
      intro suffix hmem heq
      exact hname ⟨suffix, hmem, heq⟩
    rw [ofEnvironment_other hother, ofEnvironment_other hother]

/-! ## Written and found -/

/-- What is found in an environment is what its four variables say. -/
structure FindsWhatIsSaid (env : Environment) : Prop where
  cleanup_iff : ∀ b, (ofEnvironment env).cleanup = some b ↔
    ∃ value, env (variableName "CLEANUP") = some value ∧ SaysSwitch b value.toList
  reuse_iff : ∀ b, (ofEnvironment env).reuse = some b ↔
    ∃ value, env (variableName "REUSE") = some value ∧ SaysSwitch b value.toList
  name_iff : ∀ n, (ofEnvironment env).name = some n ↔
    env (variableName "NAME") = some n ∧ n ≠ ""
  ingressPort_iff : ∀ p, (ofEnvironment env).ingressPort = some p ↔
    ∃ value, env (variableName "INGRESS_PORT") = some value ∧ NodePort.IsPort value.toList p

theorem bind_eq_some_iff_of {α : Type} {read : String → Option α} {Means : String → α → Prop}
    (h : ∀ {value a}, read value = some a ↔ Means value a) {value? : Option String} {a : α} :
    value?.bind read = some a ↔ ∃ value, value? = some value ∧ Means value a := by
  rw [Option.bind_eq_some_iff]
  constructor
  · rintro ⟨value, hvalue, hread⟩
    exact ⟨value, hvalue, h.1 hread⟩
  · rintro ⟨value, hvalue, hmeans⟩
    exact ⟨value, hvalue, h.2 hmeans⟩

theorem findsWhatIsSaid (env : Environment) : FindsWhatIsSaid env := by
  constructor
  · intro b
    exact bind_eq_some_iff_of readSwitch_eq_some_iff
  · intro b
    exact bind_eq_some_iff_of readSwitch_eq_some_iff
  · intro n
    refine (bind_eq_some_iff_of readName_eq_some_iff).trans ?_
    constructor
    · rintro ⟨value, hvalue, rfl, hfilled⟩
      exact ⟨hvalue, hfilled⟩
    · rintro ⟨hvalue, hfilled⟩
      exact ⟨n, hvalue, rfl, hfilled⟩
  · intro p
    exact bind_eq_some_iff_of readPort_eq_some_iff

/-- **WRITTEN AND FOUND.**  Overrides that are written into an environment are found there: of each
    the last one that was written, and what was found before if none was.  Whatever the
    environment, what is found is what the variables say, and a variable that says nothing
    counts as unset, whether its bytes are some other text or none. -/
theorem finds_last_written :
    (∀ (env : Environment) (entries : List Entry), (∀ entry ∈ entries, entry.IsWritten) →
      ∃ e, env.apply (entries.map Entry.setting) = some e ∧
        LastOf entries (ofEnvironment env) (ofEnvironment e)) ∧
    (∀ env : Environment, FindsWhatIsSaid env) ∧
    ∀ (env : Environment) (name : String) (bytes : List UInt8),
      (∀ value entry, decode? bytes = some value → ¬ Says name value entry) →
      ofEnvironment (env.update name (decode? bytes)) = ofEnvironment (env.update name none) := by
  refine ⟨?_, findsWhatIsSaid, ?_⟩
  · intro env entries hwritten
    obtain ⟨e, happly, hfound⟩ := ofEnvironment_written env hwritten
    exact ⟨e, happly, hfound ▸ lastOf_foldl entries (ofEnvironment env)⟩
  · intro env name bytes hnothing
    cases hbytes : decode? bytes with
    | none => rfl
    | some value => exact ofEnvironment_ignored fun entry => hnothing value entry hbytes

/-- A switch that was set by hand. -/
def setByHand : Environment := Environment.empty.update "E2E_CLUSTER_REUSE" (some "\tYes \n")

/-- Overrides two of which are written twice. -/
def rewritten : List Entry :=
  [.name "a", .cleanup true, .ingressPort 9080, .name "ci-cluster", .cleanup false]

theorem finds_last_written_rewritten :
    (∃ e, setByHand.apply (rewritten.map Entry.setting) = some e ∧
      (ofEnvironment e).cleanup = some false ∧ (ofEnvironment e).reuse = some true ∧
      (ofEnvironment e).name = some "ci-cluster" ∧ (ofEnvironment e).ingressPort = some 9080) ∧
    ofEnvironment (setByHand.update "E2E_CLUSTER_CLEANUP" (some "maybe")) =
      ofEnvironment (setByHand.update "E2E_CLUSTER_CLEANUP" none) := by
  constructor
  · obtain ⟨e, happly, hlast⟩ := finds_last_written.1 setByHand rewritten (by decide)
    refine ⟨e, happly, hlast.cleanup.trans (by decide +kernel),
      hlast.reuse.trans (by decide +kernel), hlast.name.trans (by decide +kernel),
      hlast.ingressPort.trans (by decide +kernel)⟩
  · have hignored := finds_last_written.2.2 setByHand "E2E_CLUSTER_CLEANUP" "maybe".toUTF8.toList
    rw [decode?_toUTF8] at hignored
    refine hignored ?_
    intro value entry hvalue hsaid
    obtain rfl := Option.some.inj hvalue
    have hnone : ∀ b, ¬ SaysSwitch b "maybe".toList := by
      intro b hswitch
      exact absurd (readSwitch_eq_some_iff.2 hswitch) (by cases b <;> decide +kernel)
    generalize hname : "E2E_CLUSTER_CLEANUP" = name at hsaid
    cases hsaid with
    | cleanup hswitch => exact hnone _ hswitch
    | reuse hswitch => exact hnone _ hswitch
    | name _ => exact absurd hname (by decide)
    | ingressPort _ => exact absurd hname (by decide)

end TestCluster.Overrides
