import TestCluster.Proofs.ManifestCharacters
import TestCluster.Proofs.Walk
import TestCluster.Resource.Apply

/-!
# The order of an apply — objects one after another, up to the first that fails

    A manifest is read as a whole before anything is sent.  Then its objects take their
    turns: an object's kind is looked up, which asks the server exactly when the kind is not
    remembered at that moment (`LookedUp`), and the object is sent by one patch (`Patched`).
    The first object that fails ends the run (`Failed`).  `InOrder` says that a run is a row
    of such turns.
-/

namespace TestCluster

/-! ## What the server's answers say -/

/-- The text that an answer to a request gives. -/
def answerText : Except OsError Api.Reply → Except ApiFault String
  | .error cause => .error (.unreachable cause)
  | .ok reply => reply.text

/-- Where a list of resources says that a kind is stored. -/
def listedMapping (kind : GroupVersionKind) (s : String) : Except ApiFault Mapping :=
  match ResourceList.ofJson? s with
  | none => .error .undecodable
  | some list =>
    match list.mapping? kind.kind with
    | some mapping => .ok mapping
    | none => .error (.missingKind kind)

/-- The object that a text says is stored. -/
def storedText (s : String) : Except ApiFault Object :=
  match Object.ofJson? s with
  | some stored => .ok stored
  | none => .error .undecodable

/-- The mapping of a kind that an answer to its discovery gives. -/
def discovered (kind : GroupVersionKind) (answer : Except OsError Api.Reply) :
    Except ApiFault Mapping :=
  (answerText answer).bind (listedMapping kind)

/-- The object that an answer to its patch says is stored. -/
def storedObject (answer : Except OsError Api.Reply) : Except ApiFault Object :=
  (answerText answer).bind storedText

/-- The address at which the server is asked about a kind. -/
def discoveryTarget (kind : GroupVersionKind) : Except Api.AddressFault Api.Target :=
  Api.Target.ofText (apiRoot kind.group kind.apiVersion)

/-- The address to which an object is sent, once its mapping is known. -/
def patchTarget (o : Object) (mapping : Mapping) : Except Api.AddressFault Api.Target :=
  Api.Target.ofText ((o.placed mapping).address mapping)

/-- The patch of an object. -/
def patchRequest (o : Object) (mapping : Mapping) (target : Api.Target) : Api.Request :=
  .patch target (Json.compact (o.placed mapping).toValue)

/-! ## One look-up -/

/-- A look-up of a kind: without a request if the kind is remembered; otherwise with one
    discovery, or with none if its path is no address.  Only what is found is remembered. -/
inductive LookedUp (m : Mappings) (kind : GroupVersionKind) :
    List (Event Api.exchange) → Except ApiFault Mapping → Mappings → Prop where
  | remembered {mapping : Mapping} :
      m.get? kind.mappingKey = some mapping → LookedUp m kind [] (.ok mapping) m
  | unaddressed {fault : Api.AddressFault} :
      m.get? kind.mappingKey = none → discoveryTarget kind = .error fault →
      LookedUp m kind [] (.error (.address fault)) m
  | refused {target : Api.Target} {answer : Except OsError Api.Reply} {fault : ApiFault} :
      m.get? kind.mappingKey = none → discoveryTarget kind = .ok target →
      discovered kind answer = .error fault →
      LookedUp m kind [⟨.get target, answer⟩] (.error fault) m
  | found {target : Api.Target} {answer : Except OsError Api.Reply} {mapping : Mapping} :
      m.get? kind.mappingKey = none → discoveryTarget kind = .ok target →
      discovered kind answer = .ok mapping →
      LookedUp m kind [⟨.get target, answer⟩] (.ok mapping) (m.insert kind.mappingKey mapping)

theorem walk_send {request : Api.Request} {events : List (Event Api.exchange)}
    {r : Except ApiFault String} :
    (Api.send request).Walk events r ↔ ∃ answer : Except OsError Api.Reply,
      events = [⟨request, answer⟩] ∧ r = answerText answer := by
  constructor
  · intro h
    obtain ⟨before, answer, after, rfl, hc, hr⟩ := Program.walk_bind.1 h
    obtain rfl := Program.walk_call.1 hc
    cases answer with
    | error cause =>
        obtain ⟨rfl, rfl⟩ := Program.walk_done.1 hr
        exact ⟨.error cause, rfl, rfl⟩
    | ok reply =>
        obtain ⟨rfl, rfl⟩ := Program.walk_done.1 hr
        exact ⟨.ok reply, rfl, rfl⟩
  · rintro ⟨(cause | reply), rfl, rfl⟩
    · exact .ask (.done _)
    · exact .ask (.done _)

/-- A discovery is one request, or none if its path is no address. -/
theorem walk_discover {kind : GroupVersionKind} {events : List (Event Api.exchange)}
    {r : Except ApiFault Mapping} (h : (discover kind).Walk events r) :
    (∃ fault, discoveryTarget kind = .error fault ∧ events = [] ∧ r = .error (.address fault)) ∨
      ∃ target answer, discoveryTarget kind = .ok target ∧ events = [⟨.get target, answer⟩] ∧
        r = discovered kind answer := by
  rw [discover] at h
  rw [show Api.Target.ofText (apiRoot kind.group kind.apiVersion) = discoveryTarget kind
    from rfl] at h
  cases ht : discoveryTarget kind with
  | error fault =>
      rw [ht] at h
      obtain ⟨rfl, rfl⟩ := Program.walk_done.1 h
      exact Or.inl ⟨fault, rfl, rfl, rfl⟩
  | ok target =>
      rw [ht] at h
      obtain ⟨before, text, after, rfl, hs, hr⟩ := Program.walk_bind.1 h
      obtain ⟨answer, rfl, rfl⟩ := walk_send.1 hs
      refine Or.inr ⟨target, answer, rfl, ?_⟩
      rw [discovered]
      cases htext : answerText answer with
      | error fault =>
          rw [htext] at hr
          obtain ⟨rfl, rfl⟩ := Program.walk_done.1 hr
          exact ⟨rfl, rfl⟩
      | ok s =>
          rw [htext] at hr
          -- an answer is read step by step, and each step may find fault with it
          show _ ∧ r = listedMapping kind s
          rw [listedMapping]
          dsimp only at hr
          split at hr
          · obtain ⟨rfl, rfl⟩ := Program.walk_done.1 hr
            simp [*]
          · split at hr
            · obtain ⟨rfl, rfl⟩ := Program.walk_done.1 hr
              simp [*]
            · obtain ⟨rfl, rfl⟩ := Program.walk_done.1 hr
              simp [*]

/-- A look-up goes as `LookedUp` says. -/
theorem lookedUp_of_walk {m : Mappings} {kind : GroupVersionKind}
    {events : List (Event Api.exchange)} {r : Except Error Mapping × Mappings}
    (h : (lookUp m kind).Walk events r) :
    ∃ found, LookedUp m kind events found r.2 ∧
      r.1 = found.mapError (.unknownKind kind.apiVersion kind.kind) := by
  rw [lookUp] at h
  cases hm : m.get? kind.mappingKey with
  | some mapping =>
      rw [hm] at h
      obtain ⟨rfl, rfl⟩ := Program.walk_done.1 h
      exact ⟨.ok mapping, .remembered hm, rfl⟩
  -- what is not remembered is asked for, and remembered only if it is found
  | none =>
      rw [hm] at h
      obtain ⟨before, found, after, rfl, hd, hr⟩ := Program.walk_bind.1 h
      cases found with
      | error fault =>
          obtain ⟨rfl, rfl⟩ := Program.walk_done.1 hr
          rw [List.append_nil]
          refine ⟨.error fault, ?_, rfl⟩
          rcases walk_discover hd with ⟨_, ht, rfl, hf⟩ | ⟨target, answer, ht, rfl, hf⟩
          · obtain rfl := Except.error.inj hf
            exact .unaddressed hm ht
          · exact .refused hm ht hf.symm
      | ok mapping =>
          obtain ⟨rfl, rfl⟩ := Program.walk_done.1 hr
          rw [List.append_nil]
          refine ⟨.ok mapping, ?_, rfl⟩
          rcases walk_discover hd with ⟨_, _, _, ⟨⟩⟩ | ⟨target, answer, ht, rfl, hf⟩
          exact .found hm ht hf.symm

/-! ## How a kind is named -/

/-- The `apiVersion` of an object as an error names it, which is the one that was looked up: a
    slash at its start, with no group before it, is not part of it. -/
def Types.namedVersion (t : Types) : String :=
  match t.apiVersion.toList with
  | '/' :: version => String.ofList version
  | _ => t.apiVersion

theorem cutAtSlash_eq (cs : List Char) :
    cs = match GroupVersion.cutAtSlash cs with
      | (version, none) => version
      | (group, some version) => group ++ '/' :: version := by
  induction cs with
  | nil => rfl
  | cons c cs ih =>
      rw [GroupVersion.cutAtSlash]
      by_cases hc : c = '/'
      · rw [if_pos hc, hc]
        rfl
      · rw [if_neg hc]
        generalize GroupVersion.cutAtSlash cs = cut at ih ⊢
        obtain ⟨before, (_ | after)⟩ := cut
        · exact congrArg (c :: ·) ih
        · exact congrArg (c :: ·) ih

theorem apiVersion_groupVersionKind (t : Types) :
    t.groupVersionKind.apiVersion = t.namedVersion := by
  show (GroupVersion.ofText t.apiVersion).text = t.namedVersion
  have hcut := cutAtSlash_eq t.apiVersion.toList
  rw [GroupVersion.ofText, GroupVersion.text, Types.namedVersion]
  cases hchars : t.apiVersion.toList with
  | nil =>
      rw [← String.ofList_toList (s := t.apiVersion), hchars]
      rfl
  | cons c cs =>
      rw [hchars] at hcut
      by_cases hc : c = '/'
      · subst hc
        rfl
      -- a version that does not start with a slash is its parts put together again
      · have hnamed : t.apiVersion = String.ofList (c :: cs) := by
          rw [← hchars, String.ofList_toList]
        have hright : (match c :: cs with
            | '/' :: version => String.ofList version
            | _ => t.apiVersion) = String.ofList (c :: cs) := by
          split
          · exact absurd (List.cons.inj ‹_›).1 hc
          · exact hnamed
        rw [hright]
        rw [GroupVersion.cutAtSlash] at hcut ⊢
        rw [if_neg hc] at hcut ⊢
        generalize GroupVersion.cutAtSlash cs = cut at hcut ⊢
        obtain ⟨before, (_ | after)⟩ := cut
        · exact (if_pos rfl).trans (congrArg String.ofList hcut.symm)
        · refine (if_neg ?_).trans ?_
          · intro hempty
            exact absurd (congrArg String.toList hempty) (by simp)
          · show String.ofList (c :: before) ++ String.ofList ['/'] ++ String.ofList after
              = String.ofList (c :: cs)
            rw [← String.ofList_append, ← String.ofList_append, List.append_assoc]
            exact congrArg String.ofList hcut.symm

/-! ## One object -/

/-- The turn of an object that is applied: its kind is looked up, and then it is sent by one
    patch, whose answer says what is stored. -/
inductive Patched (m : Mappings) (o : Object) :
    List (Event Api.exchange) → Object → Mappings → Prop where
  | intro {types : Types} {asked : List (Event Api.exchange)} {mapping : Mapping}
      {m' : Mappings} {target : Api.Target} {answer : Except OsError Api.Reply}
      {stored : Object} :
      o.types = some types → LookedUp m types.groupVersionKind asked (.ok mapping) m' →
      patchTarget o mapping = .ok target → storedObject answer = .ok stored →
      Patched m o (asked ++ [⟨patchRequest o mapping target, answer⟩]) stored m'

/-- The turn of an object that fails, `index` being its place in the manifest: it does not say
    its kind, and nothing is asked; its kind is not found, and nothing is sent; or its patch
    cannot be sent or is refused. -/
inductive Failed (m : Mappings) (index : Nat) (o : Object) :
    List (Event Api.exchange) → Error → Mappings → Prop where
  | untyped : o.types = none → Failed m index o [] (.decode index .missingTypes) m
  | unknown {types : Types} {asked : List (Event Api.exchange)} {fault : ApiFault}
      {m' : Mappings} :
      o.types = some types → LookedUp m types.groupVersionKind asked (.error fault) m' →
      Failed m index o asked
        (.unknownKind types.namedVersion types.kind fault) m'
  | unaddressed {types : Types} {asked : List (Event Api.exchange)} {mapping : Mapping}
      {m' : Mappings} {fault : Api.AddressFault} :
      o.types = some types → LookedUp m types.groupVersionKind asked (.ok mapping) m' →
      patchTarget o mapping = .error fault →
      Failed m index o asked (.apply types.kind o.name (.address fault)) m'
  | refused {types : Types} {asked : List (Event Api.exchange)} {mapping : Mapping}
      {m' : Mappings} {target : Api.Target} {answer : Except OsError Api.Reply}
      {fault : ApiFault} :
      o.types = some types → LookedUp m types.groupVersionKind asked (.ok mapping) m' →
      patchTarget o mapping = .ok target → storedObject answer = .error fault →
      Failed m index o (asked ++ [⟨patchRequest o mapping target, answer⟩])
        (.apply types.kind o.name fault) m'

/-- Sending an object is one patch, or none if its path is no address. -/
theorem walk_sendObject {o : Object} {mapping : Mapping} {events : List (Event Api.exchange)}
    {r : Except ApiFault Object} (h : (sendObject (o.placed mapping) mapping).Walk events r) :
    (∃ fault, patchTarget o mapping = .error fault ∧ events = [] ∧
        r = .error (.address fault)) ∨
      ∃ target answer, patchTarget o mapping = .ok target ∧
        events = [⟨patchRequest o mapping target, answer⟩] ∧ r = storedObject answer := by
  rw [sendObject] at h
  rw [show Api.Target.ofText ((o.placed mapping).address mapping) = patchTarget o mapping
    from rfl] at h
  cases ht : patchTarget o mapping with
  | error fault =>
      rw [ht] at h
      obtain ⟨rfl, rfl⟩ := Program.walk_done.1 h
      exact Or.inl ⟨fault, rfl, rfl, rfl⟩
  | ok target =>
      rw [ht] at h
      obtain ⟨before, text, after, rfl, hs, hr⟩ := Program.walk_bind.1 h
      obtain ⟨answer, rfl, rfl⟩ := walk_send.1 hs
      refine Or.inr ⟨target, answer, rfl, ?_⟩
      rw [storedObject]
      cases htext : answerText answer with
      | error fault =>
          rw [htext] at hr
          obtain ⟨rfl, rfl⟩ := Program.walk_done.1 hr
          exact ⟨rfl, rfl⟩
      | ok s =>
          rw [htext] at hr
          show _ ∧ r = storedText s
          rw [storedText]
          dsimp only at hr
          split at hr
          · obtain ⟨rfl, rfl⟩ := Program.walk_done.1 hr
            simp [*, patchRequest]
          · obtain ⟨rfl, rfl⟩ := Program.walk_done.1 hr
            simp [*, patchRequest]

/-- An object's turn goes as `Patched` or `Failed` says. -/
theorem walk_applyObject {m : Mappings} {index : Nat} {o : Object}
    {events : List (Event Api.exchange)} {r : Except Error Object × Mappings}
    (h : (applyObject m index o).Walk events r) :
    (∃ stored, Patched m o events stored r.2 ∧ r.1 = .ok stored) ∨
      ∃ e, Failed m index o events e r.2 ∧ r.1 = .error e := by
  rw [applyObject, Manifest.groupVersionKind] at h
  cases htypes : o.types with
  | none =>
      rw [htypes] at h
      obtain ⟨rfl, rfl⟩ := Program.walk_done.1 h
      exact Or.inr ⟨_, .untyped htypes, rfl⟩
  | some types =>
      rw [htypes] at h
      obtain ⟨asked, ⟨result, m'⟩, rest, rfl, hl, hr⟩ := Program.walk_bind.1 h
      obtain ⟨found, hfound, hresult⟩ := lookedUp_of_walk hl
      cases found with
      | error fault =>
          obtain rfl : result = _ := hresult
          obtain ⟨rfl, rfl⟩ := Program.walk_done.1 hr
          rw [List.append_nil]
          refine Or.inr ⟨_, .unknown htypes hfound, ?_⟩
          rw [← apiVersion_groupVersionKind]
          rfl
      | ok mapping =>
          obtain rfl : result = _ := hresult
          obtain ⟨sent, stored, last, rfl, hs, hlast⟩ := Program.walk_bind.1 hr
          rcases walk_sendObject hs with ⟨fault, ht, rfl, rfl⟩ | ⟨target, answer, ht, rfl, rfl⟩
          · obtain ⟨rfl, rfl⟩ := Program.walk_done.1 hlast
            rw [List.append_nil, List.append_nil]
            exact Or.inr ⟨_, .unaddressed htypes hfound ht, rfl⟩
          · cases hanswer : storedObject answer with
            | error fault =>
                rw [hanswer] at hlast
                obtain ⟨rfl, rfl⟩ := Program.walk_done.1 hlast
                rw [List.append_nil]
                exact Or.inr ⟨_, .refused htypes hfound ht hanswer, rfl⟩
            | ok stored =>
                rw [hanswer] at hlast
                obtain ⟨rfl, rfl⟩ := Program.walk_done.1 hlast
                rw [List.append_nil]
                exact Or.inl ⟨_, .intro htypes hfound ht hanswer, rfl⟩

/-! ## One object after another -/

/-- An object that was applied: what was asked in its turn, and what the server stores. -/
structure Turn where
  object : Object
  events : List (Event Api.exchange)
  stored : Object

/-- Objects applied one after another, each with the mappings that the one before it left. -/
inductive Turns : Mappings → List Turn → Mappings → Prop where
  | nil {m : Mappings} : Turns m [] m
  | cons {m m₁ m₂ : Mappings} {turn : Turn} {turns : List Turn} :
      Patched m turn.object turn.events turn.stored m₁ → Turns m₁ turns m₂ →
      Turns m (turn :: turns) m₂

/-- **IN ORDER, UP TO THE FIRST FAILURE**: the objects from a place on are applied one after
    another, and what is asked is what their turns ask.  Either all of them are applied, and
    all that the server stores is given; or one fails after all before it were applied, the
    error is its own, and nothing is asked after its turn. -/
inductive InOrder (m : Mappings) (first : Nat) (objects : List Object) :
    List (Event Api.exchange) → Except Error (List Object) × Mappings → Prop where
  | all (turns : List Turn) {m' : Mappings} :
      objects = turns.map (·.object) → Turns m turns m' →
      InOrder m first objects (turns.flatMap (·.events)) (.ok (turns.map (·.stored)), m')
  | stopped (turns : List Turn) {o : Object} {rest : List Object}
      {last : List (Event Api.exchange)} {e : Error} {m' m'' : Mappings} :
      objects = turns.map (·.object) ++ o :: rest → Turns m turns m' →
      Failed m' (first + turns.length) o last e m'' →
      InOrder m first objects (turns.flatMap (·.events) ++ last) (.error e, m'')

/-- One more object applied in front. -/
theorem InOrder.cons {m m₁ : Mappings} {first : Nat} {o stored : Object} {objects : List Object}
    {events more : List (Event Api.exchange)} {r : Except Error (List Object)} {m' : Mappings}
    (hturn : Patched m o events stored m₁) (h : InOrder m₁ (first + 1) objects more (r, m')) :
    InOrder m first (o :: objects) (events ++ more) (r.map (stored :: ·), m') := by
  cases h with
  | @all turns _ hobjects hturns =>
      subst hobjects
      exact .all (⟨o, events, stored⟩ :: turns) rfl (.cons hturn hturns)
  | @stopped turns failed rest last e m₂ _ hobjects hturns hfailed =>
      subst hobjects
      rw [← List.append_assoc]
      refine .stopped (⟨o, events, stored⟩ :: turns) rfl (.cons hturn hturns) ?_
      rw [List.length_cons, show first + (turns.length + 1) = first + 1 + turns.length by omega]
      exact hfailed

/-- Objects that are applied take their turns in order. -/
theorem inOrder_of_walk {m : Mappings} {first : Nat} {objects : List Object}
    {events : List (Event Api.exchange)} {r : Except Error (List Object) × Mappings}
    (h : (applyObjects m first objects).Walk events r) : InOrder m first objects events r := by
  induction objects generalizing m first events r with
  | nil =>
      obtain ⟨rfl, rfl⟩ := Program.walk_done.1 h
      exact .all [] rfl .nil
  | cons o objects ih =>
      obtain ⟨before, ⟨result, m₁⟩, after, rfl, ho, hr⟩ := Program.walk_bind.1 h
      rcases walk_applyObject ho with ⟨stored, hturn, hresult⟩ | ⟨e, hfailed, hresult⟩
      -- the rest goes on with the mappings that this turn left, whatever comes of it
      · obtain rfl : result = _ := hresult
        obtain ⟨more, ⟨others, m₂⟩, last, rfl, hrest, hlast⟩ := Program.walk_bind.1 hr
        cases others with
        | error e =>
            obtain ⟨rfl, rfl⟩ := Program.walk_done.1 hlast
            rw [List.append_nil]
            exact (ih hrest).cons hturn
        | ok others =>
            obtain ⟨rfl, rfl⟩ := Program.walk_done.1 hlast
            rw [List.append_nil]
            exact (ih hrest).cons hturn
      · obtain rfl : result = _ := hresult
        obtain ⟨rfl, rfl⟩ := Program.walk_done.1 hr
        rw [List.append_nil]
        -- the first failure is the last turn: the objects after it are not looked at
        exact .stopped [] rfl .nil hfailed

/-- A kind that is not found ends the run: nothing is asked after its look-up. -/
theorem run_applyObjects_unknown {σ : Type} {handle : Handler Api.exchange σ} {s s' : σ}
    {m m' : Mappings} {o : Object} {types : Types} {e : Error}
    (htypes : o.types = some types)
    (hlook : (lookUp m types.groupVersionKind).run handle s = ((.error e, m'), s'))
    (index : Nat) (objects : List Object) :
    (applyObjects m index (o :: objects)).run handle s = ((.error e, m'), s') ∧
      (applyObjects m index (o :: objects)).trace handle s =
        (lookUp m types.groupVersionKind).trace handle s := by
  have happly : ∃ f, (∀ e m, f (.error e, m) = .done (.error e, m)) ∧
      applyObject m index o = (lookUp m types.groupVersionKind).bind f := by
    rw [applyObject, Manifest.groupVersionKind, htypes]
    exact ⟨_, fun _ _ => rfl, rfl⟩
  obtain ⟨f, hf, happly⟩ := happly
  have hrun : (applyObject m index o).run handle s = ((.error e, m'), s') := by
    rw [happly, Program.run_bind, hlook, hf]
    rfl
  rw [applyObjects]
  constructor
  · show (Program.bind (applyObject m index o) _).run handle s = _
    rw [Program.run_bind, hrun]
    rfl
  · show (Program.bind (applyObject m index o) _).trace handle s = _
    rw [Program.trace_bind, hrun, happly, Program.trace_bind, hlook, hf]
    exact (List.append_nil _).trans (List.append_nil _)

/-- **PARSE FIRST, THEN IN ORDER.**  Whatever the server answers and whatever is remembered: a
    manifest that cannot be read is not begun, and the objects of any other take their turns in
    the order of their documents, up to the first that fails. -/
theorem apply_in_order {σ : Type} (handle : Handler Api.exchange σ) (s : σ) (m : Mappings)
    (manifest : String) :
    match Manifest.parse manifest with
    | .error e =>
      (apply m manifest).trace handle s = [] ∧ ((apply m manifest).run handle s).1 = (.error e, m)
    | .ok objects =>
      InOrder m 0 objects ((apply m manifest).trace handle s)
        ((apply m manifest).run handle s).1 := by
  have h := Program.walk_run handle (apply m manifest) s
  rw [apply] at h ⊢
  cases hparse : Manifest.parse manifest with
  | error e =>
      rw [hparse] at h
      exact ⟨rfl, rfl⟩
  | ok objects =>
      rw [hparse] at h
      exact inOrder_of_walk h

/-- A manifest that writes its version with a slash before it. -/
def slashedVersion : String :=
  "apiVersion: /apps/v1\nkind: Deployment\nmetadata:\n  name: a\n"

/-- A server that has nothing of what it is asked for. -/
def barren : Handler Api.exchange Unit := fun _ s => (.ok ⟨404, []⟩, s)

/-- The error names the version that was looked up, and not the one that the object writes, if
    there is a slash at the start of that one. -/
theorem unknownKind_slashedVersion_ne :
    ∃ o fault, Manifest.parse slashedVersion = .ok [o] ∧
      o.types = some ⟨"/apps/v1", "Deployment"⟩ ∧
      (apply {} slashedVersion).trace barren () =
        [⟨Api.Request.get ⟨"/api/apps/v1", ""⟩, .ok ⟨404, []⟩⟩] ∧
      ((apply {} slashedVersion).run barren ()).1 =
        (.error (.unknownKind "apps/v1" "Deployment" fault), {}) ∧
      ∀ fault, ((apply {} slashedVersion).run barren ()).1.1 ≠
        .error (.unknownKind "/apps/v1" "Deployment" fault) := by
  obtain ⟨objects, hparse, hobjects⟩ := Manifest.parse_of_any (s := slashedVersion)
    (p := fun objects => objects.map (·.types) = [some ⟨"/apps/v1", "Deployment"⟩])
    rfl (by decide +kernel)
  obtain ⟨o, rfl, htypes⟩ := List.map_eq_singleton_iff.1 (of_decide_eq_true hobjects)
  have hlook : (lookUp {} (Types.mk "/apps/v1" "Deployment").groupVersionKind).run barren () =
      ((.error (.unknownKind "apps/v1" "Deployment"
        (.refused (Api.Refusal.ofText 404 ""))), {}), ()) := by
    rfl
  have htrace : (lookUp {} (Types.mk "/apps/v1" "Deployment").groupVersionKind).trace barren () =
      [⟨Api.Request.get ⟨"/api/apps/v1", ""⟩, .ok ⟨404, []⟩⟩] := by
    rfl
  obtain ⟨hrun, hasked⟩ := run_applyObjects_unknown htypes hlook 0 []
  have happly : apply {} slashedVersion = applyObjects {} 0 [o] := by
    rw [apply, hparse]
  rw [happly, hasked, hrun]
  refine ⟨o, _, hparse, htypes, htrace, rfl, ?_⟩
  intro fault h
  obtain ⟨hversion, -, -⟩ := Error.unknownKind.inj (Except.error.inj h)
  exact absurd hversion (by decide)

end TestCluster
