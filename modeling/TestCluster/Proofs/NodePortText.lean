import TestCluster.NodePort
import TestCluster.Proofs.Numerals

/-!
# The text of a node port — which texts are read, as what, and what is said of the others

    A port is a numeral for a number that fits sixteen bits, with blanks around it (`IsPort`).
    A mapping is one port or two, with a colon between them (`Says`); its text is cut at the
    first colon, and the grammar of a port admits none, so that a second colon spoils the part
    after the first.  Of a text that is no mapping the node part is blamed if it is no port, and
    otherwise the host part (`Blames`).
-/

namespace TestCluster.NodePort

open Text

variable {cs node host both before after : List Char} {m : Malformed} {p : UInt16}

/-- A text that says a port: a numeral for it, with blanks on either side. -/
def IsPort (cs : List Char) (p : UInt16) : Prop :=
  ∃ numeral, Padded numeral cs ∧ IsNumeral numeral p.toNat

/-- A text that says no port, with what is reported of it: the text itself, and the fault of what
    is left of it without the blanks on either side. -/
structure IsNoPort (cs : List Char) (m : Malformed) : Prop where
  not_isPort : ∀ p, ¬ IsPort cs p
  part : m.part = String.ofList cs
  fault : ∃ inner, Padded inner cs ∧ IsTrimmed inner ∧ IsFlawed UInt16.size inner m.fault

/-- A text that says a mapping.  Before the first colon the node part stands, and behind it the host
    part; without a colon the text says both. -/
inductive Says : List Char → NodePort → Prop where
  | both {both : List Char} {p : UInt16} :
      ':' ∉ both → IsPort both p → Says both ⟨p, p⟩
  | parts {node host : List Char} {n h : UInt16} :
      ':' ∉ node → IsPort node n → IsPort host h → Says (node ++ ':' :: host) ⟨n, h⟩

/-- A text that says no mapping, with the part that is to blame: the host part only if the node part
    says a port. -/
inductive Blames : List Char → Malformed → Prop where
  | both {both : List Char} {m : Malformed} :
      ':' ∉ both → IsNoPort both m → Blames both m
  | node {node host : List Char} {m : Malformed} :
      ':' ∉ node → IsNoPort node m → Blames (node ++ ':' :: host) m
  | host {node host : List Char} {n : UInt16} {m : Malformed} :
      ':' ∉ node → IsPort node n → IsNoPort host m → Blames (node ++ ':' :: host) m

/-! ## One part -/

theorem readPart_of_ok (h : Text.readPort (trimChars cs) = .ok p) : readPart cs = .ok p := by
  rw [readPart]
  rw [h]

theorem readPart_of_error {fault : NumeralFault}
    (h : Text.readPort (trimChars cs) = .error fault) :
    readPart cs = .error ⟨String.ofList cs, fault⟩ := by
  rw [readPart]
  rw [h]

/-- A port number is a numeral for a number that fits sixteen bits. -/
theorem readPort_eq_ok_iff : Text.readPort cs = .ok p ↔ IsNumeral cs p.toNat := by
  rw [Text.readPort]
  constructor
  · intro h
    cases hread : readBelow UInt16.size cs with
    | error fault =>
        rw [hread] at h
        cases h
    | ok n =>
        rw [hread] at h
        obtain rfl := Except.ok.inj h
        obtain ⟨hnumeral, hn⟩ := (readBelow_eq_ok_iff (by decide)).1 hread
        rwa [UInt16.toNat_ofNat_of_lt' hn]
  · intro hnumeral
    have hread : readBelow UInt16.size cs = .ok p.toNat :=
      (readBelow_eq_ok_iff (by decide)).2 ⟨hnumeral, p.toNat_lt⟩
    rw [hread]
    exact congrArg Except.ok UInt16.ofNat_toNat

theorem readPort_eq_error_iff {fault : NumeralFault} :
    Text.readPort cs = .error fault ↔ IsFlawed UInt16.size cs fault := by
  rw [← readBelow_eq_error_iff (by decide), Text.readPort]
  cases readBelow UInt16.size cs with
  | ok n =>
      constructor
      · intro h
        cases h
      · intro h
        cases h
  | error fault' =>
      constructor
      · intro h
        cases h
        rfl
      · intro h
        cases h
        rfl

/-- A part is read exactly if it says a port, as that port. -/
theorem readPart_eq_ok_iff : readPart cs = .ok p ↔ IsPort cs p := by
  constructor
  · intro h
    cases hread : Text.readPort (trimChars cs) with
    | error fault =>
        rw [readPart_of_error hread] at h
        cases h
    | ok q =>
        rw [readPart_of_ok hread] at h
        obtain rfl := Except.ok.inj h
        exact ⟨_, padded_trimChars cs, readPort_eq_ok_iff.1 hread⟩
  · rintro ⟨numeral, hpadded, hnumeral⟩
    have htrim := hpadded.trimChars_eq hnumeral.isTrimmed
    exact readPart_of_ok (htrim ▸ readPort_eq_ok_iff.2 hnumeral)

/-- Of a part that says no port the first fault is reported. -/
theorem readPart_eq_error_iff : readPart cs = .error m ↔ IsNoPort cs m := by
  constructor
  · intro h
    cases hread : Text.readPort (trimChars cs) with
    | ok q =>
        rw [readPart_of_ok hread] at h
        cases h
    | error fault =>
        have hnone : ∀ p, ¬ IsPort cs p := by
          intro p hp
          rw [readPart_eq_ok_iff.2 hp] at h
          cases h
        rw [readPart_of_error hread] at h
        obtain rfl := Except.error.inj h
        exact ⟨hnone, rfl, _, padded_trimChars cs, isTrimmed_trimChars cs,
          readPort_eq_error_iff.1 hread⟩
  · rintro ⟨-, hpart, inner, hpadded, htrimmed, hflawed⟩
    obtain rfl := hpadded.trimChars_eq htrimmed
    rw [readPart_of_error (readPort_eq_error_iff.2 hflawed), ← hpart]

/-! ## The cut -/

theorem cutAtColon_whole (h : ':' ∉ cs) : cutAtColon cs = (cs, none) := by
  induction cs with
  | nil => rfl
  | cons c cs ih =>
      obtain ⟨hc, hcs⟩ := not_or.1 (mt List.mem_cons.2 h)
      rw [cutAtColon, if_neg (Ne.symm hc), ih hcs]

theorem cutAtColon_parts (h : ':' ∉ before) (after : List Char) :
    cutAtColon (before ++ ':' :: after) = (before, some after) := by
  induction before with
  | nil => rfl
  | cons c before ih =>
      obtain ⟨hc, hbefore⟩ := not_or.1 (mt List.mem_cons.2 h)
      rw [List.cons_append, cutAtColon, if_neg (Ne.symm hc), ih hbefore]

/-- Every text either has no colon or has a first one. -/
theorem exists_cut (cs : List Char) :
    ':' ∉ cs ∨ ∃ before after, cs = before ++ ':' :: after ∧ ':' ∉ before := by
  by_cases h : ':' ∈ cs
  · obtain ⟨before, after, hcs, hbefore⟩ := List.eq_append_cons_of_mem h
    exact Or.inr ⟨before, after, hcs, hbefore⟩
  · exact Or.inl h

theorem ofChars_both (h : ':' ∉ both) :
    ofChars both = (readPart both).map fun p => ⟨p, p⟩ := by
  rw [ofChars]
  rw [cutAtColon_whole h]

theorem ofChars_parts (h : ':' ∉ node) :
    ofChars (node ++ ':' :: host) =
      (readPart node).bind fun n => (readPart host).bind fun h => .ok ⟨n, h⟩ := by
  rw [ofChars]
  rw [cutAtColon_parts h]
  rfl

/-! ## Whole texts -/

theorem says_of_ok {port : NodePort} (h : ofChars cs = .ok port) : Says cs port := by
  rcases exists_cut cs with hcolon | ⟨node, host, rfl, hcolon⟩
  · rw [ofChars_both hcolon] at h
    cases hboth : readPart cs with
    | error m =>
        rw [hboth] at h
        cases h
    | ok p =>
        rw [hboth] at h
        obtain rfl := Except.ok.inj h
        exact .both hcolon (readPart_eq_ok_iff.1 hboth)
  · rw [ofChars_parts hcolon] at h
    cases hnode : readPart node with
    | error m =>
        rw [hnode] at h
        cases h
    | ok n =>
        cases hhost : readPart host with
        | error m =>
            rw [hnode, hhost] at h
            cases h
        | ok p =>
            rw [hnode, hhost] at h
            obtain rfl := Except.ok.inj h
            exact .parts hcolon (readPart_eq_ok_iff.1 hnode) (readPart_eq_ok_iff.1 hhost)

theorem blames_of_error (h : ofChars cs = .error m) : Blames cs m := by
  rcases exists_cut cs with hcolon | ⟨node, host, rfl, hcolon⟩
  · rw [ofChars_both hcolon] at h
    cases hboth : readPart cs with
    | ok p =>
        rw [hboth] at h
        cases h
    | error m' =>
        rw [hboth] at h
        obtain rfl := Except.error.inj h
        exact .both hcolon (readPart_eq_error_iff.1 hboth)
  · rw [ofChars_parts hcolon] at h
    cases hnode : readPart node with
    | error m' =>
        rw [hnode] at h
        obtain rfl := Except.error.inj h
        exact .node hcolon (readPart_eq_error_iff.1 hnode)
    | ok n =>
        -- the host part is looked at only behind a node part that says a port
        cases hhost : readPart host with
        | ok p =>
            rw [hnode, hhost] at h
            cases h
        | error m' =>
            rw [hnode, hhost] at h
            obtain rfl := Except.error.inj h
            exact .host hcolon (readPart_eq_ok_iff.1 hnode) (readPart_eq_error_iff.1 hhost)

/-- The texts that are read are those that say a mapping. -/
theorem ofChars_eq_ok_iff {port : NodePort} : ofChars cs = .ok port ↔ Says cs port := by
  constructor
  · exact says_of_ok
  · intro hsays
    cases hsays with
    | both hcolon hboth =>
        rw [ofChars_both hcolon, readPart_eq_ok_iff.2 hboth]
        rfl
    | parts hcolon hnode hhost =>
        rw [ofChars_parts hcolon, readPart_eq_ok_iff.2 hnode, readPart_eq_ok_iff.2 hhost]
        rfl

/-- What is reported of the others is the part to blame. -/
theorem ofChars_eq_error_iff : ofChars cs = .error m ↔ Blames cs m := by
  constructor
  · exact blames_of_error
  · intro hblames
    cases hblames with
    | both hcolon hboth =>
        rw [ofChars_both hcolon, readPart_eq_error_iff.2 hboth]
        rfl
    | node hcolon hnode =>
        rw [ofChars_parts hcolon, readPart_eq_error_iff.2 hnode]
        rfl
    | host hcolon hnode hhost =>
        rw [ofChars_parts hcolon, readPart_eq_ok_iff.2 hnode, readPart_eq_error_iff.2 hhost]
        rfl

theorem isPort_decimalChars (p : UInt16) : IsPort (decimalChars p.toNat) p := by
  have hpadded : Padded (decimalChars p.toNat) ([] ++ decimalChars p.toNat ++ []) :=
    .intro allBlank_nil allBlank_nil
  rw [List.append_nil] at hpadded
  exact ⟨_, hpadded, isNumeral_decimalChars _⟩

/-- The text of a mapping says it. -/
theorem says_text (port : NodePort) : Says port.text.toList port := by
  have hcolon : ':' ∉ decimalChars port.node.toNat := by
    intro hmem
    exact absurd (isDigit_of_mem_decimalChars hmem) (by decide)
  rw [text, String.toList_ofList]
  exact .parts hcolon (isPort_decimalChars _) (isPort_decimalChars _)

/-- **READ AS WRITTEN.**  The text of a mapping is read as that mapping.  A text is read as a mapping
    exactly if it says it, and exactly the part to blame is reported of any other: the node
    part if that says no port, and else the host part. -/
theorem reads_as_written :
    (∀ port : NodePort, ofText port.text = .ok port) ∧
    (∀ (s : String) (port : NodePort), ofText s = .ok port ↔ Says s.toList port) ∧
    ∀ (s : String) (m : Malformed), ofText s = .error m ↔ Blames s.toList m := by
  refine ⟨?_, ?_, ?_⟩
  · intro port
    exact ofChars_eq_ok_iff.2 (says_text port)
  · intro s port
    exact ofChars_eq_ok_iff
  · intro s m
    exact ofChars_eq_error_iff

/-- A plus sign, leading zeros and blanks change nothing; a second colon spoils the host part. -/
example : ofText " +00032080:\t8080 \n" = .ok ⟨32080, 8080⟩ ∧
    ofText "32080:8080:1" = .error ⟨"8080:1", .badDigit⟩ := by decide +kernel

end TestCluster.NodePort
