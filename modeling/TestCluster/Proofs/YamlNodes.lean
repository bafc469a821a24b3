import TestCluster.Proofs.WrittenOptions
import TestCluster.Yaml.Format
import TestCluster.Yaml.Printer

/-!
# Nodes of values — what YAML says of them

    A value is written as a tree of nodes: collections in blocks, scalars plain, and texts in
    the style that keeps them texts.  Reading starts from these nodes, not from the text that
    they are written as; and the readers of YAML, lenient as they are, give what stands there.
    A text is written plain only where nothing else is spelled like it, so it is never taken
    for null (`saysText_of_styleOf`).
-/

namespace TestCluster.Yaml

/-! ## The nodes of a value -/

/-- The node as which a value is written. -/
def Node.ofValue : Value → Node.Numbered
  | .null => .scalar {} .plain ['n', 'u', 'l', 'l']
  | .bool true => .scalar {} .plain ['t', 'r', 'u', 'e']
  | .bool false => .scalar {} .plain ['f', 'a', 'l', 's', 'e']
  | .int n => .scalar {} .plain (intChars n)
  | .float x => .scalar {} .plain (floatChars x)
  | .string s => .scalar {} (styleOf s) s.toList
  | .array items => .sequence {} (ofItems items)
  | .object members => .mapping {} (ofMembers members)
where
  ofItems : List Value → List Node.Numbered
    | [] => []
    | v :: vs => ofValue v :: ofItems vs
  ofMembers : List (String × Value) → List (Node.Numbered × Node.Numbered)
    | [] => []
    | (k, v) :: ms => (.scalar {} .plain k.toList, ofValue v) :: ofMembers ms

theorem Node.ofItems_eq_map (items : List Value) :
    Node.ofValue.ofItems items = items.map Node.ofValue := by
  induction items with
  | nil => rfl
  | cons v vs ih => rw [Node.ofValue.ofItems, ih, List.map_cons]

theorem Node.ofMembers_eq_map (members : List (String × Value)) :
    Node.ofValue.ofMembers members =
      members.map fun m => (.scalar {} .plain m.1.toList, Node.ofValue m.2) := by
  induction members with
  | nil => rfl
  | cons m ms ih => rw [Node.ofValue.ofMembers, ih, List.map_cons]

/-- The document of a value: its node, and no anchors. -/
def Document.ofValue (v : Value) : Document := ⟨some (.ofValue v), [], (Node.ofValue v).size⟩

/-- The place of a value inside so many collections. -/
def Place.ofValue (level : Nat) (v : Value) : Place := ⟨some (.ofValue v), depthLimit - level⟩

/-- Whether two nodes are the same. -/
def Node.decideEq : (a b : Node.Numbered) → Decidable (a = b)
  | .scalar label style text, b =>
    match b with
    | .scalar label' style' text' =>
      decidable_of_iff (label = label' ∧ style = style' ∧ text = text') (by rw [Node.scalar.injEq])
    | .sequence .. | .mapping .. | .alias _ => isFalse nofun
  | .sequence label items, b =>
    match b with
    | .sequence label' items' =>
      have := decideItems items items'
      decidable_of_iff (label = label' ∧ items = items') (by rw [Node.sequence.injEq])
    | .scalar .. | .mapping .. | .alias _ => isFalse nofun
  | .mapping label members, b =>
    match b with
    | .mapping label' members' =>
      have := decideMembers members members'
      decidable_of_iff (label = label' ∧ members = members') (by rw [Node.mapping.injEq])
    | .scalar .. | .sequence .. | .alias _ => isFalse nofun
  | .alias n, b =>
    match b with
    | .alias n' => decidable_of_iff (n = n') (by rw [Node.alias.injEq])
    | .scalar .. | .sequence .. | .mapping .. => isFalse nofun
where
  decideItems : (items items' : List Node.Numbered) → Decidable (items = items')
    | [], [] => isTrue rfl
    | [], _ :: _ | _ :: _, [] => isFalse nofun
    | item :: items, item' :: items' =>
      have := decideEq item item'
      have := decideItems items items'
      decidable_of_iff (item = item' ∧ items = items') (by rw [List.cons.injEq])
  decideMembers : (members members' : List (Node.Numbered × Node.Numbered)) →
      Decidable (members = members')
    | [], [] => isTrue rfl
    | [], _ :: _ | _ :: _, [] => isFalse nofun
    | (key, value) :: members, (key', value') :: members' =>
      have := decideEq key key'
      have := decideEq value value'
      have := decideMembers members members'
      decidable_of_iff ((key = key' ∧ value = value') ∧ members = members')
        (by rw [List.cons.injEq, Prod.mk.injEq])

instance : DecidableEq Node.Numbered := Node.decideEq

deriving instance DecidableEq for Document

/-! ## Spellings -/

/-- What starts with a digit other than zero is no code. -/
theorem isZeroPadded_cons {d : Char} (hdigit : d.isDigit = true) (hd : d ≠ '0') (ds : List Char) :
    Scalar.isZeroPadded (d :: ds) = false := by
  have hminus : d ≠ '-' := by
    rintro rfl
    exact nomatch hdigit
  have hplus : d ≠ '+' := by
    rintro rfl
    exact nomatch hdigit
  simp [Scalar.isZeroPadded, hminus, hplus, hd]

/-- The digits of a number are not taken for a code, nor for digits in another base. -/
theorem magnitude?_decimalChars (n : Nat) :
    Scalar.magnitude? (Text.decimalChars n) = some n := by
  rcases Nat.eq_zero_or_pos n with rfl | hn
  · rfl
  · have hdigits := Text.digitsIn?_decimalChars n
    obtain ⟨d, ds, hds, hd⟩ := Text.decimalChars_eq_cons hn
    have hdigit : d.isDigit = true := Text.isDigit_of_mem_decimalChars (hds ▸ List.mem_cons_self)
    rw [hds] at hdigits ⊢
    rw [Scalar.magnitude?, isZeroPadded_cons hdigit hd]
    · exact hdigits
    all_goals exact fun _ h => hd (List.cons.inj h).1

theorem nat?_decimalChars {bound n : Nat} (h : n < bound) :
    Scalar.nat? bound (String.ofList (Text.decimalChars n)) = some n := by
  obtain ⟨d, ds, hds, hdigit⟩ := Text.decimalChars_starts n
  have hplus : d ≠ '+' := by
    rintro rfl
    cases hdigit
  have hmagnitude := magnitude?_decimalChars n
  rw [Scalar.nat?, String.toList_ofList]
  rw [hds] at hmagnitude ⊢
  split
  · rename_i heq
    exact absurd (List.cons.inj heq).1 hplus
  · rw [hmagnitude, Option.filter_some, if_pos (decide_eq_true h)]

theorem intChars_natCast (n : Nat) : intChars n = Text.decimalChars n := by
  have hnegative : ¬ (n : Int) < 0 := by omega
  rw [intChars, if_neg hnegative]
  rfl

/-- What starts with a digit is not spelled like anything that starts with something else. -/
theorem beq_of_digit {c d : Char} (hc : c.isDigit = true) (hd : d.isDigit = false)
    (cs ds : List Char) : (String.ofList (c :: cs) == String.ofList (d :: ds)) = false := by
  refine beq_eq_false_iff_ne.2 fun heq => ?_
  obtain ⟨rfl, -⟩ := List.cons.inj (String.ofList_injective heq)
  rw [hc] at hd
  exact nomatch hd

/-- What starts with a digit is not spelled like null. -/
theorem not_null_of_digit {c : Char} (h : c.isDigit = true) (cs : List Char) :
    Scalar.isNull (String.ofList (c :: cs)) = false := by
  have hlower := beq_of_digit h (d := 'n') rfl cs ['u', 'l', 'l']
  have htitle := beq_of_digit h (d := 'N') rfl cs ['u', 'l', 'l']
  have hupper := beq_of_digit h (d := 'N') rfl cs ['U', 'L', 'L']
  have htilde := beq_of_digit h (d := '~') rfl cs []
  show (_ == String.ofList ['n', 'u', 'l', 'l'] || _ == String.ofList ['N', 'u', 'l', 'l'] ||
    _ == String.ofList ['N', 'U', 'L', 'L'] || _ == String.ofList ['~']) = false
  rw [hlower, htitle, hupper, htilde]
  rfl

/-- Nor is it spelled like a switch. -/
theorem bool?_of_digit {c : Char} (h : c.isDigit = true) (cs : List Char) :
    Scalar.bool? (String.ofList (c :: cs)) = none := by
  have hyes := beq_of_digit h (d := 't') rfl cs ['r', 'u', 'e']
  have htitleYes := beq_of_digit h (d := 'T') rfl cs ['r', 'u', 'e']
  have hupperYes := beq_of_digit h (d := 'T') rfl cs ['R', 'U', 'E']
  have hno := beq_of_digit h (d := 'f') rfl cs ['a', 'l', 's', 'e']
  have htitleNo := beq_of_digit h (d := 'F') rfl cs ['a', 'l', 's', 'e']
  have hupperNo := beq_of_digit h (d := 'F') rfl cs ['A', 'L', 'S', 'E']
  show (if (_ == String.ofList ['t', 'r', 'u', 'e'] || _ == String.ofList ['T', 'r', 'u', 'e'] ||
      _ == String.ofList ['T', 'R', 'U', 'E']) = true then some true
    else if (_ == String.ofList ['f', 'a', 'l', 's', 'e'] ||
      _ == String.ofList ['F', 'a', 'l', 's', 'e'] ||
      _ == String.ofList ['F', 'A', 'L', 'S', 'E']) = true then some false else none) = none
  rw [hyes, htitleYes, hupperYes, hno, htitleNo, hupperNo]
  rfl

/-- A number of no more than 64 bits is read from its digits. -/
theorem value?_decimalChars {n : Nat} (h : n < twoTo 64) :
    Scalar.value? (String.ofList (Text.decimalChars n)) = some (.int n) := by
  have hnumber := nat?_decimalChars h
  obtain ⟨d, ds, hds, hdigit⟩ := Text.decimalChars_starts n
  have hempty : (String.ofList (d :: ds)).isEmpty = false := by
    simp [String.isEmpty_eq_false_iff]
  rw [hds] at hnumber ⊢
  rw [Scalar.value?, hempty, not_null_of_digit hdigit, Bool.false_or, if_neg Bool.false_ne_true,
    bool?_of_digit hdigit]
  dsimp only
  rw [Scalar.integer?, hnumber]
  rfl

theorem saysText_of_styleOf {s : String} (h : styleOf s = .plain) : saysText s = true := by
  rw [styleOf] at h
  split at h
  · split at h <;> exact nomatch h
  · split at h
    · rename_i hplain
      exact (Bool.and_eq_true_iff.1 hplain).1
    · split at h <;> exact nomatch h

/-- A text that is written plain is not taken for null. -/
theorem not_null_of_saysText {s : String} (h : saysText s = true) :
    (s.isEmpty || Scalar.isNull s) = false := by
  cases hnull : (s.isEmpty || Scalar.isNull s) with
  | false => rfl
  | true =>
      rw [saysText, Scalar.value?, if_pos hnull] at h
      exact nomatch h

/-! ## Reading nodes -/

namespace Document

variable (d : Document)

theorem text_scalar (label : Label) (style : ScalarStyle) (text : List Char) (room : Nat) :
    d.text ⟨some (.scalar label style text), room⟩ = pure (String.ofList text) := rfl

theorem natBelow_scalar (bound : Nat) (text : List Char) (room : Nat) :
    d.format.natBelow bound ⟨some (.scalar {} .plain text), room⟩ =
      match Scalar.nat? UInt64.size (String.ofList text) with
      | some n => if n < bound then pure n else failure
      | none => failure := rfl

/-- A plain scalar is there unless it is empty or spelled like null. -/
theorem optional_plain {text : List Char} (room : Nat)
    (h : (text.isEmpty || Scalar.isNull (String.ofList text)) = false) :
    d.optional ⟨some (.scalar {} .plain text), room⟩ =
      pure (some ⟨some (.scalar {} .plain text), room⟩) := by
  show (pure (if (text.isEmpty || Scalar.isNull (String.ofList text)) = true then none
    else some _) : Reading (Option Place)) = _
  rw [h]
  rfl

theorem inside_ofValue {level : Nat} (h : level < depthLimit) (v : Value) :
    inside (Place.ofValue level v) = pure fun node => ⟨some node, depthLimit - (level + 1)⟩ := by
  obtain ⟨room, hroom⟩ : ∃ room, depthLimit - level = room + 1 :=
    ⟨depthLimit - level - 1, by omega⟩
  have hnext : depthLimit - (level + 1) = room := by omega
  rw [Place.ofValue, hroom, hnext]
  rfl

theorem items_ofValue {level : Nat} (h : level < depthLimit) (vs : List Value) :
    d.items (Place.ofValue level (.array vs)) = pure (vs.map (Place.ofValue (level + 1))) := by
  show (do pure ((Node.ofValue.ofItems vs).map (← inside _)) : Reading (List Place)) = _
  rw [inside_ofValue h, pure_bind, Node.ofItems_eq_map, List.map_map]
  rfl

theorem members_ofValue {level : Nat} (h : level < depthLimit) (members : List (String × Value)) :
    d.members (Place.ofValue level (.object members)) =
      pure (members.map fun m => (m.1, Place.ofValue (level + 1) m.2)) := by
  have hmember : ∀ m : String × Value, (do
      pure (← d.text ⟨some (.scalar {} .plain m.1.toList), depthLimit - (level + 1)⟩,
        Place.ofValue (level + 1) m.2) : Reading (String × Place)) =
          pure (m.1, Place.ofValue (level + 1) m.2) := by
    intro m
    rw [text_scalar, String.ofList_toList, pure_bind]
  show (do
    let at_ ← inside _
    (Node.ofValue.ofMembers members).mapM fun m => do
      pure (← d.text (at_ m.1), at_ m.2) : Reading (List (String × Place))) = _
  rw [inside_ofValue h, pure_bind, Node.ofMembers_eq_map, List.mapM_map, ← List.mapM_pure]
  exact congrArg (List.mapM · members) (funext hmember)

/-- The readers of YAML give what stands at the places of values. -/
theorem says_ofValue : d.format.Says Place.ofValue depthLimit where
  text level s := (d.text_scalar ..).trans (congrArg pure String.ofList_toList)
  natBelow := by
    intro level bound n hn hbound
    show d.format.natBelow bound ⟨some (.scalar {} .plain (intChars n)), _⟩ = pure n
    rw [natBelow_scalar, intChars_natCast, nat?_decimalChars (Nat.lt_of_lt_of_le hn hbound)]
    exact if_pos hn
  bool level b := by cases b <;> rfl
  null level := rfl
  thereText level s := by
    show d.optional ⟨some (.scalar {} (styleOf s) s.toList), _⟩ =
      pure (some ⟨some (.scalar {} (styleOf s) s.toList), _⟩)
    cases hstyle : styleOf s with
    | plain =>
        have hnull := not_null_of_saysText (saysText_of_styleOf hstyle)
        refine d.optional_plain _ ?_
        rw [String.ofList_toList]
        simpa using hnull
    | singleQuoted | doubleQuoted | literal | folded => rfl
  thereNat level n := by
    refine d.optional_plain _ ?_
    obtain ⟨c, cs, hcs, hdigit⟩ := Text.decimalChars_starts n
    rw [intChars_natCast, hcs, not_null_of_digit hdigit]
    rfl
  items vs hlevel := d.items_ofValue hlevel vs
  fields members hlevel := by
    show Sum.inr <$> d.members _ = _
    rw [d.members_ofValue hlevel, map_pure]

end Document

end TestCluster.Yaml
