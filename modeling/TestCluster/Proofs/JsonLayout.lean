import Mathlib.Data.List.DropRight
import TestCluster.Proofs.JsonText

/-!
# Laid-out JSON — reading a text piece by piece

    A text is read as a tree wherever it stands (`Reads`): after spaces, and before whatever
    ends a value.  The text of a list is put together from texts of its items, and that of an
    object from texts of its members, with spaces between the tokens or without; so each way of
    laying a value out is a matter of which pieces are put together.
-/

namespace TestCluster.Json

variable {c : Char} {cs gap : List Char} {t : Tree} {fuel : Nat}

/-! ## Spaces -/

/-- Only spaces. -/
def AllSpace (gap : List Char) : Prop := ∀ c ∈ gap, isSpace c = true

theorem allSpace_nil : AllSpace [] := fun _ h => nomatch h

theorem skipSpace_cons (hc : isSpace c = false) (cs : List Char) :
    skipSpace (c :: cs) = c :: cs := by
  rw [skipSpace, List.dropWhile_cons_of_neg]
  simp [hc]

theorem skipSpace_append (hgap : AllSpace gap) (cs : List Char) :
    skipSpace (gap ++ cs) = skipSpace cs := by
  rw [skipSpace, List.dropWhile_append_of_pos hgap, skipSpace]

theorem skipSpace_skipSpace : skipSpace (skipSpace cs) = skipSpace cs :=
  List.dropWhile_idempotent isSpace cs

theorem endsValue_append (hgap : AllSpace gap) {rest : List Char} (hrest : EndsValue rest) :
    EndsValue (gap ++ rest) := by
  cases gap with
  | nil => exact hrest
  | cons c gap =>
      have hc := hgap c List.mem_cons_self
      rw [isSpace, Bool.or_eq_true, Bool.or_eq_true, Bool.or_eq_true] at hc
      rcases hc with ((hc | hc) | hc) | hc <;> obtain rfl := beq_iff_eq.1 hc <;> rfl

/-- A tree is read after spaces as without them. -/
theorem readTree_append (hgap : AllSpace gap) (cs : List Char) :
    readTree fuel (gap ++ cs) = readTree fuel cs := by
  cases fuel with
  | zero => rfl
  | succ fuel => rw [readTree, readTree, skipSpace_append hgap]

theorem readTree_bracket (fuel : Nat) (cs : List Char) :
    readTree (fuel + 1) ('[' :: cs) = match skipSpace cs with
      | ']' :: r => some (.array [], r)
      | r => (readItems fuel r).map fun x => (.array x.1, x.2) := rfl

theorem readTree_brace (fuel : Nat) (cs : List Char) :
    readTree (fuel + 1) ('{' :: cs) = match skipSpace cs with
      | '}' :: r => some (.object [], r)
      | r => (readMembers fuel r).map fun x => (.object x.1, x.2) := rfl

theorem readTree_skipSpace : readTree fuel (skipSpace cs) = readTree fuel cs := by
  cases fuel with
  | zero => rfl
  | succ fuel => rw [readTree, readTree, skipSpace_skipSpace]

/-! ## Trees -/

/-- A text is read as a tree, whatever comes after it that ends a value. -/
def Reads (cs : List Char) (t : Tree) : Prop :=
  ∀ fuel rest, cs.length < fuel → EndsValue rest → readTree fuel (cs ++ rest) = some (t, rest)

theorem Reads.append (hgap : AllSpace gap) (h : Reads cs t) : Reads (gap ++ cs) t := by
  intro fuel rest hfuel hrest
  rw [List.append_assoc, readTree_append hgap]
  refine h fuel rest ?_ hrest
  rw [List.length_append] at hfuel
  omega

theorem exists_fuel {n : Nat} (h : n < fuel) : ∃ f, fuel = f + 1 ∧ n ≤ f := ⟨fuel - 1, by omega⟩

theorem reads_null : Reads ['n', 'u', 'l', 'l'] .null := by
  intro fuel rest hfuel _
  obtain ⟨fuel, rfl, -⟩ := exists_fuel hfuel
  rfl

theorem reads_true : Reads ['t', 'r', 'u', 'e'] (.bool true) := by
  intro fuel rest hfuel _
  obtain ⟨fuel, rfl, -⟩ := exists_fuel hfuel
  rfl

theorem reads_false : Reads ['f', 'a', 'l', 's', 'e'] (.bool false) := by
  intro fuel rest hfuel _
  obtain ⟨fuel, rfl, -⟩ := exists_fuel hfuel
  rfl

/-- What spells a string, between quotes, is read as the string. -/
theorem Spells.reads {s : String} (h : Spells cs s) :
    Reads ('"' :: (cs ++ ['"'])) (.string (some s)) := by
  intro fuel rest hfuel _
  obtain ⟨fuel, rfl, -⟩ := exists_fuel hfuel
  rw [List.cons_append, List.append_assoc, List.singleton_append]
  show (readString _).map _ = _
  rw [h rest]
  rfl

theorem reads_string (s : String) : Reads (stringChars s) (.string (some s)) :=
  (spells_escaped s).reads

/-- Whether a number starts with the character. -/
def StartsNumber (c : Char) : Prop := c = '-' ∨ c.isDigit = true

theorem StartsNumber.ne {d : Char} (hc : StartsNumber c) (hminus : d ≠ '-')
    (hdigit : d.isDigit = false) : c ≠ d := by
  rintro rfl
  rcases hc with hc | hc
  · exact hminus hc
  · exact absurd hc (by simp [hdigit])

theorem StartsNumber.isSpace_eq_false (hc : StartsNumber c) : isSpace c = false := by
  have hblank : c ≠ ' ' := hc.ne (by decide) rfl
  have hfeed : c ≠ '\n' := hc.ne (by decide) rfl
  have htab : c ≠ '\t' := hc.ne (by decide) rfl
  have hreturn : c ≠ '\r' := hc.ne (by decide) rfl
  simp [isSpace, hblank, hfeed, htab, hreturn]

theorem intChars_eq_cons (n : Int) : ∃ c cs, intChars n = c :: cs ∧ StartsNumber c := by
  rw [intChars]
  by_cases hn : n < 0
  · rw [if_pos hn]
    exact ⟨_, _, rfl, Or.inl rfl⟩
  · rw [if_neg hn]
    obtain ⟨c, cs, hcs, hc⟩ := Text.decimalChars_starts n.natAbs
    exact ⟨c, cs, hcs, Or.inr hc⟩

theorem readTree_number (hc : StartsNumber c) (fuel : Nat) (cs : List Char) :
    readTree (fuel + 1) (c :: cs) = (readNumber (c :: cs)).map fun (n, r) => (.number n, r) := by
  rw [readTree, skipSpace_cons hc.isSpace_eq_false]
  split
  case h_7 => rfl
  -- every other tree starts with a character of its own
  all_goals
    rename_i h
    exact absurd (List.cons.inj h).1 (hc.ne (by decide) rfl)

theorem reads_int (n : Int) : Reads (intChars n) (.number (numberOf n)) := by
  intro fuel rest hfuel hrest
  obtain ⟨fuel, rfl, -⟩ := exists_fuel hfuel
  have hread := readNumber_intChars n hrest
  obtain ⟨c, cs, hcs, hc⟩ := intChars_eq_cons n
  rw [hcs, List.cons_append] at hread ⊢
  rw [readTree_number hc, hread]
  rfl

/-! ## Lists -/

/-- A text that ends with the closing bracket is read as the items before it. -/
def ReadsItems (cs : List Char) (ts : List Tree) : Prop :=
  ∀ fuel rest, cs.length < fuel → readItems fuel (cs ++ rest) = some (ts, rest)

theorem ReadsItems.last (h : Reads cs t) (hgap : AllSpace gap) :
    ReadsItems (cs ++ (gap ++ [']'])) [t] := by
  intro fuel rest hfuel
  obtain ⟨fuel, rfl, hle⟩ := exists_fuel hfuel
  have hends : EndsValue (gap ++ ']' :: rest) := endsValue_append hgap rfl
  rw [List.length_append] at hle
  have hpositive : 0 < (gap ++ [']']).length := List.length_pos_of_ne_nil (by simp)
  rw [List.append_assoc, List.append_assoc gap, List.singleton_append, readItems,
    h fuel _ (by omega) hends, Option.bind_eq_bind, Option.bind_some]
  dsimp only
  rw [skipSpace_append hgap]
  rfl

theorem ReadsItems.cons (h : Reads cs t) (hgap : AllSpace gap) {more : List Char}
    {ts : List Tree} (hmore : ReadsItems more ts) :
    ReadsItems (cs ++ (gap ++ ',' :: more)) (t :: ts) := by
  intro fuel rest hfuel
  obtain ⟨fuel, rfl, hle⟩ := exists_fuel hfuel
  have hends : EndsValue (gap ++ ',' :: (more ++ rest)) :=
    endsValue_append hgap (endsValue_comma _)
  rw [List.length_append, List.length_append, List.length_cons] at hle
  rw [List.append_assoc, List.append_assoc gap, List.cons_append, readItems,
    h fuel _ (by omega) hends, Option.bind_eq_bind, Option.bind_some]
  dsimp only
  rw [skipSpace_append hgap]
  show (readItems fuel (more ++ rest)).bind _ = _
  rw [hmore fuel rest (by omega)]
  rfl

/-- No items are read where the list is closed. -/
theorem readItems_bracket {rest : List Char} (h : skipSpace cs = ']' :: rest) :
    readItems fuel cs = none := by
  cases fuel with
  | zero => rfl
  | succ fuel =>
      have htree : readTree fuel cs = none := by
        cases fuel with
        | zero => rfl
        | succ fuel =>
            rw [readTree, h]
            rfl
      rw [readItems, htree]
      rfl

theorem readItems_skipSpace : readItems fuel (skipSpace cs) = readItems fuel cs := by
  cases fuel with
  | zero => rfl
  | succ fuel => rw [readItems, readItems, readTree_skipSpace]

theorem reads_noItems (hgap : AllSpace gap) : Reads ('[' :: (gap ++ [']'])) (.array []) := by
  intro fuel rest hfuel _
  obtain ⟨fuel, rfl, -⟩ := exists_fuel hfuel
  rw [List.cons_append, List.append_assoc, readTree_bracket, skipSpace_append hgap]
  rfl

theorem ReadsItems.array {ts : List Tree} (h : ReadsItems cs ts) :
    Reads ('[' :: cs) (.array ts) := by
  intro fuel rest hfuel _
  obtain ⟨fuel, rfl, hle⟩ := exists_fuel hfuel
  have hread := h fuel rest hle
  rw [List.cons_append, readTree_bracket]
  split
  · rename_i hclosed
    rw [readItems_bracket hclosed] at hread
    cases hread
  · rw [readItems_skipSpace, hread]
    rfl

/-! ## Objects -/

/-- A text that ends with the closing brace is read as the members before it. -/
def ReadsMembers (cs : List Char) (ms : List (Option String × Tree)) : Prop :=
  ∀ fuel rest, cs.length < fuel → readMembers fuel (cs ++ rest) = some (ms, rest)

/-- The text of a member: its key, between quotes, and its value, with a colon between them. -/
def memberText (key between value : List Char) : List Char :=
  '"' :: (key ++ '"' :: (between ++ ':' :: value))

theorem length_memberText_append (key between value tail : List Char) :
    value.length + tail.length < (memberText key between value ++ tail).length := by
  simp only [memberText, List.length_append, List.length_cons]
  omega

/-- One member is read up to what ends its value. -/
theorem readMembers_member {key between : List Char} {k : String} (hkey : Spells key k)
    (hbetween : AllSpace between) (h : Reads cs t) (hgap : AllSpace gap) (hfuel : cs.length < fuel)
    {tail : List Char} (htail : EndsValue tail) :
    readMembers (fuel + 1) (gap ++ (memberText key between cs ++ tail)) =
      match skipSpace tail with
      | ',' :: rest => (readMembers fuel rest).bind fun (members, rest) =>
        some ((some k, t) :: members, rest)
      | '}' :: rest => some ([(some k, t)], rest)
      | _ => none := by
  have hskip : skipSpace (gap ++ (memberText key between cs ++ tail)) =
      '"' :: (key ++ '"' :: (between ++ ':' :: (cs ++ tail))) := by
    rw [skipSpace_append hgap, memberText, List.cons_append, List.append_assoc, List.cons_append,
      List.append_assoc, List.cons_append, skipSpace_cons rfl]
  rw [readMembers, hskip]
  show (readString _).bind _ = _
  rw [hkey, Option.bind_some]
  dsimp only
  rw [skipSpace_append hbetween, skipSpace_cons rfl]
  show (readTree fuel (cs ++ tail)).bind _ = _
  rw [h fuel tail hfuel htail]
  rfl

section Members

variable {key between after more : List Char} {k : String} {ms : List (Option String × Tree)}

theorem ReadsMembers.last (hgap : AllSpace gap) (hkey : Spells key k)
    (hbetween : AllSpace between) (h : Reads cs t) (hafter : AllSpace after) :
    ReadsMembers (gap ++ (memberText key between cs ++ (after ++ ['}']))) [(some k, t)] := by
  intro fuel rest hfuel
  obtain ⟨fuel, rfl, hle⟩ := exists_fuel hfuel
  have hends : EndsValue (after ++ '}' :: rest) := endsValue_append hafter (endsValue_brace rest)
  have hlength := length_memberText_append key between cs (after ++ ['}'])
  rw [List.length_append] at hle
  rw [List.append_assoc, List.append_assoc, List.append_assoc after, List.singleton_append,
    readMembers_member hkey hbetween h hgap (by omega) hends, skipSpace_append hafter]
  rfl

theorem ReadsMembers.cons (hgap : AllSpace gap) (hkey : Spells key k)
    (hbetween : AllSpace between) (h : Reads cs t) (hafter : AllSpace after)
    (hmore : ReadsMembers more ms) :
    ReadsMembers (gap ++ (memberText key between cs ++ (after ++ ',' :: more)))
      ((some k, t) :: ms) := by
  intro fuel rest hfuel
  obtain ⟨fuel, rfl, hle⟩ := exists_fuel hfuel
  have hends : EndsValue (after ++ ',' :: (more ++ rest)) :=
    endsValue_append hafter (endsValue_comma _)
  have hlength := length_memberText_append key between cs (after ++ ',' :: more)
  rw [List.length_append] at hle
  rw [List.length_append, List.length_cons] at hlength
  rw [List.append_assoc, List.append_assoc, List.append_assoc after, List.cons_append,
    readMembers_member hkey hbetween h hgap (by omega) hends, skipSpace_append hafter]
  show (readMembers fuel (more ++ rest)).bind _ = _
  rw [hmore fuel rest (by omega)]
  rfl

/-- The text of a member without spaces before its colon, as it is written. -/
theorem memberText_escaped (k : String) (value : List Char) :
    memberText (k.toList.flatMap escapeChar) [] value = stringChars k ++ ':' :: value := by
  rw [memberText, List.nil_append, stringChars, List.append_assoc, List.cons_append,
    List.singleton_append]

theorem ReadsMembers.lastWritten (k : String) (h : Reads cs t) (hgap : AllSpace gap)
    (hafter : AllSpace after) :
    ReadsMembers (gap ++ stringChars k ++ ':' :: cs ++ (after ++ ['}'])) [(some k, t)] := by
  have hlast := ReadsMembers.last hgap (spells_escaped k) allSpace_nil h hafter
  rw [memberText_escaped] at hlast
  simpa only [List.append_assoc] using hlast

theorem ReadsMembers.consWritten (k : String) (h : Reads cs t) (hgap : AllSpace gap)
    (hmore : ReadsMembers more ms) :
    ReadsMembers (gap ++ stringChars k ++ ':' :: cs ++ ',' :: more) ((some k, t) :: ms) := by
  have hcons := ReadsMembers.cons hgap (spells_escaped k) allSpace_nil h allSpace_nil hmore
  rw [memberText_escaped, List.nil_append] at hcons
  simpa only [List.append_assoc] using hcons

end Members

/-- No members are read where the object is closed. -/
theorem readMembers_brace {rest : List Char} (h : skipSpace cs = '}' :: rest) :
    readMembers fuel cs = none := by
  cases fuel with
  | zero => rfl
  | succ fuel =>
      rw [readMembers, h]
      rfl

theorem readMembers_skipSpace : readMembers fuel (skipSpace cs) = readMembers fuel cs := by
  cases fuel with
  | zero => rfl
  | succ fuel => rw [readMembers, readMembers, skipSpace_skipSpace]

theorem reads_noMembers (hgap : AllSpace gap) : Reads ('{' :: (gap ++ ['}'])) (.object []) := by
  intro fuel rest hfuel _
  obtain ⟨fuel, rfl, -⟩ := exists_fuel hfuel
  rw [List.cons_append, List.append_assoc, readTree_brace, skipSpace_append hgap]
  rfl

theorem ReadsMembers.object {ms : List (Option String × Tree)} (h : ReadsMembers cs ms) :
    Reads ('{' :: cs) (.object ms) := by
  intro fuel rest hfuel _
  obtain ⟨fuel, rfl, hle⟩ := exists_fuel hfuel
  have hread := h fuel rest hle
  rw [List.cons_append, readTree_brace]
  split
  · rename_i hclosed
    rw [readMembers_brace hclosed] at hread
    cases hread
  · rw [readMembers_skipSpace, hread]
    rfl

/-! ## Whole texts -/

/-- A whole text, with spaces around it or without, is its tree. -/
theorem Reads.ofChars? {before after : List Char} (hbefore : AllSpace before) (h : Reads cs t)
    (hafter : AllSpace after) : ofChars? (before ++ (cs ++ after)) = some t := by
  have hends : EndsValue (after ++ []) := endsValue_append hafter trivial
  rw [List.append_nil] at hends
  have hread := h (2 * (before ++ (cs ++ after)).length + 2) after
    (by simp only [List.length_append]; omega) hends
  have hrest : skipSpace after = [] := List.dropWhile_eq_nil_iff.2 hafter
  rw [Json.ofChars?, readTree_append hbefore, hread]
  show (if (skipSpace after).isEmpty = true then some t else none) = some t
  rw [hrest]
  rfl

theorem Reads.ofText? (h : Reads cs t) : ofText? (String.ofList cs) = some t := by
  have hchars := h.ofChars? allSpace_nil allSpace_nil
  rw [List.nil_append, List.append_nil] at hchars
  rwa [Json.ofText?, String.toList_ofList]

end TestCluster.Json
