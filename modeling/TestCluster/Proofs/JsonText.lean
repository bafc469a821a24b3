import TestCluster.Json.Printer
import TestCluster.Json.Reader
import TestCluster.Proofs.DecimalDigits

/-!
# Written strings and integers — read back as they were

    A string is read in two steps, so what is read of an escaped character is a code unit
    first, and that unit stands for the character (`readUnits_escapeChar`).  An integer ends
    where its digits end; what follows a value in a JSON text is a space, a comma or a closing
    bracket, and no number goes on with these (`EndsValue`).
-/

namespace TestCluster.Json

/-! ## Strings -/

/-- A code unit that is no half of a surrogate pair stands for a character. -/
theorem unitsText?_code {n : Nat} (hhigh : isHigh n = false) (hlow : isLow n = false)
    (us : List CodeUnit) :
    unitsText? (.code n :: us) = (unitsText? us).map (Char.ofNat n :: ·) := by
  cases us with
  | nil => simp [unitsText?, hhigh, hlow]
  | cons u us => cases u <;> simp [unitsText?, hhigh, hlow]

theorem hexDigit?_hexDigit : ∀ n < 16, Text.hexDigit? (hexDigit n) = some n := by decide

/-- A character that needs no escape is read as it stands. -/
theorem readUnits_char {c : Char} (hquote : c ≠ '"') (hslash : c ≠ '\\') (hcontrol : 0x20 ≤ c.toNat)
    (cs : List Char) : readUnits (c :: cs) =
      (readUnits cs).map fun (us, rest) => (.char c :: us, rest) := by
  rw [readUnits.eq_def]
  split
  · rename_i h
    exact nomatch h
  · rename_i h
    exact absurd (List.cons.inj h).1 hquote
  · rename_i h
    exact absurd (List.cons.inj h).1 hslash
  · rename_i h
    exact absurd (List.cons.inj h).1 hslash
  · rename_i c' rest' _ _ _ h
    obtain ⟨rfl, rfl⟩ := List.cons.inj h
    rw [if_neg (by simp only [hslash, or_false]; omega)]
    cases readUnits cs <;> rfl

/-- An escape by one letter is read as the character that it stands for. -/
theorem readUnits_letter {e c : Char} (he : escape? e = some c) (cs : List Char) :
    readUnits ('\\' :: e :: cs) = (readUnits cs).map fun (us, rest) => (.char c :: us, rest) := by
  have hne : e ≠ 'u' := by
    rintro rfl
    exact nomatch he
  rw [readUnits, he]
  · show (readUnits cs).bind _ = _
    cases readUnits cs <;> rfl
  · intro _ _ _ _ _ hu
    exact absurd hu hne

/-- An escape by four digits is read as the code unit that they spell. -/
theorem readUnits_hex {a b c d : Char} {n : Nat} (hhex : hex4? a b c d = some n)
    (cs : List Char) : readUnits ('\\' :: 'u' :: a :: b :: c :: d :: cs) =
      (readUnits cs).map fun (us, rest) => (.code n :: us, rest) := by
  rw [readUnits, hhex]
  show (readUnits cs).bind _ = _
  cases readUnits cs <;> rfl

theorem hex4?_control {n : Nat} (h : n < 0x20) :
    hex4? '0' '0' (hexDigit (n / 16)) (hexDigit (n % 16)) = some n := by
  rw [hex4?, hexDigit?_hexDigit _ (by omega), hexDigit?_hexDigit _ (by omega)]
  show some (((0 * 16 + 0) * 16 + n / 16) * 16 + n % 16) = some n
  congr 1
  omega

/-- An escaped character is read as a code unit that stands for it. -/
theorem readUnits_escapeChar (c : Char) : ∃ unit,
    (∀ us, unitsText? (unit :: us) = (unitsText? us).map (c :: ·)) ∧
    ∀ cs, readUnits (escapeChar c ++ cs) =
      (readUnits cs).map fun (us, rest) => (unit :: us, rest) := by
  have hchar : ∀ us, unitsText? (.char c :: us) = (unitsText? us).map (c :: ·) := fun us => rfl
  rw [escapeChar]
  split
  · subst_vars
    exact ⟨_, hchar, readUnits_letter rfl⟩
  split
  · subst_vars
    exact ⟨_, hchar, readUnits_letter rfl⟩
  split
  · subst_vars
    exact ⟨_, hchar, readUnits_letter rfl⟩
  split
  · subst_vars
    exact ⟨_, hchar, readUnits_letter rfl⟩
  split
  · subst_vars
    exact ⟨_, hchar, readUnits_letter rfl⟩
  split
  · subst_vars
    exact ⟨_, hchar, readUnits_letter rfl⟩
  split
  · subst_vars
    exact ⟨_, hchar, readUnits_letter rfl⟩
  split
  · rename_i hcontrol
    refine ⟨.code c.toNat, ?_, readUnits_hex (hex4?_control hcontrol)⟩
    intro us
    rw [unitsText?_code (decide_eq_false (by omega)) (decide_eq_false (by omega)),
      Char.ofNat_toNat]
  · rename_i hquote hslash _ _ _ _ _ hcontrol
    exact ⟨_, hchar, readUnits_char hquote hslash (Nat.le_of_not_lt hcontrol)⟩

/-- A text is read as a string up to the quote that follows it. -/
def Spells (cs : List Char) (s : String) : Prop :=
  ∀ rest, readString (cs ++ '"' :: rest) = some (some s, rest)

/-- A written string is read back up to its closing quote. -/
theorem spells_escaped (s : String) : Spells (s.toList.flatMap escapeChar) s := by
  intro rest
  have hunits : ∀ cs : List Char, ∃ us, unitsText? us = some cs ∧
      readUnits (cs.flatMap escapeChar ++ '"' :: rest) = some (us, rest) := by
    intro cs
    induction cs with
    | nil => exact ⟨[], rfl, rfl⟩
    | cons c cs ih =>
        obtain ⟨us, htext, hread⟩ := ih
        obtain ⟨unit, hunit, hescape⟩ := readUnits_escapeChar c
        refine ⟨unit :: us, ?_, ?_⟩
        · rw [hunit, htext]
          rfl
        · rw [List.flatMap_cons, List.append_assoc, hescape, hread]
          rfl
  obtain ⟨us, htext, hread⟩ := hunits s.toList
  rw [readString, hread]
  show some ((unitsText? us).map String.ofList, rest) = _
  rw [htext, Option.map_some, String.ofList_toList]

/-! ## Integers -/

/-- Whether a number goes on with the character. -/
def continuesNumber (c : Char) : Bool := isDigit c || c == '.' || c == 'e' || c == 'E'

/-- What may follow a value: nothing, or a character with which no number goes on. -/
def EndsValue : List Char → Prop
  | [] => True
  | c :: _ => continuesNumber c = false

theorem endsValue_comma (cs : List Char) : EndsValue (',' :: cs) := rfl

theorem endsValue_brace (cs : List Char) : EndsValue ('}' :: cs) := rfl

theorem EndsValue.head {c : Char} {cs : List Char} (h : EndsValue (c :: cs)) :
    isDigit c = false ∧ c ≠ '.' ∧ c ≠ 'e' ∧ c ≠ 'E' := by
  have hc : continuesNumber c = false := h
  simpa [continuesNumber, and_assoc] using hc

theorem isDigit_eq (c : Char) : isDigit c = c.isDigit := by
  rw [isDigit, Char.isDigit, Bool.decide_and]
  rfl

/-- What follows digits is no further digit. -/
def EndsDigits : List Char → Prop
  | [] => True
  | c :: _ => isDigit c = false

theorem EndsValue.endsDigits {rest : List Char} (h : EndsValue rest) : EndsDigits rest := by
  cases rest with
  | nil => trivial
  | cons c rest => exact h.head.1

theorem takeDigits_append {ds rest : List Char} (hds : ∀ d ∈ ds, d.isDigit = true)
    (hrest : EndsDigits rest) : takeDigits (ds ++ rest) = (ds, rest) := by
  have hds' : ∀ d ∈ ds, isDigit d = true := fun d hd => (isDigit_eq d).trans (hds d hd)
  have hstop : rest.takeWhile isDigit = [] ∧ rest.dropWhile isDigit = rest := by
    cases rest with
    | nil => exact ⟨rfl, rfl⟩
    | cons c rest =>
        have hc : isDigit c = false := hrest
        simp [hc]
  rw [takeDigits, List.takeWhile_append_of_pos hds', List.dropWhile_append_of_pos hds', hstop.1,
    hstop.2, List.append_nil]

/-- Digits are read up to what follows them, if they start with no zero. -/
theorem readWhole_append {d : Char} {ds rest : List Char} (hd : d ≠ '0')
    (hds : ∀ c ∈ d :: ds, c.isDigit = true) (hrest : EndsDigits rest) :
    readWhole (d :: (ds ++ rest)) = some (d :: ds, rest) := by
  have htake := takeDigits_append hds hrest
  rw [List.cons_append] at htake
  rw [readWhole, htake]
  intro _ h
  exact absurd (List.cons.inj h).1 hd

theorem readWhole_decimalChars (n : Nat) {rest : List Char} (hrest : EndsValue rest) :
    readWhole (Text.decimalChars n ++ rest) = some (Text.decimalChars n, rest) := by
  rcases Nat.eq_zero_or_pos n with rfl | hn
  · rfl
  · have hdigits : ∀ d ∈ Text.decimalChars n, d.isDigit = true :=
      fun d hd => Text.isDigit_of_mem_decimalChars hd
    obtain ⟨d, ds, hds, hd⟩ := Text.decimalChars_eq_cons hn
    rw [hds] at hdigits ⊢
    exact readWhole_append hd hdigits hrest.endsDigits

/-- The number as which an integer is written. -/
def numberOf (n : Int) : Number := ⟨decide (n < 0), Text.decimalChars n.natAbs, none, none⟩

theorem readFraction_endsValue {rest : List Char} (hrest : EndsValue rest) :
    readFraction rest = some (none, rest) := by
  cases rest with
  | nil => rfl
  | cons c rest =>
      rw [readFraction]
      exact fun _ h => hrest.head.2.1 (List.cons.inj h).1

theorem readExponent_endsValue {rest : List Char} (hrest : EndsValue rest) :
    readExponent rest = some (none, rest) := by
  cases rest with
  | nil => rfl
  | cons c rest =>
      rw [readExponent]
      · exact fun _ h => hrest.head.2.2.1 (List.cons.inj h).1
      · exact fun _ h => hrest.head.2.2.2 (List.cons.inj h).1

theorem decimalChars_append_ne_minus (n : Nat) (rest cs : List Char) :
    Text.decimalChars n ++ rest ≠ '-' :: cs := by
  obtain ⟨c, ds, hds, hc⟩ := Text.decimalChars_starts n
  rw [hds, List.cons_append]
  intro h
  obtain ⟨rfl, -⟩ := List.cons.inj h
  exact nomatch hc

/-- A written integer is read back, up to what follows the value. -/
theorem readNumber_intChars (n : Int) {rest : List Char} (hrest : EndsValue rest) :
    readNumber (intChars n ++ rest) = some (numberOf n, rest) := by
  have hdigits : ((readWhole (Text.decimalChars n.natAbs ++ rest)).bind fun w =>
      (readFraction w.2).bind fun f =>
      (readExponent f.2).bind fun e => some (⟨decide (n < 0), w.1, f.1, e.1⟩, e.2)) =
        some (numberOf n, rest) := by
    rw [readWhole_decimalChars _ hrest, Option.bind_some, readFraction_endsValue hrest,
      Option.bind_some, readExponent_endsValue hrest]
    rfl
  by_cases hn : n < 0
  · rw [intChars, if_pos hn]
    rw [decide_eq_true hn] at hdigits
    exact hdigits
  · rw [intChars, if_neg hn, readNumber]
    · rw [decide_eq_false hn] at hdigits
      exact hdigits
    · exact fun cs => decimalChars_append_ne_minus _ _ cs

end TestCluster.Json
