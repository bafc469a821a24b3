import TestCluster.Proofs.DecimalDigits
import TestCluster.Proofs.TrimmedText

/-!
# Numerals — which texts say a number, and what is wrong with the others

    A numeral is an optional plus sign and digits (`IsNumeral`), and reading gives its value if
    that is below the bound (`readBelow_eq_ok_iff`).  The digits are read from the left, so of a
    text that is no such numeral the fault is the first that is met: a character that is no
    digit, unless the digits in front of it are too many already (`IsFlawed`,
    `readBelow_eq_error_iff`).
-/

namespace TestCluster.Text

variable {bound value n : Nat} {c : Char} {cs digits : List Char} {fault : NumeralFault}

/-- Nothing but the ASCII digits. -/
def AllDigits (cs : List Char) : Prop := ∀ c ∈ cs, c.isDigit = true

/-- A text that says a number: one or more digits, in front of which a plus sign may stand. -/
inductive IsNumeral : List Char → Nat → Prop where
  | unsigned {digits : List Char} :
      digits ≠ [] → AllDigits digits → IsNumeral digits (Nat.ofDigitChars 10 digits 0)
  | signed {digits : List Char} :
      digits ≠ [] → AllDigits digits → IsNumeral ('+' :: digits) (Nat.ofDigitChars 10 digits 0)

/-- Where digits that are read onto a value from the left cannot be read on. -/
inductive Stops (bound value : Nat) : List Char → NumeralFault → Prop where
  | badDigit {digits rest : List Char} {c : Char} :
      AllDigits digits → Nat.ofDigitChars 10 digits value < bound → c.isDigit = false →
      Stops bound value (digits ++ c :: rest) .badDigit
  | tooLarge {digits rest : List Char} :
      AllDigits digits → bound ≤ Nat.ofDigitChars 10 digits value →
      Stops bound value (digits ++ rest) .tooLarge

/-- What is wrong with a text that is no numeral for a number below the bound. -/
inductive IsFlawed (bound : Nat) : List Char → NumeralFault → Prop where
  | empty : IsFlawed bound [] .empty
  | signAlone : IsFlawed bound ['+'] .badDigit
  | unsigned {cs : List Char} {fault : NumeralFault} :
      cs.head? ≠ some '+' → Stops bound 0 cs fault → IsFlawed bound cs fault
  | signed {cs : List Char} {fault : NumeralFault} :
      Stops bound 0 cs fault → IsFlawed bound ('+' :: cs) fault

/-! ## Digits -/

theorem allDigits_cons : AllDigits (c :: cs) ↔ c.isDigit = true ∧ AllDigits cs :=
  List.forall_mem_cons

theorem digit?_of_isDigit (h : c.isDigit = true) : digit? c = some (c.toNat - '0'.toNat) := by
  have hbounds : '0' ≤ c ∧ c ≤ '9' := by
    rw [Char.isDigit, Bool.and_eq_true, decide_eq_true_eq, decide_eq_true_eq] at h
    exact h
  rw [digit?, if_pos hbounds]

theorem digit?_of_not_isDigit (h : c.isDigit = false) : digit? c = none := by
  have hbounds : ¬ ('0' ≤ c ∧ c ≤ '9') := by
    intro hc
    have hdigit : c.isDigit = true := by
      rw [Char.isDigit, Bool.and_eq_true, decide_eq_true_eq, decide_eq_true_eq]
      exact hc
    rw [hdigit] at h
    cases h
  rw [digit?, if_neg hbounds]

/-- Digits only add to the value that they are read onto. -/
theorem le_ofDigitChars (cs : List Char) (value : Nat) :
    value ≤ Nat.ofDigitChars 10 cs value := by
  induction cs generalizing value with
  | nil => simp
  | cons c cs ih =>
      rw [Nat.ofDigitChars_cons]
      have hnext := ih (10 * value + (c.toNat - '0'.toNat))
      omega

theorem digitsBelow_badDigit (hc : c.isDigit = false) :
    digitsBelow bound value (c :: cs) = .error .badDigit := by
  rw [digitsBelow, digit?_of_not_isDigit hc]

theorem digitsBelow_tooLarge (hc : c.isDigit = true)
    (h : bound ≤ 10 * value + (c.toNat - '0'.toNat)) :
    digitsBelow bound value (c :: cs) = .error .tooLarge := by
  rw [digitsBelow, digit?_of_isDigit hc]
  exact if_neg (by omega)

theorem digitsBelow_digit (hc : c.isDigit = true)
    (h : 10 * value + (c.toNat - '0'.toNat) < bound) :
    digitsBelow bound value (c :: cs) =
      digitsBelow bound (10 * value + (c.toNat - '0'.toNat)) cs := by
  rw [digitsBelow, digit?_of_isDigit hc, Nat.mul_comm 10 value]
  exact if_pos (by omega)

/-- Digits whose value stays below the bound are read, and nothing else is. -/
theorem digitsBelow_eq_ok_iff (h : value < bound) :
    digitsBelow bound value cs = .ok n ↔
      AllDigits cs ∧ Nat.ofDigitChars 10 cs value = n ∧ n < bound := by
  induction cs generalizing value with
  | nil =>
      rw [digitsBelow, Nat.ofDigitChars_nil]
      constructor
      · intro hn
        cases hn
        exact ⟨by simp [AllDigits], rfl, h⟩
      · rintro ⟨-, rfl, -⟩
        rfl
  | cons c cs ih =>
      rw [allDigits_cons, Nat.ofDigitChars_cons]
      by_cases hc : c.isDigit = true
      · by_cases hlarge : bound ≤ 10 * value + (c.toNat - '0'.toNat)
        · -- the digits that follow cannot make the value smaller again
          rw [digitsBelow_tooLarge hc hlarge]
          have hmore := le_ofDigitChars cs (10 * value + (c.toNat - '0'.toNat))
          constructor
          · intro hn
            cases hn
          · rintro ⟨-, rfl, hn⟩
            omega
        · have hnext := Nat.lt_of_not_le hlarge
          rw [digitsBelow_digit hc hnext, ih hnext]
          simp [hc]
      · rw [digitsBelow_badDigit (by simpa using hc)]
        simp [hc]

theorem stops_cons {d : Char} (hd : d.isDigit = true)
    (h : Stops bound (10 * value + (d.toNat - '0'.toNat)) cs fault) :
    Stops bound value (d :: cs) fault := by
  cases h with
  | @badDigit digits rest c hdigits hvalue hc =>
      have hstops : Stops bound value ((d :: digits) ++ c :: rest) .badDigit :=
        .badDigit (allDigits_cons.2 ⟨hd, hdigits⟩) (by rwa [Nat.ofDigitChars_cons]) hc
      exact hstops
  | @tooLarge digits rest hdigits hvalue =>
      have hstops : Stops bound value ((d :: digits) ++ rest) .tooLarge :=
        .tooLarge (allDigits_cons.2 ⟨hd, hdigits⟩) (by rwa [Nat.ofDigitChars_cons])
      exact hstops

theorem stops_of_digitsBelow (h : value < bound)
    (hfault : digitsBelow bound value cs = .error fault) : Stops bound value cs fault := by
  induction cs generalizing value with
  | nil => cases hfault
  | cons c cs ih =>
      by_cases hc : c.isDigit = true
      · by_cases hlarge : bound ≤ 10 * value + (c.toNat - '0'.toNat)
        · rw [digitsBelow_tooLarge hc hlarge] at hfault
          cases hfault
          have hstops : Stops bound value ([c] ++ cs) .tooLarge :=
            .tooLarge (by simpa [AllDigits] using hc)
              (by rwa [Nat.ofDigitChars_cons, Nat.ofDigitChars_nil])
          exact hstops
        · have hnext := Nat.lt_of_not_le hlarge
          rw [digitsBelow_digit hc hnext] at hfault
          exact stops_cons hc (ih hnext hfault)
      · rw [digitsBelow_badDigit (by simpa using hc)] at hfault
        cases hfault
        have hstops : Stops bound value ([] ++ c :: cs) .badDigit :=
          .badDigit (by simp [AllDigits]) h (by simpa using hc)
        exact hstops

/-- Behind digits whose value is below the bound, reading goes on from that value. -/
theorem digitsBelow_append (hdigits : AllDigits digits)
    (h : Nat.ofDigitChars 10 digits value < bound) (rest : List Char) :
    digitsBelow bound value (digits ++ rest) =
      digitsBelow bound (Nat.ofDigitChars 10 digits value) rest := by
  induction digits generalizing value with
  | nil => rfl
  | cons d digits ih =>
      obtain ⟨hd, hdigits⟩ := allDigits_cons.1 hdigits
      rw [Nat.ofDigitChars_cons] at h ⊢
      have hmore := le_ofDigitChars digits (10 * value + (d.toNat - '0'.toNat))
      rw [List.cons_append, digitsBelow_digit hd (by omega), ih hdigits h]

theorem digitsBelow_of_large (h : value < bound) (hdigits : AllDigits digits)
    (hlarge : bound ≤ Nat.ofDigitChars 10 digits value) (rest : List Char) :
    digitsBelow bound value (digits ++ rest) = .error .tooLarge := by
  induction digits generalizing value with
  | nil =>
      rw [Nat.ofDigitChars_nil] at hlarge
      omega
  | cons d digits ih =>
      obtain ⟨hd, hdigits⟩ := allDigits_cons.1 hdigits
      rw [Nat.ofDigitChars_cons] at hlarge
      rw [List.cons_append]
      by_cases hfirst : bound ≤ 10 * value + (d.toNat - '0'.toNat)
      · exact digitsBelow_tooLarge hd hfirst
      · have hnext := Nat.lt_of_not_le hfirst
        rw [digitsBelow_digit hd hnext, ih hnext hdigits hlarge]

theorem digitsBelow_eq_error_iff (h : value < bound) :
    digitsBelow bound value cs = .error fault ↔ Stops bound value cs fault := by
  constructor
  · exact stops_of_digitsBelow h
  · intro hstops
    cases hstops with
    | badDigit hdigits hvalue hc =>
        rw [digitsBelow_append hdigits hvalue, digitsBelow_badDigit hc]
    | tooLarge hdigits hlarge => exact digitsBelow_of_large h hdigits hlarge _

/-! ## Numerals -/

theorem readBelow_signed (hcs : cs ≠ []) :
    readBelow bound ('+' :: cs) = digitsBelow bound 0 cs := by
  cases cs with
  | nil => exact absurd rfl hcs
  | cons c cs => rfl

theorem readBelow_unsigned (hcs : cs ≠ []) (hsign : cs.head? ≠ some '+') :
    readBelow bound cs = digitsBelow bound 0 cs := by
  cases cs with
  | nil => exact absurd rfl hcs
  | cons c cs =>
      have hc : c ≠ '+' := by simpa using hsign
      rw [readBelow]
      · intro h
        cases h
      · intro h
        exact hc (List.cons.inj h).1
      · intro cs' h
        exact hc (List.cons.inj h).1

theorem AllDigits.head?_ne (h : AllDigits cs) : cs.head? ≠ some '+' := by
  cases cs with
  | nil => simp
  | cons c cs =>
      intro hhead
      obtain rfl := Option.some.inj hhead
      exact absurd (allDigits_cons.1 h).1 (by decide)

theorem Stops.ne_nil (hbound : 0 < bound) (h : Stops bound 0 cs fault) : cs ≠ [] := by
  rintro rfl
  have hread := (digitsBelow_eq_error_iff hbound).2 h
  cases hread

/-- **WHAT IS READ**: the numerals for numbers below the bound, as these numbers. -/
theorem readBelow_eq_ok_iff (hbound : 0 < bound) :
    readBelow bound cs = .ok n ↔ IsNumeral cs n ∧ n < bound := by
  constructor
  · intro hread
    by_cases hnil : cs = []
    · subst hnil
      cases hread
    by_cases hsign : cs.head? = some '+'
    · obtain ⟨digits, rfl⟩ := List.head?_eq_some_iff.1 hsign
      by_cases hdigits : digits = []
      · subst hdigits
        cases hread
      · rw [readBelow_signed hdigits, digitsBelow_eq_ok_iff hbound] at hread
        obtain ⟨hall, rfl, hn⟩ := hread
        exact ⟨.signed hdigits hall, hn⟩
    · rw [readBelow_unsigned hnil hsign, digitsBelow_eq_ok_iff hbound] at hread
      obtain ⟨hall, rfl, hn⟩ := hread
      exact ⟨.unsigned hnil hall, hn⟩
  · rintro ⟨hnumeral, hn⟩
    cases hnumeral with
    | unsigned hnil hall =>
        rw [readBelow_unsigned hnil hall.head?_ne, digitsBelow_eq_ok_iff hbound]
        exact ⟨hall, rfl, hn⟩
    | signed hnil hall =>
        rw [readBelow_signed hnil, digitsBelow_eq_ok_iff hbound]
        exact ⟨hall, rfl, hn⟩

/-- **WHAT IS NOT READ**: each other text, with the fault that is the first from the left. -/
theorem readBelow_eq_error_iff (hbound : 0 < bound) :
    readBelow bound cs = .error fault ↔ IsFlawed bound cs fault := by
  constructor
  · intro hread
    by_cases hnil : cs = []
    · subst hnil
      cases hread
      exact .empty
    by_cases hsign : cs.head? = some '+'
    · obtain ⟨body, rfl⟩ := List.head?_eq_some_iff.1 hsign
      by_cases hbody : body = []
      · subst hbody
        cases hread
        exact .signAlone
      · rw [readBelow_signed hbody, digitsBelow_eq_error_iff hbound] at hread
        exact .signed hread
    · rw [readBelow_unsigned hnil hsign, digitsBelow_eq_error_iff hbound] at hread
      exact .unsigned hsign hread
  · intro hflawed
    cases hflawed with
    | empty => rfl
    | signAlone => rfl
    | unsigned hsign hstops =>
        rw [readBelow_unsigned (hstops.ne_nil hbound) hsign]
        exact (digitsBelow_eq_error_iff hbound).2 hstops
    | signed hstops =>
        rw [readBelow_signed (hstops.ne_nil hbound)]
        exact (digitsBelow_eq_error_iff hbound).2 hstops

/-! ## Numerals with blanks around them -/

theorem isNumeral_decimalChars (n : Nat) : IsNumeral (decimalChars n) n := by
  have hnumeral : IsNumeral (decimalChars n) (Nat.ofDigitChars 10 (decimalChars n) 0) :=
    .unsigned (decimalChars_ne_nil n) fun c hc => isDigit_of_mem_decimalChars hc
  rwa [decimalChars, Nat.ofDigitChars_ten_toDigits] at hnumeral

/-- No numeral starts or ends with a blank. -/
theorem IsNumeral.isTrimmed (h : IsNumeral cs n) : IsTrimmed cs := by
  have hdigits : ∀ {digits : List Char}, AllDigits digits → IsTrimmed digits := by
    intro digits hall
    constructor
    · intro c hc
      exact isBlank_of_isDigit (hall c (List.mem_of_mem_head? hc))
    · intro c hc
      exact isBlank_of_isDigit (hall c (List.mem_of_getLast? hc))
  cases h with
  | unsigned _ hall => exact hdigits hall
  | signed hnil hall =>
      constructor
      · intro c hc
        obtain rfl := Option.some.inj hc
        decide
      · intro c hc
        rw [List.getLast?_cons_of_ne_nil hnil] at hc
        exact (hdigits hall).last c hc

end TestCluster.Text
