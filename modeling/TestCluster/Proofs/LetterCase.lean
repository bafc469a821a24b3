import TestCluster.Text.Case

/-!
# Letter case — which texts have an ASCII word as their lower-case form

    Below code point 128 the lower-case form is the one of ASCII (`simpleLower_ascii`).  From
    there on the table leads back below 128 in one place only: the Kelvin sign becomes the
    letter `k` (`simpleLower_beyond`).  And the two characters that the table does not
    decide, the sigma and the dotted I, leave something behind that is no ASCII character.

    So a word of ASCII characters other than `k` is the lower-case form of the texts that
    differ from it in the case of ASCII letters, and of no others (`lowercase_eq_iff`).
-/

namespace TestCluster.Text

variable {c : Char} {before cs word : List Char}

/-- An ASCII character that is the lower-case form of ASCII characters alone. -/
def IsPlainLetter (c : Char) : Prop := c.toNat < 128 ∧ c ≠ 'k'

instance (c : Char) : Decidable (IsPlainLetter c) := inferInstanceAs (Decidable (_ ∧ _))

/-! ## Single characters -/

/-- What the table says of ASCII: its one row below code point 128 is that of the capitals, and of
    the others none leads there but the row of the Kelvin sign, nor to a number that is no
    character. -/
def LeadsBeyond (row : Nat × Nat × Nat × Int) : Prop :=
  (row.1 = 65 ∧ row.2.1 = 90) ∨
    128 ≤ row.1 ∧ ((row.1 = 0x212A ∧ row.2.1 = 0x212A ∧ row.2.2.2 = -8383) ∨
      128 ≤ row.1 + row.2.2.2 ∧
        (row.2.1 + row.2.2.2 < 0xD800 ∨
          0xDFFF < row.1 + row.2.2.2 ∧ row.2.1 + row.2.2.2 < 0x110000))

instance (row : Nat × Nat × Nat × Int) : Decidable (LeadsBeyond row) :=
  inferInstanceAs (Decidable (_ ∨ _))

theorem leadsBeyond_of_mem : ∀ row ∈ CaseTable.lowerShifts, LeadsBeyond row := by decide +kernel

theorem toLower_of_not_capital (h : ¬ (65 ≤ c.toNat ∧ c.toNat ≤ 90)) : c.toLower = c :=
  dif_neg h

theorem simpleLower_ascii (h : c.toNat < 128) : simpleLower c = c.toLower := by
  by_cases hcapital : 65 ≤ c.toNat ∧ c.toNat ≤ 90
  · have hcapitals : ∀ n < 26,
        simpleLower (.ofNat (n + 65)) = (Char.ofNat (n + 65)).toLower := by decide +kernel
    have hlower := hcapitals (c.toNat - 65) (by omega)
    rwa [Nat.sub_add_cancel hcapital.1, Char.ofNat_toNat] at hlower
  · rw [toLower_of_not_capital hcapital, simpleLower]
    dsimp only
    rw [List.find?_eq_none.2]
    rintro ⟨first, last, step, shift⟩ hrow hfound
    obtain ⟨hfirst, hlast, -⟩ := of_decide_eq_true hfound
    have hbeyond := leadsBeyond_of_mem _ hrow
    dsimp only [LeadsBeyond] at hfirst hlast hbeyond
    omega

/-- Beyond ASCII the lower-case form is beyond ASCII, but for that of the Kelvin sign. -/
theorem simpleLower_beyond (h : 128 ≤ c.toNat) :
    simpleLower c = 'k' ∨ 128 ≤ (simpleLower c).toNat := by
  rw [simpleLower]
  dsimp only
  split
  · rename_i first last step shift hfound
    have hrow := leadsBeyond_of_mem _ (List.mem_of_find?_eq_some hfound)
    have hbounds : first ≤ c.toNat ∧ c.toNat ≤ last := by
      have hin := List.find?_some hfound
      rw [decide_eq_true_eq] at hin
      exact ⟨hin.1, hin.2.1⟩
    dsimp only [LeadsBeyond] at hrow
    rcases hrow with ⟨-, hbelow⟩ | ⟨-, ⟨hfirst, hlast, hshift⟩ | ⟨hlarge, hcharacter⟩⟩
    · omega
    · left
      have hcode : ((c.toNat : Int) + shift).toNat = 107 := by omega
      rw [hcode]
    · right
      have hvalid : ((c.toNat : Int) + shift).toNat.isValidChar := by
        rcases hcharacter with hlow | hhigh
        · exact Or.inl (by omega)
        · exact Or.inr ⟨by omega, by omega⟩
      rw [Char.ofNat, dif_pos hvalid]
      show 128 ≤ ((c.toNat : Int) + shift).toNat
      omega
  · exact Or.inr h

/-- A plain letter is the lower-case form of those characters of which it is that in ASCII. -/
theorem simpleLower_eq_iff {w : Char} (hw : IsPlainLetter w) :
    simpleLower c = w ↔ c.toLower = w := by
  by_cases h : c.toNat < 128
  · rw [simpleLower_ascii h]
  · have hbeyond : 128 ≤ c.toNat := Nat.le_of_not_lt h
    rw [toLower_of_not_capital (by omega)]
    constructor
    · rintro rfl
      rcases simpleLower_beyond hbeyond with hk | hlarge
      · exact absurd hk hw.2
      · exact absurd hw.1 (Nat.not_lt.2 hlarge)
    · rintro rfl
      exact absurd hw.1 h

/-! ## Words -/

theorem lowerAfter_cons_plain (hsigma : c ≠ 'Σ') (hdotted : c ≠ 'İ') :
    lowerAfter before (c :: cs) = simpleLower c :: lowerAfter (c :: before) cs := by
  rw [lowerAfter, if_neg hsigma, if_neg hdotted]
  rfl

/-- What a sigma or a dotted I becomes has a character in it that is beyond ASCII. -/
theorem exists_beyond_of_special (h : c = 'Σ' ∨ c = 'İ') (before cs : List Char) :
    ∃ d ∈ lowerAfter before (c :: cs), 128 ≤ d.toNat := by
  rcases h with rfl | rfl
  · rw [lowerAfter, if_pos rfl]
    split
    · exact ⟨'ς', by simp, by decide⟩
    · exact ⟨'σ', by simp, by decide⟩
  · rw [lowerAfter, if_neg (by decide), if_pos rfl]
    exact ⟨'\u0307', by simp, by decide⟩

/-- The characters whose lower-case form is a plain word are those that make it in ASCII.  The
    induction is on the characters: what stands before one matters to a sigma alone. -/
theorem lowerAfter_eq_iff (hword : ∀ w ∈ word, IsPlainLetter w) (before : List Char) :
    lowerAfter before cs = word ↔ cs.map Char.toLower = word := by
  induction cs generalizing before word with
  | nil => exact Iff.rfl
  | cons c cs ih =>
      by_cases hspecial : c = 'Σ' ∨ c = 'İ'
      · constructor
        · rintro rfl
          obtain ⟨d, hd, hbeyond⟩ := exists_beyond_of_special hspecial before cs
          exact absurd (hword d hd).1 (Nat.not_lt.2 hbeyond)
        · rintro rfl
          have hplain := hword c.toLower (by simp)
          rcases hspecial with rfl | rfl
          · exact absurd hplain.1 (by decide)
          · exact absurd hplain.1 (by decide)
      · obtain ⟨hsigma, hdotted⟩ := not_or.1 hspecial
        rw [lowerAfter_cons_plain hsigma hdotted, List.map_cons]
        cases word with
        | nil => simp
        | cons w word =>
            obtain ⟨hw, hrest⟩ := List.forall_mem_cons.1 hword
            rw [List.cons.injEq, List.cons.injEq, simpleLower_eq_iff hw, ih hrest]

/-- **LOWER CASE OF A PLAIN WORD**: a text has it exactly if it is the word but for the case of
    ASCII letters. -/
theorem lowercase_eq_iff {s word : String} (hword : ∀ w ∈ word.toList, IsPlainLetter w) :
    lowercase s = word ↔ s.toList.map Char.toLower = word.toList := by
  rw [← lowerAfter_eq_iff hword [], lowercase]
  constructor
  · rintro rfl
    rw [String.toList_ofList]
  · intro h
    rw [h, String.ofList_toList]

/-- The Kelvin sign is not the letter K, though its lower-case form is the letter k. -/
example : lowercase "ON" = "on" ∧ lowercase "\u212A" = "k" ∧ Char.toLower '\u212A' ≠ 'k' := by
  decide +kernel

end TestCluster.Text
