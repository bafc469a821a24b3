import Mathlib.Data.List.Basic
import Mathlib.Data.List.DropRight
import TestCluster.Text.Blank

/-!
# Trimmed texts — what is left between the blanks at either end

    Trimming takes blanks off both ends of a text and nothing else: a text is what is left of
    it with blanks on either side (`padded_trimChars`), and that neither starts nor ends with a
    blank (`isTrimmed_trimChars`).  These two say all about it: of such a text everything is
    left, whatever blanks are put around it (`Padded.trimChars_eq`).
-/

namespace TestCluster.Text

variable {inner cs : List Char}

/-- Nothing but blanks. -/
def AllBlank (cs : List Char) : Prop := ∀ c ∈ cs, isBlank c = true

instance (cs : List Char) : Decidable (AllBlank cs) :=
  decidable_of_iff (cs.all isBlank = true) List.all_eq_true

/-- A text with blanks on either side of it. -/
inductive Padded (inner : List Char) : List Char → Prop where
  | intro {before after : List Char} :
      AllBlank before → AllBlank after → Padded inner (before ++ inner ++ after)

/-- A text that neither starts nor ends with a blank. -/
structure IsTrimmed (cs : List Char) : Prop where
  head : ∀ c, cs.head? = some c → isBlank c = false
  last : ∀ c, cs.getLast? = some c → isBlank c = false

theorem allBlank_nil : AllBlank [] := by simp [AllBlank]

theorem isTrimmed_nil : IsTrimmed [] := ⟨by simp, by simp⟩

theorem isBlank_of_isDigit {c : Char} (h : c.isDigit = true) : isBlank c = false := by
  have hbounds : 48 ≤ c.toNat ∧ c.toNat ≤ 57 := by
    rw [Char.isDigit, Bool.and_eq_true, decide_eq_true_eq, decide_eq_true_eq] at h
    exact h
  simp only [isBlank, Bool.or_eq_false_iff, decide_eq_false_iff_not, beq_eq_false_iff_ne]
  omega

/-- Characters that satisfy a test are dropped up to the first one that does not. -/
theorem dropWhile_upTo {p : Char → Bool} {dropped rest : List Char}
    (hdropped : ∀ c ∈ dropped, p c = true) (hrest : ∀ c, rest.head? = some c → p c = false) :
    (dropped ++ rest).dropWhile p = rest := by
  rw [List.dropWhile_append_of_pos hdropped]
  cases rest with
  | nil => rfl
  | cons c rest => simp [hrest c rfl]

theorem trimChars_eq_rdropWhile (cs : List Char) :
    trimChars cs = (cs.dropWhile isBlank).rdropWhile isBlank := rfl

/-- Blanks around a trimmed text are all that trimming takes off. -/
theorem Padded.trimChars_eq (h : Padded inner cs) (hinner : IsTrimmed inner) :
    trimChars cs = inner := by
  cases h with
  | @intro before after hbefore hafter =>
      by_cases hnil : inner = []
      · -- all is blank, so that nothing is left after the first pass
        subst hnil
        have hblank : ∀ c ∈ before ++ [] ++ after, isBlank c = true := by
          intro c hc
          rw [List.append_nil] at hc
          rcases List.mem_append.1 hc with hc | hc
          · exact hbefore c hc
          · exact hafter c hc
        rw [trimChars, List.dropWhile_eq_nil_iff.2 hblank]
        rfl
      · have hfront : (before ++ inner ++ after).dropWhile isBlank = inner ++ after := by
          rw [List.append_assoc]
          refine dropWhile_upTo hbefore ?_
          intro c hc
          rw [List.head?_append_of_ne_nil _ hnil] at hc
          exact hinner.head c hc
        have hback : (inner ++ after).reverse.dropWhile isBlank = inner.reverse := by
          rw [List.reverse_append]
          refine dropWhile_upTo ?_ ?_
          · intro c hc
            exact hafter c (List.mem_reverse.1 hc)
          · intro c hc
            rw [List.head?_reverse] at hc
            exact hinner.last c hc
        rw [trimChars, hfront, dropEndWhile, hback, List.reverse_reverse]

/-- A text is what trimming leaves of it, with the blanks around that. -/
theorem padded_trimChars (cs : List Char) : Padded (trimChars cs) cs := by
  have hcs : cs.takeWhile isBlank ++ trimChars cs ++ (cs.dropWhile isBlank).rtakeWhile isBlank
      = cs := by
    rw [trimChars_eq_rdropWhile, List.append_assoc, List.rdropWhile_append_rtakeWhile,
      List.takeWhile_append_dropWhile]
  have hpadded : Padded (trimChars cs)
      (cs.takeWhile isBlank ++ trimChars cs ++ (cs.dropWhile isBlank).rtakeWhile isBlank) := by
    refine .intro ?_ ?_
    · intro c hc
      exact List.mem_takeWhile_imp hc
    · intro c hc
      exact List.mem_rtakeWhile_imp hc
  rwa [hcs] at hpadded

theorem isTrimmed_trimChars (cs : List Char) : IsTrimmed (trimChars cs) := by
  constructor
  · -- what is taken off the end leaves the start, where no blank is any more
    intro c hc
    obtain ⟨after, hafter⟩ : trimChars cs <+: cs.dropWhile isBlank := List.rdropWhile_prefix ..
    have hhead : (cs.dropWhile isBlank).head? = some c := by
      rw [← hafter, List.head?_append, hc]
      rfl
    have hnot := List.head?_dropWhile_not isBlank cs
    rw [hhead] at hnot
    simpa using hnot
  · intro c hc
    rw [trimChars, dropEndWhile, List.getLast?_reverse] at hc
    have hnot := List.head?_dropWhile_not isBlank (cs.dropWhile isBlank).reverse
    rw [hc] at hnot
    simpa using hnot

/-- Nothing is left exactly of a text that is nothing but blanks. -/
theorem trimChars_eq_nil_iff : trimChars cs = [] ↔ AllBlank cs := by
  constructor
  · intro hnil
    have hpadded := padded_trimChars cs
    rw [hnil] at hpadded
    obtain ⟨hbefore, hafter⟩ := hpadded
    intro c hc
    rw [List.append_nil] at hc
    rcases List.mem_append.1 hc with hc | hc
    · exact hbefore c hc
    · exact hafter c hc
  · intro hblank
    have hpadded : Padded [] ([] ++ [] ++ cs) := .intro allBlank_nil hblank
    exact hpadded.trimChars_eq isTrimmed_nil

theorem isTrimmed_iff : IsTrimmed cs ↔ trimChars cs = cs := by
  constructor
  · intro htrimmed
    have hpadded : Padded cs ([] ++ cs ++ []) := .intro allBlank_nil allBlank_nil
    rw [List.append_nil] at hpadded
    exact hpadded.trimChars_eq htrimmed
  · intro hsame
    rw [← hsame]
    exact isTrimmed_trimChars cs

instance (cs : List Char) : Decidable (IsTrimmed cs) := decidable_of_iff _ isTrimmed_iff.symm

end TestCluster.Text
