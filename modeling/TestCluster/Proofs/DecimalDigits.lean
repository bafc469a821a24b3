import Mathlib.Algebra.Group.Nat.Defs
import TestCluster.Text.Digit
import TestCluster.Text.Numeral

/-!
# Decimal digits — what the digits of a number say

    A number is written without leading zeros, so its first digit is a zero only if it is
    zero itself, and its digits read from left to right give it again.
-/

namespace TestCluster.Text

theorem isDigit_of_mem_decimalChars {n : Nat} {c : Char} (h : c ∈ decimalChars n) :
    c.isDigit = true :=
  Nat.isDigit_of_mem_toDigits (by decide) (by decide) h

theorem decimalChars_ne_nil (n : Nat) : decimalChars n ≠ [] := Nat.toDigits_ne_nil

/-- Every number starts with a digit. -/
theorem decimalChars_starts (n : Nat) : ∃ d ds, decimalChars n = d :: ds ∧ d.isDigit = true := by
  obtain ⟨d, ds, hds⟩ := List.exists_cons_of_ne_nil (decimalChars_ne_nil n)
  exact ⟨d, ds, hds, isDigit_of_mem_decimalChars (hds ▸ List.mem_cons_self)⟩

/-- The digits of a number, read onto nothing, are the number. -/
theorem foldl_decimalChars (n : Nat) :
    (decimalChars n).foldl (fun value d => value * 10 + (d.toNat - 48)) 0 = n := by
  have hstep : (fun (value : Nat) (d : Char) => value * 10 + (d.toNat - 48)) =
      fun value d => 10 * value + (d.toNat - '0'.toNat) := by
    funext value d
    rw [Nat.mul_comm]
    rfl
  rw [hstep]
  exact Nat.ofDigitChars_ten_toDigits

/-- A number other than zero does not start with a zero. -/
theorem decimalChars_eq_cons {n : Nat} (h : 0 < n) :
    ∃ d ds, decimalChars n = d :: ds ∧ d ≠ '0' := by
  induction n using Nat.strongRecOn with
  | ind n ih =>
      rw [decimalChars, Nat.toDigits_eq_if (by decide)]
      by_cases hn : n < 10
      · refine ⟨n.digitChar, [], if_pos hn, ?_⟩
        have hall : ∀ k < 10, 0 < k → Nat.digitChar k ≠ '0' := by decide
        exact hall n hn h
      -- the first digit is that of the number without its last one
      · obtain ⟨d, ds, hds, hd⟩ := ih (n / 10) (by omega) (by omega)
        refine ⟨d, ds ++ [(n % 10).digitChar], ?_, hd⟩
        rw [if_neg hn]
        exact congrArg (· ++ _) hds

theorem digitIn?_ten {d : Char} (h : d.isDigit = true) : digitIn? 10 d = some (d.toNat - 48) := by
  obtain ⟨hlow, hhigh⟩ := Bool.and_eq_true_iff.1 h
  have hlow : '0' ≤ d := of_decide_eq_true hlow
  have hhigh : d ≤ '9' := of_decide_eq_true hhigh
  have hten : d.toNat - 48 < 10 := by
    have hnine : d.toNat ≤ 57 := hhigh
    omega
  rw [digitIn?, if_pos ⟨hlow, hhigh⟩]
  show (some (d.toNat - 48)).filter _ = _
  rw [Option.filter_some, if_pos (decide_eq_true hten)]

/-- The digits of a number are a numeral in base ten that says the number. -/
theorem digitsIn?_decimalChars (n : Nat) : digitsIn? 10 (decimalChars n) = some n := by
  have hfold : ∀ (ds : List Char) (value : Nat), (∀ d ∈ ds, d.isDigit = true) →
      ds.foldl (fun n c => do some ((← n) * 10 + (← digitIn? 10 c))) (some value) =
        some (ds.foldl (fun value d => value * 10 + (d.toNat - 48)) value) := by
    intro ds
    induction ds with
    | nil => exact fun _ _ => rfl
    | cons d ds ih =>
        intro value h
        obtain ⟨hd, hds⟩ := List.forall_mem_cons.1 h
        rw [List.foldl_cons, List.foldl_cons, digitIn?_ten hd]
        exact ih _ hds
  have hdigits := hfold _ 0 fun d hd => isDigit_of_mem_decimalChars (n := n) hd
  rw [foldl_decimalChars] at hdigits
  obtain ⟨d, ds, hds, -⟩ := decimalChars_starts n
  rw [hds] at hdigits ⊢
  exact hdigits

end TestCluster.Text
