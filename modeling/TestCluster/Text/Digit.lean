/-!
# Digits — single characters as numbers, in bases up to sixteen
-/

namespace TestCluster.Text

/-- The value of a digit in a base; letters of either case go on after nine. -/
def digitIn? (base : Nat) (c : Char) : Option Nat :=
  let value : Option Nat :=
    if '0' ≤ c ∧ c ≤ '9' then some (c.toNat - 48)
    else if 'a' ≤ c ∧ c ≤ 'f' then some (c.toNat - 87)
    else if 'A' ≤ c ∧ c ≤ 'F' then some (c.toNat - 55)
    else none
  value.filter (· < base)

/-- The value of one or more digits in a base. -/
def digitsIn? (base : Nat) : List Char → Option Nat
  | [] => none
  | cs => cs.foldl (fun n c => do some ((← n) * base + (← digitIn? base c))) (some 0)

/-- The value of a hexadecimal digit. -/
def hexDigit? (c : Char) : Option Nat := digitIn? 16 c

end TestCluster.Text
