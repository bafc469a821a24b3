import TestCluster.Text.CaseTable

/-!
# Lower case — the full mapping, with the word-final sigma

    `lowercase` maps every character to its lower-case form. Two characters need more than
    a table: the dotted capital I becomes two characters, and a capital sigma has a form of
    its own at the end of a word. Whether a sigma ends a word is read off its neighbours:
    skipping what a word boundary test skips, a cased character stands before it and none
    after it.
-/

namespace TestCluster.Text

/-- Whether some range of the table holds the code point. -/
def inRanges (table : List (Nat × Nat)) (code : Nat) : Bool :=
  table.any fun (first, last) => decide (first ≤ code ∧ code ≤ last)

/-- The lower-case form of one character, where that is a single character. -/
def simpleLower (c : Char) : Char :=
  let code := c.toNat
  match CaseTable.lowerShifts.find? fun (first, last, step, _) =>
      decide (first ≤ code ∧ code ≤ last ∧ (code - first) % step = 0) with
  | some (_, _, _, shift) => Char.ofNat ((code : Int) + shift).toNat
  | none => c

/-- Whether the nearest character that a boundary test does not skip has a case. -/
def meetsCased (cs : List Char) : Bool :=
  match cs.dropWhile fun c => inRanges CaseTable.ignorable c.toNat with
  | c :: _ => inRanges CaseTable.cased c.toNat
  | [] => false

/-- Lower case of the second list, when the first one, nearest character first, precedes it. -/
def lowerAfter (before : List Char) : List Char → List Char
  | [] => []
  | c :: after =>
    let here :=
      if c = 'Σ' then [if meetsCased before && !meetsCased after then 'ς' else 'σ']
      else if c = 'İ' then ['i', '\u0307']
      else [simpleLower c]
    here ++ lowerAfter (c :: before) after

/-- The text in lower case. -/
def lowercase (s : String) : String := String.ofList (lowerAfter [] s.toList)

end TestCluster.Text
