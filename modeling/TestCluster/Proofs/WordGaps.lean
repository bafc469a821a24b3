import Mathlib.Data.Bool.Basic
import TestCluster.Proofs.Readers

/-!
# Word gaps — what is skipped before the next word

    In a block a tab may stand in a gap as long as no key may start there. A reader that meets
    a tab where one may finds no word. So a gap is taken apart here: `skipAll` skips it with
    its tabs, and `isTabFree` tells whether the reader gets over them.
-/

namespace TestCluster.Yaml

/-- Skips blanks, comments and line ends. -/
def skipAll (comment : Bool) (p : Position) : List Char → List Char × Position
  | [] => ([], p)
  | c :: cs =>
    if isBreak c then
      if c == '\r' && cs.head? == some '\n' then skipAll comment p.next cs
      else skipAll false p.newLine cs
    else if comment then skipAll true p.next cs
    else if isBlank c then skipAll false p.next cs
    else if c == '#' then skipAll true p.next cs
    else (c :: cs, p)

/-- Whether no tab stands before the next word where a key may start. -/
def isTabFree (keyAllowed comment : Bool) : List Char → Bool
  | [] => true
  | c :: cs =>
    if isBreak c then
      if c == '\r' && cs.head? == some '\n' then isTabFree keyAllowed comment cs
      else isTabFree true false cs
    else if comment then isTabFree keyAllowed true cs
    else if c == '\t' then !keyAllowed && isTabFree keyAllowed false cs
    else if c == ' ' then isTabFree keyAllowed false cs
    else if c == '#' then isTabFree keyAllowed true cs
    else true

section Skipped

variable {flow keyAllowed comment : Bool} {p q : Position} {cs ds u z : List Char}

theorem counts_skipAll (comment : Bool) (p : Position) (cs : List Char) :
    Counts p cs (skipAll comment p cs).2 (skipAll comment p cs).1 := by
  fun_induction skipAll comment p cs <;> grind [Counts.refl, Counts.of_next, Counts.of_newLine]

/-- No line end is left where a word is. -/
theorem isBreak_of_skipAll {c : Char} (h : (skipAll comment p cs).1 = c :: ds) :
    isBreak c = false := by
  fun_induction skipAll comment p cs <;> grind

theorem column_skipAll (hcs : EndsBroken cs) (h : (skipAll comment p cs).1 = [])
    (hnil : cs = [] → p.column = 0) : (skipAll comment p cs).2.column = 0 := by
  fun_induction skipAll comment p cs <;>
    grind [EndsBroken.of_cons, EndsBroken.ne_nil, Position.newLine]

/-- To skip a line end takes a line. -/
theorem line_skipAll (hcs : EndsBroken cs) (hne : cs ≠ [])
    (h : (skipAll comment p cs).1 = []) : p.line < (skipAll comment p cs).2.line := by
  fun_induction skipAll comment p cs <;>
    grind [EndsBroken.of_cons, EndsBroken.ne_nil, Position.next, Position.newLine, skipAll]

theorem skipAll_rest (comment : Bool) (p q : Position) (cs : List Char) :
    (skipAll comment p cs).1 = (skipAll comment q cs).1 := by
  fun_induction skipAll comment p cs generalizing q <;> grind [skipAll]

/-- The byte order mark counts as a character but at the start of a text. -/
def Unmarked (p : Position) (cs : List Char) : Prop := p.index = 0 → cs.head? ≠ some '\uFEFF'

theorem unmarked_next (p : Position) (cs : List Char) : Unmarked p.next cs :=
  fun h => absurd h (Nat.succ_ne_zero _)

theorem unmarked_newLine (p : Position) (cs : List Char) : Unmarked p.newLine cs :=
  fun h => absurd h (Nat.succ_ne_zero _)

theorem Unmarked.ne {c : Char} (h : Unmarked p (c :: cs)) :
    (c == '\uFEFF' && p.index == 0) = false := by
  rw [Bool.and_eq_false_imp, beq_iff_eq, beq_eq_false_iff_ne]
  exact fun hc hp => h hp (congrArg some hc)

/-- A gap without tabs in the wrong place is skipped. A key may start after it if one could
    before, or, in a block, if a line has ended. -/
theorem skipGap_eq (hmark : Unmarked p cs)
    (h : flow = true ∨ isTabFree keyAllowed comment cs = true) :
    TokenReader.skipGap flow keyAllowed comment p cs =
      ((skipAll comment p cs).1, (skipAll comment p cs).2,
        keyAllowed || !flow && decide (p.line < (skipAll comment p cs).2.line)) := by
  fun_induction TokenReader.skipGap flow keyAllowed comment p cs with
  | case3 keyAllowed comment p c cs hbreak hreturn ih =>
      rw [isTabFree, if_pos hbreak, if_neg hreturn] at h
      rw [skipAll, if_pos hbreak, if_neg hreturn]
      -- a line end is skipped, after which the reader is on a later line
      have hline : p.line < (skipAll false p.newLine cs).2.line :=
        (counts_skipAll false p.newLine cs).line
      cases flow with
      | true => simpa using ih (unmarked_newLine p cs) (.inl rfl)
      | false =>
          have hfree : isTabFree (keyAllowed || !false) false cs = true := by
            simpa using h
          simpa [hline] using ih (unmarked_newLine p cs) (.inr hfree)
  | _ => grind [skipAll, isTabFree, isBlank, Unmarked.ne, unmarked_next, Position.next]

/-- A reader that does not get over a tab stops there. -/
theorem skipGap_of_tab (hmark : Unmarked p cs) (h : isTabFree keyAllowed comment cs = false) :
    (TokenReader.skipGap false keyAllowed comment p cs).1.head? = some '\t' := by
  fun_induction TokenReader.skipGap false keyAllowed comment p cs <;>
    grind [isTabFree, Unmarked.ne, unmarked_next, unmarked_newLine]

/-- What is left of the text before a cut stands before the cut. -/
theorem skipAll_append_of_ne_nil (h : CutAt u z) (hne : (skipAll comment p u).1 ≠ []) :
    skipAll comment p (u ++ z) = ((skipAll comment p u).1 ++ z, (skipAll comment p u).2) := by
  fun_induction skipAll comment p u <;> grind [skipAll, CutAt.of_cons, CutAt.return_iff]

/-- If nothing of the text before a cut is left, skipping goes on after it. -/
theorem skipAll_append_of_nil (h : CutAt u z) (hu : EndsBroken u)
    (hcomment : u = [] → comment = false) (hnil : (skipAll comment p u).1 = []) :
    skipAll comment p (u ++ z) = skipAll false (skipAll comment p u).2 z := by
  fun_induction skipAll comment p u <;>
    grind [skipAll, CutAt.of_cons, CutAt.return_iff, EndsBroken.of_cons, EndsBroken.ne_nil]

/-- A line end after what is skipped is skipped too. -/
theorem skipAll_feed (h : CutAt u ['\n']) (hnil : (skipAll comment p u).1 = []) :
    (skipAll comment p (u ++ ['\n'])).1 = [] := by
  fun_induction skipAll comment p u <;>
    grind [skipAll, CutAt.of_cons, CutAt.return_iff, isBreak]

/-- A gap is the same in both spellings. -/
theorem alike_skipAll (h : Respelled cs ds) (hpq : p.column = q.column) (comment : Bool) :
    SamePlace p q (skipAll comment p cs).1 (skipAll comment q ds).1 (skipAll comment p cs).2
      (skipAll comment q ds).2 := by
  induction h generalizing p q comment with
  | nil => exact ⟨.nil, hpq, .refl p q⟩
  | @char c cs ds lone rest ih =>
      have next (comment : Bool) := (ih (next_column hpq) comment).of_next
      rw [skipAll, skipAll, lone_eq_false fun h => (lone h).1, lone_eq_false fun h => (lone h).2,
        if_neg Bool.false_ne_true, if_neg Bool.false_ne_true]
      split_ifs
      · exact (ih (p := p.newLine) (q := q.newLine) rfl false).of_newLine
      · exact next true
      · exact next false
      · exact next true
      · exact ⟨.char lone rest, hpq, .refl p q⟩
  | @feed cs ds rest ih =>
      exact (ih (p := p.next.newLine) (q := q.newLine) rfl false).of_feed
  | last => exact .of_newLine ⟨.nil, rfl, .refl _ _⟩

end Skipped

section White

variable {p q : Position} {cs ds u z : List Char}

/-- What is white is a part of a gap. -/
theorem skipAll_skipWhite (p : Position) (cs : List Char) :
    skipAll false (skipWhite p cs).2 (skipWhite p cs).1 = skipAll false p cs := by
  fun_induction skipWhite p cs <;> grind [skipAll]

theorem skipWhite_rest (p q : Position) (cs : List Char) :
    (skipWhite p cs).1 = (skipWhite q cs).1 := by
  fun_induction skipWhite p cs generalizing q <;> grind [skipWhite]

theorem suffix_skipWhite (p : Position) (cs : List Char) : (skipWhite p cs).1 <:+ cs := by
  fun_induction skipWhite p cs <;> grind [List.suffix_cons, List.IsSuffix.trans]

theorem skipWhite_append_of_ne_nil (h : CutAt u z) (hne : (skipWhite p u).1 ≠ []) :
    (skipWhite p (u ++ z)).1 = (skipWhite p u).1 ++ z := by
  fun_induction skipWhite p u <;> grind [skipWhite, CutAt.of_cons, CutAt.return_iff]

theorem skipWhite_append_of_nil (h : CutAt u z) (hnil : (skipWhite p u).1 = []) :
    (skipWhite p (u ++ z)).1 = (skipWhite p z).1 := by
  fun_induction skipWhite p u <;>
    grind [skipWhite, CutAt.of_cons, CutAt.return_iff, skipWhite_rest]

theorem respelled_skipWhite (h : Respelled cs ds) :
    Respelled (skipWhite p cs).1 (skipWhite q ds).1 := by
  induction h generalizing p q with
  | nil => exact .nil
  | @char c cs ds lone rest ih =>
      rw [skipWhite, skipWhite, lone_eq_false fun h => (lone h).1,
        lone_eq_false fun h => (lone h).2, if_neg Bool.false_ne_true, if_neg Bool.false_ne_true]
      split_ifs
      · exact ih
      · exact ih
      · exact .char lone rest
  | feed _ ih => exact ih
  | last => exact .nil

end White

section Tabs

variable {keyAllowed comment : Bool} {p : Position} {cs d u u' x z z' : List Char}

theorem isTabFree_of_true (h : isTabFree true comment cs = true) :
    isTabFree keyAllowed comment cs = true := by
  fun_induction isTabFree keyAllowed comment cs <;> grind [isTabFree]

theorem isTabFree_skipWhite (h : isTabFree true false cs = true) :
    isTabFree true false (skipWhite p cs).1 = true := by
  fun_induction skipWhite p cs <;> grind [isTabFree, isBlank]

/-- After a gap that ends with a line a key may start. -/
theorem isTabFree_of_gap (hcut : CutAt d x) (hd : EndsBroken d) (hne : d ≠ [])
    (hgap : (skipAll comment p d).1 = []) (h : isTabFree keyAllowed comment (d ++ x) = true) :
    isTabFree true false x = true := by
  fun_induction skipAll comment p d generalizing keyAllowed <;>
    grind [isTabFree, isBlank, CutAt.of_cons, CutAt.return_iff, EndsBroken.of_cons,
      EndsBroken.ne_nil]

/-- Both spellings are free of tabs, if what comes after them is. -/
theorem isTabFree_respelled (h : Respelled u u') (hu : CutAt u z) (hu' : CutAt u' z')
    (hnil : u = [] → (keyAllowed = true ∧ comment = false) ∨ OnlyFeed z')
    (hz : isTabFree true false z = true → isTabFree true false z' = true)
    (hfree : isTabFree keyAllowed comment (u ++ z) = true) :
    isTabFree keyAllowed comment (u' ++ z') = true := by
  induction h generalizing keyAllowed comment with
  | nil =>
      rcases hnil rfl with ⟨rfl, rfl⟩ | rfl | rfl
      · exact hz hfree
      · rfl
      · rfl
  | @char c cs ds lone rest ih =>
      -- within a line the texts are cut at most where nothing but a line end is left
      have next (keyAllowed comment : Bool) (hb : isBreak c = false)
          (hfree : isTabFree keyAllowed comment (cs ++ z) = true) :
          isTabFree keyAllowed comment (ds ++ z') = true := by
        refine ih hu.of_cons hu'.of_cons (fun hnil => .inr ?_) hfree
        subst hnil
        cases rest
        exact hu'.onlyFeed hb
      rw [List.cons_append, isTabFree, hu'.return_iff, lone_eq_false fun h => (lone h).2,
        if_neg Bool.false_ne_true]
      rw [List.cons_append, isTabFree, hu.return_iff, lone_eq_false fun h => (lone h).1,
        if_neg Bool.false_ne_true] at hfree
      split_ifs at hfree ⊢ with hb
      · exact ih hu.of_cons hu'.of_cons (fun _ => .inl ⟨rfl, rfl⟩) hfree
      · exact next _ _ (Bool.eq_false_iff.2 hb) hfree
      · obtain ⟨hkey, hfree⟩ := Bool.and_eq_true_iff.1 hfree
        exact Bool.and_eq_true_iff.2 ⟨hkey, next _ _ (Bool.eq_false_iff.2 hb) hfree⟩
      · exact next _ _ (Bool.eq_false_iff.2 hb) hfree
      · exact next _ _ (Bool.eq_false_iff.2 hb) hfree
      · rfl
  | @feed cs ds rest ih =>
      exact ih hu.of_cons.of_cons hu'.of_cons (fun _ => .inl ⟨rfl, rfl⟩) hfree
  | last =>
      rw [List.cons_append, isTabFree, hu.return_iff] at hfree
      exact hz hfree

end Tabs

end TestCluster.Yaml
