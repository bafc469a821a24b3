import TestCluster.Proofs.OneLine

/-!
# Line ends — a carriage return before a line feed says nothing

    A text may end its lines with a line feed alone or with a carriage return before it.
    Every word reads the same in both spellings, and ends at the same column, as far on.
-/

namespace TestCluster.Yaml

/-- The first text says the same as the second, which writes no carriage return before a line
    feed and none at its end. -/
inductive Respelled : List Char → List Char → Prop
  | nil : Respelled [] []
  | char {c : Char} {cs ds : List Char}
      (lone : c = '\r' → cs.head? ≠ some '\n' ∧ ds.head? ≠ some '\n')
      (rest : Respelled cs ds) : Respelled (c :: cs) (c :: ds)
  | feed {cs ds : List Char} (rest : Respelled cs ds) :
      Respelled ('\r' :: '\n' :: cs) ('\n' :: ds)
  | last : Respelled ['\r'] ['\n']

namespace Respelled

variable {c : Char} {cs ds : List Char}

/-- A character that ends no line is the same in both texts. -/
theorem of_cons (hc : isBreak c = false) (h : Respelled (c :: cs) ds) :
    ∃ ds', ds = c :: ds' ∧ Respelled cs ds' := by
  cases h with
  | char _ h => exact ⟨_, rfl, h⟩
  | feed => exact absurd hc (by decide)
  | last => exact absurd hc (by decide)

theorem append {left : List Char} (hl : ∀ c ∈ left, isBreak c = false) (h : Respelled cs ds) :
    Respelled (left ++ cs) (left ++ ds) := by
  induction left with
  | nil => exact h
  | cons c left ih =>
      refine .char (fun hr => ?_) (ih fun d hd => hl d (List.mem_cons_of_mem c hd))
      have hc := hl c List.mem_cons_self
      rw [hr] at hc
      exact absurd hc (by decide)

/-- Both texts start with the same line. -/
theorem line (h : Respelled cs ds) : ∃ l x y, cs = l ++ x ∧ ds = l ++ y ∧
    (∀ c ∈ l, isBreak c = false) ∧ atLineEnd x ∧ atLineEnd y ∧ Respelled x y := by
  induction h with
  | nil => exact ⟨[], [], [], rfl, rfl, nofun, rfl, rfl, .nil⟩
  | @char c cs ds lone rest ih =>
      cases hc : isBreak c with
      | true => exact ⟨[], c :: cs, c :: ds, rfl, rfl, nofun, hc, hc, .char lone rest⟩
      | false =>
          obtain ⟨l, x, y, rfl, rfl, hl, hx, hy, h⟩ := ih
          refine ⟨c :: l, x, y, rfl, rfl, fun d hd => ?_, hx, hy, h⟩
          rcases List.mem_cons.1 hd with rfl | hd
          · exact hc
          · exact hl d hd
  | @feed cs ds rest ih => exact ⟨[], _, _, rfl, rfl, nofun, rfl, rfl, .feed rest⟩
  | last => exact ⟨[], _, _, rfl, rfl, nofun, rfl, rfl, .last⟩

theorem startsBlank (h : Respelled cs ds) : startsBlank cs = startsBlank ds := by
  obtain ⟨l, x, y, rfl, rfl, -, hx, hy, -⟩ := h.line
  exact startsBlank_append hx hy

theorem head?_any {f : Char → Bool} (hf : ∀ c, isBreak c = true → f c = false)
    (h : Respelled cs ds) : cs.head?.any f = ds.head?.any f := by
  obtain ⟨l, x, y, rfl, rfl, -, hx, hy, -⟩ := h.line
  exact head?_any_append hf hx hy

theorem isMarker {mark : Char} (hm : isBreak mark = false) (h : Respelled cs ds) :
    isMarker mark cs = isMarker mark ds := by
  obtain ⟨l, x, y, rfl, rfl, -, hx, hy, -⟩ := h.line
  exact isMarker_append hm hx hy

theorem isDocumentMarker (h : Respelled cs ds) :
    isDocumentMarker cs = isDocumentMarker ds := by
  rw [Yaml.isDocumentMarker, Yaml.isDocumentMarker, h.isMarker (by decide),
    h.isMarker (by decide)]

end Respelled

/-- From `p` to `p'` it is as far as from `q` to `q'`: both ways end on a later line, or both
    stay on their line and are as long. -/
def AsFar (p p' q q' : Position) : Prop :=
  (p.line = p'.line ∧ q.line = q'.line ∧ p'.index + q.index = q'.index + p.index) ∨
    (p.line < p'.line ∧ q.line < q'.line)

namespace AsFar

variable {p p' p'' q q' q'' : Position}

theorem refl (p q : Position) : AsFar p p q q := .inl ⟨rfl, rfl, Nat.add_comm ..⟩

theorem trans (h : AsFar p p' q q') (h' : AsFar p' p'' q' q'') : AsFar p p'' q q'' := by
  rw [AsFar] at *
  omega

theorem skip (n : Nat) (p q : Position) : AsFar p (p.skip n) q (q.skip n) :=
  .inl ⟨rfl, rfl, by simp only [Position.skip]; omega⟩

theorem of_next (h : AsFar p.next p' q.next q') : AsFar p p' q q' :=
  (skip 1 p q).trans h

theorem of_newLine (h : AsFar p.newLine p' q.newLine q') : AsFar p p' q q' := by
  simp only [AsFar, Position.newLine] at *
  omega

theorem of_feed (h : AsFar p.next.newLine p' q.newLine q') : AsFar p p' q q' := by
  simp only [AsFar, Position.newLine, Position.next] at *
  omega

end AsFar

/-- Two places after which the texts say the same, as far on in the line and as far from
    where `p` and `q` stand. -/
structure SamePlace (p q : Position) (cs ds : List Char) (p' q' : Position) : Prop where
  rest : Respelled cs ds
  column : p'.column = q'.column
  far : AsFar p p' q q'

namespace SamePlace

variable {p q p' q' : Position} {cs ds : List Char}

theorem of_next (h : SamePlace p.next q.next cs ds p' q') : SamePlace p q cs ds p' q' :=
  ⟨h.rest, h.column, h.far.of_next⟩

theorem of_newLine (h : SamePlace p.newLine q.newLine cs ds p' q') :
    SamePlace p q cs ds p' q' := ⟨h.rest, h.column, h.far.of_newLine⟩

theorem of_feed (h : SamePlace p.next.newLine q.newLine cs ds p' q') :
    SamePlace p q cs ds p' q' := ⟨h.rest, h.column, h.far.of_feed⟩

end SamePlace

/-- A carriage return that stands alone is not skipped. -/
theorem lone_eq_false {c : Char} {o : Option Char} (h : c = '\r' → o ≠ some '\n') :
    (c == '\r' && o == some '\n') = false := by
  rw [Bool.and_eq_false_imp, beq_iff_eq, beq_eq_false_iff_ne]
  exact h

/-- Two pieces that say the same and end at the same place. -/
def Alike {α : Type} (p q : Position) (a b : Piece α) : Prop :=
  a.value = b.value ∧ SamePlace p q a.rest b.rest a.position b.position

namespace Alike

variable {α : Type} {p q : Position} {a b : Piece α}

theorem of_next (h : Alike p.next q.next a b) : Alike p q a b := ⟨h.1, h.2.of_next⟩

theorem of_newLine (h : Alike p.newLine q.newLine a b) : Alike p q a b :=
  ⟨h.1, h.2.of_newLine⟩

theorem of_feed (h : Alike p.next.newLine q.newLine a b) : Alike p q a b := ⟨h.1, h.2.of_feed⟩

end Alike

theorem next_column {p q : Position} (h : p.column = q.column) :
    p.next.column = q.next.column := congrArg (· + 1) h

section Words

variable {p q : Position} {cs ds : List Char}

theorem alike_skipRestOfLine (h : Respelled cs ds) (hpq : p.column = q.column) (comment : Bool) :
    Option.Rel (fun a b => SamePlace p q a.1 b.1 a.2 b.2)
      (skipRestOfLine comment p cs) (skipRestOfLine comment q ds) := by
  induction h generalizing p q comment with
  | nil => exact .some ⟨.nil, hpq, .refl p q⟩
  | @char c cs ds lone rest ih =>
      have next (comment : Bool) := rel_mono (ih (next_column hpq) comment) fun _ _ h => h.of_next
      rw [skipRestOfLine, skipRestOfLine, lone_eq_false fun h => (lone h).1,
        lone_eq_false fun h => (lone h).2]
      refine rel_ite Iff.rfl ?_ (rel_ite Iff.rfl (next _) <| rel_ite Iff.rfl (next _) <|
        rel_ite Iff.rfl (next _) .none)
      exact .some (.of_newLine ⟨rest, rfl, .refl _ _⟩)
  | @feed cs ds rest ih => exact .some (.of_feed ⟨rest, rfl, .refl _ _⟩)
  | last => exact .some (.of_newLine ⟨.nil, rfl, .refl _ _⟩)

/-- A plain scalar ends before the same character in both texts. -/
theorem endsPlain_respelled {flow : Bool} {indent : Nat} {gap : Gap} {c : Char}
    (hpq : p.column = q.column) (h : Respelled (c :: cs) (c :: ds)) (hrest : Respelled cs ds) :
    endsPlain flow indent gap p c cs = endsPlain flow indent gap q c ds := by
  rw [endsPlain, endsPlain, hpq, h.isDocumentMarker, hrest.startsBlank]

theorem alike_plainFrom (h : Respelled cs ds) (hpq : p.column = q.column) (flow : Bool)
    (indent : Nat) (gap : Gap) (reversed : List Char) :
    Option.Rel (Alike p q) (plainFrom flow indent gap reversed p cs)
      (plainFrom flow indent gap reversed q ds) := by
  induction h generalizing p q gap reversed with
  | nil => exact .some ⟨rfl, .nil, hpq, .refl p q⟩
  | @char c cs ds lone rest ih =>
      -- a character is followed by the rest of the line, or by a new line
      have next (gap : Gap) (reversed : List Char) :=
        rel_mono (ih (next_column hpq) gap reversed) fun _ _ h => h.of_next
      have line (gap : Gap) (reversed : List Char) :=
        rel_mono (ih (p := p.newLine) (q := q.newLine) rfl gap reversed)
          fun _ _ h => h.of_newLine
      have whole : Respelled (c :: cs) (c :: ds) := .char lone rest
      rw [plainFrom, plainFrom, lone_eq_false fun h => (lone h).1,
        lone_eq_false fun h => (lone h).2, hpq, endsPlain_respelled hpq whole rest,
        rest.head?_any]
      · refine rel_ite Iff.rfl (rel_ite Iff.rfl .none (next _ _)) <|
          rel_ite Iff.rfl (line _ _) <| rel_ite Iff.rfl ?_ <| rel_ite Iff.rfl .none (next _ _)
        exact .some ⟨rfl, whole, hpq, .refl p q⟩
      · intro d hd
        rcases eq_of_isBreak hd with rfl | rfl | rfl | rfl | rfl <;> decide
  | @feed cs ds rest ih =>
      have line := ih (p := p.next.newLine) (q := q.newLine) rfl (gap.addBreak '\n') reversed
      exact rel_mono line fun _ _ h => h.of_feed
  | last => exact .some ⟨by cases gap <;> rfl, .nil, rfl, .of_newLine (.refl _ _)⟩

theorem alike_quotedFrom (h : Respelled cs ds) (hpq : p.column = q.column) (double : Bool)
    (mode : QuoteMode) (gap : Gap) (reversed : List Char) :
    Option.Rel (Alike p q) (quotedFrom double mode gap reversed p cs)
      (quotedFrom double mode gap reversed q ds) := by
  induction h generalizing p q mode gap reversed with
  | nil => exact rel_ite Iff.rfl (.some ⟨rfl, .nil, hpq, .refl p q⟩) .none
  | @char c cs ds lone rest ih =>
      have next (mode : QuoteMode) (gap : Gap) (reversed : List Char) :=
        rel_mono (ih (next_column hpq) mode gap reversed) fun _ _ h => h.of_next
      have line (mode : QuoteMode) (gap : Gap) (reversed : List Char) :=
        rel_mono (ih (p := p.newLine) (q := q.newLine) rfl mode gap reversed)
          fun _ _ h => h.of_newLine
      have whole : Respelled (c :: cs) (c :: ds) := .char lone rest
      have hcs := lone_eq_false fun h => (lone h).1
      have hds := lone_eq_false fun h => (lone h).2
      cases mode with
      | quote =>
          rw [quotedFrom, quotedFrom]
          exact rel_ite Iff.rfl (next _ _ _) (.some ⟨rfl, whole, hpq, .refl p q⟩)
      | escape =>
          rw [quotedFrom, quotedFrom, hcs, hds]
          refine rel_ite Iff.rfl (line _ _ _) ?_
          cases hexLength? c with
          | some n => exact next _ _ _
          | none =>
              cases escapedChar? c with
              | none => exact .none
              | some d => exact next _ _ _
      | hex left value =>
          rw [quotedFrom, quotedFrom]
          cases Text.hexDigit? c with
          | none => exact .none
          | some d =>
              refine rel_ite Iff.rfl ?_ (next _ _ _)
              cases charOfCode? (value * 16 + d) with
              | none => exact .none
              | some e => exact next _ _ _
      | text =>
          rw [quotedFrom, quotedFrom, hcs, hds, hpq, whole.isDocumentMarker]
          refine rel_ite Iff.rfl (next _ _ _) <| rel_ite Iff.rfl (line _ _ _) <|
            rel_ite Iff.rfl .none <| rel_ite Iff.rfl ?_ ?_
          · refine rel_ite Iff.rfl ?_ <| rel_ite Iff.rfl (next _ _ _) (next _ _ _)
            exact .some ⟨rfl, rest, next_column hpq, .of_next (.refl _ _)⟩
          · exact rel_ite Iff.rfl (next _ _ _) (next _ _ _)
  | @feed cs ds rest ih =>
      have line (mode : QuoteMode) (gap : Gap) (reversed : List Char) :=
        rel_mono (ih (p := p.next.newLine) (q := q.newLine) rfl mode gap reversed)
          fun _ _ h => h.of_feed
      cases mode with
      -- only after the closing quote does a line end not belong to the scalar
      | quote => exact .some ⟨rfl, .feed rest, hpq, .refl p q⟩
      | escape => exact line _ _ _
      | hex left value => exact .none
      | text => exact line _ _ _
  | last =>
      cases mode with
      | quote => exact .some ⟨rfl, .last, hpq, .refl p q⟩
      | escape => exact .none
      | hex left value => exact .none
      | text => exact .none

theorem alike_blockFrom (h : Respelled cs ds) (hpq : p.column = q.column) (folded : Bool)
    (chomping : Chomping) (least : Nat) (inLine : Bool) (s : BlockState) :
    Option.Rel (Alike p q) (blockFrom folded chomping least inLine s p cs)
      (blockFrom folded chomping least inLine s q ds) := by
  induction h generalizing p q inLine s with
  | nil => exact .some ⟨rfl, .nil, hpq, .refl p q⟩
  | @char c cs ds lone rest ih =>
      have next (inLine : Bool) (s : BlockState) :=
        rel_mono (ih (next_column hpq) inLine s) fun _ _ h => h.of_next
      have line (s : BlockState) :=
        rel_mono (ih (p := p.newLine) (q := q.newLine) rfl false s) fun _ _ h => h.of_newLine
      have whole : Respelled (c :: cs) (c :: ds) := .char lone rest
      rw [blockFrom, blockFrom, lone_eq_false fun h => (lone h).1,
        lone_eq_false fun h => (lone h).2, hpq, if_neg Bool.false_ne_true,
        if_neg Bool.false_ne_true]
      refine rel_ite Iff.rfl (rel_ite Iff.rfl (line _) (line _)) <|
        rel_ite Iff.rfl (next _ _) <| rel_ite Iff.rfl (next _ _) <| rel_ite Iff.rfl .none <|
        rel_ite Iff.rfl (next _ _) ?_
      exact .some ⟨rfl, whole, hpq, .refl p q⟩
  | @feed cs ds rest ih =>
      have line (s : BlockState) :=
        rel_mono (ih (p := p.next.newLine) (q := q.newLine) rfl false s) fun _ _ h => h.of_feed
      cases inLine with
      | true => exact line _
      | false => rw [blockFrom, blockFrom, hpq]; exact line _
  | last =>
      cases inLine with
      | true => exact .some ⟨rfl, .nil, rfl, .of_newLine (.refl _ _)⟩
      | false =>
          refine .some ⟨?_, .nil, rfl, .of_newLine (.refl _ _)⟩
          cases chomping <;> rfl

theorem OnLine.alike {α : Type} {l x y : List Char} {a b : Piece α}
    (h : OnLine p q l x y a b) (hpq : p.column = q.column) (hl : ∀ c ∈ l, isBreak c = false)
    (hxy : Respelled x y) : Alike p q a b := by
  obtain ⟨hv, taken, left, rfl, ha, hb, hp, hq⟩ := h
  refine ⟨hv, ?_⟩
  rw [ha, hb, hp, hq]
  have hleft : Respelled (left ++ x) (left ++ y) :=
    hxy.append fun c hc => hl c (List.mem_append_right taken hc)
  exact ⟨hleft, congrArg (· + taken.length) hpq, .skip taken.length p q⟩

theorem alike_directiveAt (h : Respelled cs ds) (hpq : p.column = q.column) :
    Option.Rel (Alike p q) (directiveAt p cs) (directiveAt q ds) := by
  obtain ⟨l, x, y, rfl, rfl, hl, hx, hy, hxy⟩ := h.line
  rw [directiveAt_eq, directiveAt_eq]
  refine rel_bind (onLine_directiveText hx hy) ?_
  intro a b hab
  obtain ⟨hv, hp⟩ := hab.alike hpq hl hxy
  refine rel_map (alike_skipRestOfLine hp.rest hp.column false) ?_
  intro c d hcd
  exact ⟨hv, hcd.rest, hcd.column, hp.far.trans hcd.far⟩

/-- The lines of a block scalar, after its header. -/
def blockLines (folded : Bool) (parent : Option Nat) (header : BlockHeader) (p : Position)
    (cs : List Char) : Option (Piece (List Char)) :=
  let indent := if header.increment = 0 then 0 else parent.getD 0 + header.increment
  blockFrom folded header.chomping (parent.elim 1 (· + 1)) false ⟨indent, 0, none, [], false, []⟩
    p cs

theorem blockScalar_eq (folded : Bool) (parent : Option Nat) (p : Position) (cs : List Char) :
    blockScalar folded parent p cs = (blockHeader cs).bind fun h =>
      (skipRestOfLine false (p.skip h.2) (cs.drop h.2)).bind fun b =>
        blockLines folded parent h.1 b.2 b.1 := by
  refine Option.bind_congr fun h _ => Option.bind_congr fun b _ => ?_
  cases parent with
  | none => simp only [blockLines, Option.getD_none, Nat.zero_add, Option.elim_none]
  | some n => rfl

theorem alike_blockScalar (h : Respelled cs ds) (hpq : p.column = q.column) (folded : Bool)
    (parent : Option Nat) :
    Option.Rel (Alike p q) (blockScalar folded parent p cs) (blockScalar folded parent q ds) := by
  obtain ⟨l, x, y, rfl, rfl, hl, hx, hy, hxy⟩ := h.line
  rw [blockScalar_eq, blockScalar_eq, blockHeader_append hx hy]
  cases hh : blockHeader (l ++ y) with
  | none => exact .none
  | some h =>
      obtain ⟨header, n⟩ := h
      have hn : n ≤ l.length := by
        rw [blockHeader_append hy (y := []) rfl, List.append_nil] at hh
        exact blockHeader_le hh
      have hdrop : Respelled ((l ++ x).drop n) ((l ++ y).drop n) := by
        rw [List.drop_append_of_le_length hn, List.drop_append_of_le_length hn]
        exact hxy.append fun c hc => hl c (List.mem_of_mem_drop hc)
      -- the lines start after the header and what is left of its line
      have hcolumn : (p.skip n).column = (q.skip n).column := congrArg (· + n) hpq
      show Option.Rel _ ((skipRestOfLine false (p.skip n) ((l ++ x).drop n)).bind _)
        ((skipRestOfLine false (q.skip n) ((l ++ y).drop n)).bind _)
      refine rel_bind (alike_skipRestOfLine hdrop hcolumn false) ?_
      intro a b hab
      refine rel_mono (alike_blockFrom hab.rest hab.column ..) ?_
      intro c d hcd
      refine ⟨hcd.1, hcd.2.rest, hcd.2.column, ?_⟩
      exact (AsFar.skip n p q).trans (hab.far.trans hcd.2.far)

theorem eq_of_isMarker {mark : Char} (h : isMarker mark cs = true) :
    ∃ rest, cs = mark :: mark :: mark :: rest := by
  match cs with
  | [] | [_] | [_, _] => cases h
  | a :: b :: c :: rest =>
      simp only [isMarker, Bool.and_eq_true, beq_iff_eq] at h
      obtain ⟨⟨⟨rfl, rfl⟩, rfl⟩, -⟩ := h
      exact ⟨rest, rfl⟩

/-- The word that starts here is the same in both spellings. -/
theorem alike_wordAt (flow : Bool) (columns : List Nat) {c : Char} (hc : isBreak c = false)
    (h : Respelled cs ds) (hpq : p.column = q.column) :
    Option.Rel (Alike p q) (wordAt flow columns p c cs) (wordAt flow columns q c ds) := by
  have whole : Respelled (c :: cs) (c :: ds) := by
    refine .char (fun hr => ?_) h
    rw [hr] at hc
    exact absurd hc (by decide)
  have sign (w : Word) : Option.Rel (Alike p q) (some ⟨w, cs, p.next⟩) (some ⟨w, ds, q.next⟩) :=
    .some ⟨rfl, h, next_column hpq, .of_next (.refl _ _)⟩
  have marker {mark : Char} (hmark : isBreak mark = false) (w : Word)
      (hm : (q.column == 0 && Yaml.isMarker mark (c :: ds)) = true) :
      Option.Rel (Alike p q) (some ⟨w, cs.drop 2, p.skip 3⟩) (some ⟨w, ds.drop 2, q.skip 3⟩) := by
    rw [← whole.isMarker hmark] at hm
    obtain ⟨cs, hrest⟩ := eq_of_isMarker (Bool.and_eq_true_iff.1 hm).2
    obtain ⟨rfl, rfl⟩ := List.cons.inj hrest
    obtain ⟨ds₁, rfl, h₁⟩ := h.of_cons hmark
    obtain ⟨ds₂, rfl, h₂⟩ := h₁.of_cons hmark
    exact .some ⟨rfl, h₂, congrArg (· + 3) hpq, .skip 3 p q⟩
  have node {α : Type} {a b : Option (Piece α)} (f : α → Word)
      (h : Option.Rel (Alike p.next q.next) a b) :
      Option.Rel (Alike p q) (a.map (·.map f)) (b.map (·.map f)) :=
    rel_map h fun a b h => ⟨congrArg f h.1, h.2.of_next⟩
  have hcolumn := next_column hpq
  obtain ⟨l, x, y, hcs, hds, hl, hx, hy, hxy⟩ := h.line
  have anchor : Option.Rel (Alike p.next q.next) (anchorName p.next cs) (anchorName q.next ds) := by
    rw [hcs, hds]
    exact rel_mono (onLine_anchorName hx hy) fun _ _ h => h.alike hcolumn hl hxy
  have block (folded : Bool) : Option.Rel (Alike p q) (blockWord folded columns p cs)
      (blockWord folded columns q ds) := node _ (alike_blockScalar h hcolumn folded _)
  -- the tests see no difference, so both texts have the same kind of word
  rw [wordAt]
  rw [hpq, whole.isMarker (by decide), whole.isMarker (by decide), h.startsBlank]
  refine rel_ite Iff.rfl (node _ (alike_directiveAt h hcolumn)) <|
    rel_ite_of Iff.rfl (marker (by decide) _) <| rel_ite_of Iff.rfl (marker (by decide) _) <|
    rel_ite Iff.rfl (sign _) <| rel_ite Iff.rfl (sign _) <| rel_ite Iff.rfl (sign _) <|
    rel_ite Iff.rfl (sign _) <| rel_ite Iff.rfl (sign _) <| rel_ite Iff.rfl (sign _) <|
    rel_ite Iff.rfl (sign _) <| rel_ite Iff.rfl (sign _) <|
    rel_ite Iff.rfl (node _ anchor) <| rel_ite Iff.rfl (node _ anchor) <|
    rel_ite Iff.rfl ?tag <| rel_ite Iff.rfl (block false) <| rel_ite Iff.rfl (block true) <|
    rel_ite Iff.rfl (node _ (alike_quotedFrom h hcolumn ..)) <|
    rel_ite Iff.rfl (node _ (alike_quotedFrom h hcolumn ..)) <| rel_ite ?starts ?plain .none
  case tag =>
    have hline : ∀ d ∈ c :: l, isBreak d = false := by
      rintro d (_ | ⟨_, hd⟩)
      · exact hc
      · exact hl d hd
    rw [hcs, hds]
    exact rel_map (onLine_tagAt (l := c :: l) hx hy) fun a b h => (h.map _).alike hpq hline hxy
  case starts =>
    rw [TokenReader.startsPlain, TokenReader.startsPlain, h.startsBlank,
      h.head?_any fun _ => isBlank_of_isBreak]
  case plain =>
    refine rel_map (alike_plainFrom whole hpq ..) ?_
    intro a b h
    refine ⟨?_, h.2⟩
    rw [Piece.map_value, h.1]
    rfl

end Words

end TestCluster.Yaml
