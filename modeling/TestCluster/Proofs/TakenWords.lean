import TestCluster.Proofs.CutText

/-!
# Taken words — how far a word goes

    Every word takes a character at least, and counts what it takes. A word that takes a text
    to its last line end is one after which a line starts: a directive, a plain scalar or a
    block scalar.
-/

namespace TestCluster.Yaml

/-- Whether the text ends with a line end, if it is not empty. -/
def EndsBroken (u : List Char) : Prop := ∀ c, u.getLast? = some c → isBreak c = true

namespace EndsBroken

variable {c : Char} {u : List Char}

theorem of_cons (h : EndsBroken (c :: u)) : EndsBroken u := by
  cases u with
  | nil => exact nofun
  | cons d u => exact h

theorem of_suffix {v : List Char} (h : EndsBroken u) (hv : v <:+ u) : EndsBroken v := by
  obtain ⟨w, rfl⟩ := hv
  induction w with
  | nil => exact h
  | cons d w ih => exact ih h.of_cons

theorem ne_nil (h : EndsBroken (c :: u)) (hc : isBreak c = false) : u ≠ [] := by
  rintro rfl
  rw [h c rfl] at hc
  cases hc

/-- A text that ends with a line end does not end with its first line. -/
theorem tail_ne_nil {l x : List Char} (h : EndsBroken (c :: (l ++ x))) (hc : isBreak c = false)
    (hl : ∀ d ∈ l, isBreak d = false) : x ≠ [] := by
  rintro rfl
  rw [List.append_nil] at h
  induction l generalizing c with
  | nil => exact h.ne_nil hc rfl
  | cons d l ih =>
      exact ih (hl d List.mem_cons_self) (fun e he => hl e (List.mem_cons_of_mem d he)) h.of_cons

end EndsBroken

section Scalars

variable {flow double folded inLine comment : Bool} {indent least : Nat} {gap : Gap}
  {mode : QuoteMode} {chomping : Chomping} {s : BlockState} {reversed cs : List Char}
  {p : Position}

theorem Position.skip_succ (n : Nat) (p : Position) : p.skip (n + 1) = p.next.skip n := by
  have add (m : Nat) : m + (n + 1) = m + 1 + n := by omega
  rw [Position.skip, Position.skip, add, add]
  rfl

/-- The place `q` where `rest` stands may be reached from `p`, where `cs` stands: every
    character is counted, and on a line the columns go up. -/
structure Counts (p : Position) (cs : List Char) (q : Position) (rest : List Char) : Prop where
  suffix : rest <:+ cs
  index : p.index ≤ q.index
  length : q.index + rest.length = p.index + cs.length
  line : p.line ≤ q.line
  column : p.line = q.line → p.column ≤ q.column

namespace Counts

variable {c : Char} {q r : Position} {rest ds es : List Char}

theorem refl (p : Position) (cs : List Char) : Counts p cs p cs :=
  ⟨List.suffix_refl cs, Nat.le_refl _, rfl, Nat.le_refl _, fun _ => Nat.le_refl _⟩

theorem trans (h : Counts p cs q ds) (h' : Counts q ds r es) : Counts p cs r es where
  suffix := h'.suffix.trans h.suffix
  index := Nat.le_trans h.index h'.index
  length := h'.length.trans h.length
  line := Nat.le_trans h.line h'.line
  column hline := by
    have hpq : p.line = q.line := Nat.le_antisymm h.line (hline ▸ h'.line)
    exact Nat.le_trans (h.column hpq) (h'.column (hpq ▸ hline))

theorem next (p : Position) (c : Char) (cs : List Char) : Counts p (c :: cs) p.next cs :=
  ⟨List.suffix_cons c cs, Nat.le_succ _, by simp only [Position.next, List.length_cons]; omega,
    Nat.le_refl _, fun _ => Nat.le_succ _⟩

theorem newLine (p : Position) (c : Char) (cs : List Char) :
    Counts p (c :: cs) p.newLine cs :=
  ⟨List.suffix_cons c cs, Nat.le_succ _, by simp only [Position.newLine, List.length_cons]; omega,
    Nat.le_succ _, fun h => absurd h (by simp [Position.newLine])⟩

theorem of_next (h : Counts p.next cs q rest) : Counts p (c :: cs) q rest :=
  (next p c cs).trans h

/-- A carriage return that is read with the line feed after it. -/
theorem of_feed (h : Counts { p with index := p.index + 1 } cs q rest) :
    Counts p (c :: cs) q rest :=
  ⟨h.suffix.trans (List.suffix_cons c cs), Nat.le_of_succ_le h.index,
    by have := h.length; simp only [List.length_cons] at *; omega, h.line, h.column⟩

theorem of_newLine (h : Counts p.newLine cs q rest) : Counts p (c :: cs) q rest :=
  (newLine p c cs).trans h

theorem skip (n : Nat) (p : Position) (hn : n ≤ cs.length) :
    Counts p cs (p.skip n) (cs.drop n) :=
  ⟨List.drop_suffix n cs, Nat.le_add_right .., by
    simp only [Position.skip, List.length_drop]; omega,
    Nat.le_refl _, fun _ => Nat.le_add_right ..⟩

/-- A part of the line is taken. -/
theorem taken (l : List Char) (p : Position) : Counts p (l ++ rest) (p.skip l.length) rest := by
  have hl : l.length ≤ (l ++ rest).length := by rw [List.length_append]; omega
  have h := skip l.length p hl
  rwa [List.drop_left] at h

end Counts

theorem counts_plainFrom {a : Piece PlainText}
    (h : plainFrom flow indent gap reversed p cs = some a) :
    Counts p cs a.position a.rest := by
  fun_induction plainFrom flow indent gap reversed p cs <;>
    grind [Counts.refl, Counts.of_next, Counts.of_newLine]

theorem counts_quotedFrom {a : Piece (List Char)}
    (h : quotedFrom double mode gap reversed p cs = some a) :
    Counts p cs a.position a.rest := by
  fun_induction quotedFrom double mode gap reversed p cs <;>
    grind [Counts.refl, Counts.next, Counts.of_next, Counts.of_newLine]

theorem counts_blockFrom {a : Piece (List Char)}
    (h : blockFrom folded chomping least inLine s p cs = some a) :
    Counts p cs a.position a.rest := by
  fun_induction blockFrom folded chomping least inLine s p cs <;>
    grind [Counts.refl, Counts.of_next, Counts.of_newLine, Counts.of_feed]

theorem counts_skipRestOfLine {a : List Char × Position}
    (h : skipRestOfLine comment p cs = some a) : Counts p cs a.2 a.1 := by
  fun_induction skipRestOfLine comment p cs <;>
    grind [Counts.refl, Counts.newLine, Counts.of_next, Counts.of_newLine]

/-- A plain scalar that takes the last line end is followed by a new line. -/
theorem broken_of_plainFrom {a : Piece PlainText}
    (h : plainFrom flow indent gap reversed p cs = some a) (hcs : EndsBroken cs)
    (ha : a.rest = []) (hnil : cs = [] → gap.hasBreak = true ∧ p.column = 0) :
    a.value.broken = true ∧ a.position.column = 0 := by
  fun_induction plainFrom flow indent gap reversed p cs <;>
    grind [EndsBroken.of_cons, EndsBroken.ne_nil, Gap.hasBreak_addBreak, isBlank_of_isBreak,
      Position.newLine]

theorem isBreak_quotes : isBreak '\'' = false ∧ isBreak '"' = false := by decide

/-- A quoted scalar ends with its quote. -/
theorem rest_ne_nil_of_quotedFrom {a : Piece (List Char)}
    (h : quotedFrom double mode gap reversed p cs = some a) (hcs : EndsBroken cs)
    (hnil : cs = [] → mode ≠ .quote) : a.rest ≠ [] := by
  fun_induction quotedFrom double mode gap reversed p cs <;>
    grind [EndsBroken.of_cons, EndsBroken.ne_nil, isBreak_quotes]

theorem column_of_blockFrom {a : Piece (List Char)}
    (h : blockFrom folded chomping least inLine s p cs = some a) (hcs : EndsBroken cs)
    (ha : a.rest = []) (hnil : cs = [] → p.column = 0) : a.position.column = 0 := by
  fun_induction blockFrom folded chomping least inLine s p cs <;>
    grind [EndsBroken.of_cons, EndsBroken.ne_nil, Position.newLine]

theorem column_of_skipRestOfLine {a : List Char × Position}
    (h : skipRestOfLine comment p cs = some a) (hcs : EndsBroken cs) (hne : cs ≠ [])
    (ha : a.1 = []) : a.2.column = 0 := by
  revert ha
  fun_induction skipRestOfLine comment p cs <;>
    grind [EndsBroken.of_cons, EndsBroken.ne_nil, Position.newLine]

end Scalars

/-- Whether the word may go up to the end of a line, so that a line starts after it. -/
def Word.endsLine : Word → Bool
  | .level (.versionDirective ..) => true
  | .level (.tagDirective ..) => true
  | .node _ keyAllowed => keyAllowed
  | .block _ => true
  | _ => false

/-- How far a word goes that is read where `c` and then `cs` stand. -/
structure Word.Takes (p : Position) (c : Char) (cs : List Char) (a : Piece Word) : Prop where
  /-- It takes the first character at least. -/
  counts : Counts p.next cs a.position a.rest
  line : EndsBroken (c :: cs) → a.rest = [] → a.position.column = 0 ∧ a.value.endsLine = true

/-- What holds of a result, if there is one. -/
def OnEach {α : Type} (P : α → Prop) (x : Option α) : Prop := ∀ a ∈ x, P a

theorem onEach_none {α : Type} {P : α → Prop} : OnEach P none := nofun

theorem onEach_some {α : Type} {P : α → Prop} {a : α} (h : P a) : OnEach P (some a) := by
  rintro _ ⟨⟩
  exact h

theorem onEach_ite {α : Type} {P : α → Prop} {b : Prop} [Decidable b] {x y : Option α}
    (hx : b → OnEach P x) (hy : ¬b → OnEach P y) : OnEach P (if b then x else y) := by
  by_cases h : b
  · rw [if_pos h]
    exact hx h
  · rw [if_neg h]
    exact hy h

/-- A text is its first line and what comes after it. -/
theorem exists_line (cs : List Char) :
    ∃ l x, cs = l ++ x ∧ (∀ c ∈ l, isBreak c = false) ∧ atLineEnd x := by
  induction cs with
  | nil => exact ⟨[], [], rfl, nofun, rfl⟩
  | cons c cs ih =>
      cases hc : isBreak c with
      | true => exact ⟨[], c :: cs, rfl, nofun, hc⟩
      | false =>
          obtain ⟨l, x, rfl, hl, hx⟩ := ih
          refine ⟨c :: l, x, rfl, ?_, hx⟩
          rintro d (_ | ⟨_, hd⟩)
          · exact hc
          · exact hl d hd

/-- What holds of a result beside itself. -/
theorem onEach_of_rel {α : Type} {R : α → α → Prop} {x : Option α} (h : Option.Rel R x x) :
    OnEach (fun a => R a a) x := by
  cases h with
  | none => exact onEach_none
  | some h => exact onEach_some h

section Words

variable {p q : Position} {c : Char} {cs l x y : List Char}

theorem OnLine.counts {α : Type} {a b : Piece α} (h : OnLine p q l x y a b) :
    Counts p (l ++ x) a.position a.rest := by
  obtain ⟨-, taken, left, rfl, ha, -, hp, -⟩ := h
  rw [ha, hp, List.append_assoc]
  exact .taken taken p

theorem counts_directiveAt {a : Piece Token} (h : directiveAt p cs = some a) :
    Counts p cs a.position a.rest := by
  obtain ⟨l, x, rfl, -, hx⟩ := exists_line cs
  rw [directiveAt_eq] at h
  obtain ⟨text, ht, h⟩ := Option.bind_eq_some_iff.1 h
  obtain ⟨rest, hr, rfl⟩ := Option.map_eq_some_iff.1 h
  have hline : OnLine p p l x x text text := onEach_of_rel (onLine_directiveText hx hx) text ht
  exact hline.counts.trans (counts_skipRestOfLine hr)

/-- A directive is one. -/
theorem endsLine_of_directiveAt {a : Piece Token} (h : directiveAt p cs = some a) :
    (Word.level a.value).endsLine = true := by
  -- what a directive says is put together by one of two readers
  have version {q : Position} {ds : List Char} {b : Piece Token} (h : versionAt q ds = some b) :
      (Word.level b.value).endsLine = true := by
    rw [versionAt_eq] at h
    obtain ⟨major, -, h⟩ := Option.bind_eq_some_iff.1 h
    rw [versionTail] at h
    split at h
    · obtain ⟨minor, -, rfl⟩ := Option.map_eq_some_iff.1 h
      rfl
    · cases h
  have shorthand {q : Position} {ds : List Char} {b : Piece Token}
      (h : tagShorthandAt q ds = some b) : (Word.level b.value).endsLine = true := by
    obtain ⟨handle, -, h⟩ := Option.bind_eq_some_iff.1 h
    dsimp only at h
    split at h
    · obtain ⟨start, -, h⟩ := Option.bind_eq_some_iff.1 h
      split at h
      · cases h
      · rw [← Option.some.inj h]
        rfl
    · cases h
  rw [directiveAt_eq] at h
  obtain ⟨text, ht, h⟩ := Option.bind_eq_some_iff.1 h
  obtain ⟨rest, -, rfl⟩ := Option.map_eq_some_iff.1 h
  show (Word.level text.value).endsLine = true
  unfold directiveText at ht
  dsimp only at ht
  split at ht
  · cases ht
  · split at ht
    · exact version ht
    · split at ht
      · exact shorthand ht
      · cases ht

theorem counts_tagFrom {wide : Bool} {mode : TagMode} {reversed : List Char}
    {a : Piece (List Char)} (h : tagFrom wide mode reversed p cs = some a) :
    Counts p cs a.position a.rest := by
  obtain ⟨l, x, rfl, -, hx⟩ := exists_line cs
  have hline : OnLine p p l x x a a := onEach_of_rel (onLine_tagFrom hx hx mode reversed) a h
  exact hline.counts

/-- A tag takes its mark. -/
theorem index_lt_of_tagAt {flow : Bool} {a : Piece (List Char × List Char)}
    (h : tagAt flow p cs = some a) : p.index < a.position.index := by
  have hname := (Option.filter_eq_some_iff.1 h).1
  rw [tagName_eq] at hname
  split at hname
  · obtain ⟨suffix, hs, hname⟩ := Option.bind_eq_some_iff.1 hname
    have hindex := (counts_tagFrom hs).index
    split at hname
    · rw [← Option.some.inj hname]
      simp only [Position.skip, Position.next] at hindex ⊢
      omega
    · cases hname
  · obtain ⟨handle, hh, hname⟩ := Option.bind_eq_some_iff.1 hname
    -- without angle brackets the mark is the first character of the handle
    have hhandle : p.index < handle.position.index := by
      by_cases hmark : cs.head? = some '!'
      · obtain ⟨cs, rfl⟩ := List.head?_eq_some_iff.1 hmark
        rw [tagHandle_cons] at hh
        split at hh <;>
          · rw [← Option.some.inj hh]
            simp only [nameAt, Position.skip, Position.next]
            omega
      · rw [tagHandle_of_head? hmark] at hh
        cases hh
    rw [tagSuffix] at hname
    split at hname
    · obtain ⟨suffix, hs, hname⟩ := Option.bind_eq_some_iff.1 hname
      have hindex := (counts_tagFrom hs).index
      split at hname
      · cases hname
      · rw [← Option.some.inj hname]
        exact Nat.lt_of_lt_of_le hhandle hindex
    · obtain ⟨suffix, hs, hname⟩ := Option.bind_eq_some_iff.1 hname
      have hindex := (counts_tagFrom hs).index
      rw [← Option.some.inj hname]
      exact Nat.lt_of_lt_of_le hhandle hindex

theorem column_of_directiveAt {a : Piece Token} (h : directiveAt p cs = some a)
    (hc : isBreak c = false) (hcs : EndsBroken (c :: cs)) (ha : a.rest = []) :
    a.position.column = 0 := by
  obtain ⟨l, x, rfl, hl, hx⟩ := exists_line cs
  rw [directiveAt_eq] at h
  obtain ⟨text, ht, h⟩ := Option.bind_eq_some_iff.1 h
  obtain ⟨rest, hr, rfl⟩ := Option.map_eq_some_iff.1 h
  -- what it says ends on its line, so the rest of the line has the line end
  have hline : OnLine p p l x x text text := onEach_of_rel (onLine_directiveText hx hx) text ht
  obtain ⟨-, taken, left, rfl, htext, -⟩ := hline
  rw [htext] at hr
  refine column_of_skipRestOfLine hr (hcs.of_cons.of_suffix ⟨taken, ?_⟩) (fun hnil => ?_) ha
  · rw [List.append_assoc]
  · exact hcs.tail_ne_nil hc hl (List.append_eq_nil_iff.1 hnil).2

theorem counts_blockScalar {folded : Bool} {parent : Option Nat} {a : Piece (List Char)}
    (h : blockScalar folded parent p cs = some a) : Counts p cs a.position a.rest := by
  obtain ⟨l, x, rfl, -, hx⟩ := exists_line cs
  rw [blockScalar_eq] at h
  obtain ⟨⟨header, n⟩, hh, h⟩ := Option.bind_eq_some_iff.1 h
  obtain ⟨rest, hr, h⟩ := Option.bind_eq_some_iff.1 h
  rw [blockHeader_append hx (y := []) rfl, List.append_nil] at hh
  have hn : n ≤ (l ++ x).length := by
    have hl := blockHeader_le hh
    rw [List.length_append]
    omega
  exact (Counts.skip n p hn).trans ((counts_skipRestOfLine hr).trans (counts_blockFrom h))

theorem column_of_blockScalar {folded : Bool} {parent : Option Nat} {a : Piece (List Char)}
    (h : blockScalar folded parent p cs = some a) (hc : isBreak c = false)
    (hcs : EndsBroken (c :: cs)) (ha : a.rest = []) : a.position.column = 0 := by
  obtain ⟨l, x, rfl, hl, hx⟩ := exists_line cs
  rw [blockScalar_eq] at h
  obtain ⟨⟨header, n⟩, hh, h⟩ := Option.bind_eq_some_iff.1 h
  obtain ⟨rest, hr, h⟩ := Option.bind_eq_some_iff.1 h
  rw [blockHeader_append hx (y := []) rfl, List.append_nil] at hh
  have hbroken := hcs.of_cons.of_suffix (List.drop_suffix n _)
  refine column_of_blockFrom h (hbroken.of_suffix (counts_skipRestOfLine hr).suffix) ha fun hnil =>
    column_of_skipRestOfLine hr hbroken (fun hnil => ?_) hnil
  rw [List.drop_append_of_le_length (blockHeader_le hh)] at hnil
  exact hcs.tail_ne_nil hc hl (List.append_eq_nil_iff.1 hnil).2

theorem OnLine.rest_ne_nil {α : Type} {a b : Piece α} (h : OnLine p q l x y a b)
    (hx : x ≠ []) : a.rest ≠ [] := by
  obtain ⟨-, taken, left, -, ha, -⟩ := h
  rw [ha]
  exact List.append_ne_nil_of_right_ne_nil left hx

/-- The first character of a plain scalar belongs to it. -/
theorem counts_of_startsPlain {flow : Bool} {indent : Nat} {a : Piece PlainText}
    (hc : isBreak c = false) (hstarts : TokenReader.startsPlain flow c cs = true)
    (hmarker : (p.column == 0 && isDocumentMarker (c :: cs)) = false)
    (h : plainFrom flow indent .none [] p (c :: cs) = some a) :
    Counts p.next cs a.position a.rest := by
  have hblank : isBlank c = false := by
    rw [Bool.eq_false_iff, isBlank, Ne, Bool.or_eq_true, beq_iff_eq, beq_iff_eq]
    rintro (rfl | rfl) <;> simp [TokenReader.startsPlain] at hstarts
  -- no character that starts a plain scalar ends one
  have hends : endsPlain flow indent .none p c cs = false := by
    simp [TokenReader.startsPlain] at hstarts
    simp [endsPlain, hmarker, Gap.hasBreak, isFlowPunctuation]
    grind
  rw [plainFrom, hblank, hc, hends] at h
  simp only [Bool.false_eq_true, if_false] at h
  split at h
  · cases h
  · exact counts_plainFrom h

/-- Every word takes a character, and is followed by a line if it takes a line end. -/
theorem takes_wordAt {flow : Bool} {columns : List Nat} (hc : isBreak c = false) :
    OnEach (Word.Takes p c cs) (wordAt flow columns p c cs) := by
  have sign (w : Word) : OnEach (Word.Takes p c cs) (some ⟨w, cs, p.next⟩) := by
    exact onEach_some ⟨.refl _ cs, fun hcs hnil => absurd hnil (hcs.ne_nil hc)⟩
  have marker {mark : Char} (w : Word) (hmark : isBreak mark = false)
      (hm : (p.column == 0 && isMarker mark (c :: cs)) = true) :
      OnEach (Word.Takes p c cs) (some ⟨w, cs.drop 2, p.skip 3⟩) := by
    obtain ⟨rest, hrest⟩ := eq_of_isMarker (Bool.and_eq_true_iff.1 hm).2
    obtain ⟨rfl, rfl⟩ := List.cons.inj hrest
    refine onEach_some ⟨.skip 2 p.next ?_, fun hcs hnil => ?_⟩
    · simp only [List.length_cons]
      omega
    · exact absurd hnil (hcs.of_cons.of_cons.ne_nil hmark)
  have counted {α : Type} {x : Option (Piece α)} (f : α → Word)
      (hx : ∀ a ∈ x, Counts p.next cs a.position a.rest)
      (hline : ∀ a ∈ x, EndsBroken (c :: cs) → a.rest = [] →
        a.position.column = 0 ∧ (f a.value).endsLine = true) :
      OnEach (Word.Takes p c cs) (x.map (·.map f)) := by
    intro b hb
    obtain ⟨a, ha, rfl⟩ := Option.map_eq_some_iff.1 hb
    exact ⟨hx a ha, hline a ha⟩
  have anchor (f : List Char → Word) :
      OnEach (Word.Takes p c cs) ((anchorName p.next cs).map (·.map f)) := by
    obtain ⟨l, x, rfl, hl, hx⟩ := exists_line cs
    have hline : OnEach (fun a => OnLine p.next p.next l x x a a) (anchorName p.next (l ++ x)) :=
      onEach_of_rel (onLine_anchorName hx hx)
    exact counted f (fun a ha => (hline a ha).counts) fun a ha hcs hnil =>
      absurd hnil ((hline a ha).rest_ne_nil (hcs.tail_ne_nil hc hl))
  have block (folded : Bool) : OnEach (Word.Takes p c cs) (blockWord folded columns p cs) :=
    counted _ (fun _ => counts_blockScalar) fun a ha hcs hnil =>
      ⟨column_of_blockScalar ha hc hcs hnil, rfl⟩
  have quoted (double : Bool) (f : List Char → Word) : OnEach (Word.Takes p c cs)
      ((quotedFrom double .text .none [] p.next cs).map (·.map f)) := by
    refine counted f (fun _ => counts_quotedFrom) fun a ha hcs hnil => absurd hnil ?_
    exact rest_ne_nil_of_quotedFrom ha hcs.of_cons fun _ => QuoteMode.noConfusion
  rw [wordAt]
  refine onEach_ite (fun _ => ?directive) fun _ =>
    onEach_ite (marker _ (by decide)) fun hdash =>
    onEach_ite (marker _ (by decide)) fun hdot =>
    onEach_ite (fun _ => sign _) fun _ => onEach_ite (fun _ => sign _) fun _ =>
    onEach_ite (fun _ => sign _) fun _ => onEach_ite (fun _ => sign _) fun _ =>
    onEach_ite (fun _ => sign _) fun _ => onEach_ite (fun _ => sign _) fun _ =>
    onEach_ite (fun _ => sign _) fun _ => onEach_ite (fun _ => sign _) fun _ =>
    onEach_ite (fun _ => anchor _) fun _ => onEach_ite (fun _ => anchor _) fun _ =>
    onEach_ite (fun hmark => ?tag) fun _ => onEach_ite (fun _ => block false) fun _ =>
    onEach_ite (fun _ => block true) fun _ => onEach_ite (fun _ => quoted false _) fun _ =>
    onEach_ite (fun _ => quoted true _) fun _ => onEach_ite (fun hstarts => ?plain) fun _ =>
    onEach_none
  case directive =>
    exact counted _ (fun _ => counts_directiveAt) fun a ha hcs hnil =>
      ⟨column_of_directiveAt ha hc hcs hnil, endsLine_of_directiveAt ha⟩
  case tag =>
    intro b hb
    obtain ⟨a, ha, rfl⟩ := Option.map_eq_some_iff.1 hb
    obtain ⟨l, x, rfl, hl, hx⟩ := exists_line cs
    have hline : OnLine p p (c :: l) x x a a := onEach_of_rel (onLine_tagAt hx hx) a ha
    refine ⟨?_, fun hcs hnil => absurd hnil (hline.rest_ne_nil (hcs.tail_ne_nil hc hl))⟩
    obtain ⟨-, taken, left, htaken, hrest, -, hposition, -⟩ := hline
    -- the tag counts on, so the part of the line it takes has its first character
    cases taken with
    | nil =>
        have hindex := index_lt_of_tagAt ha
        rw [hposition] at hindex
        exact absurd hindex (Nat.lt_irrefl _)
    | cons d taken =>
        rw [List.cons_append, List.cons.injEq] at htaken
        obtain ⟨rfl, rfl⟩ := htaken
        rw [Piece.map_rest, Piece.map_position, hrest, hposition, List.length_cons,
          Position.skip_succ, List.append_assoc]
        exact .taken taken p.next
  case plain =>
    intro b hb
    obtain ⟨a, ha, rfl⟩ := Option.map_eq_some_iff.1 hb
    refine ⟨counts_of_startsPlain hc hstarts ?_ ha, fun hcs hnil => ?_⟩
    · rw [isDocumentMarker, Bool.and_or_distrib_left, Bool.eq_false_iff.2 hdash,
        Bool.eq_false_iff.2 hdot, Bool.or_false]
    · obtain ⟨hbroken, hcolumn⟩ := broken_of_plainFrom ha hcs hnil
        fun h => absurd h (List.cons_ne_nil c cs)
      exact ⟨hcolumn, hbroken⟩

end Words

end TestCluster.Yaml
