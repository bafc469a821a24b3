import TestCluster.Proofs.LineEnds

/-!
# Cut texts — a word read of the first part of a text

    A text is cut at a line end. If a word of the first part says the same in the whole
    text, then it takes nothing of what comes after the cut but blanks and line ends.
-/

namespace TestCluster.Yaml

/-- Skips blanks and line ends. -/
def skipWhite (p : Position) : List Char → List Char × Position
  | [] => ([], p)
  | c :: cs =>
    if isBreak c then
      if c == '\r' && cs.head? == some '\n' then skipWhite p.next cs else skipWhite p.newLine cs
    else if isBlank c then skipWhite p.next cs
    else (c :: cs, p)

/-- Whether the text is no more than a line end. -/
def OnlyFeed (z : List Char) : Prop := z = [] ∨ z = ['\n']

/-- Whether a text may be cut before `z`: after a line end, of which nothing is left, or where
    no more than a line end is left. -/
def CutAt (u z : List Char) : Prop :=
  ∀ c, u.getLast? = some c → (isBreak c = true ∨ OnlyFeed z) ∧ (c = '\r' → z.head? ≠ some '\n')

namespace CutAt

variable {c : Char} {u z : List Char}

theorem of_cons (h : CutAt (c :: u) z) : CutAt u z := by
  cases u with
  | nil => exact nofun
  | cons d u => exact h

theorem of_suffix {v : List Char} (h : CutAt u z) (hv : v <:+ u) : CutAt v z := by
  obtain ⟨w, rfl⟩ := hv
  induction w with
  | nil => exact h
  | cons d w ih => exact ih h.of_cons

theorem onlyFeed (h : CutAt [c] z) (hc : isBreak c = false) : OnlyFeed z := by
  rcases (h c rfl).1 with hb | hz
  · rw [hc] at hb
    cases hb
  · exact hz

/-- A carriage return and the line feed after it are not cut apart. -/
theorem return_iff (h : CutAt (c :: u) z) :
    (c == '\r' && (u ++ z).head? == some '\n') = (c == '\r' && u.head? == some '\n') := by
  cases u with
  | cons d u => rfl
  | nil =>
      rw [List.nil_append, lone_eq_false (h c rfl).2]
      exact (Bool.and_false _).symm

/-- The line that is read is cut before its end at no place but the last. -/
theorem line (h : CutAt (c :: u) z) (hc : isBreak c = false) : ∃ l x, u = l ++ x ∧
    (∀ d ∈ l, isBreak d = false) ∧ atLineEnd x ∧ (x = [] → OnlyFeed z) := by
  induction u generalizing c with
  | nil => exact ⟨[], [], rfl, nofun, rfl, fun _ => h.onlyFeed hc⟩
  | cons d u ih =>
      cases hd : isBreak d with
      | true => exact ⟨[], d :: u, rfl, nofun, hd, nofun⟩
      | false =>
          obtain ⟨l, x, rfl, hl, hx, hxz⟩ := ih h.of_cons hd
          refine ⟨d :: l, x, rfl, ?_, hx, hxz⟩
          rintro e (_ | ⟨_, he⟩)
          · exact hd
          · exact hl e he

theorem atLineEnd_append {x : List Char} (hx : atLineEnd x) (hz : x = [] → OnlyFeed z) :
    atLineEnd (x ++ z) := by
  cases x with
  | nil => rcases hz rfl with rfl | rfl <;> rfl
  | cons d x => exact hx

theorem startsBlank (h : CutAt (c :: u) z) (hc : isBreak c = false) :
    startsBlank (u ++ z) = startsBlank u := by
  obtain ⟨l, x, rfl, -, hx, hz⟩ := h.line hc
  rw [List.append_assoc]
  exact startsBlank_append (atLineEnd_append hx hz) hx

theorem head?_any {f : Char → Bool} (hf : ∀ c, isBreak c = true → f c = false)
    (h : CutAt (c :: u) z) (hc : isBreak c = false) : (u ++ z).head?.any f = u.head?.any f := by
  obtain ⟨l, x, rfl, -, hx, hz⟩ := h.line hc
  rw [List.append_assoc]
  exact head?_any_append hf (atLineEnd_append hx hz) hx

theorem isMarker {mark : Char} (hm : isBreak mark = false) (h : CutAt (c :: u) z)
    (hc : isBreak c = false) : isMarker mark (c :: (u ++ z)) = isMarker mark (c :: u) := by
  obtain ⟨l, x, rfl, -, hx, hz⟩ := h.line hc
  rw [List.append_assoc]
  exact isMarker_append (l := c :: l) hm (atLineEnd_append hx hz) hx

theorem isDocumentMarker (h : CutAt (c :: u) z) (hc : isBreak c = false) :
    isDocumentMarker (c :: (u ++ z)) = isDocumentMarker (c :: u) := by
  rw [Yaml.isDocumentMarker, Yaml.isDocumentMarker, h.isMarker (by decide) hc,
    h.isMarker (by decide) hc]

end CutAt

/-- The second piece, read of the text that goes on with `z`, ends where the first one does. If
    that is where the text is cut, it takes the blanks and line ends after it, provided it is
    one that does so. -/
def Extends {α : Type} (white : Bool) (z : List Char) (a b : Piece α) : Prop :=
  (b.rest = a.rest ++ z ∧ b.position = a.position ∧ (a.rest = [] → white = false)) ∨
    (a.rest = [] ∧ (white = true ∨ OnlyFeed z) ∧
      (b.rest, b.position) = skipWhite a.position z)

/-- What holds of the two results, if there are two. -/
def OnBoth {α β : Type} (R : α → β → Prop) (x : Option α) (y : Option β) : Prop :=
  ∀ a ∈ x, ∀ b ∈ y, R a b

section OnBoth

variable {α β γ δ : Type} {R : α → β → Prop} {S : γ → δ → Prop}

theorem onBoth_none_left {y : Option β} : OnBoth R none y := nofun

theorem onBoth_some {a : α} {b : β} (h : R a b) : OnBoth R (some a) (some b) := by
  rintro _ ⟨⟩ _ ⟨⟩
  exact h

theorem onBoth_of_rel {x : Option α} {y : Option β} (h : Option.Rel R x y) : OnBoth R x y := by
  cases h with
  | none => exact nofun
  | some h => exact onBoth_some h

theorem onBoth_ite {b b' : Prop} [Decidable b] [Decidable b'] {x x' : Option α}
    {y y' : Option β} (hb : b ↔ b') (hx : b → OnBoth R x y) (hx' : OnBoth R x' y') :
    OnBoth R (if b then x else x') (if b' then y else y') := by
  by_cases h : b
  · rw [if_pos h, if_pos (hb.1 h)]
    exact hx h
  · rw [if_neg h, if_neg (mt hb.2 h)]
    exact hx'

theorem onBoth_map {x : Option α} {y : Option β} {f : α → γ} {g : β → δ} (h : OnBoth R x y)
    (hf : ∀ a b, R a b → S (f a) (g b)) : OnBoth S (x.map f) (y.map g) := by
  intro c hc d hd
  obtain ⟨a, ha, rfl⟩ := Option.map_eq_some_iff.1 hc
  obtain ⟨b, hb, rfl⟩ := Option.map_eq_some_iff.1 hd
  exact hf a b (h a ha b hb)

end OnBoth

@[simp] theorem Gap.hasBreak_addBlank (c : Char) (gap : Gap) :
    (gap.addBlank c).hasBreak = gap.hasBreak := by
  cases gap <;> rfl

@[simp] theorem Gap.hasBreak_addBreak (c : Char) (gap : Gap) :
    (gap.addBreak c).hasBreak = true := by
  cases gap <;> rfl

section Plain

variable {flow : Bool} {indent : Nat} {gap : Gap} {reversed cs u z : List Char} {p : Position}
  {a b : Piece PlainText}

/-- A plain scalar that is being read gets no shorter. -/
theorem length_le_of_plainFrom (h : plainFrom flow indent gap reversed p cs = some a) :
    reversed.length ≤ a.value.text.length := by
  fun_induction plainFrom flow indent gap reversed p cs with
  | case1 | case6 => exact Nat.le_of_eq (by rw [← Option.some.inj h, List.length_reverse])
  | case2 | case7 => cases h
  | case3 _ _ _ _ _ _ _ ih | case4 _ _ _ _ _ _ _ _ ih | case5 _ _ _ _ _ _ _ _ ih =>
      exact ih h
  | case8 gap reversed p c cs _ _ _ _ ih =>
      have hc := ih h
      rw [List.length_cons, Gap.onto, List.length_append] at hc
      omega

/-- A plain scalar that gets no longer takes what is white. -/
theorem skipWhite_of_plainFrom (h : plainFrom flow indent gap reversed p cs = some a)
    (ha : a.value.text = reversed.reverse) :
    (a.rest, a.position) = skipWhite p cs ∧ (gap.hasBreak = true → a.value.broken = true) := by
  fun_induction plainFrom flow indent gap reversed p cs with
  | case1 gap reversed p =>
      obtain rfl := Option.some.inj h
      exact ⟨rfl, id⟩
  | case2 | case7 => cases h
  | case3 gap reversed p c cs hblank htab ih =>
      have hbreak : isBreak c = false := Bool.eq_false_iff.2 fun hb => by
        rw [isBlank_of_isBreak hb] at hblank
        cases hblank
      obtain ⟨hrest, hbroken⟩ := ih h ha
      rw [skipWhite, hbreak, if_neg Bool.false_ne_true, if_pos hblank]
      exact ⟨hrest, fun hgap => hbroken ((Gap.hasBreak_addBlank c gap).trans hgap)⟩
  | case4 gap reversed p c cs hblank hbreak hreturn ih =>
      rw [skipWhite, if_pos hbreak, if_pos hreturn]
      exact ih h ha
  | case5 gap reversed p c cs hblank hbreak hreturn ih =>
      rw [skipWhite, if_pos hbreak, if_neg hreturn]
      obtain ⟨hrest, hbroken⟩ := ih h ha
      exact ⟨hrest, fun _ => hbroken (Gap.hasBreak_addBreak c gap)⟩
  | case6 gap reversed p c cs hblank hbreak hends =>
      obtain rfl := Option.some.inj h
      rw [skipWhite, if_neg hbreak, if_neg hblank]
      exact ⟨rfl, id⟩
  | case8 gap reversed p c cs _ _ _ _ ih =>
      have hc := length_le_of_plainFrom h
      rw [ha, List.length_reverse, List.length_cons, Gap.onto, List.length_append] at hc
      omega

/-- What a plain scalar of the first part and of the whole text have in common. -/
def PlainExtends (z : List Char) (a b : Piece PlainText) : Prop :=
  b.value.text = a.value.text →
    Extends true z a b ∧ (b.value.broken = a.value.broken ∨ b.rest = [])

/-- A plain scalar that says the same in the whole text takes no more but what is white. -/
theorem extends_plainFrom (h : CutAt u z) (hu : u = [] → gap.hasBreak = true ∨ OnlyFeed z) :
    OnBoth (PlainExtends z) (plainFrom flow indent gap reversed p u)
      (plainFrom flow indent gap reversed p (u ++ z)) := by
  induction u generalizing gap reversed p with
  | nil =>
      rintro _ ⟨⟩ b hb hab
      obtain ⟨hrest, hbroken⟩ := skipWhite_of_plainFrom hb hab
      refine ⟨.inr ⟨rfl, .inl rfl, hrest⟩, ?_⟩
      -- the scalar goes on after the cut, but only over what is white
      rcases hu rfl with hgap | rfl | rfl
      · exact .inl ((hbroken hgap).trans hgap.symm)
      · exact .inr (congrArg Prod.fst hrest)
      · exact .inr (congrArg Prod.fst hrest)
  | cons c u ih =>
      rw [List.cons_append, plainFrom, plainFrom, h.return_iff]
      cases hbreak : isBreak c with
      | true =>
          rw [isBlank_of_isBreak hbreak, if_neg Bool.false_ne_true, if_neg Bool.false_ne_true,
            if_pos rfl, if_pos rfl]
          -- a carriage return before a line feed is not where the text is cut
          refine onBoth_ite Iff.rfl (fun hr => ih h.of_cons ?_)
            (ih h.of_cons fun _ => .inl (Gap.hasBreak_addBreak c gap))
          intro hu
          rw [hu] at hr
          exact absurd (Bool.and_eq_true_iff.1 hr).2 (by decide)
      | false =>
          have hz (hu : u = []) : OnlyFeed z := by
            rw [hu] at h
            exact h.onlyFeed hbreak
          -- after a character of a line the text is cut at its very end or not at all
          have next (gap : Gap) (reversed : List Char) :
              OnBoth (PlainExtends z) (plainFrom flow indent gap reversed p.next u)
                (plainFrom flow indent gap reversed p.next (u ++ z)) :=
            ih h.of_cons fun hu => .inr (hz hu)
          have hends :
              endsPlain flow indent gap p c (u ++ z) = endsPlain flow indent gap p c u := by
            rw [endsPlain, endsPlain, h.isDocumentMarker hbreak, h.startsBlank hbreak]
          have hcolon : ((u ++ z).head?.any fun d => isFlowPunctuation d || d == '?') =
              u.head?.any fun d => isFlowPunctuation d || d == '?' := by
            refine h.head?_any (fun d hd => ?_) hbreak
            rcases eq_of_isBreak hd with rfl | rfl | rfl | rfl | rfl <;> decide
          rw [hends, hcolon]
          refine onBoth_ite Iff.rfl (fun _ => onBoth_ite Iff.rfl (fun _ => onBoth_none_left)
            (next _ _)) <| onBoth_ite Iff.rfl (fun hb => absurd hb Bool.false_ne_true) <|
            onBoth_ite Iff.rfl (fun _ => onBoth_some fun _ => ?_) <|
            onBoth_ite Iff.rfl (fun _ => onBoth_none_left) (next _ _)
          exact ⟨.inl ⟨rfl, rfl, by rintro ⟨⟩⟩, .inl rfl⟩

end Plain

/-- What a scalar of the first part and of the whole text have in common. -/
def TextExtends (white : Bool) (z : List Char) (a b : Piece (List Char)) : Prop :=
  b.value = a.value → Extends white z a b

section Quoted

variable {double : Bool} {mode : QuoteMode} {gap : Gap} {reversed cs u z : List Char}
  {p : Position} {a : Piece (List Char)}

/-- A quoted scalar that is being read gets no shorter. -/
theorem length_le_of_quotedFrom (h : quotedFrom double mode gap reversed p cs = some a) :
    reversed.length ≤ a.value.length := by
  fun_induction quotedFrom double mode gap reversed p cs <;> grind [Gap.onto]

theorem extends_quotedFrom (h : CutAt u z) :
    OnBoth (TextExtends false z) (quotedFrom double mode gap reversed p u)
      (quotedFrom double mode gap reversed p (u ++ z)) := by
  induction u generalizing mode gap reversed p with
  | nil =>
      intro a ha b hb hab
      rw [quotedFrom] at ha
      split at ha
      · rename_i hmode
        obtain rfl := Option.some.inj ha
        subst hmode
        cases z with
        | nil =>
          obtain rfl := Option.some.inj hb
          exact .inl ⟨rfl, rfl, fun _ => rfl⟩
        | cons c z =>
          rw [List.nil_append, quotedFrom] at hb
          split at hb
          -- a doubled quote would make the scalar longer
          · have hlength := length_le_of_quotedFrom hb
            rw [hab, List.length_reverse, List.length_cons] at hlength
            omega
          · obtain rfl := Option.some.inj hb
            exact .inl ⟨rfl, rfl, fun _ => rfl⟩
      · cases ha
  | cons c u ih =>
      have next (mode : QuoteMode) (gap : Gap) (reversed : List Char) (p : Position) :
          OnBoth (TextExtends false z) (quotedFrom double mode gap reversed p u)
            (quotedFrom double mode gap reversed p (u ++ z)) := ih h.of_cons
      -- where the scalar ends before the cut it ends in the whole text
      have stop (value : List Char) (p : Position) (v : List Char) : OnBoth (TextExtends false z)
          (some ⟨value, v, p⟩) (some ⟨value, v ++ z, p⟩) :=
        onBoth_some fun _ => .inl ⟨rfl, rfl, fun _ => rfl⟩
      rw [List.cons_append]
      cases mode with
      | quote =>
          rw [quotedFrom, quotedFrom]
          exact onBoth_ite Iff.rfl (fun _ => next _ _ _ _) (stop _ _ _)
      | escape =>
          rw [quotedFrom, quotedFrom, h.return_iff]
          refine onBoth_ite Iff.rfl (fun _ => onBoth_ite Iff.rfl (fun _ => next _ _ _ _)
            (next _ _ _ _)) ?_
          cases hexLength? c with
          | some n => exact next _ _ _ _
          | none =>
              cases escapedChar? c with
              | none => exact onBoth_none_left
              | some d => exact next _ _ _ _
      | hex left value =>
          rw [quotedFrom, quotedFrom]
          cases Text.hexDigit? c with
          | none => exact onBoth_none_left
          | some d =>
              refine onBoth_ite Iff.rfl (fun _ => ?_) (next _ _ _ _)
              cases charOfCode? (value * 16 + d) with
              | none => exact onBoth_none_left
              | some e => exact next _ _ _ _
      | text =>
          rw [quotedFrom, quotedFrom, h.return_iff]
          cases hbreak : isBreak c with
          | true =>
              rw [isBlank_of_isBreak hbreak, if_neg Bool.false_ne_true,
                if_neg Bool.false_ne_true, if_pos rfl, if_pos rfl]
              exact onBoth_ite Iff.rfl (fun _ => next _ _ _ _) (next _ _ _ _)
          | false =>
              rw [h.isDocumentMarker hbreak]
              refine onBoth_ite Iff.rfl (fun _ => next _ _ _ _) <|
                onBoth_ite Iff.rfl (fun hb => absurd hb Bool.false_ne_true) <|
                onBoth_ite Iff.rfl (fun _ => onBoth_none_left) <|
                onBoth_ite Iff.rfl (fun _ => ?_) <|
                onBoth_ite Iff.rfl (fun _ => next _ _ _ _) (next _ _ _ _)
              exact onBoth_ite Iff.rfl (fun _ => stop _ _ _) <|
                onBoth_ite Iff.rfl (fun _ => next _ _ _ _) (next _ _ _ _)

end Quoted

section Block

variable {folded : Bool} {chomping : Chomping} {least : Nat} {inLine : Bool} {s : BlockState}
  {cs u z : List Char} {p : Position} {a : Piece (List Char)}

/-- How many characters end no line. -/
def visible (cs : List Char) : Nat := cs.countP (!isBreak ·)

@[simp] theorem visible_append (cs ds : List Char) : visible (cs ++ ds) = visible cs + visible ds :=
  List.countP_append

@[simp] theorem visible_reverse (cs : List Char) : visible cs.reverse = visible cs :=
  List.countP_reverse

theorem visible_cons (c : Char) (cs : List Char) :
    visible (c :: cs) = visible cs + if isBreak c then 0 else 1 := by
  cases h : isBreak c <;> simp [visible, h]

theorem visible_le_cons (c : Char) (cs : List Char) : visible cs ≤ visible (c :: cs) := by
  rw [visible_cons]
  exact Nat.le_add_right ..

/-- Nothing but line ends is put on at the end. -/
def BlockState.EndsLines (s : BlockState) : Prop :=
  visible s.lastBreak.toList = 0 ∧ visible s.emptyLines = 0

theorem isBreak_breakText {c : Char} (h : isBreak c = true) : isBreak (breakText c) = true := by
  rcases eq_of_isBreak h with rfl | rfl | rfl | rfl | rfl <;> rfl

theorem BlockState.settle_reversed : (s.settle least).reversed = s.reversed := by
  unfold settle; split <;> rfl

theorem visible_le_finish (s : BlockState) (chomping : Chomping) :
    visible s.reversed ≤ visible (s.finish chomping) := by
  cases chomping <;> simp [BlockState.finish]

theorem visible_le_startLine (s : BlockState) (folded startsWithBlank : Bool) :
    visible s.reversed ≤ visible (s.startLine folded startsWithBlank).reversed := by
  rw [BlockState.startLine, visible_append]
  exact Nat.le_add_left ..

theorem BlockState.EndsLines.visible_finish (h : s.EndsLines) :
    visible (s.finish chomping) = visible s.reversed := by
  obtain ⟨hlast, hempty⟩ := h
  cases chomping <;>
    simp only [BlockState.finish, visible_append, visible_reverse, hlast, hempty] <;> rfl

theorem visible_le_of_blockFrom (h : blockFrom folded chomping least inLine s p cs = some a) :
    visible s.reversed ≤ visible a.value := by
  fun_induction blockFrom folded chomping least inLine s p cs with
  | case1 =>
      rw [← Option.some.inj h]
      exact visible_le_finish ..
  | case2 _ _ _ _ _ _ _ ih | case3 _ _ _ _ _ _ ih | case4 _ _ _ _ _ _ _ _ ih
  | case6 _ _ _ _ _ _ _ _ _ ih =>
      exact ih h
  | case5 _ _ _ _ _ ih => exact Nat.le_trans (visible_le_cons _ _) (ih h)
  | case7 => cases h
  | case8 _ s p c cs _ _ indenting _ _ s₁ hcolumn s₂ ih =>
      have hs : visible s.reversed ≤ visible s₂.reversed := by
        have h := visible_le_startLine s₁ folded (isBlank c)
        rwa [BlockState.settle_reversed] at h
      exact Nat.le_trans hs (Nat.le_trans (visible_le_cons c _) (ih h))
  | case9 _ s p c cs _ _ indenting _ _ s₁ hcolumn =>
      rw [← Option.some.inj h]
      have h := visible_le_finish s₁ chomping
      rwa [BlockState.settle_reversed] at h

/-- A block scalar that shows no more takes what is white. -/
theorem skipWhite_of_blockFrom (h : blockFrom folded chomping least false s p cs = some a)
    (ha : visible a.value ≤ visible s.reversed) (hcolumn : s.indent = 0 ∨ p.column ≤ s.indent) :
    (a.rest, a.position) = skipWhite p cs := by
  induction cs generalizing s p with
  | nil =>
      obtain rfl := Option.some.inj h
      rfl
  | cons c cs ih =>
      rw [blockFrom] at h
      rw [skipWhite]
      split at h
      · rename_i hbreak
        rw [if_pos hbreak]
        split at h
        · rename_i hreturn
          rw [if_pos hreturn, ih h ha hcolumn]
          obtain ⟨rest, rfl⟩ : ∃ rest, cs = '\n' :: rest :=
            List.head?_eq_some_iff.1 (beq_iff_eq.1 (Bool.and_eq_true_iff.1 hreturn).2)
          rfl
        · rename_i hreturn
          rw [if_neg hreturn]
          exact ih h ha (.inr (Nat.zero_le _))
      · rename_i hbreak
        rw [if_neg hbreak]
        rw [if_neg Bool.false_ne_true] at h
        simp only at h
        split at h
        · rename_i hspace
          obtain ⟨hin, hc⟩ := Bool.and_eq_true_iff.1 hspace
          rw [if_pos (by rw [isBlank, hc, Bool.true_or])]
          refine ih h ha ?_
          simpa [Position.next, Nat.succ_le_iff] using hin
        · rename_i hspace
          split at h
          · cases h
          · rename_i htab
            split at h
            · -- a character of the text would show
              have hle := Nat.le_trans (visible_le_of_blockFrom h) ha
              have hstart := visible_le_startLine
                (BlockState.settle { s with furthest := max s.furthest p.column } least)
                folded (isBlank c)
              rw [visible_cons, if_neg hbreak] at hle
              rw [BlockState.settle_reversed] at hstart
              change visible s.reversed ≤ _ at hstart
              omega
            · rename_i hstop
              obtain rfl := Option.some.inj h
              refine (if_neg fun hblank => hstop ?_).symm
              -- a blank that is no indentation would stand where the text starts
              have hout : s.indent ≠ 0 ∧ s.indent ≤ p.column := by
                simp only [isBlank, Bool.or_eq_true, beq_iff_eq] at hblank
                rcases hblank with rfl | rfl
                · simpa using hspace
                · simpa using htab
              have heq : p.column = s.indent := by omega
              rw [BlockState.settle, if_neg hout.1]
              exact heq

theorem visible_breakText {c : Char} (h : isBreak c = true) (cs : List Char) :
    visible (breakText c :: cs) = visible cs := by
  rw [visible_cons, if_pos (isBreak_breakText h), Nat.add_zero]

/-- A block scalar that says the same in the whole text takes no more but what is white. -/
theorem extends_blockFrom (h : CutAt u z) (hu : inLine = true → u = [] → OnlyFeed z)
    (hends : s.EndsLines) (hcolumn : inLine = false → s.indent = 0 ∨ p.column ≤ s.indent) :
    OnBoth (TextExtends true z) (blockFrom folded chomping least inLine s p u)
      (blockFrom folded chomping least inLine s p (u ++ z)) := by
  induction u generalizing inLine s p with
  | nil =>
      rintro _ ⟨⟩ b hb hab
      cases hin : inLine with
      | false =>
          rw [hin] at hb
          -- at the start of a line what is put on last is line ends, of which none shows
          refine .inr ⟨rfl, .inl rfl, skipWhite_of_blockFrom hb (Nat.le_of_eq ?_) (hcolumn hin)⟩
          rw [hab, hends.visible_finish]
      | true =>
          rw [hin] at hb
          rcases hu hin rfl with rfl | rfl <;>
            · obtain rfl := Option.some.inj hb
              exact .inr ⟨rfl, .inl rfl, rfl⟩
  | cons c u ih =>
      rw [List.cons_append, blockFrom, blockFrom, h.return_iff]
      cases hbreak : isBreak c with
      | true =>
          rw [if_pos rfl, if_pos rfl]
          refine onBoth_ite Iff.rfl (fun hr => ih h.of_cons (fun _ hu => ?_) hends hcolumn) <|
            onBoth_ite Iff.rfl
              (fun _ => ih h.of_cons (by rintro ⟨⟩) ⟨?_, hends.2⟩ fun _ => .inr (Nat.zero_le _))
              (ih h.of_cons (by rintro ⟨⟩) ⟨hends.1, ?_⟩ fun _ => .inr (Nat.zero_le _))
          · rw [hu] at hr
            exact absurd (Bool.and_eq_true_iff.1 hr).2 (by decide)
          · exact visible_breakText hbreak []
          · rw [visible_breakText hbreak]
            exact hends.2
      | false =>
          have hz (hu : u = []) : OnlyFeed z := by
            rw [hu] at h
            exact h.onlyFeed hbreak
          rw [if_neg Bool.false_ne_true, if_neg Bool.false_ne_true]
          refine onBoth_ite Iff.rfl
            (fun _ => ih h.of_cons (fun _ => hz) hends (by rintro ⟨⟩)) <|
            onBoth_ite Iff.rfl (fun hspace => ih h.of_cons (by rintro ⟨⟩) hends fun _ => ?_) <|
            onBoth_ite Iff.rfl (fun _ => onBoth_none_left) <|
            onBoth_ite Iff.rfl (fun _ => ih h.of_cons (fun _ => hz) ⟨rfl, rfl⟩ (by rintro ⟨⟩)) <|
            onBoth_some fun _ => .inl ⟨rfl, rfl, by rintro ⟨⟩⟩
          simpa [Position.next, Nat.succ_le_iff] using (Bool.and_eq_true_iff.1 hspace).1

end Block

section Words

variable {c : Char} {cs u z : List Char} {p : Position}

/-- The rest of a line ends with the line, in the first part of the text, or with both texts. -/
def LineExtends (u z : List Char) (a b : List Char × Position) : Prop :=
  (a.1 <:+ u ∧ a.2.column = 0 ∧ b = (a.1 ++ z, a.2)) ∨
    (a.1 = [] ∧ OnlyFeed z ∧ b = skipWhite a.2 z)

theorem LineExtends.of_cons {a b : List Char × Position} (h : LineExtends u z a b) :
    LineExtends (c :: u) z a b :=
  h.imp_left fun ⟨hs, h⟩ => ⟨hs.trans (List.suffix_cons c u), h⟩

theorem extends_skipRestOfLine (h : CutAt u z) (hu : u = [] → OnlyFeed z) (comment : Bool) :
    Option.Rel (LineExtends u z) (skipRestOfLine comment p u)
      (skipRestOfLine comment p (u ++ z)) := by
  induction u generalizing p comment with
  | nil =>
      -- the line may lack its end only where the text does
      rcases hu rfl with rfl | rfl
      · exact .some (.inr ⟨rfl, .inl rfl, rfl⟩)
      · exact .some (.inr ⟨rfl, .inr rfl, rfl⟩)
  | cons c u ih =>
      have next (comment : Bool) (hz : u = [] → OnlyFeed z) :=
        rel_mono (ih (p := p.next) h.of_cons hz comment) fun _ _ h => h.of_cons (c := c)
      rw [List.cons_append, skipRestOfLine, skipRestOfLine, h.return_iff]
      cases hbreak : isBreak c with
      | true =>
          rw [if_pos rfl, if_pos rfl]
          refine rel_ite_of Iff.rfl (fun hr => next _ fun hu => ?_) (.some (.inl ?_))
          · rw [hu] at hr
            exact absurd (Bool.and_eq_true_iff.1 hr).2 (by decide)
          · exact ⟨List.suffix_cons c u, rfl, rfl⟩
      | false =>
          have hz (hu : u = []) : OnlyFeed z := by
            rw [hu] at h
            exact h.onlyFeed hbreak
          rw [if_neg Bool.false_ne_true, if_neg Bool.false_ne_true]
          exact rel_ite Iff.rfl (next _ hz) <| rel_ite Iff.rfl (next _ hz) <|
            rel_ite Iff.rfl (next _ hz) .none

theorem extends_directiveAt (h : CutAt (c :: u) z) (hc : isBreak c = false) :
    Option.Rel (fun a b => b.value = a.value ∧ Extends false z a b)
      (directiveAt p u) (directiveAt p (u ++ z)) := by
  obtain ⟨l, x, rfl, hl, hx, hz⟩ := h.line hc
  rw [directiveAt_eq, directiveAt_eq, List.append_assoc]
  refine rel_bind (onLine_directiveText hx (CutAt.atLineEnd_append hx hz)) ?_
  intro a b hab
  obtain ⟨hv, taken, left, rfl, ha, hb, hp, hq⟩ := hab
  have hcut : CutAt (left ++ x) z := h.of_cons.of_suffix ⟨taken, by rw [List.append_assoc]⟩
  rw [ha, hb, hp, hq, hv, ← List.append_assoc]
  refine rel_map (extends_skipRestOfLine hcut (fun hu => hz ?_) false) fun d e hde => ?_
  · exact (List.append_eq_nil_iff.1 hu).2
  · rcases hde with ⟨-, -, rfl⟩ | ⟨hd, hfeed, rfl⟩
    · exact ⟨rfl, .inl ⟨rfl, rfl, fun _ => rfl⟩⟩
    · exact ⟨rfl, .inr ⟨hd, .inr hfeed, rfl⟩⟩

theorem extends_blockScalar (h : CutAt (c :: u) z) (hc : isBreak c = false) (folded : Bool)
    (parent : Option Nat) : OnBoth (TextExtends true z) (blockScalar folded parent p u)
      (blockScalar folded parent p (u ++ z)) := by
  obtain ⟨l, x, rfl, hl, hx, hz⟩ := h.line hc
  have hhead : blockHeader (l ++ x ++ z) = blockHeader (l ++ x) := by
    rw [List.append_assoc]
    exact blockHeader_append (CutAt.atLineEnd_append hx hz) hx
  rw [blockScalar_eq, blockScalar_eq, hhead]
  cases hh : blockHeader (l ++ x) with
  | none => exact onBoth_none_left
  | some header =>
      obtain ⟨header, n⟩ := header
      have hn : n ≤ l.length := by
        rw [blockHeader_append hx (y := []) rfl, List.append_nil] at hh
        exact blockHeader_le hh
      have hcut : CutAt ((l ++ x).drop n) z := h.of_cons.of_suffix (List.drop_suffix n _)
      have hdrop : (l ++ x ++ z).drop n = (l ++ x).drop n ++ z :=
        List.drop_append_of_le_length (by rw [List.length_append]; omega)
      have hu (hnil : (l ++ x).drop n = []) : OnlyFeed z := by
        rw [List.drop_append_of_le_length hn] at hnil
        exact hz (List.append_eq_nil_iff.1 hnil).2
      rw [Option.bind_some, Option.bind_some, hdrop]
      intro a ha b hb hab
      obtain ⟨r, hr, ha⟩ := Option.bind_eq_some_iff.1 ha
      obtain ⟨t, ht, hb⟩ := Option.bind_eq_some_iff.1 hb
      -- the header's line ends before the cut, or the scalar has no lines
      have hrt := extends_skipRestOfLine (p := p.skip n) hcut hu false
      rw [hr, ht] at hrt
      cases hrt with
      | some hrt =>
          rcases hrt with ⟨hsuffix, hcolumn, rfl⟩ | ⟨hnil, hfeed, rfl⟩
          · have hlines : OnBoth (TextExtends true z) (blockLines folded parent header r.2 r.1)
                (blockLines folded parent header r.2 (r.1 ++ z)) := by
              refine extends_blockFrom (hcut.of_suffix hsuffix) nofun ⟨rfl, rfl⟩ fun _ => .inr ?_
              rw [hcolumn]
              exact Nat.zero_le _
            exact hlines a ha b hb hab
          · rw [hnil] at ha
            obtain rfl := Option.some.inj ha
            rcases hfeed with rfl | rfl <;>
              · obtain rfl := Option.some.inj hb
                exact .inr ⟨rfl, .inl rfl, rfl⟩

/-- Whether the blanks and line ends after a word are taken with it. -/
def Word.takesWhite : Word → Bool
  | .node (.scalar .plain _) _ | .block _ => true
  | _ => false

/-- Two words that differ at most in whether a key may start after them. -/
def Word.Agrees (w w' : Word) : Prop :=
  w = w' ∨ ∃ token k k', w = .node token k ∧ w' = .node token k'

/-- What a word of the first part and of the whole text have in common. That a key may start
    after it is told by a line end, which the first part may lack if nothing follows. -/
def WordExtends (z : List Char) (a b : Piece Word) : Prop :=
  b.value.token = a.value.token → Extends a.value.takesWhite z a b ∧
    a.value.Agrees b.value ∧ (b.value = a.value ∨ b.rest = [])

/-- A word that says the same in the whole text takes no more but what is white. -/
theorem extends_wordAt {flow : Bool} {columns : List Nat} (h : CutAt (c :: u) z)
    (hc : isBreak c = false) : OnBoth (WordExtends z) (wordAt flow columns p c u)
      (wordAt flow columns p c (u ++ z)) := by
  -- what stands on one line does not see the cut; what goes over lines says the same only if it
  -- takes no more than white
  have sign (w : Word) (hw : w.takesWhite = false) : OnBoth (WordExtends z)
      (some ⟨w, u, p.next⟩) (some ⟨w, u ++ z, p.next⟩) :=
    onBoth_some fun _ => ⟨.inl ⟨rfl, rfl, fun _ => hw⟩, .inl rfl, .inl rfl⟩
  have marker {mark : Char} (token : Token)
      (hm : (p.column == 0 && isMarker mark (c :: u)) = true) :
      OnBoth (WordExtends z) (some ⟨.level token, u.drop 2, p.skip 3⟩)
        (some ⟨.level token, (u ++ z).drop 2, p.skip 3⟩) := by
    obtain ⟨rest, hrest⟩ := eq_of_isMarker (Bool.and_eq_true_iff.1 hm).2
    obtain ⟨rfl, rfl⟩ := List.cons.inj hrest
    exact onBoth_some fun _ => ⟨.inl ⟨rfl, rfl, fun _ => rfl⟩, .inl rfl, .inl rfl⟩
  obtain ⟨l, x, hu, hl, hx, hz⟩ := h.line hc
  have hxz := CutAt.atLineEnd_append hx hz
  have line {α : Type} {q : Position} {l : List Char} {a b : Option (Piece α)} (f : α → Word)
      (hf : ∀ a, (f a).takesWhite = false) (hab : Option.Rel (OnLine q q l x (x ++ z)) a b) :
      OnBoth (WordExtends z) (a.map (·.map f)) (b.map (·.map f)) := by
    refine onBoth_of_rel (rel_map hab fun a b hab _ => ?_)
    obtain ⟨hv, taken, left, -, ha, hb, hp, hq⟩ := hab
    refine ⟨.inl ⟨?_, ?_, fun _ => hf _⟩, .inl (congrArg f hv), .inl (congrArg f hv.symm)⟩
    · rw [Piece.map_rest, Piece.map_rest, ha, hb, List.append_assoc]
    · rw [Piece.map_position, Piece.map_position, hp, hq]
  have text {a b : Option (Piece (List Char))} {white : Bool} (f : List Char → Word)
      (hf : ∀ s t, (f s).token = (f t).token → s = t) (hw : ∀ s, (f s).takesWhite = white)
      (hab : OnBoth (TextExtends white z) a b) :
      OnBoth (WordExtends z) (a.map (·.map f)) (b.map (·.map f)) := by
    refine onBoth_map hab ?_
    intro a b hab hsame
    have hv := hf _ _ hsame
    refine ⟨?_, .inl (congrArg f hv.symm), .inl (congrArg f hv)⟩
    rw [Piece.map_value, hw]
    exact hab hv
  have anchor (f : List Char → Word) (hf : ∀ a, (f a).takesWhite = false) : OnBoth (WordExtends z)
      ((anchorName p.next u).map (·.map f)) ((anchorName p.next (u ++ z)).map (·.map f)) := by
    rw [hu, List.append_assoc]
    exact line f hf (onLine_anchorName hx hxz)
  have block (folded : Bool) : OnBoth (WordExtends z) (blockWord folded columns p u)
      (blockWord folded columns p (u ++ z)) := by
    refine text _ (fun s t hst => ?_) (fun _ => rfl) (extends_blockScalar h hc folded _)
    simpa [Word.token] using hst
  have hstarts : TokenReader.startsPlain flow c (u ++ z) = TokenReader.startsPlain flow c u := by
    rw [TokenReader.startsPlain, TokenReader.startsPlain, h.startsBlank hc,
      h.head?_any (fun _ => isBlank_of_isBreak) hc]
  simp only [wordAt]
  rw [h.isMarker (by decide) hc, h.isMarker (by decide) hc, h.startsBlank hc, hstarts]
  refine onBoth_ite Iff.rfl (fun _ => ?directive) <|
    onBoth_ite Iff.rfl (marker _) <| onBoth_ite Iff.rfl (marker _) <|
    onBoth_ite Iff.rfl (fun _ => sign _ rfl) <| onBoth_ite Iff.rfl (fun _ => sign _ rfl) <|
    onBoth_ite Iff.rfl (fun _ => sign _ rfl) <| onBoth_ite Iff.rfl (fun _ => sign _ rfl) <|
    onBoth_ite Iff.rfl (fun _ => sign _ rfl) <| onBoth_ite Iff.rfl (fun _ => sign _ rfl) <|
    onBoth_ite Iff.rfl (fun _ => sign _ rfl) <| onBoth_ite Iff.rfl (fun _ => sign _ rfl) <|
    onBoth_ite Iff.rfl (fun _ => anchor _ fun _ => rfl) <|
    onBoth_ite Iff.rfl (fun _ => anchor _ fun _ => rfl) <|
    onBoth_ite Iff.rfl (fun _ => ?tag) <| onBoth_ite Iff.rfl (fun _ => block false) <|
    onBoth_ite Iff.rfl (fun _ => block true) <| onBoth_ite Iff.rfl (fun _ => ?single) <|
    onBoth_ite Iff.rfl (fun _ => ?double) <| onBoth_ite Iff.rfl (fun _ => ?plain) onBoth_none_left
  case directive =>
    refine onBoth_of_rel (rel_map (extends_directiveAt h hc) fun a b hab _ => ?_)
    exact ⟨hab.2, .inl (congrArg Word.level hab.1.symm), .inl (congrArg Word.level hab.1)⟩
  case tag =>
    rw [hu, List.append_assoc]
    exact line _ (fun _ => rfl) (onLine_tagAt (l := c :: l) hx hxz)
  case single =>
    refine text _ (fun s t hst => ?_) (fun _ => rfl) (extends_quotedFrom h.of_cons)
    simpa [Word.token] using hst
  case double =>
    refine text _ (fun s t hst => ?_) (fun _ => rfl) (extends_quotedFrom h.of_cons)
    simpa [Word.token] using hst
  case plain =>
    refine onBoth_map (extends_plainFrom h fun hnil => absurd hnil (List.cons_ne_nil c u)) ?_
    intro a b hab hsame
    have hv : b.value.text = a.value.text := by simpa [Word.token] using hsame
    obtain ⟨hrest, hbroken⟩ := hab hv
    refine ⟨hrest, .inr ⟨_, _, b.value.broken, rfl, ?_⟩, hbroken.imp_left fun hbroken => ?_⟩
    · rw [Piece.map_value, hv]
    · rw [Piece.map_value, Piece.map_value, hv, hbroken]

end Words

end TestCluster.Yaml
