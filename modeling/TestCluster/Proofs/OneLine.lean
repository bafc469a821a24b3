import TestCluster.Proofs.Words

/-!
# One line — words that never look past the end of their line

    The name of an anchor, a tag and what a directive says end with their line at the
    latest. So what is read is the same in any two texts that agree up to the line end, at
    any two places, and as many characters are taken.
-/

namespace TestCluster.Yaml

/-- Whether the text is at its own end or at the end of a line. -/
def atLineEnd : List Char → Bool
  | [] => true
  | c :: _ => isBreak c

theorem eq_of_isBreak {c : Char} (h : isBreak c = true) :
    c = '\n' ∨ c = '\r' ∨ c = '\u0085' ∨ c = '\u2028' ∨ c = '\u2029' := by
  simpa [isBreak, or_assoc] using h

theorem isNameChar_of_isBreak {c : Char} (h : isBreak c = true) : isNameChar c = false := by
  rcases eq_of_isBreak h with rfl | rfl | rfl | rfl | rfl <;> decide

theorem isTagChar_of_isBreak {wide : Bool} {c : Char} (h : isBreak c = true) :
    isTagChar wide c = false := by
  rcases eq_of_isBreak h with rfl | rfl | rfl | rfl | rfl <;> cases wide <;> decide

theorem isDigit_of_isBreak {c : Char} (h : isBreak c = true) : isDigit c = false := by
  rcases eq_of_isBreak h with rfl | rfl | rfl | rfl | rfl <;> decide

theorem isBlank_of_isBreak {c : Char} (h : isBreak c = true) : isBlank c = false := by
  rcases eq_of_isBreak h with rfl | rfl | rfl | rfl | rfl <;> decide

theorem hexDigit?_of_isBreak {c : Char} (h : isBreak c = true) : Text.hexDigit? c = none := by
  rcases eq_of_isBreak h with rfl | rfl | rfl | rfl | rfl <;> decide

section Related

variable {α β γ δ : Type} {R : α → β → Prop} {S : γ → δ → Prop}

/-- Related results, worked on alike, stay related. -/
theorem rel_bind {x : Option α} {y : Option β} {f : α → Option γ} {g : β → Option δ}
    (h : Option.Rel R x y) (hf : ∀ a b, R a b → Option.Rel S (f a) (g b)) :
    Option.Rel S (x.bind f) (y.bind g) := by
  cases h with
  | none => exact .none
  | some h => exact hf _ _ h

theorem rel_mono {T : α → β → Prop} {x : Option α} {y : Option β} (h : Option.Rel R x y)
    (hf : ∀ a b, R a b → T a b) : Option.Rel T x y := by
  cases h with
  | none => exact .none
  | some h => exact .some (hf _ _ h)

theorem rel_map {x : Option α} {y : Option β} {f : α → γ} {g : β → δ}
    (h : Option.Rel R x y) (hf : ∀ a b, R a b → S (f a) (g b)) :
    Option.Rel S (x.map f) (y.map g) := by
  cases h with
  | none => exact .none
  | some h => exact .some (hf _ _ h)

theorem rel_ite_of {b b' : Prop} [Decidable b] [Decidable b'] {x x' : Option α}
    {y y' : Option β} (hb : b ↔ b') (hx : b → Option.Rel R x y) (hx' : Option.Rel R x' y') :
    Option.Rel R (if b then x else x') (if b' then y else y') := by
  by_cases h : b
  · rw [if_pos h, if_pos (hb.1 h)]
    exact hx h
  · rw [if_neg h, if_neg (mt hb.2 h)]
    exact hx'

theorem rel_ite {b b' : Prop} [Decidable b] [Decidable b'] {x x' : Option α} {y y' : Option β}
    (hb : b ↔ b') (hx : Option.Rel R x y) (hx' : Option.Rel R x' y') :
    Option.Rel R (if b then x else x') (if b' then y else y') :=
  rel_ite_of hb (fun _ => hx) hx'

theorem rel_some {a : α} {y : Option β} (h : Option.Rel R (some a) y) :
    ∃ b, y = some b ∧ R a b := by
  cases h with
  | some h => exact ⟨_, rfl, h⟩

theorem rel_filter {x : Option α} {y : Option β} {f : α → Bool} {g : β → Bool}
    (h : Option.Rel R x y) (hf : ∀ a b, R a b → f a = g b) :
    Option.Rel R (x.filter f) (y.filter g) := by
  cases h with
  | none => exact .none
  | some h =>
      rw [Option.filter_some, Option.filter_some, hf _ _ h]
      exact rel_ite Iff.rfl (.some h) .none

end Related

section Runs

variable {f : Char → Bool} {l x : List Char}

theorem takeWhile_append (hf : ∀ c, isBreak c = true → f c = false) (hx : atLineEnd x) :
    (l ++ x).takeWhile f = l.takeWhile f := by
  induction l with
  | nil =>
      cases x with
      | nil => rfl
      | cons c cs => rw [List.nil_append, List.takeWhile_cons, hf c hx]; rfl
  | cons c l ih => rw [List.cons_append, List.takeWhile_cons, List.takeWhile_cons, ih]

theorem dropWhile_append (hf : ∀ c, isBreak c = true → f c = false) (hx : atLineEnd x) :
    (l ++ x).dropWhile f = l.dropWhile f ++ x := by
  induction l with
  | nil =>
      cases x with
      | nil => rfl
      | cons c cs => rw [List.nil_append, List.dropWhile_cons, hf c hx]; rfl
  | cons c l ih =>
      rw [List.cons_append, List.dropWhile_cons, List.dropWhile_cons, ih]
      split <;> rfl

theorem startsBlank_append {y : List Char} (hx : atLineEnd x) (hy : atLineEnd y) :
    startsBlank (l ++ x) = startsBlank (l ++ y) := by
  cases l with
  | nil =>
      have blank {z : List Char} (hz : atLineEnd z) : startsBlank z = true := by
        cases z with
        | nil => rfl
        | cons c z => rw [startsBlank, show isBreak c = true from hz, Bool.or_true]
      rw [List.nil_append, List.nil_append, blank hx, blank hy]
  | cons c l => rfl

/-- A test on the next character that no line end passes sees no difference. -/
theorem head?_any_append {y : List Char} (hf : ∀ c, isBreak c = true → f c = false)
    (hx : atLineEnd x) (hy : atLineEnd y) : (l ++ x).head?.any f = (l ++ y).head?.any f := by
  cases l with
  | nil =>
      have no {z : List Char} (hz : atLineEnd z) : z.head?.any f = false := by
        cases z with
        | nil => rfl
        | cons c z => exact hf c hz
      rw [List.nil_append, List.nil_append, no hx, no hy]
  | cons c l => rfl

theorem isMarker_append {mark : Char} {y : List Char} (hm : isBreak mark = false)
    (hx : atLineEnd x) (hy : atLineEnd y) : isMarker mark (l ++ x) = isMarker mark (l ++ y) := by
  have other {c : Char} (hc : isBreak c = true) : (c == mark) = false := by
    rw [beq_eq_false_iff_ne]
    rintro rfl
    rw [hc] at hm
    cases hm
  -- a line end among the first three characters is no mark
  have short {z : List Char} (hz : atLineEnd z) (k : List Char) (hk : k.length < 3) :
      isMarker mark (k ++ z) = false := by
    match k, z with
    | [], [] | [_], [] | [_, _], [] => rfl
    | [], [_] | [], [_, _] | [_], [_] => rfl
    | [], c :: _ :: _ :: _ => simp [isMarker, other hz]
    | [_], c :: _ :: _ => simp [isMarker, other hz]
    | [_, _], c :: _ => simp [isMarker, other hz]
    | _ :: _ :: _ :: _, _ => simp at hk; omega
  match l with
  | [] => rw [short hx [] (by simp), short hy [] (by simp)]
  | [a] => rw [short hx [a] (by simp), short hy [a] (by simp)]
  | [a, b] => rw [short hx [a, b] (by simp), short hy [a, b] (by simp)]
  | a :: b :: c :: l => simp only [List.cons_append, isMarker, startsBlank_append hx hy]

end Runs

/-- Two pieces of texts that agree on the line `l` and then go on with `x` and `y`. -/
def OnLine {α : Type} (p q : Position) (l x y : List Char) (a b : Piece α) : Prop :=
  a.value = b.value ∧ ∃ taken left, l = taken ++ left ∧
    a.rest = left ++ x ∧ b.rest = left ++ y ∧
    a.position = p.skip taken.length ∧ b.position = q.skip taken.length

namespace OnLine

variable {α β : Type} {p q : Position} {l x y : List Char} {a b : Piece α}

theorem map (f : α → β) (h : OnLine p q l x y a b) : OnLine p q l x y (a.map f) (b.map f) :=
  ⟨congrArg f h.1, h.2⟩

/-- What goes on after a part of the line started before that part. -/
theorem after (taken : List Char)
    (h : OnLine (p.skip taken.length) (q.skip taken.length) l x y a b) :
    OnLine p q (taken ++ l) x y a b := by
  obtain ⟨hv, more, left, rfl, ha, hb, hp, hq⟩ := h
  refine ⟨hv, taken ++ more, left, (List.append_assoc ..).symm, ha, hb, ?_, ?_⟩
  · rw [hp, Position.skip, Position.skip, Position.skip, List.length_append]
    simp only [Nat.add_assoc]
  · rw [hq, Position.skip, Position.skip, Position.skip, List.length_append]
    simp only [Nat.add_assoc]

theorem next {c : Char} (h : OnLine p.next q.next l x y a b) :
    OnLine p q (c :: l) x y a b := after [c] h

end OnLine

variable {p q : Position} {l x y : List Char}

/-- The name at the start ends with the line. -/
theorem onLine_nameAt (hx : atLineEnd x) (hy : atLineEnd y) :
    OnLine p q l x y (nameAt p (l ++ x)) (nameAt q (l ++ y)) := by
  have name := @isNameChar_of_isBreak
  refine ⟨?_, l.takeWhile isNameChar, l.dropWhile isNameChar, ?_, ?_, ?_, ?_, ?_⟩
  · rw [nameAt, nameAt, takeWhile_append (fun _ => name) hx,
      takeWhile_append (fun _ => name) hy]
  · rw [List.takeWhile_append_dropWhile]
  · exact dropWhile_append (fun _ => name) hx
  · exact dropWhile_append (fun _ => name) hy
  · rw [nameAt, takeWhile_append (fun _ => name) hx]
  · rw [nameAt, takeWhile_append (fun _ => name) hy]

theorem endsAnchor_append (hx : atLineEnd x) (hy : atLineEnd y) :
    endsAnchor (l ++ x) = endsAnchor (l ++ y) := by
  simp only [endsAnchor]
  rw [startsBlank_append hx hy, head?_any_append _ hx hy]
  intro c hc
  rcases eq_of_isBreak hc with rfl | rfl | rfl | rfl | rfl <;> decide

theorem onLine_anchorName (hx : atLineEnd x) (hy : atLineEnd y) :
    Option.Rel (OnLine p q l x y) (anchorName p (l ++ x)) (anchorName q (l ++ y)) := by
  have h : OnLine p q l x y (nameAt p (l ++ x)) (nameAt q (l ++ y)) := onLine_nameAt hx hy
  refine rel_ite ?_ .none (.some h)
  obtain ⟨hv, taken, left, hl, ha, hb, hp, hq⟩ := h
  rw [hv, ha, hb, endsAnchor_append hx hy]

theorem tagFrom_atLineEnd {wide : Bool} {mode : TagMode} {reversed : List Char}
    (hx : atLineEnd x) : tagFrom wide mode reversed p x =
      if mode = .text then some ⟨reversed.reverse, x, p⟩ else none := by
  cases x with
  | nil => rfl
  | cons c cs =>
      cases mode with
      | text => rw [tagFrom, isTagChar_of_isBreak hx]; rfl
      | more left code =>
          rw [tagFrom, if_neg]
          · rfl
          · intro hc
            rw [beq_iff_eq.1 hc] at hx
            exact absurd (show isBreak '%' = true from hx) (by decide)
      | high state => rw [tagFrom, hexDigit?_of_isBreak hx]; rfl
      | low state digit => rw [tagFrom, hexDigit?_of_isBreak hx]; rfl

/-- The characters of a tag end with the line. -/
theorem onLine_tagFrom {wide : Bool} (hx : atLineEnd x) (hy : atLineEnd y) (mode : TagMode)
    (reversed : List Char) : Option.Rel (OnLine p q l x y)
      (tagFrom wide mode reversed p (l ++ x)) (tagFrom wide mode reversed q (l ++ y)) := by
  induction l generalizing mode reversed p q with
  | nil =>
      rw [List.nil_append, List.nil_append, tagFrom_atLineEnd hx, tagFrom_atLineEnd hy]
      exact rel_ite Iff.rfl (.some ⟨rfl, [], [], rfl, rfl, rfl, rfl, rfl⟩) .none
  | cons c l ih =>
      -- whatever the character means, both texts go on after it in the same mode
      have step (mode : TagMode) (reversed : List Char) : Option.Rel (OnLine p q (c :: l) x y)
          (tagFrom wide mode reversed p.next (l ++ x))
          (tagFrom wide mode reversed q.next (l ++ y)) := by
        exact rel_mono (ih mode reversed) fun _ _ h => h.next
      rw [List.cons_append, List.cons_append]
      cases mode with
      | text =>
          rw [tagFrom, tagFrom]
          refine rel_ite Iff.rfl (.some ⟨rfl, [], c :: l, rfl, rfl, rfl, rfl, rfl⟩) ?_
          exact rel_ite Iff.rfl (step _ _) (step _ _)
      | more left code =>
          rw [tagFrom, tagFrom]
          exact rel_ite Iff.rfl (step _ _) .none
      | high state =>
          rw [tagFrom, tagFrom]
          cases Text.hexDigit? c with
          | none => exact .none
          | some d => exact step _ _
      | low state digit =>
          rw [tagFrom, tagFrom]
          cases Text.hexDigit? c with
          | none => exact .none
          | some d =>
              dsimp only
              split
              · exact .none
              · exact step _ _
              · exact step _ _

/-- A line that goes on with the character goes on with it in any text. -/
theorem head?_append_iff {c : Char} (hc : isBreak c = false) (hx : atLineEnd x)
    (hy : atLineEnd y) : (l ++ x).head? = some c ↔ (l ++ y).head? = some c := by
  cases l with
  | nil =>
      have no {z : List Char} (hz : atLineEnd z) : z.head? ≠ some c := by
        cases z with
        | nil => exact nofun
        | cons d z =>
            intro h
            rw [← Option.some.inj h, show isBreak d = true from hz] at hc
            cases hc
      exact iff_of_false (no hx) (no hy)
  | cons d l => rfl

theorem tagHandle_of_head? {cs : List Char} (h : cs.head? ≠ some '!') : tagHandle p cs = none := by
  cases cs with
  | nil => rfl
  | cons c cs =>
      rw [tagHandle]
      rintro cs' h'
      cases h'
      exact h rfl

/-- A line end does not start a line that starts with another character. -/
theorem exists_eq_cons {c : Char} (hc : isBreak c = false) (hx : atLineEnd x)
    (h : (l ++ x).head? = some c) : ∃ m, l = c :: m := by
  cases l with
  | nil =>
      have hn := (head?_append_iff hc hx rfl (l := []) (y := [])).1 h
      cases hn
  | cons d m => exact ⟨m, by rw [Option.some.inj h]⟩

theorem tagHandle_cons (cs : List Char) : tagHandle p ('!' :: cs) =
    if (nameAt p.next cs).rest.head? = some '!' then
      some ⟨'!' :: (nameAt p.next cs).value ++ ['!'], (nameAt p.next cs).rest.drop 1,
        (nameAt p.next cs).position.next⟩
    else some ⟨'!' :: (nameAt p.next cs).value, (nameAt p.next cs).rest,
      (nameAt p.next cs).position⟩ := by
  rw [tagHandle]
  cases h : (nameAt p.next cs).rest with
  | nil => rfl
  | cons d ds =>
      by_cases hd : d = '!'
      · subst hd
        rfl
      · rw [if_neg (show ¬ (d :: ds).head? = some '!' from fun h => hd (Option.some.inj h))]
        split
        · rename_i h'
          exact absurd (List.cons.inj h').1 hd
        · rfl

/-- A handle ends with the line. -/
theorem onLine_tagHandle (hx : atLineEnd x) (hy : atLineEnd y) :
    Option.Rel (OnLine p q l x y) (tagHandle p (l ++ x)) (tagHandle q (l ++ y)) := by
  have hmark : isBreak '!' = false := by decide
  by_cases hc : (l ++ x).head? = some '!'
  · obtain ⟨m, rfl⟩ := exists_eq_cons hmark hx hc
    have h : OnLine p.next q.next m x y (nameAt p.next (m ++ x)) (nameAt q.next (m ++ y)) :=
      onLine_nameAt hx hy
    rw [List.cons_append, List.cons_append, tagHandle_cons, tagHandle_cons]
    -- the name ends with the line, so a second mark is in the line or nowhere
    obtain ⟨hv, taken, left, rfl, ha, hb, hp, hq⟩ := h
    rw [hv, ha, hb, hp, hq]
    by_cases hl : (left ++ x).head? = some '!'
    · rw [if_pos hl, if_pos ((head?_append_iff hmark hx hy).1 hl)]
      obtain ⟨left, rfl⟩ := exists_eq_cons hmark hx hl
      refine .some <| OnLine.next ⟨rfl, taken ++ ['!'], left, ?_, rfl, rfl, ?_, ?_⟩
      · rw [List.append_assoc, List.singleton_append]
      · rw [List.length_append]; rfl
      · rw [List.length_append]; rfl
    · rw [if_neg hl, if_neg (mt (head?_append_iff hmark hx hy).2 hl)]
      exact .some <| OnLine.next ⟨rfl, taken, left, rfl, rfl, rfl, rfl, rfl⟩
  · rw [tagHandle_of_head? hc, tagHandle_of_head? (mt (head?_append_iff hmark hx hy).2 hc)]
    exact .none

/-- What comes after the handle of a tag: the suffix. Without a closed handle the mark stands
    alone, and what follows it is the suffix. -/
def tagSuffix (handle : Piece (List Char)) : Option (Piece (List Char × List Char)) :=
  if isClosedHandle handle.value then do
    let suffix ← tagFrom false .text [] handle.position handle.rest
    if suffix.value.isEmpty then none
    else some ⟨(handle.value, suffix.value), suffix.rest, suffix.position⟩
  else do
    let suffix ← tagFrom false .text (handle.value.drop 1).reverse handle.position handle.rest
    let name := if suffix.value.isEmpty then ([], ['!']) else (['!'], suffix.value)
    some ⟨name, suffix.rest, suffix.position⟩

/-- The tag between angle brackets, after them. -/
def fullTag (p : Position) (cs : List Char) : Option (Piece (List Char × List Char)) := do
  let suffix ← tagFrom true .text [] p cs
  if suffix.rest.head? = some '>' && !suffix.value.isEmpty then
    some ⟨([], suffix.value), suffix.rest.drop 1, suffix.position.next⟩
  else none

theorem tagName_eq (cs : List Char) : tagName p cs =
    if cs.head? = some '!' ∧ cs.tail.head? = some '<' then fullTag (p.skip 2) (cs.drop 2)
    else (tagHandle p cs).bind tagSuffix := by
  simp only [tagName]
  split
  · rename_i rest
    refine (Option.bind_congr fun suffix _ => ?_).trans (if_pos ⟨rfl, rfl⟩).symm
    cases h : suffix.rest with
    | nil => simp
    | cons d ds =>
        by_cases hd : d = '>'
        · subst hd
          cases suffix.value.isEmpty <;> rfl
        · simp [hd]
  · rename_i h
    refine (if_neg ?_).symm
    rintro ⟨hfirst, hsecond⟩
    obtain ⟨cs, rfl⟩ := List.head?_eq_some_iff.1 hfirst
    obtain ⟨rest, rfl⟩ := List.head?_eq_some_iff.1 hsecond
    exact h rest rfl

theorem onLine_fullTag (hx : atLineEnd x) (hy : atLineEnd y) :
    Option.Rel (OnLine p q l x y) (fullTag p (l ++ x)) (fullTag q (l ++ y)) := by
  refine rel_bind (onLine_tagFrom hx hy .text []) ?_
  intro a b h
  obtain ⟨hv, taken, left, rfl, ha, hb, hp, hq⟩ := h
  have hclose : isBreak '>' = false := by decide
  rw [hv, ha, hb, hp, hq]
  by_cases hl : (left ++ x).head? = some '>' ∧ b.value.isEmpty = false
  · obtain ⟨hl, hne⟩ := hl
    obtain ⟨left, rfl⟩ := exists_eq_cons hclose hx hl
    simp only [hne, List.cons_append, List.head?_cons, decide_true, Bool.not_false,
      Bool.and_true, if_true]
    refine .some ⟨rfl, taken ++ ['>'], left, ?_, rfl, rfl, ?_, ?_⟩
    · rw [List.append_assoc, List.singleton_append]
    · rw [List.length_append]; rfl
    · rw [List.length_append]; rfl
  · have hl' := hl
    rw [head?_append_iff hclose hx hy] at hl'
    rw [if_neg (by simpa using hl), if_neg (by simpa using hl')]
    exact .none

theorem onLine_tagSuffix {a b : Piece (List Char)} (hx : atLineEnd x) (hy : atLineEnd y)
    (h : OnLine p q l x y a b) :
    Option.Rel (OnLine p q l x y) (tagSuffix a) (tagSuffix b) := by
  obtain ⟨hv, taken, left, rfl, ha, hb, hp, hq⟩ := h
  simp only [tagSuffix]
  rw [hv, ha, hb, hp, hq]
  refine rel_ite Iff.rfl ?_ ?_
  · refine rel_bind (onLine_tagFrom hx hy .text _) ?_
    intro a b h
    obtain ⟨hv, h⟩ := h.after
    rw [hv]
    exact rel_ite Iff.rfl .none (.some ⟨rfl, h⟩)
  · refine rel_bind (onLine_tagFrom hx hy .text _) ?_
    intro a b h
    obtain ⟨hv, h⟩ := h.after
    rw [hv]
    exact .some ⟨rfl, h⟩

/-- A tag ends with the line. -/
theorem onLine_tagAt {flow : Bool} (hx : atLineEnd x) (hy : atLineEnd y) :
    Option.Rel (OnLine p q l x y) (tagAt flow p (l ++ x)) (tagAt flow q (l ++ y)) := by
  have hname : Option.Rel (OnLine p q l x y) (tagName p (l ++ x)) (tagName q (l ++ y)) := by
    rw [tagName_eq, tagName_eq]
    have hmark : isBreak '!' = false := by decide
    have hopen : isBreak '<' = false := by decide
    by_cases hfirst : (l ++ x).head? = some '!'
    · obtain ⟨k, rfl⟩ := exists_eq_cons hmark hx hfirst
      by_cases hsecond : (k ++ x).head? = some '<'
      · obtain ⟨m, rfl⟩ := exists_eq_cons hopen hx hsecond
        rw [if_pos ⟨rfl, rfl⟩, if_pos ⟨rfl, rfl⟩]
        exact rel_mono (onLine_fullTag hx hy) fun _ _ h => h.after ['!', '<']
      · rw [if_neg (hsecond ·.2), if_neg (mt (head?_append_iff hopen hx hy).2 hsecond ·.2)]
        exact rel_bind (onLine_tagHandle hx hy) fun _ _ h => onLine_tagSuffix hx hy h
    · rw [if_neg (hfirst ·.1), if_neg (mt (head?_append_iff hmark hx hy).2 hfirst ·.1)]
      exact rel_bind (onLine_tagHandle hx hy) fun _ _ h => onLine_tagSuffix hx hy h
  refine rel_filter hname ?_
  intro a b h
  obtain ⟨-, taken, left, rfl, ha, hb, -, -⟩ := h
  have hcomma : ((left ++ x).head? == some ',') = ((left ++ y).head? == some ',') := by
    rw [Bool.eq_iff_iff, beq_iff_eq, beq_iff_eq]
    exact head?_append_iff (by decide) hx hy
  rw [ha, hb, startsBlank_append hx hy, hcomma]

theorem onLine_skipBlanks (hx : atLineEnd x) (hy : atLineEnd y) :
    ∃ taken left, l = taken ++ left ∧
      skipBlanks p (l ++ x) = (left ++ x, p.skip taken.length) ∧
      skipBlanks q (l ++ y) = (left ++ y, q.skip taken.length) := by
  have blank := fun c => @isBlank_of_isBreak c
  refine ⟨l.takeWhile isBlank, l.dropWhile isBlank, ?_, ?_, ?_⟩
  · rw [List.takeWhile_append_dropWhile]
  · rw [skipBlanks, takeWhile_append blank hx, dropWhile_append blank hx]
  · rw [skipBlanks, takeWhile_append blank hy, dropWhile_append blank hy]

theorem onLine_versionNumber (hx : atLineEnd x) (hy : atLineEnd y) :
    Option.Rel (OnLine p q l x y) (versionNumber p (l ++ x)) (versionNumber q (l ++ y)) := by
  have digit := fun c => @isDigit_of_isBreak c
  simp only [versionNumber]
  rw [takeWhile_append digit hx, takeWhile_append digit hy, dropWhile_append digit hx,
    dropWhile_append digit hy]
  refine rel_ite Iff.rfl .none (.some ⟨rfl, l.takeWhile isDigit, l.dropWhile isDigit, ?_⟩)
  exact ⟨List.takeWhile_append_dropWhile.symm, rfl, rfl, rfl, rfl⟩

/-- What comes after the major number of a version. -/
def versionTail (major : Piece Nat) : Option (Piece Token) :=
  if major.rest.head? = some '.' then
    (versionNumber major.position.next (major.rest.drop 1)).map
      (·.map fun minor => .versionDirective major.value minor)
  else none

theorem versionAt_eq (cs : List Char) : versionAt p cs = (versionNumber p cs).bind versionTail := by
  refine Option.bind_congr fun major _ => ?_
  rw [versionTail]
  cases major.rest with
  | nil => rfl
  | cons d ds =>
      by_cases hd : d = '.'
      · subst hd
        cases h : versionNumber major.position.next ds <;> simp [h, Piece.map]
      · simp [hd]

theorem onLine_versionAt (hx : atLineEnd x) (hy : atLineEnd y) :
    Option.Rel (OnLine p q l x y) (versionAt p (l ++ x)) (versionAt q (l ++ y)) := by
  have hdot : isBreak '.' = false := by decide
  rw [versionAt_eq, versionAt_eq]
  refine rel_bind (onLine_versionNumber hx hy) ?_
  intro a b h
  obtain ⟨hv, taken, left, rfl, ha, hb, hp, hq⟩ := h
  simp only [versionTail]
  rw [hv, ha, hb, hp, hq]
  by_cases hl : (left ++ x).head? = some '.'
  · rw [if_pos hl, if_pos ((head?_append_iff hdot hx hy).1 hl)]
    obtain ⟨left, rfl⟩ := exists_eq_cons hdot hx hl
    refine rel_map (onLine_versionNumber hx hy) ?_
    intro a b h
    exact (h.map _).next.after
  · rw [if_neg hl, if_neg (mt (head?_append_iff hdot hx hy).2 hl)]
    exact .none

theorem onLine_tagShorthandAt (hx : atLineEnd x) (hy : atLineEnd y) :
    Option.Rel (OnLine p q l x y) (tagShorthandAt p (l ++ x)) (tagShorthandAt q (l ++ y)) := by
  refine rel_bind (onLine_tagHandle hx hy) ?_
  intro a b h
  obtain ⟨hv, taken, left, rfl, ha, hb, hp, hq⟩ := h
  rw [hv, ha, hb, hp, hq, head?_any_append (fun c => @isBlank_of_isBreak c) hx hy]
  refine rel_ite Iff.rfl ?_ .none
  -- handle, blanks and start follow each other on one line
  obtain ⟨blanks, left, rfl, ha, hb⟩ :=
    onLine_skipBlanks (p := p.skip taken.length) (q := q.skip taken.length) (l := left) hx hy
  simp only [ha, hb]
  refine rel_bind (onLine_tagFrom hx hy .text []) ?_
  intro a b h
  obtain ⟨hv, more, left, rfl, ha, hb, hp, hq⟩ := h
  rw [hv, ha, hb, hp, hq, startsBlank_append hx hy]
  refine rel_ite Iff.rfl .none (.some ?_)
  refine OnLine.after _ (OnLine.after _ ⟨rfl, more, left, rfl, rfl, rfl, rfl, rfl⟩)

/-- What a directive says, without the rest of its line. -/
def directiveText (p : Position) (cs : List Char) : Option (Piece Token) :=
  let name := nameAt p cs
  let blanks := skipBlanks name.position name.rest
  if !startsBlank name.rest then none
  else if name.value = ['Y', 'A', 'M', 'L'] then versionAt blanks.2 blanks.1
  else if name.value = ['T', 'A', 'G'] then tagShorthandAt blanks.2 blanks.1
  else none

theorem directiveAt_eq (cs : List Char) : directiveAt p cs =
    (directiveText p cs).bind fun a =>
      (skipRestOfLine false a.position a.rest).map fun b => ⟨a.value, b.1, b.2⟩ := by
  have go (a : Option (Piece Token)) : (a.bind fun piece =>
      (skipRestOfLine false piece.position piece.rest).bind fun b =>
        some (⟨piece.value, b.1, b.2⟩ : Piece Token)) = a.bind fun a =>
      (skipRestOfLine false a.position a.rest).map fun b => ⟨a.value, b.1, b.2⟩ := by
    refine Option.bind_congr fun a _ => ?_
    cases skipRestOfLine false a.position a.rest <;> rfl
  rw [directiveAt, directiveText]
  exact ite_eq_bind rfl (ite_eq_bind (go _) (ite_eq_bind (go _) rfl))

theorem onLine_directiveText (hx : atLineEnd x) (hy : atLineEnd y) :
    Option.Rel (OnLine p q l x y) (directiveText p (l ++ x)) (directiveText q (l ++ y)) := by
  have h : OnLine p q l x y (nameAt p (l ++ x)) (nameAt q (l ++ y)) := onLine_nameAt hx hy
  obtain ⟨hv, taken, left, rfl, ha, hb, hp, hq⟩ := h
  simp only [directiveText]
  obtain ⟨blanks, left, rfl, ha', hb'⟩ :=
    onLine_skipBlanks (p := p.skip taken.length) (q := q.skip taken.length) (l := left) hx hy
  simp only [hv, ha, hb, hp, hq, ha', hb', startsBlank_append hx hy]
  refine rel_ite Iff.rfl .none (rel_ite Iff.rfl ?_ (rel_ite Iff.rfl ?_ .none))
  · exact rel_mono (onLine_versionAt hx hy) fun _ _ h => h.after.after
  · exact rel_mono (onLine_tagShorthandAt hx hy) fun _ _ h => h.after.after

theorem blockHeader_cons {a : Char} (hx : atLineEnd x) :
    blockHeader (a :: x) = blockHeader [a] := by
  cases x with
  | nil => rfl
  | cons c x =>
      rcases eq_of_isBreak hx with rfl | rfl | rfl | rfl | rfl <;>
        cases h : chomping? a <;> simp [blockHeader, h] <;> rfl

/-- The header of a block scalar ends with the line. -/
theorem blockHeader_append (hx : atLineEnd x) (hy : atLineEnd y) :
    blockHeader (l ++ x) = blockHeader (l ++ y) := by
  have header {z : List Char} (hz : atLineEnd z) : blockHeader z = some (⟨.clip, 0⟩, 0) := by
    cases z with
    | nil => rfl
    | cons c z => rcases eq_of_isBreak hz with rfl | rfl | rfl | rfl | rfl <;> rfl
  match l with
  | [] => rw [List.nil_append, List.nil_append, header hx, header hy]
  | [a] => exact (blockHeader_cons hx).trans (blockHeader_cons hy).symm
  | a :: b :: l => rfl

theorem blockHeader_le {header : BlockHeader} {n : Nat} (h : blockHeader l = some (header, n)) :
    n ≤ l.length := by
  match l with
  | [] => grind [blockHeader]
  | [a] => grind [blockHeader]
  | a :: b :: l => grind [blockHeader]

end TestCluster.Yaml
