import TestCluster.Proofs.WordGaps

/-!
# Alignment — a text beside what is left of it

    Two texts run side by side. Over a stretch they say the same; between two stretches one of
    them has a gap that the other leaves out. Where a gap is skipped in both, both readers
    stand before the same word, or both at the end.
-/

namespace TestCluster.Yaml

/-- What both texts have up to the next place where they differ. -/
structure Stretch (u u' z z' : List Char) : Prop where
  respelled : Respelled u u'
  cut : CutAt u z
  cut' : CutAt u' z'
  /-- It ends with a line, or with a text that lacks its last line end. -/
  ends : EndsBroken u ∨ (z = [] ∧ z' = ['\n'])

/-- The texts from a place on where they differ, which `T` and `K` tell of every such place. -/
inductive Apart (T K : List Char → Prop) : List Char → List Char → Prop
  | done : Apart T K [] []
  /-- The second text ends the last line of the first. -/
  | feed (k : K ['\n']) : Apart T K [] ['\n']
  /-- The first text has a gap that the second leaves out. -/
  | drop {d u u' z z' : List Char} (t : T (d ++ (u ++ z))) (k : K (u' ++ z'))
      (gap : (skipAll false .start d).1 = [])
      (line : EndsBroken d ∧ d ≠ [] ∧ CutAt d (u ++ z) ∨ u ++ z = [] ∧ u' ++ z' = [])
      (stretch : Stretch u u' z z') (next : Apart T K z z') :
      Apart T K (d ++ (u ++ z)) (u' ++ z')

/-- The texts from the start of a word on, or at their ends. -/
inductive Ahead (T K : List Char → Prop) : List Char → List Char → Prop
  | done : Ahead T K [] []
  | word {c : Char} {u u' z z' : List Char} (char : isBreak c = false)
      (stretch : Stretch (c :: u) (c :: u') z z') (next : Apart T K z z') :
      Ahead T K (c :: (u ++ z)) (c :: (u' ++ z'))

/-- What is left after a gap that starts at `p` in the first text and at `q` in the second. If
    they are `fresh`, both start a line there that the other need not end. -/
def Lands (T K : List Char → Prop) (p q : Position) (fresh : Prop)
    (x y : List Char × Position) : Prop :=
  Ahead T K x.1 y.1 ∧ (x.1 ≠ [] → x.2.column = y.2.column ∧ (AsFar p x.2 q y.2 ∨ fresh))

theorem EndsBroken.cons {c : Char} {u : List Char} (h : EndsBroken u)
    (hc : u = [] → isBreak c = true) : EndsBroken (c :: u) := by
  cases u with
  | nil =>
      rintro _ ⟨⟩
      exact hc rfl
  | cons d u => exact h

/-- Both spellings end with a line. -/
theorem EndsBroken.respelled {u u' : List Char} (h : EndsBroken u) (hu : Respelled u u') :
    EndsBroken u' := by
  induction hu with
  | nil => exact h
  | @char c cs ds lone rest ih =>
      refine (ih h.of_cons).cons ?_
      intro hnil
      subst hnil
      cases rest
      exact h c rfl
  | feed rest ih => exact (ih h.of_cons.of_cons).cons fun _ => rfl
  | last => exact EndsBroken.cons (u := []) nofun fun _ => rfl

section Landing

variable {T K T' K' : List Char → Prop} {u u' z z' : List Char} {p q : Position}
  {comment : Bool} {fresh : Prop}

theorem Apart.mono (h : Apart T K z z') (hT : ∀ x, T x → T' x) (hK : ∀ x, K x → K' x) :
    Apart T' K' z z' := by
  induction h with
  | done => exact .done
  | feed k => exact .feed (hK _ k)
  | drop t k gap line stretch _ ih => exact .drop (hT _ t) (hK _ k) gap line stretch ih

theorem Ahead.mono (h : Ahead T K z z') (hT : ∀ x, T x → T' x) (hK : ∀ x, K x → K' x) :
    Ahead T' K' z z' := by
  cases h with
  | done => exact .done
  | word char stretch next => exact .word char stretch (next.mono hT hK)

theorem Apart.left (h : Apart T K z z') : z = [] ∨ T z := by
  cases h with
  | done | feed => exact .inl rfl
  | drop t => exact .inr t

theorem Apart.right (h : Apart T K z z') : z' = [] ∨ K z' := by
  cases h with
  | done => exact .inl rfl
  | feed k | drop _ k => exact .inr k

theorem Ahead.eq_nil (h : Ahead T K z []) : z = [] := by
  cases h
  rfl

theorem Ahead.eq_nil' (h : Ahead T K [] z') : z' = [] := by
  cases h
  rfl

theorem Respelled.eq_nil_iff (h : Respelled u u') : u = [] ↔ u' = [] := by
  cases h <;> simp

theorem Stretch.of_suffix {v v' : List Char} (h : Stretch u u' z z') (hv : v <:+ u)
    (hv' : v' <:+ u') (hvv : Respelled v v') : Stretch v v' z z' :=
  ⟨hvv, h.cut.of_suffix hv, h.cut'.of_suffix hv', h.ends.imp_left fun h => h.of_suffix hv⟩

theorem lands_of_nil {x y : List Char × Position} (hx : x.1 = []) (hy : y.1 = []) :
    Lands T K p q fresh x y := by
  refine ⟨?_, fun h => absurd hx h⟩
  rw [hx, hy]
  exact .done

/-- Over a stretch both texts land before the same word, or at its end, if they do so after
    it. -/
theorem lands_stretch (fresh : Prop) (comment : Bool) (h : Stretch u u' z z')
    (hz : Apart T K z z') (hpq : p.column = q.column)
    (hnil : u = [] → (fresh ∧ p.column = 0 ∧ comment = false) ∨ (z = [] ∧ z' = ['\n']))
    (next : ∀ p q : Position, p.column = 0 → q.column = 0 →
      Lands T K p q True (skipAll false p z) (skipAll false q z')) :
    Lands T K p q fresh (skipAll comment p (u ++ z)) (skipAll comment q (u' ++ z')) := by
  have hplace := alike_skipAll h.respelled hpq comment
  by_cases hrest : (skipAll comment p u).1 = []
  -- nothing is left of the stretch: a word follows after the gap, or nothing does
  · have hrest' := hplace.rest.eq_nil_iff.1 hrest
    rcases h.ends with hends | ⟨rfl, rfl⟩
    · by_cases hu : u = []
      · subst hu
        obtain rfl := h.respelled.eq_nil_iff.1 rfl
        rcases hnil rfl with ⟨hfresh, hp, rfl⟩ | ⟨rfl, rfl⟩
        · obtain ⟨hahead, hplace⟩ := next p q hp (hpq ▸ hp)
          exact ⟨hahead, fun hx => ⟨(hplace hx).1, .inr hfresh⟩⟩
        · exact lands_of_nil rfl (skipAll_feed h.cut' rfl)
      · have hu' := mt h.respelled.eq_nil_iff.2 hu
        have hends' := hends.respelled h.respelled
        rw [skipAll_append_of_nil h.cut hends (absurd · hu) hrest,
          skipAll_append_of_nil h.cut' hends' (absurd · hu') hrest']
        obtain ⟨hahead, hnext⟩ := next _ _ (column_skipAll hends hrest (absurd · hu))
          (column_skipAll hends' hrest' (absurd · hu'))
        refine ⟨hahead, fun hx => ⟨(hnext hx).1, .inl (.inr ⟨?_, ?_⟩)⟩⟩
        · exact Nat.lt_of_lt_of_le (line_skipAll hends hu hrest) (counts_skipAll ..).line
        · exact Nat.lt_of_lt_of_le (line_skipAll hends' hu' hrest') (counts_skipAll ..).line
    · rw [List.append_nil]
      exact lands_of_nil hrest (skipAll_feed h.cut' hrest')
  -- a word of the stretch is left, the same in both spellings
  · have hrest' := mt hplace.rest.eq_nil_iff.2 hrest
    rw [skipAll_append_of_ne_nil h.cut hrest, skipAll_append_of_ne_nil h.cut' hrest']
    refine ⟨?_, fun _ => ⟨hplace.column, .inl hplace.far⟩⟩
    have hsuffix := (counts_skipAll comment p u).suffix
    have hsuffix' := (counts_skipAll comment q u').suffix
    have hrespelled := hplace.rest
    obtain ⟨c, v, hv⟩ := List.exists_cons_of_ne_nil hrest
    have hc := isBreak_of_skipAll hv
    rw [hv] at hsuffix hrespelled ⊢
    obtain ⟨v', hv', hvv⟩ := hrespelled.of_cons hc
    rw [hv'] at hsuffix' hrespelled ⊢
    exact .word hc (h.of_suffix hsuffix hsuffix' hrespelled) hz

/-- From a place on where the texts differ, both land before the same word. -/
theorem lands_apart (h : Apart T K z z') (hp : p.column = 0) (hq : q.column = 0) :
    Lands T K p q True (skipAll false p z) (skipAll false q z') := by
  induction h generalizing p q with
  | done | feed => exact lands_of_nil rfl rfl
  | @drop d u u' z z' t k gap line stretch next ih =>
      rw [skipAll_rest false .start p] at gap
      rcases line with ⟨hends, hne, hcut⟩ | ⟨hnil, hnil'⟩
      -- the first reader skips the gap and is at the start of a line, as the second is
      · rw [skipAll_append_of_nil hcut hends (absurd · hne) gap]
        have hcolumn := column_skipAll hends gap (absurd · hne)
        -- by induction both land alike after the stretch
        obtain ⟨hahead, hplace⟩ := lands_stretch True false stretch next
          (hcolumn.trans hq.symm) (fun _ => .inl ⟨trivial, hcolumn, rfl⟩) fun p q hp hq => ih hp hq
        exact ⟨hahead, fun hx => ⟨(hplace hx).1, .inr trivial⟩⟩
      · rw [hnil, hnil', List.append_nil]
        exact lands_of_nil gap rfl

theorem Stretch.isTabFree {keyAllowed comment : Bool} (h : Stretch u u' z z')
    (hnil : u = [] → keyAllowed = true ∧ comment = false)
    (hz : isTabFree true false z = true → isTabFree true false z' = true)
    (hfree : isTabFree keyAllowed comment (u ++ z) = true) :
    isTabFree keyAllowed comment (u' ++ z') = true :=
  isTabFree_respelled h.respelled h.cut h.cut' (fun hu => .inl (hnil hu)) hz hfree

theorem Stretch.isTabFree_white (h : Stretch u u' z z')
    (hz : Yaml.isTabFree true false z = true → Yaml.isTabFree true false z' = true)
    (hwhite : Yaml.isTabFree true false (skipWhite p z).1 = true →
      Yaml.isTabFree true false (skipWhite q z').1 = true)
    (hfree : Yaml.isTabFree true false (skipWhite p (u ++ z)).1 = true) :
    Yaml.isTabFree true false (skipWhite q (u' ++ z')).1 = true := by
  have hrest := respelled_skipWhite (p := p) (q := q) h.respelled
  by_cases hu : (skipWhite p u).1 = []
  · rw [skipWhite_append_of_nil h.cut hu] at hfree
    rw [skipWhite_append_of_nil h.cut' (hrest.eq_nil_iff.1 hu)]
    exact hwhite hfree
  · rw [skipWhite_append_of_ne_nil h.cut hu] at hfree
    rw [skipWhite_append_of_ne_nil h.cut' (mt hrest.eq_nil_iff.2 hu)]
    exact (h.of_suffix (suffix_skipWhite p u) (suffix_skipWhite q u') hrest).isTabFree
      (absurd · hu) hz hfree

/-- If the first reader gets over its tabs from a place on where the texts differ, the second
    does. -/
theorem Apart.isTabFree {keyAllowed : Bool} (h : Apart T K z z')
    (hfree : isTabFree keyAllowed false z = true) : isTabFree keyAllowed false z' = true := by
  induction h generalizing keyAllowed with
  | done | feed => rfl
  | @drop d u u' z z' t k gap line stretch next ih =>
      rcases line with ⟨hends, hne, hcut⟩ | ⟨hnil, hnil'⟩
      · refine isTabFree_of_true (stretch.isTabFree (fun _ => ⟨rfl, rfl⟩) ih ?_)
        exact isTabFree_of_gap hcut hends hne gap hfree
      · rw [hnil']
        rfl

/-- The same after what is white there. -/
theorem Apart.isTabFree_white (h : Apart T K z z')
    (hfree : Yaml.isTabFree true false (skipWhite p z).1 = true) :
    Yaml.isTabFree true false (skipWhite q z').1 = true := by
  induction h with
  | done | feed => rfl
  | @drop d u u' z z' t k gap line stretch next ih =>
      rcases line with ⟨hends, hne, hcut⟩ | ⟨hnil, hnil'⟩
      · by_cases hd : (skipWhite p d).1 = []
        · rw [skipWhite_append_of_nil hcut hd] at hfree
          exact stretch.isTabFree_white next.isTabFree ih hfree
        · -- the gap has a comment, after which both readers have to get over the same tabs
          rw [skipWhite_append_of_ne_nil hcut hd] at hfree
          have hsuffix := suffix_skipWhite p d
          rw [skipAll_rest false .start p, ← skipAll_skipWhite] at gap
          have hfree := isTabFree_of_gap (hcut.of_suffix hsuffix) (hends.of_suffix hsuffix) hd gap
            hfree
          exact isTabFree_skipWhite (stretch.isTabFree (fun _ => ⟨rfl, rfl⟩) next.isTabFree hfree)
      · rw [hnil']
        rfl

end Landing

/-- A text and what is left of it run side by side from their starts on. -/
def Aligned (T K : List Char → Prop) (cs ds : List Char) : Prop :=
  ∃ u u' z z', cs = u ++ z ∧ ds = u' ++ z' ∧ Stretch u u' z z' ∧ Apart T K z z'

theorem EndsBroken.append {l u : List Char} (hl : EndsBroken l) (hu : EndsBroken u) :
    EndsBroken (l ++ u) := by
  intro c hc
  rw [List.getLast?_append, Option.or_eq_some_iff] at hc
  rcases hc with hc | ⟨-, hc⟩
  · exact hu c hc
  · exact hl c hc

theorem CutAt.append {l u z : List Char} (hl : CutAt l z) (hu : CutAt u z) :
    CutAt (l ++ u) z := by
  intro c hc
  rw [List.getLast?_append, Option.or_eq_some_iff] at hc
  rcases hc with hc | ⟨-, hc⟩
  · exact hu c hc
  · exact hl c hc

theorem endsBroken_concat {c : Char} (hc : isBreak c = true) (l : List Char) :
    EndsBroken (l ++ [c]) := by
  intro d hd
  rw [List.getLast?_concat] at hd
  exact Option.some.inj hd ▸ hc

theorem cutAt_feed (l z : List Char) : CutAt (l ++ ['\n']) z := by
  intro d hd
  rw [List.getLast?_concat] at hd
  obtain rfl := Option.some.inj hd
  exact ⟨.inl rfl, nofun⟩

theorem cutAt_return {z : List Char} (hz : z.head? ≠ some '\n') (l : List Char) :
    CutAt (l ++ ['\r']) z := by
  intro d hd
  rw [List.getLast?_concat] at hd
  obtain rfl := Option.some.inj hd
  exact ⟨.inl rfl, fun _ => hz⟩

/-- A line without its end is the same in both spellings. -/
theorem Respelled.line_append {l cs ds : List Char} (h : Respelled cs ds) (hfeed : '\n' ∉ l)
    (hreturn : l.getLast? ≠ some '\r') : Respelled (l ++ cs) (l ++ ds) := by
  induction l with
  | nil => exact h
  | cons c l ih =>
      rw [List.mem_cons, not_or] at hfeed
      cases l with
      | nil => exact .char (fun hc => absurd (congrArg some hc) hreturn) h
      | cons d l =>
          have hd : some d ≠ some '\n' := by
            intro hd
            rw [Option.some.inj hd] at hfeed
            exact hfeed.2 List.mem_cons_self
          exact .char (fun _ => ⟨hd, hd⟩) (ih hfeed.2 hreturn)

section Lines

variable {T K : List Char → Prop} {l cs ds : List Char}

theorem Apart.aligned (h : Apart T K cs ds) : Aligned T K cs ds :=
  ⟨[], [], cs, ds, rfl, rfl, ⟨.nil, nofun, nofun, .inl nofun⟩, h⟩

/-- A gap that is left out, before texts that run side by side. -/
theorem Aligned.apart {d : List Char} (h : Aligned T K cs ds) (t : T (d ++ cs)) (k : K ds)
    (gap : (skipAll false .start d).1 = [])
    (line : EndsBroken d ∧ d ≠ [] ∧ CutAt d cs ∨ cs = [] ∧ ds = []) : Apart T K (d ++ cs) ds := by
  obtain ⟨u, u', z, z', rfl, rfl, hstretch, hapart⟩ := h
  exact .drop t k gap line hstretch hapart

/-- A line that is kept, before texts that run side by side. -/
theorem Aligned.line {e : List Char} (h : Aligned T K cs ds) (he : e = ['\n'] ∨ e = ['\r', '\n'])
    (hfeed : '\n' ∉ l) (hreturn : l.getLast? ≠ some '\r') :
    Aligned T K (l ++ e ++ cs) (l ++ ['\n'] ++ ds) := by
  obtain ⟨u, u', z, z', rfl, rfl, hstretch, hapart⟩ := h
  refine ⟨l ++ e ++ u, l ++ ['\n'] ++ u', z, z', (List.append_assoc ..).symm,
    (List.append_assoc ..).symm, ⟨?_, ?_, (cutAt_feed _ _).append hstretch.cut', ?_⟩, hapart⟩
  · rw [List.append_assoc, List.append_assoc]
    refine Respelled.line_append ?_ hfeed hreturn
    rcases he with rfl | rfl
    · exact .char nofun hstretch.respelled
    · exact .feed hstretch.respelled
  · rcases he with rfl | rfl
    · exact (cutAt_feed _ _).append hstretch.cut
    · rw [List.append_cons l]
      exact (cutAt_feed _ _).append hstretch.cut
  · refine hstretch.ends.imp_left ?_
    intro hends
    rcases he with rfl | rfl
    · exact (endsBroken_concat rfl l).append hends
    · rw [List.append_cons l]
      exact (endsBroken_concat rfl _).append hends

/-- A line that ends in a carriage return, before a place where the texts differ. -/
theorem Apart.line (h : Apart T K cs ds) (hcs : cs.head? ≠ some '\n')
    (hfeed : '\n' ∉ l) (hreturn : l.getLast? ≠ some '\r') :
    Aligned T K (l ++ ['\r'] ++ cs) (l ++ ['\n'] ++ ds) :=
  ⟨_, _, cs, ds, rfl, rfl, ⟨Respelled.last.line_append hfeed hreturn, cutAt_return hcs l,
    cutAt_feed l ds, .inl (endsBroken_concat rfl l)⟩, h⟩

/-- The last line, of which no end is written. -/
theorem aligned_last (k : K ['\n']) (hfeed : '\n' ∉ l) (hreturn : l.getLast? ≠ some '\r') :
    Aligned T K l (l ++ ['\n']) := by
  refine ⟨l, l, [], ['\n'], (List.append_nil l).symm, rfl, ⟨?_, ?_, ?_, .inr ⟨rfl, rfl⟩⟩, .feed k⟩
  · have hline := Respelled.nil.line_append hfeed hreturn
    rwa [List.append_nil] at hline
  · exact fun c _ => ⟨.inr (.inl rfl), fun _ => nofun⟩
  · intro c hc
    exact ⟨.inr (.inr rfl), fun hr => absurd (hr ▸ hc) hreturn⟩

end Lines

end TestCluster.Yaml
