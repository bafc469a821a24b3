import TestCluster.Proofs.Alignment
import TestCluster.Proofs.Announcements

/-!
# Side by side — the reader of a text and the reader of what is left of it

    Both readers stand before the same word. If the word says the same when the texts are cut
    where they next differ, then both read it, keep the same after it, and skip what comes
    then up to the same next word. So the second reader puts on the tokens of the first one.
-/

namespace TestCluster.Yaml

theorem Word.Agrees.symm {v w : Word} (h : v.Agrees w) : w.Agrees v := by
  rcases h with rfl | ⟨token, k, k', rfl, rfl⟩
  · exact .inl rfl
  · exact .inr ⟨token, k', k, rfl, rfl⟩

theorem Word.Agrees.trans {u v w : Word} (h : u.Agrees v) (h' : v.Agrees w) : u.Agrees w := by
  rcases h with rfl | ⟨token, k, k', rfl, rfl⟩
  · exact h'
  · rcases h' with rfl | ⟨_, _, k'', hv, rfl⟩
    · exact .inr ⟨token, k, k', rfl, rfl⟩
    · obtain ⟨rfl, -⟩ := Word.node.inj hv
      exact .inr ⟨token, k, k'', rfl, rfl⟩

theorem Word.Agrees.eq_level {w : Word} {token : Token} (h : (Word.level token).Agrees w) :
    w = .level token := by
  rcases h with rfl | ⟨_, _, _, hw, -⟩
  · rfl
  · cases hw

namespace TokenReader

variable {r r' : TokenReader} {c : Char} {u z : List Char}

/-- A word of the text, and what is read of it if the text is cut. -/
structure Cut (r : TokenReader) (c : Char) (u z : List Char) (a b : Piece Word)
    (q : TokenReader) : Prop where
  cut : wordAt r.inFlow r.columns r.position c u = some a
  whole : wordAt r.inFlow r.columns r.position c (u ++ z) = some b
  put : r.put b.value = some q
  word : r.word? = some (q.after b)
  extends' : Extends a.value.takesWhite z a b
  agrees : a.value.Agrees b.value
  value : b.value = a.value ∨ b.rest = []

/-- A word that says the same in the cut text is read in both. -/
theorem exists_cut (hr : r.rest = c :: (u ++ z)) (hc : isBreak c = false) (hz : CutAt (c :: u) z)
    (hwhole : r.isWhole z = true)
    (hread : r.word?.isSome = true ∨ (r.withRest (c :: u)).word?.isSome = true) :
    ∃ a b q, r.Cut c u z a b q := by
  have htokens := (isWhole_iff hr).1 hwhole
  -- the tokens are the same, so either both readers go on or neither does
  have hboth : ∃ x y, r.word? = some x ∧ (r.withRest (c :: u)).word? = some y ∧
      x.reversed = y.reversed := by
    simp only [wordTokens?] at htokens
    generalize r.word? = o, (r.withRest (c :: u)).word? = o' at htokens hread
    cases o <;> cases o'
    · simp at hread
    · cases htokens
    · cases htokens
    · exact ⟨_, _, rfl, rfl, Option.some.inj htokens⟩
  obtain ⟨x, y, hx, hy, hxy⟩ := hboth
  obtain ⟨b, q, hb, hq, rfl⟩ := word?_eq_some hr hx
  obtain ⟨a, s, ha, hs, rfl⟩ := word?_eq_some (r := r.withRest (c :: u)) rfl hy
  obtain ⟨us, -, hus⟩ := grows_put hq
  obtain ⟨vs, -, hvs⟩ := grows_put hs
  -- the token put on last is the word's
  have htoken : b.value.token = a.value.token := by
    have hheads : b.value.token :: us = a.value.token :: vs := by
      rw [← hus, ← hvs]
      exact hxy
    exact (List.cons.inj hheads).1
  obtain ⟨hextends, hagrees, hvalue⟩ := extends_wordAt hz hc a ha b hb htoken
  exact ⟨a, b, q, ha, hb, hq, hx, hextends, hagrees, hvalue⟩

/-- What both readers keep after words that agree, if they keep the same before. Before a
    directive or marker it does not count whether a key may start. -/
theorem SameOpen.put_agrees {v w w' : Word} (h : SameOpen r.position r'.position r r')
    (hcolumn : r.position.column = r'.position.column)
    (hkey : r.keyAllowed = r'.keyAllowed ∨ ∃ token, v = .level token)
    (hw : v.Agrees w) (hw' : v.Agrees w') :
    Option.Rel (SameOpen r.position r'.position) (r.put w) (r'.put w') := by
  rcases hkey with hkey | ⟨token, rfl⟩
  · exact SameState.put_agrees ⟨h, hkey⟩ hcolumn (hw.symm.trans hw')
  · rw [hw.eq_level, hw'.eq_level]
    exact rel_mono (h.put_level token) fun _ _ hq => hq.toSameOpen

theorem SameOpen.put_same {v w : Word} (h : SameOpen r.position r'.position r r')
    (hcolumn : r.position.column = r'.position.column)
    (hkey : r.keyAllowed = r'.keyAllowed ∨ ∃ token, v = .level token) (hw : v.Agrees w) :
    Option.Rel (SameState r.position r'.position) (r.put w) (r'.put w) := by
  rcases hkey with hkey | ⟨token, rfl⟩
  · exact SameState.put ⟨h, hkey⟩ hcolumn w
  · rw [hw.eq_level]
    exact h.put_level token

/-- Both readers read the same word, cut and whole. -/
structure Both (r r' : TokenReader) (c : Char) (u u' z z' : List Char) (a a' b b' : Piece Word)
    (q q' : TokenReader) : Prop where
  left : r.Cut c u z a b q
  right : r'.Cut c u' z' a' b' q'
  alike : Alike r.position r'.position a a'
  opened : SameOpen r.position r'.position q q'
  state : b.value = b'.value → SameState r.position r'.position q q'

/-- What the first reader reads, the second one does. -/
theorem exists_both {u' z' : List Char} {x : TokenReader} (hr : r.rest = c :: (u ++ z))
    (hr' : r'.rest = c :: (u' ++ z')) (hc : isBreak c = false)
    (hstretch : Stretch (c :: u) (c :: u') z z') (hcolumn : r.position.column = r'.position.column)
    (hopen : SameOpen r.position r'.position r r')
    (hkey : r.keyAllowed = r'.keyAllowed ∨ EndsWithDirective r.reversed)
    (hwhole : r.isWhole z = true) (hwhole' : r'.isWhole z' = true) (hx : r.word? = some x)
    (hannounced : Announced x.reversed.reverse) :
    ∃ a a' b b' q q', Both r r' c u u' z z' a a' b b' q q' := by
  obtain ⟨a, b, q, hcut⟩ := exists_cut hr hc hstretch.cut hwhole (.inl (hx ▸ rfl))
  obtain ⟨u'', hu'', hrespelled⟩ := hstretch.respelled.of_cons hc
  obtain rfl : u' = u'' := (List.cons.inj hu'').2
  -- after a directive only an announcement comes, for which it does not count where keys start
  have hkey' : r.keyAllowed = r'.keyAllowed ∨ ∃ token, a.value = .level token := by
    refine hkey.imp_right ?_
    intro hends
    obtain rfl : x = q.after b := Option.some.inj (hx.symm.trans hcut.word)
    obtain ⟨token, htoken⟩ := level_of_announces b hcut.whole
      (announces_of_put hcut.put hends hannounced)
    have hagrees := hcut.agrees.symm
    rw [htoken] at hagrees
    exact ⟨token, hagrees.eq_level⟩
  have halike := alike_wordAt r.inFlow r.columns hc hrespelled hcolumn
  rw [hcut.cut, hopen.inFlow, hopen.columns] at halike
  obtain ⟨a', ha', halike⟩ := rel_some halike
  -- the second reader reads the word of the cut text, so it reads the whole word
  have hread : (r'.withRest (c :: u')).word?.isSome = true := by
    have hsame : SameOpen r.position (r'.withRest (c :: u')).position r (r'.withRest (c :: u')) :=
      ⟨hopen.columns, hopen.reversed, hopen.possibleKey, hopen.outerKeys⟩
    have hput := hsame.put_agrees hcolumn hkey' hcut.agrees (.inl halike.1)
    rw [hcut.put] at hput
    obtain ⟨q', hq', -⟩ := rel_some hput
    have hword : wordAt (r'.withRest (c :: u')).inFlow (r'.withRest (c :: u')).columns
        (r'.withRest (c :: u')).position c u' = some a' := ha'
    rw [word?_eq rfl, hword, Option.bind_some, hq']
    rfl
  obtain ⟨a'', b', q', hcut'⟩ := exists_cut hr' hc hstretch.cut' hwhole' (.inr hread)
  obtain rfl : a' = a'' := Option.some.inj (ha'.symm.trans hcut'.cut)
  have hagrees' : a.value.Agrees b'.value := halike.1 ▸ hcut'.agrees
  refine ⟨a, a', b, b', q, q', hcut, hcut', halike, ?_, fun hb => ?_⟩
  · have hput := hopen.put_agrees hcolumn hkey' hcut.agrees hagrees'
    rw [hcut.put, hcut'.put] at hput
    cases hput with
    | some hq => exact hq
  · have hput := hopen.put_same hcolumn hkey' hcut.agrees
    rw [hcut.put, hb, hcut'.put] at hput
    cases hput with
    | some hq => exact hq

/-- Two readers before the same word, or at the ends of their texts. -/
structure Meet (T K : List Char → Prop) (r r' : TokenReader) : Prop where
  ahead : Ahead T K r.rest r'.rest
  opened : ∃ p q, SameOpen p q r r'
  word : r.rest ≠ [] → r.position.column = r'.position.column ∧
    SameOpen r.position r'.position r r' ∧
    (r.keyAllowed = r'.keyAllowed ∨ EndsWithDirective r.reversed)

/-- The reader before the next word, if it gets over the tabs. -/
theorem toNextToken_eq (hmark : Unmarked r.position r.rest)
    (h : r.inFlow = true ∨ isTabFree r.keyAllowed false r.rest = true) :
    r.toNextToken =
      { r with
        rest := (skipAll false r.position r.rest).1
        position := (skipAll false r.position r.rest).2
        keyAllowed := r.keyAllowed ||
          !r.inFlow && decide (r.position.line < (skipAll false r.position r.rest).2.line) } := by
  rw [toNextToken, skipGap_eq hmark h]

/-- A reader that is not before a tab got over those before it. -/
theorem isTabFree_of_toNextToken (hmark : Unmarked r.position r.rest)
    (h : r.toNextToken.rest.head? ≠ some '\t') :
    r.inFlow = true ∨ isTabFree r.keyAllowed false r.rest = true := by
  by_contra hno
  rw [not_or, Bool.not_eq_true, Bool.not_eq_true] at hno
  refine h ?_
  rw [toNextToken, hno.1]
  exact skipGap_of_tab hmark hno.2

/-- Two readers meet before the next word if their texts go on with it, and if the second
    gets over its tabs where the first does. -/
theorem meet_toNextToken {T K : List Char → Prop} (hmark : Unmarked r.position r.rest)
    (hmark' : Unmarked r'.position r'.rest) (htab : r.toNextToken.rest.head? ≠ some '\t')
    (htabs : isTabFree r.keyAllowed false r.rest = true →
      isTabFree r'.keyAllowed false r'.rest = true)
    (hahead : Ahead T K (skipAll false r.position r.rest).1 (skipAll false r'.position r'.rest).1)
    (hopen : ∃ p q, SameOpen p q r r')
    (hword : (skipAll false r.position r.rest).1 ≠ [] →
      (skipAll false r.position r.rest).2.column = (skipAll false r'.position r'.rest).2.column ∧
      SameOpen (skipAll false r.position r.rest).2 (skipAll false r'.position r'.rest).2 r r' ∧
      (r.keyAllowed = r'.keyAllowed ∧ (r.keyAllowed = true ∨
        (r.position.line < (skipAll false r.position r.rest).2.line ↔
          r'.position.line < (skipAll false r'.position r'.rest).2.line)) ∨
        EndsWithDirective r.reversed)) :
    Meet T K r.toNextToken r'.toNextToken := by
  have hfree := isTabFree_of_toNextToken hmark htab
  obtain ⟨p, q, hpq⟩ := hopen
  have hfree' : r'.inFlow = true ∨ isTabFree r'.keyAllowed false r'.rest = true := by
    rw [← hpq.inFlow]
    exact hfree.imp_right htabs
  rw [toNextToken_eq hmark hfree, toNextToken_eq hmark' hfree']
  refine ⟨hahead, ⟨p, q, ⟨hpq.columns, hpq.reversed, hpq.possibleKey, hpq.outerKeys⟩⟩, ?_⟩
  intro hne
  obtain ⟨hcolumn, hsame, hkey⟩ := hword hne
  refine ⟨hcolumn, ⟨hsame.columns, hsame.reversed, hsame.possibleKey, hsame.outerKeys⟩, ?_⟩
  refine hkey.imp_left fun ⟨hkey, hline⟩ => ?_
  dsimp only
  rw [← hkey, ← hpq.inFlow]
  -- a key may start after the gap if it could before or if a line has ended
  rcases hline with hline | hline
  · rw [hline, Bool.true_or, Bool.true_or]
  · rw [decide_eq_decide.2 hline]

theorem Cut.unmarked {a b : Piece Word} {q : TokenReader} (h : r.Cut c u z a b q)
    (hc : isBreak c = false) : Unmarked b.position b.rest := by
  have hindex := (takes_wordAt hc b h.whole).counts.index
  intro hzero
  rw [hzero] at hindex
  cases hindex

/-- A word that ends before the cut is the same in the whole text. -/
theorem Cut.of_ne_nil {a b : Piece Word} {q : TokenReader} (h : r.Cut c u z a b q)
    (ha : a.rest ≠ []) : b.rest = a.rest ++ z ∧ b.position = a.position ∧ b.value = a.value := by
  rcases h.extends' with ⟨hrest, hposition, -⟩ | ⟨hnil, -⟩
  · refine ⟨hrest, hposition, h.value.resolve_right fun hb => ?_⟩
    rw [hrest] at hb
    exact ha (List.append_eq_nil_iff.1 hb).1
  · exact absurd hnil ha

section After

variable {T K : List Char → Prop} {u' z' : List Char} {a a' b b' : Piece Word}
  {q q' : TokenReader}

/-- The rest of a stretch after a word. -/
theorem Both.stretch (h : Both r r' c u u' z z' a a' b b' q q') (hc : isBreak c = false)
    (hstretch : Stretch (c :: u) (c :: u') z z') : Stretch a.rest a'.rest z z' :=
  hstretch.of_suffix ((takes_wordAt hc a h.left.cut).counts.suffix.trans (List.suffix_cons c u))
    ((takes_wordAt hc a' h.right.cut).counts.suffix.trans (List.suffix_cons c u')) h.alike.2.rest

/-- After a word that ends before the texts differ, the readers meet before the next one. -/
theorem Both.meet_within (h : Both r r' c u u' z z' a a' b b' q q') (hc : isBreak c = false)
    (hstretch : Stretch (c :: u) (c :: u') z z') (hapart : Apart T K z z') (ha : a.rest ≠ [])
    (htab : (q.after b).toNextToken.rest.head? ≠ some '\t') :
    Meet T K (q.after b).toNextToken (q'.after b').toNextToken := by
  have hrest := h.stretch hc hstretch
  obtain ⟨hb, hp, hv⟩ := h.left.of_ne_nil ha
  obtain ⟨hb', hp', hv'⟩ := h.right.of_ne_nil (mt hrest.respelled.eq_nil_iff.2 ha)
  have hstate := h.state (hv.trans (h.alike.1.trans hv'.symm))
  obtain ⟨hahead, hlands⟩ := lands_stretch False false hrest hapart
    h.alike.2.column (absurd · ha) fun p q hp hq => lands_apart hapart hp hq
  have hfar := h.alike.2.far
  rw [← hb, ← hp, ← hb', ← hp'] at hahead hlands
  rw [← hp, ← hp'] at hfar
  refine meet_toNextToken (h.left.unmarked hc) (h.right.unmarked hc) htab (fun hfree => ?_) hahead
    ⟨_, _, h.opened.after b b'⟩ fun hne => ?_
  · change isTabFree q.keyAllowed false b.rest = true at hfree
    show isTabFree q'.keyAllowed false b'.rest = true
    rw [← hstate.keyAllowed, hb']
    rw [hb] at hfree
    exact hrest.isTabFree (absurd · ha) hapart.isTabFree hfree
  · obtain ⟨hcolumn, hnext⟩ := hlands hne
    have hnext := hnext.resolve_right id
    have hline : b.position.line < (skipAll false b.position b.rest).2.line ↔
        b'.position.line < (skipAll false b'.position b'.rest).2.line := by
      rw [AsFar] at hnext
      omega
    exact ⟨hcolumn, (h.opened.far_on (hfar.trans hnext)).after b b',
      .inl ⟨hstate.keyAllowed, .inr hline⟩⟩

/-- After a word that ends with a line a key may start, unless it is a directive. -/
theorem endsLine_cases {w : Word} (hw : w.endsLine = true) :
    (∃ token, w = .level token ∧ token.isDirective = true) ∨
      ∀ {r q : TokenReader}, r.put w = some q → q.keyAllowed = true := by
  cases w with
  | level token =>
      refine .inl ⟨token, rfl, ?_⟩
      cases token with
      | versionDirective | tagDirective => rfl
      | _ => cases hw
  | node token keyAllowed =>
      refine .inr ?_
      intro r q h
      obtain ⟨s, -, rfl⟩ := Option.map_eq_some_iff.1 h
      exact hw
  | block token =>
      refine .inr ?_
      intro r q h
      obtain ⟨s, -, rfl⟩ := Option.map_eq_some_iff.1 h
      rfl
  | _ => cases hw

/-- Where a word ends at the cut, it takes nothing of what comes then, or what is white. -/
theorem Cut.of_nil (h : r.Cut c u z a b q) (ha : a.rest = []) :
    (a.value.takesWhite = false ∧ b.rest = z ∧ b.position = a.position) ∨
      ((a.value.takesWhite = true ∨ OnlyFeed z) ∧
        (b.rest, b.position) = skipWhite a.position z) := by
  rcases h.extends' with ⟨hrest, hposition, hwhite⟩ | ⟨-, hwhite, hrest⟩
  · rw [ha, List.nil_append] at hrest
    exact .inl ⟨hwhite ha, hrest, hposition⟩
  · exact .inr ⟨hwhite, hrest⟩

theorem Cut.skipAll_eq (h : r.Cut c u z a b q) (ha : a.rest = []) :
    skipAll false b.position b.rest = skipAll false a.position z := by
  rcases h.of_nil ha with ⟨-, hrest, hposition⟩ | ⟨-, hrest⟩
  · rw [hrest, hposition]
  · rw [← skipAll_skipWhite a.position z, ← hrest]

/-- The tabs after a word that ends at the cut are those after the cut. -/
theorem Cut.isTabFree_iff (h : r.Cut c u z a b q) (ha : a.rest = []) (keyAllowed : Bool) :
    isTabFree keyAllowed false b.rest = true ↔
      if a.value.takesWhite then isTabFree keyAllowed false (skipWhite a.position z).1 = true
      else isTabFree keyAllowed false z = true := by
  rcases h.of_nil ha with ⟨hwhite, hrest, -⟩ | ⟨hwhite, hrest⟩
  · rw [hwhite, hrest, if_neg Bool.false_ne_true]
  · rw [show b.rest = (skipWhite a.position z).1 from congrArg Prod.fst hrest]
    rcases hwhite with hwhite | rfl | rfl
    · rw [if_pos hwhite]
    · split <;> exact Iff.rfl
    · split <;> exact Iff.rfl

/-- A directive is the same in all four texts. -/
theorem Both.of_level (h : Both r r' c u u' z z' a a' b b' q q') {token : Token}
    (ha : a.value = .level token) :
    b.value = .level token ∧ SameState r.position r'.position q q' := by
  have hb := h.left.agrees
  have hb' := h.right.agrees
  rw [ha] at hb
  rw [← h.alike.1, ha] at hb'
  exact ⟨hb.eq_level, h.state (hb.eq_level.trans hb'.eq_level.symm)⟩

/-- After a word that ends where the texts differ the second reader gets over the tabs that the
    first one gets over. -/
theorem Both.isTabFree_apart (h : Both r r' c u u' z z' a a' b b' q q')
    (hapart : Apart T K z z') (ha : a.rest = []) (hline : a.value.endsLine = true)
    (hfree : isTabFree q.keyAllowed false b.rest = true) :
    isTabFree q'.keyAllowed false b'.rest = true := by
  have ha' : a'.rest = [] := h.alike.2.rest.eq_nil_iff.1 ha
  rcases endsLine_cases hline with ⟨token, htoken, -⟩ | hkey
  · rw [h.left.isTabFree_iff ha, htoken, (h.of_level htoken).2.keyAllowed] at hfree
    rw [h.right.isTabFree_iff ha', ← h.alike.1, htoken]
    exact hapart.isTabFree hfree
  · have hfree : isTabFree true false b.rest = true := by
      rcases h.left.value with hvalue | hnil
      · rwa [hkey (hvalue ▸ h.left.put)] at hfree
      · rw [hnil]
        rfl
    refine isTabFree_of_true ?_
    rw [h.left.isTabFree_iff ha] at hfree
    rw [h.right.isTabFree_iff ha', ← h.alike.1]
    split at hfree
    · rename_i hwhite
      rw [if_pos hwhite]
      exact hapart.isTabFree_white hfree
    · rename_i hwhite
      rw [if_neg hwhite]
      exact hapart.isTabFree hfree

/-- If a word follows, a key may start before it in both texts, or a directive was read. -/
theorem Both.keyAllowed_apart (h : Both r r' c u u' z z' a a' b b' q q')
    (hline : a.value.endsLine = true) (hne : b.rest ≠ []) (hne' : b'.rest ≠ []) :
    (q.keyAllowed = q'.keyAllowed ∧ q.keyAllowed = true) ∨ EndsWithDirective q.reversed := by
  rcases endsLine_cases hline with ⟨token, htoken, hdirective⟩ | hkey
  · obtain ⟨us, -, hus⟩ := grows_put h.left.put
    refine .inr ⟨token, ?_, hdirective⟩
    rw [hus, (h.of_level htoken).1]
    rfl
  · have hvalue := h.left.value.resolve_right hne
    have hvalue' := (h.right.value.resolve_right hne').trans h.alike.1.symm
    have hq := hkey (hvalue ▸ h.left.put)
    exact .inl ⟨hq.trans (hkey (hvalue' ▸ h.right.put)).symm, hq⟩

/-- After a word that ends where the texts differ a line starts in both, and the readers meet
    before the next word. -/
theorem Both.meet_apart (h : Both r r' c u u' z z' a a' b b' q q') (hc : isBreak c = false)
    (hapart : Apart T K z z') (ha : a.rest = []) (hends : EndsBroken (c :: u))
    (htab : (q.after b).toNextToken.rest.head? ≠ some '\t') :
    Meet T K (q.after b).toNextToken (q'.after b').toNextToken := by
  have ha' : a'.rest = [] := h.alike.2.rest.eq_nil_iff.1 ha
  have htakes := takes_wordAt hc a h.left.cut
  obtain ⟨hcolumn, hline⟩ := htakes.line hends ha
  have hcolumn' : a'.position.column = 0 := h.alike.2.column.symm.trans hcolumn
  -- the word has taken a line end, in both texts, so whatever was remembered is out of reach
  have hlt : r.position.line < a.position.line := by
    refine Nat.lt_of_le_of_ne htakes.counts.line ?_
    intro heq
    have hle := htakes.counts.column heq
    rw [hcolumn] at hle
    cases hle
  have hlt' : r'.position.line < a'.position.line := by
    have hfar := h.alike.2.far
    rw [AsFar] at hfar
    omega
  obtain ⟨hahead, hlands⟩ := lands_apart hapart hcolumn hcolumn'
  have hgap := (counts_skipAll false a.position z).line
  have hgap' := (counts_skipAll false a'.position z').line
  rw [← h.left.skipAll_eq ha] at hgap hahead hlands
  rw [← h.right.skipAll_eq ha'] at hgap' hahead hlands
  have hopen : SameOpen (skipAll false b.position b.rest).2 (skipAll false b'.position b'.rest).2
      (q.after b) (q'.after b') := by
    refine SameOpen.after (h.opened.far_on (.inr ⟨?_, ?_⟩)) b b'
    · exact Nat.lt_of_lt_of_le hlt hgap
    · exact Nat.lt_of_lt_of_le hlt' hgap'
  refine meet_toNextToken (h.left.unmarked hc) (h.right.unmarked hc) htab
    (h.isTabFree_apart hapart ha hline) hahead ⟨_, _, hopen⟩ fun hne => ⟨(hlands hne).1, hopen, ?_⟩
  refine (h.keyAllowed_apart hline (fun hnil => ?_) fun hnil => ?_).imp_left
    fun h => ⟨h.1, .inl h.2⟩
  · change (skipAll false b.position b.rest).1 ≠ [] at hne
    rw [hnil] at hne
    exact hne rfl
  · rw [hnil] at hahead
    exact hne hahead.eq_nil

/-- After a word that ends the first text there is nothing but a line end in the second. -/
theorem Both.meet_feed (h : Both r r' c u u' [] ['\n'] a a' b b' q q') (hc : isBreak c = false)
    (ha : a.rest = []) (htab : (q.after b).toNextToken.rest.head? ≠ some '\t') :
    Meet T K (q.after b).toNextToken (q'.after b').toNextToken := by
  have ha' : a'.rest = [] := h.alike.2.rest.eq_nil_iff.1 ha
  have hnil : (skipAll false b.position b.rest).1 = [] := by
    rw [h.left.skipAll_eq ha]
    rfl
  have hnil' : (skipAll false b'.position b'.rest).1 = [] := by
    rw [h.right.skipAll_eq ha']
    rfl
  refine meet_toNextToken (h.left.unmarked hc) (h.right.unmarked hc) htab (fun _ => ?_) ?_
    ⟨_, _, h.opened.after b b'⟩ (absurd hnil ·)
  · refine (h.right.isTabFree_iff ha' _).2 ?_
    split <;> rfl
  · show Ahead T K (skipAll false b.position b.rest).1 (skipAll false b'.position b'.rest).1
    rw [hnil, hnil']
    exact .done

/-- After a word that both read, they meet before the next one. -/
theorem Both.meet (h : Both r r' c u u' z z' a a' b b' q q') (hc : isBreak c = false)
    (hstretch : Stretch (c :: u) (c :: u') z z') (hapart : Apart T K z z')
    (htab : (q.after b).toNextToken.rest.head? ≠ some '\t') :
    Meet T K (q.after b).toNextToken (q'.after b').toNextToken := by
  by_cases ha : a.rest = []
  · rcases hstretch.ends with hends | ⟨rfl, rfl⟩
    · exact h.meet_apart hc hapart ha hends htab
    · exact h.meet_feed hc ha htab
  · exact h.meet_within hc hstretch hapart ha htab

end After

theorem Meet.mono {T K T' K' : List Char → Prop} (h : Meet T K r r') (hT : ∀ x, T x → T' x)
    (hK : ∀ x, K x → K' x) : Meet T' K' r r' :=
  ⟨h.ahead.mono hT hK, h.opened, h.word⟩

theorem suffix_skipGap (flow keyAllowed comment : Bool) (p : Position) (cs : List Char) :
    (skipGap flow keyAllowed comment p cs).1 <:+ cs := by
  fun_induction skipGap flow keyAllowed comment p cs <;>
    grind [List.suffix_cons, List.IsSuffix.trans]

theorem wordAt_tab {flow : Bool} {columns : List Nat} {p : Position} {cs : List Char} :
    wordAt flow columns p '\t' cs = none := by
  have marker (mark : Char) (hmark : '\t' ≠ mark) : isMarker mark ('\t' :: cs) = false := by
    refine Bool.eq_false_iff.2 ?_
    intro hm
    obtain ⟨rest, hrest⟩ := eq_of_isMarker hm
    exact hmark (List.cons.inj hrest).1
  simp [wordAt, marker, startsPlain]

/-- A reader that goes on is not before a tab. -/
theorem head?_of_tokens {fuel : Nat} {ts : List Token} (h : r.tokens fuel = some ts) :
    r.toNextToken.rest.head? ≠ some '\t' := by
  intro htab
  obtain ⟨cs, hcs⟩ := List.head?_eq_some_iff.1 htab
  have hne : r.toNextToken.rest ≠ [] := hcs ▸ List.cons_ne_nil _ _
  cases fuel with
  | zero =>
      rw [tokens_zero_of_ne_nil hne] at h
      cases h
  | succ fuel =>
      rw [tokens_of_ne_nil hne, word?_eq ((atWord_rest r).trans hcs), wordAt_tab] at h
      cases h

@[simp] theorem isWhole_nil (r : TokenReader) : r.isWhole [] = true := by
  have hsame : r.withRest r.rest = r := rfl
  simp [isWhole, hsame]

/-- At the ends of their texts both readers have the same tokens. -/
theorem Meet.tokens_of_nil {T K : List Char → Prop} {fuel fuel' : Nat}
    (h : Meet T K r.toNextToken r'.toNextToken) (hr : r.toNextToken.rest = []) :
    r'.tokens fuel' = r.tokens fuel := by
  have hr' : r'.toNextToken.rest = [] := by
    have hahead := h.ahead
    rw [hr] at hahead
    exact hahead.eq_nil'
  obtain ⟨p, q, hopen⟩ := h.opened
  rw [TokenReader.tokens_of_nil hr, TokenReader.tokens_of_nil hr']
  have hclosed := (hopen.closeTo none).forgetKey
  generalize (r.toNextToken.closeTo none).forgetKey = o,
    (r'.toNextToken.closeTo none).forgetKey = o' at hclosed
  cases hclosed with
  | none => rfl
  | some hsame => rw [Option.map_some, Option.map_some, hsame.reversed]

/-- Before a word both readers have the same open. -/
theorem Meet.atWord {T K : List Char → Prop} (h : Meet T K r.toNextToken r'.toNextToken)
    (hne : r.toNextToken.rest ≠ []) : r.atWord.position.column = r'.atWord.position.column ∧
      SameOpen r.atWord.position r'.atWord.position r.atWord r'.atWord := by
  obtain ⟨hcolumn, hopen, -⟩ := h.word hne
  rw [atWord_position, atWord_position]
  refine ⟨hcolumn, ?_⟩
  unfold TokenReader.atWord
  dsimp only
  rw [hcolumn]
  exact hopen.closeTo _

/-- The second reader takes the step of the first one, and they meet again. -/
theorem Meet.step {T K : List Char → Prop} {x : TokenReader}
    (h : Meet T K r.toNextToken r'.toNextToken) (hne : r.toNextToken.rest ≠ [])
    (hT : ∀ z, T z → r.atWord.isWhole z = true) (hK : ∀ z, K z → r'.atWord.isWhole z = true)
    (hx : r.atWord.word? = some x) (hannounced : Announced x.reversed.reverse)
    (htab : x.toNextToken.rest.head? ≠ some '\t') :
    ∃ x', r'.atWord.word? = some x' ∧ x'.toNextToken.rest.length < r'.toNextToken.rest.length ∧
      Meet T K x.toNextToken x'.toNextToken := by
  obtain ⟨hcolumn, hopen⟩ := h.atWord hne
  obtain ⟨-, -, hkey⟩ := h.word hne
  have hahead := h.ahead
  generalize hrest : r.toNextToken.rest = cs, hrest' : r'.toNextToken.rest = cs' at hahead
  cases hahead with
  | done => exact absurd hrest hne
  | @word c u u' z z' hc hstretch hapart =>
      rw [← atWord_rest] at hrest hrest'
      -- the next place where the texts differ lies between two words
      have hwhole : r.atWord.isWhole z = true := by
        rcases hapart.left with rfl | hz
        · exact isWhole_nil _
        · exact hT z hz
      have hwhole' : r'.atWord.isWhole z' = true := by
        rcases hapart.right with rfl | hz
        · exact isWhole_nil _
        · exact hK z' hz
      have hkey' : r.atWord.keyAllowed = r'.atWord.keyAllowed ∨
          EndsWithDirective r.atWord.reversed := by
        rw [atWord_keyAllowed, atWord_keyAllowed]
        exact hkey.imp_right fun hends => (grows_closeTo _ r.toNextToken).endsWithDirective hends
          (announced_of_word hrest hx hannounced)
      obtain ⟨a, a', b, b', q, q', hboth⟩ := exists_both hrest hrest' hc hstretch hcolumn hopen
        hkey' hwhole hwhole' hx hannounced
      obtain rfl : x = q.after b := Option.some.inj (hx.symm.trans hboth.left.word)
      refine ⟨q'.after b', hboth.right.word, ?_, hboth.meet hc hstretch hapart htab⟩
      have hskipped : (q'.after b').toNextToken.rest.length ≤ b'.rest.length :=
        (suffix_skipGap ..).length_le
      have htaken := (takes_wordAt hc b' hboth.right.whole).counts.suffix.length_le
      rw [List.length_cons]
      omega

/-- The second reader puts on the tokens of the first one, if every word says the same when
    its text is cut where the texts differ. -/
theorem tokens_of_meet {fuel fuel' : Nat} {ts : List Token}
    (h : Meet (fun z => ∀ x ∈ r.words fuel, x.isWhole z = true)
      (fun z => ∀ x ∈ r'.words fuel', x.isWhole z = true) r.toNextToken r'.toNextToken)
    (hfuel : r'.toNextToken.rest.length ≤ fuel') (hts : Announced ts)
    (ht : r.tokens fuel = some ts) : r'.tokens fuel' = some ts := by
  induction fuel generalizing r r' fuel' with
  | zero =>
      by_cases hne : r.toNextToken.rest = []
      · exact (h.tokens_of_nil hne).trans ht
      · rw [tokens_zero_of_ne_nil hne] at ht
        cases ht
  | succ fuel ih =>
      by_cases hne : r.toNextToken.rest = []
      · exact (h.tokens_of_nil hne).trans ht
      · rw [tokens_of_ne_nil hne] at ht
        obtain ⟨x, hx, ht⟩ := Option.bind_eq_some_iff.1 ht
        have hne' : r'.toNextToken.rest ≠ [] := fun hnil => by
          have hahead := h.ahead
          rw [hnil] at hahead
          exact hne hahead.eq_nil
        cases fuel' with
        | zero => exact absurd (List.length_eq_zero_iff.1 (Nat.le_zero.1 hfuel)) hne'
        | succ fuel' =>
            obtain ⟨x', hx', hlength, hmeet⟩ := h.step hne
              (fun z hz => hz _ (atWord_mem_words hne)) (fun z hz => hz _ (atWord_mem_words hne'))
              hx (announced_of_tokens ht hts) (head?_of_tokens ht)
            rw [tokens_of_ne_nil hne', hx', Option.bind_some]
            refine ih (hmeet.mono (fun z hz y hy => ?_) fun z hz y hy => ?_) ?_ ht
            · exact hz y (words_subset hne hx hy)
            · exact hz y (words_subset hne' hx' hy)
            · omega

end TokenReader

end TestCluster.Yaml
