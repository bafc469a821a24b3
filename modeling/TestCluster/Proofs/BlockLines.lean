import Mathlib.Data.List.TakeWhile
import TestCluster.Proofs.SideBySide

/-!
# Lines of a block — keys, dashes and scalars, one line after another

    A document without anchors, tags and brackets is a row of lines, each indented by so many
    spaces: a key with its value, a dash with what follows it.  Between two lines the reader of
    tokens stands at a `Spot`, which says what is left of the text and which collections are
    open.  A line leads from one spot to the next and puts its tokens on (`Spot.Leads`), whatever
    comes after it, as long as that is not indented too far (`Follows`).
-/

namespace TestCluster.Yaml

/-! ## Characters -/

/-- Whether the character may be part of a plain word, wherever in the word it stands. -/
def isWordChar (c : Char) : Bool := !isBlank c && !isBreak c && c != ':'

/-- Whether the text is a plain word: it starts with a letter or a digit, and nothing in it has
    a meaning of its own. -/
def isWord : List Char → Bool
  | [] => false
  | c :: cs => c.isAlphanum && cs.all isWordChar

/-- Whether a token may start with the character. -/
def isVisible (c : Char) : Bool := !isBlank c && !isBreak c && c != '#' && c != '\uFEFF'

theorem beq_of_isAlphanum {c : Char} (hc : c.isAlphanum = true) {d : Char}
    (hd : d.isAlphanum = false) : (c == d) = false := by
  refine beq_eq_false_iff_ne.2 ?_
  rintro rfl
  exact nomatch hc.symm.trans hd

theorem isBlank_of_isAlphanum {c : Char} (h : c.isAlphanum = true) : isBlank c = false := by
  rw [isBlank, beq_of_isAlphanum h rfl, beq_of_isAlphanum h rfl]
  rfl

theorem isBreak_of_isAlphanum {c : Char} (h : c.isAlphanum = true) : isBreak c = false := by
  rw [isBreak, beq_of_isAlphanum h rfl, beq_of_isAlphanum h rfl, beq_of_isAlphanum h rfl,
    beq_of_isAlphanum h rfl, beq_of_isAlphanum h rfl]
  rfl

theorem isWordChar_of_isAlphanum {c : Char} (h : c.isAlphanum = true) : isWordChar c = true := by
  rw [isWordChar, isBlank_of_isAlphanum h, isBreak_of_isAlphanum h, bne, beq_of_isAlphanum h rfl]
  rfl

theorem isVisible_of_isAlphanum {c : Char} (h : c.isAlphanum = true) : isVisible c = true := by
  rw [isVisible, isBlank_of_isAlphanum h, isBreak_of_isAlphanum h, bne, beq_of_isAlphanum h rfl,
    bne, beq_of_isAlphanum h rfl]
  rfl

theorem isMarker_of_ne {c mark : Char} (h : (c == mark) = false) (cs : List Char) :
    isMarker mark (c :: cs) = false := by
  match cs with
  | [] | [_] => rfl
  | a :: b :: rest =>
      rw [isMarker, h]
      rfl

/-! ## Plain words -/

section Plain

variable {indent : Nat} {reversed cs rest : List Char} {p : Position}

/-- A plain scalar goes on with every character of a word. -/
theorem plainFrom_wordChar {c : Char} (hc : isWordChar c = true)
    (hp : p.column = 0 → isDocumentMarker (c :: cs) = false) :
    plainFrom false indent .none reversed p (c :: cs) =
      plainFrom false indent .none (c :: reversed) p.next cs := by
  obtain ⟨⟨hblank, hbreak⟩, hcolon⟩ :
      (isBlank c = false ∧ isBreak c = false) ∧ (c == ':') = false := by
    simpa [isWordChar] using hc
  have hmarker : (p.column == 0 && isDocumentMarker (c :: cs)) = false := by
    by_cases hcolumn : p.column = 0
    · rw [hp hcolumn, Bool.and_false]
    · rw [beq_eq_false_iff_ne.2 hcolumn, Bool.false_and]
  rw [plainFrom]
  simp [hblank, hbreak, hcolon, endsPlain, hmarker, Gap.hasBreak, Gap.onto, Gap.text]

theorem plainFrom_wordChars (hcs : cs.all isWordChar = true) (hp : p.column ≠ 0) :
    plainFrom false indent .none reversed p (cs ++ rest) =
      plainFrom false indent .none (cs.reverse ++ reversed) (p.skip cs.length) rest := by
  induction cs generalizing reversed p with
  | nil => rfl
  | cons c cs ih =>
      obtain ⟨hc, hcs⟩ := Bool.and_eq_true_iff.1 (List.all_cons ▸ hcs)
      rw [List.cons_append, plainFrom_wordChar hc fun h => absurd h hp,
        ih hcs (Nat.succ_ne_zero _), List.reverse_cons, List.append_assoc]
      congr 1
      simp [Position.skip, Position.next, Nat.add_assoc, Nat.add_comm 1]

/-- A plain scalar goes on with a whole word. -/
theorem plainFrom_word (h : isWord cs = true) :
    plainFrom false indent .none [] p (cs ++ rest) =
      plainFrom false indent .none cs.reverse (p.skip cs.length) rest := by
  cases cs with
  | nil => exact nomatch h
  | cons c cs =>
      obtain ⟨hc, hcs⟩ := Bool.and_eq_true_iff.1 h
      have hmarker : isDocumentMarker (c :: (cs ++ rest)) = false := by
        rw [isDocumentMarker, isMarker_of_ne (beq_of_isAlphanum hc rfl),
          isMarker_of_ne (beq_of_isAlphanum hc rfl)]
        rfl
      rw [List.cons_append, plainFrom_wordChar (isWordChar_of_isAlphanum hc) fun _ => hmarker,
        plainFrom_wordChars hcs (Nat.succ_ne_zero _), List.reverse_cons]
      congr 1
      simp [Position.skip, Position.next, Nat.add_assoc, Nat.add_comm 1]

/-- It ends at a colon that a blank follows. -/
theorem plainFrom_colon (hcs : startsBlank cs = true) :
    plainFrom false indent .none reversed p (':' :: cs) =
      some ⟨⟨reversed.reverse, false⟩, ':' :: cs, p⟩ := by
  have hends : endsPlain false indent .none p ':' cs = true := by simp [endsPlain, hcs]
  rw [plainFrom, hends]
  rfl

end Plain

/-! ## Spots -/

/-- The text behind so many spaces. -/
def indented (n : Nat) (cs : List Char) : List Char := List.replicate n ' ' ++ cs

/-- Whether a token starts the text, unless the text is empty. -/
def StartsVisibly (cs : List Char) : Prop := ∀ c ∈ cs.head?, isVisible c = true

theorem startsVisibly_cons {c : Char} {cs : List Char} (h : isVisible c = true) :
    StartsVisibly (c :: cs) := by
  rintro _ ⟨⟩
  exact h

/-- Where a reader of tokens stands in a block: what is left of the text, the column there, the
    columns of the open collections, whether a key may start, and the tokens so far. -/
structure Spot where
  rest : List Char
  column : Nat
  columns : List Nat
  keyAllowed : Bool
  tokens : List Token

/-- The spot at the start of a line. -/
def Spot.line (rest : List Char) (columns : List Nat) (tokens : List Token) : Spot :=
  ⟨rest, 0, columns, true, tokens⟩

/-- The reader that stands at a spot of some line. -/
def Spot.reader (s : Spot) (index line : Nat) : TokenReader :=
  { rest := s.rest, position := ⟨index, line, s.column⟩, columns := s.columns,
    possibleKey := none, outerKeys := [], keyAllowed := s.keyAllowed, reversed := s.tokens.reverse }

namespace TokenReader

variable {r r' r'' : TokenReader} {cs : List Char}

/-- To read on from the one reader is to read on from the other, with fuel enough for both. -/
def Reaches (r r' : TokenReader) : Prop :=
  ∀ fuel, r.toNextToken.rest.length ≤ fuel →
    ∃ fuel', r'.toNextToken.rest.length ≤ fuel' ∧ r.tokens fuel = r'.tokens fuel'

theorem Reaches.refl (r : TokenReader) : Reaches r r := fun fuel h => ⟨fuel, h, rfl⟩

theorem Reaches.trans (h : Reaches r r') (h' : Reaches r' r'') : Reaches r r'' := by
  intro fuel hfuel
  obtain ⟨fuel', hfuel', heq⟩ := h fuel hfuel
  obtain ⟨fuel'', hfuel'', heq'⟩ := h' fuel' hfuel'
  exact ⟨fuel'', hfuel'', heq.trans heq'⟩

/-- Where nothing but the text between two tokens differs, reading goes on alike. -/
theorem reaches_of_toNextToken (h : r.toNextToken = r'.toNextToken) : Reaches r r' := by
  intro fuel hfuel
  refine ⟨fuel, h ▸ hfuel, ?_⟩
  rw [tokens, tokens, h]

/-- Reading goes on after a word. -/
theorem reaches_of_word (hne : r.toNextToken.rest ≠ []) (h : r.atWord.word? = some r')
    (hless : r'.toNextToken.rest.length < r.toNextToken.rest.length) : Reaches r r' := by
  intro fuel hfuel
  obtain ⟨fuel, rfl⟩ : ∃ n, fuel = n + 1 := ⟨fuel - 1, by omega⟩
  refine ⟨fuel, by omega, ?_⟩
  rw [tokens_of_ne_nil hne, h]
  rfl

theorem skipGap_of_visible {flow keyAllowed : Bool} {p : Position} (h : StartsVisibly cs) :
    skipGap flow keyAllowed false p cs = (cs, p, keyAllowed) := by
  cases cs with
  | nil => rfl
  | cons c cs =>
      obtain ⟨⟨⟨hblank, hbreak⟩, hcomment⟩, hmark⟩ :
          ((isBlank c = false ∧ isBreak c = false) ∧ c ≠ '#') ∧ c ≠ '\uFEFF' := by
        simpa [isVisible] using h c rfl
      obtain ⟨hspace, htab⟩ : c ≠ ' ' ∧ c ≠ '\t' := by simpa [isBlank] using hblank
      rw [skipGap]
      simp [hbreak, hcomment, hmark, hspace, htab]

theorem skipGap_indented {flow keyAllowed : Bool} {p : Position} (n : Nat)
    (h : StartsVisibly cs) :
    skipGap flow keyAllowed false p (indented n cs) = (cs, p.skip n, keyAllowed) := by
  induction n generalizing p with
  | zero => exact skipGap_of_visible h
  | succ n ih =>
      have hstep : skipGap flow keyAllowed false p (indented (n + 1) cs) =
          skipGap flow keyAllowed false p.next (indented n cs) := rfl
      rw [hstep, ih]
      simp [Position.skip, Position.next, Nat.add_assoc, Nat.add_comm 1]

theorem closeTo_of_le {n : Nat} (h : r.columns.head?.all (· ≤ n)) : r.closeTo (some n) = r := by
  obtain ⟨rest, position, columns, possibleKey, outerKeys, keyAllowed, reversed⟩ := r
  cases columns with
  | nil =>
      rw [closeTo]
      split <;> rfl
  | cons c columns =>
      have hc : decide (n < c) = false := decide_eq_false (by simpa using h)
      rw [closeTo]
      simp [hc]

end TokenReader

namespace Spot

open TokenReader

variable {s s' s'' : Spot} {cs rest word text : List Char} {k n : Nat} {columns outer : List Nat}
  {keyAllowed : Bool} {ts : List Token}

/-- Reading leads from one spot to another, on whatever line it starts. -/
def Leads (s s' : Spot) : Prop :=
  ∀ i l, ∃ i' l', (s.reader i l).Reaches (s'.reader i' l')

theorem Leads.refl (s : Spot) : Leads s s := fun i l => ⟨i, l, .refl _⟩

theorem Leads.trans (h : Leads s s') (h' : Leads s' s'') : Leads s s'' := by
  intro i l
  obtain ⟨i', l', hreach⟩ := h i l
  obtain ⟨i'', l'', hreach'⟩ := h' i' l'
  exact ⟨i'', l'', hreach.trans hreach'⟩

/-- The tokens that a line has put on may be written in another way. -/
theorem Leads.congr {us us' : List Token} (h : Leads s (line cs columns us)) (heq : us = us') :
    Leads s (line cs columns us') :=
  heq ▸ h

theorem toNextToken_indented (h : StartsVisibly cs) (i l : Nat) :
    (reader ⟨indented n cs, k, columns, keyAllowed, ts⟩ i l).toNextToken =
      reader ⟨cs, k + n, columns, keyAllowed, ts⟩ (i + n) l := by
  rw [toNextToken]
  dsimp only [reader]
  rw [skipGap_indented n h]
  rfl

theorem toNextToken_visible (h : StartsVisibly cs) (i l : Nat) :
    (reader ⟨cs, k, columns, keyAllowed, ts⟩ i l).toNextToken =
      reader ⟨cs, k, columns, keyAllowed, ts⟩ i l :=
  toNextToken_indented (n := 0) h i l

/-- Spaces lead to what stands behind them. -/
theorem leads_indented (h : StartsVisibly cs) :
    Leads ⟨indented n cs, k, columns, keyAllowed, ts⟩ ⟨cs, k + n, columns, keyAllowed, ts⟩ := by
  intro i l
  refine ⟨i + n, l, reaches_of_toNextToken ?_⟩
  rw [toNextToken_indented h, toNextToken_visible h]

/-- A line end leads to the next line. -/
theorem leads_lineEnd : Leads ⟨'\n' :: cs, k, columns, keyAllowed, ts⟩ (line cs columns ts) := by
  intro i l
  refine ⟨i + 1, l + 1, reaches_of_toNextToken ?_⟩
  cases keyAllowed <;> rfl

/-- The reader at the word that starts at a spot, if nothing ends there. -/
theorem atWord_reader (h : StartsVisibly cs) (hcolumns : columns.head?.all (· ≤ k)) (i l : Nat) :
    (reader ⟨cs, k, columns, keyAllowed, ts⟩ i l).atWord =
      reader ⟨cs, k, columns, keyAllowed, ts⟩ i l := by
  rw [atWord, toNextToken_visible h]
  exact closeTo_of_le hcolumns

theorem wordAt_of_isAlphanum {c : Char} (hc : c.isAlphanum = true) (p : Position) :
    wordAt false columns p c cs = (plainFrom false (plainIndent columns) .none [] p (c :: cs)).map
      (·.map fun plain => .node (.scalar .plain plain.text) plain.broken) := by
  have hne : ∀ d : Char, d.isAlphanum = false → (c == d) = false := fun _ => beq_of_isAlphanum hc
  have hmarker : ∀ d : Char, d.isAlphanum = false → isMarker d (c :: cs) = false :=
    fun _ hd => isMarker_of_ne (beq_of_isAlphanum hc hd) cs
  have hspecial : ("-?:,[]{}#&*!|>'\"%@\x60 \t".toList.contains c) = false := by
    have hall : "-?:,[]{}#&*!|>'\"%@\x60 \t".toList.all (fun d => !d.isAlphanum) = true := by
      rfl
    refine Bool.eq_false_iff.2 fun hmem => ?_
    have hnot : (!c.isAlphanum) = true := List.all_eq_true.1 hall c (List.contains_iff_mem.1 hmem)
    rw [hc] at hnot
    exact nomatch hnot
  have hstarts : startsPlain false c cs = true := by
    rw [startsPlain, hne '-' rfl, hne '?' rfl, hne ':' rfl, hspecial, isBreak_of_isAlphanum hc]
    rfl
  rw [wordAt, hmarker '-' rfl, hmarker '.' rfl, hstarts]
  simp [hne]

theorem startsVisibly_word (hword : isWord word = true) : StartsVisibly (word ++ rest) := by
  cases word with
  | nil => exact nomatch hword
  | cons c cs =>
      exact startsVisibly_cons (isVisible_of_isAlphanum (Bool.and_eq_true_iff.1 hword).1)

theorem length_toNextToken_le (r : TokenReader) :
    r.toNextToken.rest.length ≤ r.rest.length :=
  (suffix_skipGap ..).length_le

/-- Where nothing ends, reading goes on after the word that starts at a spot. -/
theorem reaches_of_wordAt {c : Char} {i l : Nat} {a : Piece Word} {r r' : TokenReader}
    (hc : isVisible c = true) (hcolumns : columns.head?.all (· ≤ k))
    (hword : wordAt false columns ⟨i, l, k⟩ c cs = some a)
    (hput : (reader ⟨c :: cs, k, columns, keyAllowed, ts⟩ i l).put a.value = some r)
    (hless : a.rest.length ≤ cs.length) (hr : r.after a = r') :
    Reaches (reader ⟨c :: cs, k, columns, keyAllowed, ts⟩ i l) r' := by
  obtain rfl := hr
  have hvisible : StartsVisibly (c :: cs) := startsVisibly_cons hc
  have hnext : (reader ⟨c :: cs, k, columns, keyAllowed, ts⟩ i l).toNextToken =
      reader ⟨c :: cs, k, columns, keyAllowed, ts⟩ i l := toNextToken_visible hvisible i l
  refine reaches_of_word (by rw [hnext]; exact List.cons_ne_nil _ _) ?_ ?_
  · rw [atWord_reader hvisible hcolumns, word?_eq rfl]
    show (wordAt false columns ⟨i, l, k⟩ c cs).bind _ = _
    rw [hword, Option.bind_some, hput]
    rfl
  · rw [hnext]
    refine Nat.lt_of_le_of_lt (length_toNextToken_le _) ?_
    exact Nat.lt_succ_of_le hless

/-! ## Keys -/

/-- The columns of the open collections after a key at a column. -/
def opened (k : Nat) (columns : List Nat) : List Nat :=
  if columns.head?.all (· < k) then k :: columns else columns

/-- The token with which a key at a column opens a mapping, unless one is open there. -/
def opening (k : Nat) (columns : List Nat) : List Token :=
  if columns.head?.all (· < k) then [.blockMappingStart] else []

theorem insertIdx_length_append {α : Type} (more l : List α) (a : α) :
    (more ++ l).insertIdx more.length a = more ++ a :: l := by
  induction more with
  | nil => rfl
  | cons b more ih => exact congrArg (b :: ·) ih

/-- A token that is put before those after the first ones stands right behind these. -/
theorem insertAt_append (r : TokenReader) (more ts : List Token) (t : Token)
    (h : r.reversed = more ++ ts.reverse) :
    r.insertAt ts.length t = { r with reversed := more ++ t :: ts.reverse } := by
  have hlength : r.reversed.length - ts.length = more.length := by
    rw [h, List.length_append, List.length_reverse, Nat.add_sub_cancel]
  rw [insertAt, hlength, h, insertIdx_length_append]

/-- The reader at the colon of a key. -/
def colonReader (word rest : List Char) (columns : List Nat) (ts : List Token) (i l k : Nat) :
    TokenReader :=
  { rest := ':' :: rest, position := Position.skip word.length ⟨i, l, k⟩, columns := columns,
    possibleKey := some ⟨ts.length, ⟨i, l, k⟩, columns.head? == some k⟩, outerKeys := [],
    keyAllowed := false, reversed := .scalar .plain word :: ts.reverse }

theorem reaches_colon (hword : isWord word = true) (hrest : startsBlank rest = true)
    (hcolumns : columns.head?.all (· ≤ k)) (i l : Nat) :
    Reaches (reader ⟨word ++ ':' :: rest, k, columns, true, ts⟩ i l)
      (colonReader word rest columns ts i l k) := by
  have hplain : plainFrom false (plainIndent columns) .none [] ⟨i, l, k⟩ (word ++ ':' :: rest) =
      some ⟨⟨word, false⟩, ':' :: rest, Position.skip word.length ⟨i, l, k⟩⟩ := by
    rw [plainFrom_word hword, plainFrom_colon hrest, List.reverse_reverse]
  cases word with
  | nil => exact nomatch hword
  | cons c cs =>
      have hc := (Bool.and_eq_true_iff.1 hword).1
      refine reaches_of_wordAt (isVisible_of_isAlphanum hc) hcolumns
        (a := ⟨.node (.scalar .plain (c :: cs)) false, ':' :: rest,
          Position.skip (c :: cs).length ⟨i, l, k⟩⟩) ?_ rfl (by simp) ?_
      · rw [wordAt_of_isAlphanum hc]
        exact congrArg (Option.map _) hplain
      · simp [colonReader, TokenReader.after, push, reader, inFlow]

theorem wordAt_colon (hrest : startsBlank rest = true) (p : Position) :
    wordAt false columns p ':' rest = some ⟨.colon, rest, p.next⟩ := by
  rw [wordAt, isMarker_of_ne rfl, isMarker_of_ne rfl]
  simp [hrest]

/-- What the reader keeps after the colon of a key. -/
theorem put_colon (hlength : word.length ≤ 1024) (rest : List Char) (columns : List Nat)
    (ts : List Token) (i l k : Nat) :
    ∃ r, (colonReader word rest columns ts i l k).put .colon = some r ∧
      r.after (⟨.colon, rest, Position.skip (word.length + 1) ⟨i, l, k⟩⟩ : Piece Word) =
        reader ⟨rest, k + word.length + 1, opened k columns, false,
          ts ++ opening k columns ++ [.key, .scalar .plain word, .value]⟩
          (i + word.length + 1) l := by
  have hreaches : PossibleKey.reaches ⟨ts.length, ⟨i, l, k⟩, columns.head? == some k⟩
      (Position.skip word.length ⟨i, l, k⟩) = true := by
    simpa [PossibleKey.reaches, Position.skip] using hlength
  rw [put, value]
  dsimp only [colonReader]
  rw [Option.filter_some, if_pos hreaches]
  refine ⟨_, rfl, ?_⟩
  rw [insertAt_append _ [.scalar .plain word] ts .key rfl, openAt_eq, opened, opening]
  by_cases hopens : columns.head?.all (· < k) = true
  · rw [if_pos (by simpa [opensAt, inFlow] using hopens), if_pos hopens, if_pos hopens,
      insertAt_append _ [.scalar .plain word, .key] ts .blockMappingStart rfl]
    simp [indicator, push, advance, TokenReader.after, reader, Position.skip, Nat.add_assoc]
  · rw [if_neg (by simpa [opensAt, inFlow] using hopens), if_neg hopens, if_neg hopens]
    simp [indicator, push, advance, TokenReader.after, reader, Position.skip, Nat.add_assoc]

theorem leads_key (hword : isWord word = true) (hlength : word.length ≤ 1024)
    (hrest : startsBlank rest = true) (hcolumns : columns.head?.all (· ≤ k)) :
    Leads ⟨word ++ ':' :: rest, k, columns, true, ts⟩
      ⟨rest, k + word.length + 1, opened k columns, false,
        ts ++ opening k columns ++ [.key, .scalar .plain word, .value]⟩ := by
  intro i l
  obtain ⟨r, hput, hr⟩ := put_colon hlength rest columns ts i l k
  refine ⟨i + word.length + 1, l, (reaches_colon hword hrest hcolumns i l).trans ?_⟩
  have hnext : (colonReader word rest columns ts i l k).toNextToken =
      colonReader word rest columns ts i l k := by
    rw [toNextToken]
    dsimp only [colonReader]
    rw [skipGap_of_visible (startsVisibly_cons rfl)]
  have hclosed : (colonReader word rest columns ts i l k).atWord =
      colonReader word rest columns ts i l k := by
    rw [atWord, hnext]
    refine closeTo_of_le ?_
    show columns.head?.all (· ≤ k + word.length)
    cases columns with
    | nil => rfl
    | cons c columns =>
        have hc : c ≤ k := of_decide_eq_true hcolumns
        exact decide_eq_true (Nat.le_add_right_of_le hc)
  refine reaches_of_word (by rw [hnext]; exact List.cons_ne_nil _ _) ?_ ?_
  · rw [hclosed, word?_eq rfl]
    show (wordAt false columns _ ':' rest).bind _ = _
    rw [wordAt_colon hrest, Option.bind_some, hput]
    exact congrArg some hr
  · rw [hnext]
    refine Nat.lt_of_le_of_lt (length_toNextToken_le _) ?_
    exact Nat.lt_succ_self _

/-! ## Dashes -/

/-- A dash at the column of the innermost collection is an entry. -/
theorem leads_dash : Leads ⟨'-' :: ' ' :: rest, k, k :: outer, true, ts⟩
    ⟨' ' :: rest, k + 1, k :: outer, true, ts ++ [.blockEntry]⟩ := by
  intro i l
  have hword : wordAt false (k :: outer) ⟨i, l, k⟩ '-' (' ' :: rest) =
      some ⟨.dash, ' ' :: rest, Position.next ⟨i, l, k⟩⟩ := by
    have hmarker : isMarker '-' ('-' :: ' ' :: rest) = false := by
      cases rest <;> rfl
    rw [wordAt, hmarker, isMarker_of_ne rfl]
    simp [startsBlank, isBlank]
  refine ⟨i + 1, l, reaches_of_wordAt rfl (decide_eq_true (Nat.le_refl k)) hword
    (r := reader ⟨' ' :: rest, k + 1, k :: outer, true, ts ++ [.blockEntry]⟩ (i + 1) l)
    ?_ (Nat.le_refl _) rfl⟩
  rw [put, blockEntry, openAt_eq]
  simp [reader, forgetKey, indicator, push, advance, Position.skip, inFlow, opensAt]

/-! ## Values -/

/-- What may follow a line in a collection: text that is indented by no more than so many
    spaces. -/
def Follows (n : Nat) (cs : List Char) : Prop :=
  ∃ m rest, m ≤ n ∧ cs = indented m rest ∧ StartsVisibly rest

theorem follows_visible (h : StartsVisibly cs) : Follows n cs :=
  ⟨0, cs, Nat.zero_le n, rfl, h⟩

theorem follows_indented {m : Nat} (hm : m ≤ n) (h : StartsVisibly cs) :
    Follows n (indented m cs) :=
  ⟨m, cs, hm, rfl, h⟩

theorem Follows.mono {m : Nat} (h : Follows m cs) (hm : m ≤ n) : Follows n cs := by
  obtain ⟨m', rest, hm', rfl, hrest⟩ := h
  exact follows_indented (Nat.le_trans hm' hm) hrest

theorem plainFrom_spaces {indent : Nat} {reversed : List Char} {p : Position} (m : Nat)
    (hp : p.column + m < indent) (h : StartsVisibly rest) :
    plainFrom false indent (.breaks (some '\n') []) reversed p (indented m rest) =
      some ⟨⟨reversed.reverse, true⟩, rest, p.skip m⟩ := by
  induction m generalizing p with
  | zero =>
      cases rest with
      | nil => rfl
      | cons c rest =>
          obtain ⟨⟨⟨hblank, hbreak⟩, -⟩, -⟩ :
              ((isBlank c = false ∧ isBreak c = false) ∧ c ≠ '#') ∧ c ≠ '\uFEFF' := by
            simpa [isVisible] using h c rfl
          have hends : endsPlain false indent (.breaks (some '\n') []) p c rest = true := by
            have hcolumn : p.column < indent := hp
            simp [endsPlain, Gap.hasBreak, hcolumn]
          show plainFrom false indent _ reversed p (c :: rest) = _
          rw [plainFrom]
          simp [hblank, hbreak, hends, Gap.hasBreak, Position.skip]
  | succ m ih =>
      have hstep : plainFrom false indent (.breaks (some '\n') []) reversed p
          (indented (m + 1) rest) =
            plainFrom false indent (.breaks (some '\n') []) reversed p.next (indented m rest) := by
        show plainFrom false indent _ reversed p (' ' :: indented m rest) = _
        rw [plainFrom]
        simp [isBlank, Gap.addBlank]
      rw [hstep, ih (by simpa [Position.next, Nat.add_assoc, Nat.add_comm 1] using hp)]
      simp [Position.skip, Position.next, Nat.add_assoc, Nat.add_comm 1]

/-- A plain word that ends its line is a value. -/
theorem leads_plain (hword : isWord word = true) (hk : n ≤ k) (h : Follows n cs) :
    Leads ⟨' ' :: (word ++ '\n' :: cs), k, n :: outer, false, ts⟩
      (line cs (n :: outer) (ts ++ [.scalar .plain word])) := by
  obtain ⟨m, rest, hm, rfl, hrest⟩ := h
  refine (leads_indented (n := 1) (startsVisibly_word hword)).trans fun i l => ?_
  have hplain : plainFrom false (n + 1) .none [] ⟨i, l, k + 1⟩ (word ++ '\n' :: indented m rest) =
      some ⟨⟨word, true⟩, rest, ⟨i + word.length + 1 + m, l + 1, m⟩⟩ := by
    have hnewLine : ∀ (p : Position), plainFrom false (n + 1) .none word.reverse p
        ('\n' :: indented m rest) = plainFrom false (n + 1) (.breaks (some '\n') []) word.reverse
          p.newLine (indented m rest) := by
      intro p
      rw [plainFrom]
      simp [isBlank, isBreak, Gap.addBreak, breakText]
    rw [plainFrom_word hword, hnewLine,
      plainFrom_spaces m (by simp only [Position.newLine]; omega) hrest, List.reverse_reverse]
    simp [Position.skip, Position.newLine]
  have hreach : Reaches
      (reader ⟨word ++ '\n' :: indented m rest, k + 1, n :: outer, false, ts⟩ i l)
      (reader ⟨rest, m, n :: outer, true, ts ++ [.scalar .plain word]⟩
        (i + word.length + 1 + m) (l + 1)) := by
    cases word with
    | nil => cases hword
    | cons c cs =>
        have hc := (Bool.and_eq_true_iff.1 hword).1
        refine reaches_of_wordAt (isVisible_of_isAlphanum hc) (decide_eq_true (by omega))
          (a := ⟨.node (.scalar .plain (c :: cs)) true, rest,
            ⟨i + (c :: cs).length + 1 + m, l + 1, m⟩⟩) ?_ rfl ?_ ?_
        · rw [wordAt_of_isAlphanum hc]
          exact congrArg (Option.map _) hplain
        · simp [indented]
          omega
        · simp [TokenReader.after, push, reader]
  -- the scalar has taken the indentation of the next line
  refine ⟨i + word.length + 1, l + 1, hreach.trans (reaches_of_toNextToken ?_)⟩
  rw [toNextToken_visible hrest, line, toNextToken_indented hrest, Nat.zero_add]

/-- Whether the character stands for itself between double quotes. -/
def isQuotable (c : Char) : Bool := !isBlank c && !isBreak c && c != '"' && c != '\\'

theorem quotedFrom_quotable {p : Position} {reversed : List Char}
    (htext : text.all isQuotable = true) (hp : p.column ≠ 0) :
    quotedFrom true .text .none reversed p (text ++ '"' :: rest) =
      some ⟨reversed.reverse ++ text, rest, (p.skip text.length).next⟩ := by
  induction text generalizing p reversed with
  | nil =>
      rw [List.nil_append, quotedFrom]
      simp [isBlank, isBreak, hp, Gap.onto, Gap.text, Position.skip]
  | cons c text ih =>
      obtain ⟨hc, htext⟩ := Bool.and_eq_true_iff.1 (List.all_cons ▸ htext)
      obtain ⟨⟨⟨hblank, hbreak⟩, hquote⟩, hslash⟩ :
          ((isBlank c = false ∧ isBreak c = false) ∧ c ≠ '"') ∧ c ≠ '\\' := by
        simpa [isQuotable] using hc
      have hstep : quotedFrom true .text .none reversed p (c :: (text ++ '"' :: rest)) =
          quotedFrom true .text .none (c :: reversed) p.next (text ++ '"' :: rest) := by
        rw [quotedFrom]
        simp [hblank, hbreak, hquote, hslash, hp, Gap.onto, Gap.text]
      rw [List.cons_append, hstep, ih htext (Nat.succ_ne_zero _)]
      simp [Position.skip, Position.next, Nat.add_assoc, Nat.add_comm 1]

/-- A text between double quotes that ends its line is a value. -/
theorem leads_quoted (htext : text.all isQuotable = true) (hk : n ≤ k) :
    Leads ⟨' ' :: '"' :: (text ++ '"' :: '\n' :: cs), k, n :: outer, false, ts⟩
      (line cs (n :: outer) (ts ++ [.scalar .doubleQuoted text])) := by
  have hvalue : Leads ⟨'"' :: (text ++ '"' :: '\n' :: cs), k + 1, n :: outer, false, ts⟩
      ⟨'\n' :: cs, k + 1 + text.length + 2, n :: outer, false,
        ts ++ [.scalar .doubleQuoted text]⟩ := by
    intro i l
    have hquoted : quotedFrom true .text .none [] (Position.next ⟨i, l, k + 1⟩)
        (text ++ '"' :: '\n' :: cs) = some ⟨text, '\n' :: cs, _⟩ :=
      quotedFrom_quotable htext (Nat.succ_ne_zero _)
    have hposition : (Position.skip text.length (Position.next ⟨i, l, k + 1⟩)).next =
        ⟨i + text.length + 2, l, k + 1 + text.length + 2⟩ := by
      simp only [Position.skip, Position.next, Position.mk.injEq, true_and]
      omega
    have hword : wordAt false (n :: outer) ⟨i, l, k + 1⟩ '"' (text ++ '"' :: '\n' :: cs) =
        some ⟨.node (.scalar .doubleQuoted text) false, '\n' :: cs,
          ⟨i + text.length + 2, l, k + 1 + text.length + 2⟩⟩ := by
      rw [wordAt, isMarker_of_ne rfl, isMarker_of_ne rfl]
      simp [hquoted, hposition, Piece.map]
    refine ⟨i + text.length + 2, l, reaches_of_wordAt rfl (decide_eq_true (by omega)) hword rfl
      (by simp; omega) ?_⟩
    simp [TokenReader.after, push, reader]
  exact ((leads_indented (n := 1) (startsVisibly_cons rfl)).trans hvalue).trans leads_lineEnd

/-! ## Lines -/

section Lines

variable {key value : List Char}

/-- A key with a plain word for its value. -/
theorem leads_member (hkey : isWord key = true) (hlength : key.length ≤ 1024)
    (hvalue : isWord value = true) (hcolumns : columns.head?.all (· ≤ n))
    (hopened : opened n columns = n :: outer) (h : Follows n cs) :
    Leads ⟨key ++ ':' :: ' ' :: (value ++ '\n' :: cs), n, columns, true, ts⟩
      (line cs (n :: outer)
        (ts ++ opening n columns ++ [.key, .scalar .plain key, .value, .scalar .plain value])) := by
  have hplain : Leads ⟨' ' :: (value ++ '\n' :: cs), n + key.length + 1, n :: outer, false,
      ts ++ opening n columns ++ [.key, .scalar .plain key, .value]⟩ (line cs (n :: outer)
        (ts ++ opening n columns ++ [.key, .scalar .plain key, .value] ++
          [.scalar .plain value])) :=
    leads_plain hvalue (by omega) h
  rw [← hopened, List.append_assoc _ _ [_]] at hplain
  rw [← hopened]
  exact (leads_key hkey hlength rfl hcolumns).trans hplain

/-- A key with a quoted text for its value. -/
theorem leads_quotedMember (hkey : isWord key = true) (hlength : key.length ≤ 1024)
    (hvalue : value.all isQuotable = true) (hcolumns : columns.head?.all (· ≤ n))
    (hopened : opened n columns = n :: outer) :
    Leads ⟨key ++ ':' :: ' ' :: '"' :: (value ++ '"' :: '\n' :: cs), n, columns, true, ts⟩
      (line cs (n :: outer) (ts ++ opening n columns ++
        [.key, .scalar .plain key, .value, .scalar .doubleQuoted value])) := by
  have hquoted : Leads ⟨' ' :: '"' :: (value ++ '"' :: '\n' :: cs), n + key.length + 1,
      n :: outer, false, ts ++ opening n columns ++ [.key, .scalar .plain key, .value]⟩
      (line cs (n :: outer) (ts ++ opening n columns ++ [.key, .scalar .plain key, .value] ++
        [.scalar .doubleQuoted value])) :=
    leads_quoted hvalue (by omega)
  rw [← hopened, List.append_assoc _ _ [_]] at hquoted
  rw [← hopened]
  exact (leads_key hkey hlength rfl hcolumns).trans hquoted

/-- A key whose value stands on the lines below it. -/
theorem leads_heading (hkey : isWord key = true) (hlength : key.length ≤ 1024)
    (hcolumns : columns.head?.all (· ≤ n)) :
    Leads ⟨key ++ ':' :: '\n' :: cs, n, columns, true, ts⟩
      (line cs (opened n columns)
        (ts ++ opening n columns ++ [.key, .scalar .plain key, .value])) :=
  (leads_key hkey hlength rfl hcolumns).trans leads_lineEnd

/-- A line starts where its indentation ends. -/
theorem leads_line (h : StartsVisibly cs) :
    Leads (line (indented n cs) columns ts) ⟨cs, n, columns, true, ts⟩ := by
  have hstart : Leads (line (indented n cs) columns ts) ⟨cs, 0 + n, columns, true, ts⟩ :=
    leads_indented h
  rwa [Nat.zero_add] at hstart

/-- An entry of a collection starts behind its dash. -/
theorem leads_entry (h : StartsVisibly cs) :
    Leads (line (indented n ('-' :: ' ' :: cs)) (n :: outer) ts)
      ⟨cs, n + 2, n :: outer, true, ts ++ [.blockEntry]⟩ :=
  ((leads_line (startsVisibly_cons rfl)).trans leads_dash).trans (leads_indented (n := 1) h)

end Lines

/-- A literal text that ends the text is an entry of a collection. -/
theorem leads_literal (text : List Char) (hcolumns : columns.head?.all (· ≤ k))
    (h : ∀ i l, (Yaml.blockScalar false columns.head? ⟨i, l, k + 1⟩ cs).map
      (fun a => (a.value, a.rest, a.position.column)) = some (text, [], 0)) :
    Leads ⟨'|' :: cs, k, columns, true, ts⟩
      (line [] columns (ts ++ [.scalar .literal text])) := by
  intro i l
  obtain ⟨⟨value, rest, ⟨i', l', column⟩⟩, hblock, ha⟩ := Option.map_eq_some_iff.1 (h (i + 1) l)
  obtain ⟨rfl, rfl, rfl⟩ : value = text ∧ rest = [] ∧ column = 0 := by simpa using ha
  have hword : wordAt false columns ⟨i, l, k⟩ '|' cs =
      some ⟨.block (.scalar .literal value), [], ⟨i', l', 0⟩⟩ := by
    rw [wordAt, isMarker_of_ne rfl, isMarker_of_ne rfl]
    simp [blockWord, Position.next, hblock, Piece.map]
  refine ⟨i', l', reaches_of_wordAt rfl hcolumns hword rfl (Nat.zero_le _) ?_⟩
  simp [TokenReader.after, push, reader, line]

/-! ## The ends of collections and of the text -/

/-- What ends at a column, or at the end of the text, is closed token by token. -/
theorem closeTo_reader (column : Option Nat) (i l : Nat) :
    (reader ⟨cs, k, columns, keyAllowed, ts⟩ i l).closeTo column =
      reader ⟨cs, k, columns.dropWhile fun c => column.all (· < c), keyAllowed,
        ts ++ List.replicate (columns.takeWhile fun c => column.all (· < c)).length .blockEnd⟩
          i l := by
  cases column <;> simp [closeTo, reader, inFlow, List.map_const']

/-- What is indented less than a collection ends it, and so does the end of the text. -/
theorem leads_close (hn : k < n) (h : Follows k cs) :
    Leads (line cs (n :: outer) ts) (line cs outer (ts ++ [.blockEnd])) := by
  obtain ⟨m, rest, hm, rfl, hrest⟩ := h
  intro i l
  have hnext : (reader (line (indented m rest) (n :: outer) ts) i l).toNextToken =
      reader ⟨rest, 0 + m, n :: outer, true, ts⟩ (i + m) l := toNextToken_indented hrest i l
  have hnext' : (reader (line (indented m rest) outer (ts ++ [.blockEnd])) i l).toNextToken =
      reader ⟨rest, 0 + m, outer, true, ts ++ [.blockEnd]⟩ (i + m) l :=
    toNextToken_indented hrest i l
  -- to end one collection and then the others is to end them all
  have hclose : ∀ column : Option Nat, column.all (· < n) = true →
      (reader ⟨rest, 0 + m, n :: outer, true, ts⟩ (i + m) l).closeTo column =
        (reader ⟨rest, 0 + m, outer, true, ts ++ [.blockEnd]⟩ (i + m) l).closeTo column := by
    intro column hcolumn
    rw [closeTo_reader, closeTo_reader, List.dropWhile_cons, if_pos hcolumn,
      List.takeWhile_cons, if_pos hcolumn, List.length_cons, List.replicate_succ,
      List.append_assoc]
    rfl
  refine ⟨i, l, fun fuel hfuel => ⟨fuel, ?_, ?_⟩⟩
  · rw [hnext] at hfuel
    rw [hnext']
    exact hfuel
  by_cases hnil : rest = []
  · rw [tokens_of_nil (by rw [hnext]; exact hnil), tokens_of_nil (by rw [hnext']; exact hnil),
      hnext, hnext', hclose none rfl]
  · have hne : (reader (line (indented m rest) (n :: outer) ts) i l).toNextToken.rest ≠ [] := by
      rw [hnext]
      exact hnil
    have hne' : (reader (line (indented m rest) outer (ts ++ [.blockEnd])) i l).toNextToken.rest
        ≠ [] := by
      rw [hnext']
      exact hnil
    cases fuel with
    | zero => rw [tokens_zero_of_ne_nil hne, tokens_zero_of_ne_nil hne']
    | succ fuel =>
        have hcolumn : (some (0 + m)).all (· < n) = true := decide_eq_true (by omega)
        rw [tokens_of_ne_nil hne, tokens_of_ne_nil hne', atWord, atWord, hnext, hnext']
        dsimp only [reader] at hclose ⊢
        rw [hclose (some (0 + m)) hcolumn]

/-- The tokens of a text whose lines lead to its end. -/
theorem tokens_of_leads (h : Leads (line cs [] []) (line [] columns ts)) :
    (TokenReader.start cs).tokens cs.length =
      some (ts ++ List.replicate columns.length .blockEnd) := by
  obtain ⟨i, l, hreach⟩ := h 0 0
  obtain ⟨fuel, -, htokens⟩ := hreach cs.length (length_toNextToken_le _)
  have hend : (reader (line [] columns ts) i l).toNextToken =
      reader (line [] columns ts) i l := rfl
  have hall : columns.takeWhile (fun c => (none : Option Nat).all (· < c)) = columns :=
    List.takeWhile_eq_self_iff.2 fun _ _ => rfl
  refine Eq.trans htokens ?_
  rw [tokens_of_nil (by rw [hend]; rfl), hend, line, closeTo_reader, hall]
  simp [forgetKey, reader]

end Spot

end TestCluster.Yaml
