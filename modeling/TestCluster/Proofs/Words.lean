import Mathlib.Tactic.SplitIfs
import TestCluster.Yaml.Token.Stream

/-!
# Words — what is read of a text and what the reader makes of it

    A step of the reader of tokens does two things. It takes a word off the front of the
    text, for which it has to know no more than the place and what is open there; and it
    changes what it keeps, for which it has to know no more than the word. Here the two are
    taken apart, and `token_eq_word` says that together they are the step.
-/

namespace TestCluster.Yaml

/-- What the reader of tokens takes off a text in one step. -/
inductive Word
  /-- A directive or a document marker. -/
  | level (token : Token)
  | opening (token : Token)
  | closing (token : Token)
  | comma
  | dash
  | question
  | colon
  /-- What belongs to a node, and whether a key may start after it. -/
  | node (token : Token) (keyAllowed : Bool)
  | block (token : Token)

/-- A piece with its value changed. -/
def Piece.map {α β : Type} (f : α → β) (piece : Piece α) : Piece β :=
  ⟨f piece.value, piece.rest, piece.position⟩

@[simp] theorem Piece.map_value {α β : Type} (f : α → β) (a : Piece α) :
    (a.map f).value = f a.value := rfl

@[simp] theorem Piece.map_rest {α β : Type} (f : α → β) (a : Piece α) :
    (a.map f).rest = a.rest := rfl

@[simp] theorem Piece.map_position {α β : Type} (f : α → β) (a : Piece α) :
    (a.map f).position = a.position := rfl

/-- The least column of a further line of a plain scalar, in the block collections that are
    open. -/
def plainIndent : List Nat → Nat
  | [] => 0
  | c :: _ => c + 1

/-- The block scalar that starts here, as a word. -/
def blockWord (folded : Bool) (columns : List Nat) (p : Position) (cs : List Char) :
    Option (Piece Word) :=
  (blockScalar folded columns.head? p.next cs).map
    (·.map fun text => .block (.scalar (if folded then .folded else .literal) text))

/-- The word that starts here. -/
def wordAt (flow : Bool) (columns : List Nat) (p : Position) (c : Char) (cs : List Char) :
    Option (Piece Word) :=
  if p.column == 0 && c == '%' then (directiveAt p.next cs).map (·.map .level)
  else if p.column == 0 && isMarker '-' (c :: cs) then
    some ⟨.level .documentStart, cs.drop 2, p.skip 3⟩
  else if p.column == 0 && isMarker '.' (c :: cs) then
    some ⟨.level .documentEnd, cs.drop 2, p.skip 3⟩
  else if c == '[' then some ⟨.opening .flowSequenceStart, cs, p.next⟩
  else if c == '{' then some ⟨.opening .flowMappingStart, cs, p.next⟩
  else if c == ']' then some ⟨.closing .flowSequenceEnd, cs, p.next⟩
  else if c == '}' then some ⟨.closing .flowMappingEnd, cs, p.next⟩
  else if c == ',' then some ⟨.comma, cs, p.next⟩
  else if c == '-' && startsBlank cs then some ⟨.dash, cs, p.next⟩
  else if c == '?' && (flow || startsBlank cs) then some ⟨.question, cs, p.next⟩
  else if c == ':' && (flow || startsBlank cs) then some ⟨.colon, cs, p.next⟩
  else if c == '*' then (anchorName p.next cs).map (·.map fun name => .node (.alias name) false)
  else if c == '&' then (anchorName p.next cs).map (·.map fun name => .node (.anchor name) false)
  else if c == '!' then
    (tagAt flow p (c :: cs)).map (·.map fun tag => .node (.tag tag.1 tag.2) false)
  else if c == '|' && !flow then blockWord false columns p cs
  else if c == '>' && !flow then blockWord true columns p cs
  else if c == '\'' then
    (quotedFrom false .text .none [] p.next cs).map
      (·.map fun text => .node (.scalar .singleQuoted text) false)
  else if c == '"' then
    (quotedFrom true .text .none [] p.next cs).map
      (·.map fun text => .node (.scalar .doubleQuoted text) false)
  else if TokenReader.startsPlain flow c cs then
    (plainFrom flow (plainIndent columns) .none [] p (c :: cs)).map
      (·.map fun plain => .node (.scalar .plain plain.text) plain.broken)
  else none

namespace TokenReader

/-- What the reader keeps after a word. -/
def put (r : TokenReader) : Word → Option TokenReader
  | .level token => r.documentLevel.map (·.push token)
  | .opening token => r.openBracket token
  | .closing token => r.closeBracket token
  | .comma => r.forgetKey.map (·.indicator .flowEntry 1 true)
  | .dash => r.blockEntry
  | .question => r.explicitKey
  | .colon => r.value
  | .node token keyAllowed => r.rememberKey.map fun r => { r.push token with keyAllowed }
  | .block token => r.forgetKey.map fun r => { r.push token with keyAllowed := true }

end TokenReader

theorem ite_eq_bind {α β : Type} {b : Prop} [Decidable b] {x y : Option α} {x' y' : Option β}
    {f : α → Option β} (hx : x' = x.bind f) (hy : y' = y.bind f) :
    (if b then x' else y') = (if b then x else y).bind f := by
  split
  · exact hx
  · exact hy

/-- The token that is put on last for a word. -/
def Word.token : Word → Token
  | .level token | .opening token | .closing token | .node token _ | .block token => token
  | .comma => .flowEntry
  | .dash => .blockEntry
  | .question => .key
  | .colon => .value

/-- Whether the word is one character that stands for itself. -/
def Word.isSign : Word → Bool
  | .level _ | .node .. | .block _ => false
  | _ => true

namespace TokenReader

variable {r r' : TokenReader}

theorem forgetKey_eq_some (h : r.forgetKey = some r') : r' = { r with possibleKey := none } := by
  rw [forgetKey] at h
  split at h
  · cases h
  · exact (Option.some.inj h).symm

theorem rememberKey_eq_some (h : r.rememberKey = some r') :
    ∃ key, r' = { r with possibleKey := key } := by
  rw [rememberKey] at h
  split at h
  · obtain ⟨q, hq, h⟩ := Option.bind_eq_some_iff.1 h
    rw [forgetKey_eq_some hq] at h
    exact ⟨_, (Option.some.inj h).symm⟩
  · exact ⟨r.possibleKey, (Option.some.inj h).symm⟩

@[simp] theorem closeTo_rest (column : Option Nat) (r : TokenReader) :
    (r.closeTo column).rest = r.rest := by
  rw [closeTo]
  split <;> rfl

@[simp] theorem closeTo_position (column : Option Nat) (r : TokenReader) :
    (r.closeTo column).position = r.position := by
  rw [closeTo]
  split <;> rfl

@[simp] theorem closeTo_keyAllowed (column : Option Nat) (r : TokenReader) :
    (r.closeTo column).keyAllowed = r.keyAllowed := by
  rw [closeTo]
  split <;> rfl

theorem documentLevel_place (h : r.documentLevel = some r') :
    r'.rest = r.rest ∧ r'.position = r.position := by
  obtain ⟨q, hq, h⟩ := Option.bind_eq_some_iff.1 h
  rw [← Option.some.inj h, forgetKey_eq_some hq]
  exact ⟨closeTo_rest _ r, closeTo_position _ r⟩

/-- Whether a block collection at the column would be opened. -/
def opensAt (r : TokenReader) (column : Nat) : Bool :=
  !r.inFlow && r.columns.head?.all (· < column)

theorem openAt_eq (column : Nat) (opening : Token) (number : Nat) (r : TokenReader) :
    r.openAt column opening number =
      if r.opensAt column then
        { r with columns := column :: r.columns }.insertAt number opening
      else r := by
  rw [openAt, opensAt]
  cases r.columns <;> rfl

@[simp] theorem openAt_rest (column : Nat) (opening : Token) (number : Nat) (r : TokenReader) :
    (r.openAt column opening number).rest = r.rest := by
  rw [openAt_eq]
  split <;> rfl

@[simp] theorem openAt_position (column : Nat) (opening : Token) (number : Nat)
    (r : TokenReader) : (r.openAt column opening number).position = r.position := by
  rw [openAt_eq]
  split <;> rfl

/-- A sign takes one character. -/
theorem put_sign {w : Word} (hw : w.isSign) (h : r.put w = some r') :
    r'.rest = r.rest.drop 1 ∧ r'.position = r.position.next := by
  cases w with
  | level | node | block => cases hw
  -- what a sign opens, closes or remembers leaves the text and the place alone
  | opening token =>
      obtain ⟨q, hq, h⟩ := Option.bind_eq_some_iff.1 h
      obtain ⟨key, rfl⟩ := rememberKey_eq_some hq
      rw [← Option.some.inj h]
      exact ⟨rfl, rfl⟩
  | closing token =>
      obtain ⟨q, hq, h⟩ := Option.bind_eq_some_iff.1 h
      rw [forgetKey_eq_some hq] at h
      rw [← Option.some.inj h]
      cases hk : r.outerKeys <;> exact ⟨rfl, rfl⟩
  | comma =>
      obtain ⟨q, hq, h⟩ := Option.map_eq_some_iff.1 h
      rw [← h, forgetKey_eq_some hq]
      exact ⟨rfl, rfl⟩
  | dash =>
      simp only [put, blockEntry] at h
      split at h
      · obtain ⟨q, hq, h⟩ := Option.bind_eq_some_iff.1 h
        rw [← Option.some.inj h, forgetKey_eq_some hq]
        simp [indicator, push, advance, Position.skip, Position.next]
      · cases h
  | question =>
      simp only [put, explicitKey] at h
      split at h
      · obtain ⟨q, hq, h⟩ := Option.bind_eq_some_iff.1 h
        rw [← Option.some.inj h, forgetKey_eq_some hq]
        simp [indicator, push, advance, Position.skip, Position.next]
      · cases h
  | colon =>
      simp only [put, value] at h
      split at h
      · rw [← Option.some.inj h]
        simp [indicator, push, advance, insertAt, Position.skip, Position.next]
      · split_ifs at h
        · rw [← Option.some.inj h]
          exact ⟨rfl, rfl⟩
        · rw [← Option.some.inj h]
          simp [indicator, push, advance, Position.skip, Position.next]

/-- The step at a sign is what is kept after it. -/
theorem put_map_after {w : Word} {c : Char} {cs : List Char} (hw : w.isSign)
    (h : r.rest = c :: cs) :
    (r.put w).map (·.after (⟨w, cs, r.position.next⟩ : Piece Word)) = r.put w := by
  cases hp : r.put w with
  | none => rfl
  | some q =>
      obtain ⟨hrest, hposition⟩ := put_sign hw hp
      rw [h] at hrest
      rw [Option.map_some, after, ← hposition, ← show q.rest = cs from hrest]

/-- The step at a word that belongs to a node. -/
theorem word_eq_put {α : Type} (piece : Option (Piece α)) (token : α → Token)
    (r : TokenReader) :
    r.word piece token = (piece.map (·.map fun a => Word.node (token a) false)).bind
      fun a => (r.put a.value).map (·.after a) := by
  cases piece <;> cases h : r.rememberKey <;> simp [word, put, h, after, push]

theorem blockScalar_eq_put (folded : Bool) (cs : List Char) (r : TokenReader) :
    r.blockScalar folded cs = (blockWord folded r.columns r.position cs).bind
      fun a => (r.put a.value).map (·.after a) := by
  cases h : r.forgetKey with
  | none =>
      cases hb : Yaml.blockScalar folded r.columns.head? r.position.next cs <;>
        simp [blockScalar, blockWord, put, h, hb]
  | some q =>
      obtain rfl := forgetKey_eq_some h
      cases hb : Yaml.blockScalar folded r.columns.head? r.position.next cs <;>
        simp [blockScalar, blockWord, put, h, hb, after, push]

theorem plainScalar_eq_put (r : TokenReader) :
    r.plainScalar =
      ((plainFrom r.inFlow (plainIndent r.columns) .none [] r.position r.rest).map
        (·.map fun plain => Word.node (.scalar .plain plain.text) plain.broken)).bind
        fun a => (r.put a.value).map (·.after a) := by
  cases h : r.rememberKey with
  | none =>
      cases plainFrom r.inFlow (plainIndent r.columns) .none [] r.position r.rest <;>
        simp [plainScalar, put, h]
  | some q =>
      obtain ⟨key, rfl⟩ := rememberKey_eq_some h
      rw [plainScalar, h]
      show (plainFrom r.inFlow (plainIndent r.columns) .none [] r.position r.rest).bind _ = _
      cases plainFrom r.inFlow (plainIndent r.columns) .none [] r.position r.rest <;>
        simp [put, h, after, push]

/-- A step of the reader takes a word off the text and keeps what the word changes. -/
theorem token_eq_word {c : Char} {cs : List Char} (h : r.rest = c :: cs) :
    r.token c cs = (wordAt r.inFlow r.columns r.position c cs).bind
      fun a => (r.put a.value).map (·.after a) := by
  -- one fact for each kind of word, so that the tests of the step are gone through once
  have sign (w : Word) (hw : w.isSign) : r.put w =
      (some (⟨w, cs, r.position.next⟩ : Piece Word)).bind
        fun a => (r.put a.value).map (·.after a) := (put_map_after hw h).symm
  have marker (token : Token) :
      (r.documentLevel.map fun q => (q.push token).advance 3) =
        (some (⟨.level token, cs.drop 2, r.position.skip 3⟩ : Piece Word)).bind
          fun a => (r.put a.value).map (·.after a) := by
    cases hl : r.documentLevel with
    | none => simp [put, hl]
    | some q =>
        obtain ⟨hrest, hposition⟩ := documentLevel_place hl
        simp [put, hl, push, after, advance, hrest, hposition, h]
  -- both sides make the same tests in the same order
  rw [token, wordAt]
  refine ite_eq_bind ?directive <| ite_eq_bind (marker _) <| ite_eq_bind (marker _) <|
    ite_eq_bind (sign (.opening .flowSequenceStart) rfl) <|
    ite_eq_bind (sign (.opening .flowMappingStart) rfl) <|
    ite_eq_bind (sign (.closing .flowSequenceEnd) rfl) <|
    ite_eq_bind (sign (.closing .flowMappingEnd) rfl) <| ite_eq_bind (sign .comma rfl) <|
    ite_eq_bind (sign .dash rfl) <| ite_eq_bind (sign .question rfl) <|
    ite_eq_bind (sign .colon rfl) <|
    ite_eq_bind (word_eq_put _ _ r) <| ite_eq_bind (word_eq_put _ _ r) <|
    ite_eq_bind (word_eq_put _ _ r) <| ite_eq_bind (blockScalar_eq_put _ _ r) <|
    ite_eq_bind (blockScalar_eq_put _ _ r) <| ite_eq_bind (word_eq_put _ _ r) <|
    ite_eq_bind (word_eq_put _ _ r) <| ite_eq_bind ?plain rfl
  case directive =>
    cases directiveAt r.position.next cs <;> cases hl : r.documentLevel <;>
      simp [put, hl, push, after]
  case plain => rw [plainScalar_eq_put, h]

/-- The reader before its next word, with what ends there closed. -/
def atWord (r : TokenReader) : TokenReader :=
  let r := r.toNextToken
  r.closeTo (some r.position.column)

@[simp] theorem atWord_rest (r : TokenReader) : r.atWord.rest = r.toNextToken.rest :=
  closeTo_rest _ _

@[simp] theorem atWord_position (r : TokenReader) : r.atWord.position = r.toNextToken.position :=
  closeTo_position _ _

@[simp] theorem atWord_keyAllowed (r : TokenReader) :
    r.atWord.keyAllowed = r.toNextToken.keyAllowed := closeTo_keyAllowed _ _

/-- The reader after the word that starts here. -/
def word? (r : TokenReader) : Option TokenReader :=
  match r.rest with
  | [] => none
  | c :: cs => r.token c cs

/-- The reader at each word, up to one that it does not understand. -/
def words : (fuel : Nat) → TokenReader → List TokenReader
  | 0, _ => []
  | fuel + 1, r =>
    let r := r.atWord
    if r.rest.isEmpty then []
    else r :: match r.word? with
      | none => []
      | some r => words fuel r

/-- The reader at the same place of another text. -/
def withRest (cs : List Char) (r : TokenReader) : TokenReader := { r with rest := cs }

/-- The tokens after the word that starts here, the last one first. -/
def wordTokens? (r : TokenReader) : Option (List Token) := r.word?.map (·.reversed)

/-- Whether the word that starts here says the same if the text ends before `after`. -/
def isWhole (after : List Char) (r : TokenReader) : Bool :=
  let n := r.rest.length - after.length
  n == 0 || r.wordTokens? == (r.withRest (r.rest.take n)).wordTokens?

theorem word?_eq {c : Char} {cs : List Char} (h : r.rest = c :: cs) : r.word? =
    (wordAt r.inFlow r.columns r.position c cs).bind fun a => (r.put a.value).map (·.after a) := by
  rw [word?, h]
  exact token_eq_word h

/-- What it says that a word was read. -/
theorem word?_eq_some {c : Char} {cs : List Char} (hr : r.rest = c :: cs)
    (h : r.word? = some r') :
    ∃ a q, wordAt r.inFlow r.columns r.position c cs = some a ∧ r.put a.value = some q ∧
      r' = q.after a := by
  rw [word?_eq hr] at h
  obtain ⟨a, ha, h⟩ := Option.bind_eq_some_iff.1 h
  obtain ⟨q, hq, rfl⟩ := Option.map_eq_some_iff.1 h
  exact ⟨a, q, ha, hq, rfl⟩

/-- At the end of a text the reader closes all that is open. -/
theorem tokens_of_nil {fuel : Nat} (h : r.toNextToken.rest = []) :
    r.tokens fuel = (r.toNextToken.closeTo none).forgetKey.map (·.reversed.reverse) := by
  rw [tokens, h]
  dsimp only
  cases (r.toNextToken.closeTo none).forgetKey <;> rfl

/-- Before it, the reader reads a word and goes on. -/
theorem tokens_of_ne_nil {fuel : Nat} (h : r.toNextToken.rest ≠ []) :
    r.tokens (fuel + 1) = r.atWord.word?.bind (tokens fuel) := by
  obtain ⟨c, cs, hr⟩ := List.exists_cons_of_ne_nil h
  rw [tokens, hr, word?, atWord, closeTo_rest, hr]
  rfl

theorem tokens_zero_of_ne_nil (h : r.toNextToken.rest ≠ []) : r.tokens 0 = none := by
  obtain ⟨c, cs, hr⟩ := List.exists_cons_of_ne_nil h
  rw [tokens, hr]

theorem atWord_mem_words {fuel : Nat} (h : r.toNextToken.rest ≠ []) :
    r.atWord ∈ r.words (fuel + 1) := by
  rw [words, atWord_rest, if_neg (by rwa [List.isEmpty_iff])]
  exact List.mem_cons_self

theorem words_subset {fuel : Nat} (h : r.toNextToken.rest ≠ [])
    (hr : r.atWord.word? = some r') : r'.words fuel ⊆ r.words (fuel + 1) := by
  rw [words, hr, if_neg]
  · exact List.subset_cons_self ..
  · rwa [atWord_rest, List.isEmpty_iff]

/-- A word that says the same is read in the cut text, and the other way round. -/
theorem isWhole_iff {c : Char} {u z : List Char} (hr : r.rest = c :: (u ++ z)) :
    r.isWhole z = true ↔ r.wordTokens? = (r.withRest (c :: u)).wordTokens? := by
  have hn : r.rest.length - z.length = u.length + 1 := by
    rw [hr, List.length_cons, List.length_append]
    omega
  have htake : r.rest.take (u.length + 1) = c :: u := by
    rw [hr, List.take_succ_cons, List.take_left]
  simp [isWhole, hn, htake]

end TokenReader

end TestCluster.Yaml
