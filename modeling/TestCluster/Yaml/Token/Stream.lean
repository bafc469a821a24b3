import TestCluster.Yaml.Token.Plain
import TestCluster.Yaml.Token.Tag

/-!
# Token streams — a YAML text as a row of tokens

    The reader keeps the columns of the open block collections. What starts further right
    opens a collection, what starts further left closes one. A node that may turn out to be
    a key is remembered with the number of its first token: when a colon follows it on the
    same line, the tokens that announce a key are put before it.
-/

namespace TestCluster.Yaml

/-- A node that is a key if a colon follows. -/
structure PossibleKey where
  /-- How many tokens come before it. -/
  number : Nat
  position : Position
  /-- Whether nothing but a key may stand in its place. -/
  required : Bool
  deriving Repr

/-- A reader of tokens in the middle of a text. -/
structure TokenReader where
  rest : List Char
  position : Position
  /-- The columns of the open block collections, the innermost one first. -/
  columns : List Nat
  /-- The node of the innermost flow collection, or of the block, that may be a key. -/
  possibleKey : Option PossibleKey
  /-- The same of the block and flow collections around, one for each open bracket. -/
  outerKeys : List (Option PossibleKey)
  /-- Whether a node that starts here may be a key. -/
  keyAllowed : Bool
  /-- The tokens so far, the last one first. -/
  reversed : List Token
  deriving Repr

namespace TokenReader

/-- The reader at the start of a text. -/
def start (cs : List Char) : TokenReader :=
  { rest := cs, position := .start, columns := [], possibleKey := none, outerKeys := [],
    keyAllowed := true, reversed := [] }

/-- Whether a bracket is open. -/
def inFlow (r : TokenReader) : Bool := !r.outerKeys.isEmpty

/-- The reader with a token put on. -/
def push (token : Token) (r : TokenReader) : TokenReader :=
  { r with reversed := token :: r.reversed }

/-- The reader with a token put before those from a number on. -/
def insertAt (number : Nat) (token : Token) (r : TokenReader) : TokenReader :=
  { r with reversed := r.reversed.insertIdx (r.reversed.length - number) token }

/-- The reader after some characters of the line. -/
def advance (n : Nat) (r : TokenReader) : TokenReader :=
  { r with rest := r.rest.drop n, position := r.position.skip n }

/-- The reader after a piece that it took off the front. -/
def after {α : Type} (piece : Piece α) (r : TokenReader) : TokenReader :=
  { r with rest := piece.rest, position := piece.position }

/-- Skips what may stand between two tokens: spaces, comments and line ends, and tabs where
    no key may start. A byte order mark at the start of the text counts as a character. -/
def skipGap (flow keyAllowed comment : Bool) (p : Position) :
    List Char → List Char × Position × Bool
  | [] => ([], p, keyAllowed)
  | c :: cs =>
    if isBreak c then
      if c == '\r' && cs.head? == some '\n' then skipGap flow keyAllowed comment p.next cs
      else skipGap flow (keyAllowed || !flow) false p.newLine cs
    else if comment then skipGap flow keyAllowed true p.next cs
    else if c == ' ' || (c == '\t' && (flow || !keyAllowed)) || (c == '\uFEFF' && p.index == 0)
    then skipGap flow keyAllowed false p.next cs
    else if c == '#' then skipGap flow keyAllowed true p.next cs
    else (c :: cs, p, keyAllowed)

/-- The reader at the next token. -/
def toNextToken (r : TokenReader) : TokenReader :=
  let (rest, position, keyAllowed) := skipGap r.inFlow r.keyAllowed false r.position r.rest
  { r with rest, position, keyAllowed }

/-- Closes the block collections that start right of a column; all of them without one. -/
def closeTo (column : Option Nat) (r : TokenReader) : TokenReader :=
  if r.inFlow then r
  else
    let ends (c : Nat) : Bool := match column with
      | some n => decide (n < c)
      | none => true
    { r with
      columns := r.columns.dropWhile ends
      reversed := (r.columns.takeWhile ends).map (fun _ => Token.blockEnd) ++ r.reversed }

/-- Opens a block collection at a column, unless one is open there. -/
def openAt (column : Nat) (opening : Token) (number : Nat) (r : TokenReader) : TokenReader :=
  let opens : Bool := match r.columns with
    | [] => true
    | c :: _ => decide (c < column)
  if !r.inFlow && opens then
    { r with columns := column :: r.columns }.insertAt number opening
  else r

/-- Gives up that the last node may be a key; fails if it has to be one. -/
def forgetKey (r : TokenReader) : Option TokenReader :=
  if r.possibleKey.any (·.required) then none else some { r with possibleKey := none }

/-- Remembers that the node that starts here may be a key, where one is allowed. -/
def rememberKey (r : TokenReader) : Option TokenReader :=
  if r.keyAllowed then do
    let r ← r.forgetKey
    let required := !r.inFlow && r.columns.head? == some r.position.column
    some { r with possibleKey := some ⟨r.reversed.length, r.position, required⟩ }
  else some r

/-- The reader with a word on which a key may start, or may not, after it. -/
def indicator (token : Token) (length : Nat) (keyAllowed : Bool) (r : TokenReader) :
    TokenReader :=
  { r.push token with keyAllowed }.advance length

/-- Reads a directive or document marker: it closes all that is open. -/
def documentLevel (r : TokenReader) : Option TokenReader := do
  let r ← (r.closeTo none).forgetKey
  some { r with keyAllowed := false }

/-- Reads an opening bracket. -/
def openBracket (token : Token) (r : TokenReader) : Option TokenReader := do
  let r ← r.rememberKey
  some ({ r with possibleKey := none, outerKeys := r.possibleKey :: r.outerKeys }.indicator
    token 1 true)

/-- Reads a closing bracket. -/
def closeBracket (token : Token) (r : TokenReader) : Option TokenReader := do
  let r ← r.forgetKey
  let r := match r.outerKeys with
    | [] => r
    | key :: keys => { r with possibleKey := key, outerKeys := keys }
  some (r.indicator token 1 false)

/-- Reads the dash of a sequence entry. -/
def blockEntry (r : TokenReader) : Option TokenReader :=
  if r.inFlow || r.keyAllowed then do
    let r ← (r.openAt r.position.column .blockSequenceStart r.reversed.length).forgetKey
    some (r.indicator .blockEntry 1 true)
  else none

/-- Reads the question mark of a key. -/
def explicitKey (r : TokenReader) : Option TokenReader :=
  if r.inFlow || r.keyAllowed then do
    let r ← (r.openAt r.position.column .blockMappingStart r.reversed.length).forgetKey
    some (r.indicator .key 1 !r.inFlow)
  else none

/-- Whether a node may still be the key of a colon at a place: it is on the same line, and no
    more than 1024 characters away. -/
def PossibleKey.reaches (key : PossibleKey) (p : Position) : Bool :=
  key.position.line == p.line && decide (p.index ≤ key.position.index + 1024)

/-- Reads the colon of a value. -/
def value (r : TokenReader) : Option TokenReader :=
  match r.possibleKey.filter (PossibleKey.reaches · r.position) with
  | some key =>
    let r := { r with possibleKey := none }.insertAt key.number .key
    some ((r.openAt key.position.column .blockMappingStart key.number).indicator .value 1 false)
  | none =>
    if r.possibleKey.any (·.required) then none
    else if r.inFlow then some (r.indicator .value 1 false)
    else if r.keyAllowed then
      let r := r.openAt r.position.column .blockMappingStart r.reversed.length
      some (r.indicator .value 1 true)
    else none

/-- The reader after a node's word; no key may start after it. -/
def word {α : Type} (piece : Option (Piece α)) (token : α → Token) (r : TokenReader) :
    Option TokenReader := do
  let r ← r.rememberKey
  let piece ← piece
  some ({ r.push (token piece.value) with keyAllowed := false }.after piece)

/-- Reads a block scalar after its indicator. -/
def blockScalar (folded : Bool) (cs : List Char) (r : TokenReader) : Option TokenReader := do
  let r ← r.forgetKey
  let piece ← Yaml.blockScalar folded r.columns.head? r.position.next cs
  let style := if folded then ScalarStyle.folded else .literal
  some ({ r.push (.scalar style piece.value) with keyAllowed := true }.after piece)

/-- Reads a plain scalar. A key may start after it if it ends with a line. -/
def plainScalar (r : TokenReader) : Option TokenReader := do
  let r ← r.rememberKey
  let indent := match r.columns with
    | [] => 0
    | c :: _ => c + 1
  let piece ← plainFrom r.inFlow indent .none [] r.position r.rest
  some ({ r.push (.scalar .plain piece.value.text) with
    keyAllowed := piece.value.broken }.after piece)

/-- Whether a plain scalar may start here. -/
def startsPlain (flow : Bool) (c : Char) (cs : List Char) : Bool :=
  if c == '-' then !cs.head?.any isBlank
  else if c == '?' || c == ':' then !flow && !startsBlank cs
  else !("-?:,[]{}#&*!|>'\"%@\x60 \t".toList.contains c || isBreak c)

/-- Reads the token that starts here. -/
def token (r : TokenReader) (c : Char) (cs : List Char) : Option TokenReader :=
  let p := r.position
  if p.column == 0 && c == '%' then do
    let piece ← directiveAt p.next cs
    let r ← r.documentLevel
    some ((r.push piece.value).after piece)
  else if p.column == 0 && isMarker '-' (c :: cs) then
    r.documentLevel.map fun r => (r.push .documentStart).advance 3
  else if p.column == 0 && isMarker '.' (c :: cs) then
    r.documentLevel.map fun r => (r.push .documentEnd).advance 3
  else if c == '[' then r.openBracket .flowSequenceStart
  else if c == '{' then r.openBracket .flowMappingStart
  else if c == ']' then r.closeBracket .flowSequenceEnd
  else if c == '}' then r.closeBracket .flowMappingEnd
  else if c == ',' then r.forgetKey.map (·.indicator .flowEntry 1 true)
  else if c == '-' && startsBlank cs then r.blockEntry
  else if c == '?' && (r.inFlow || startsBlank cs) then r.explicitKey
  else if c == ':' && (r.inFlow || startsBlank cs) then r.value
  else if c == '*' then r.word (anchorName p.next cs) .alias
  else if c == '&' then r.word (anchorName p.next cs) .anchor
  else if c == '!' then r.word (tagAt r.inFlow p (c :: cs)) fun (handle, suffix) => .tag handle suffix
  else if c == '|' && !r.inFlow then r.blockScalar false cs
  else if c == '>' && !r.inFlow then r.blockScalar true cs
  else if c == '\'' then r.word (quotedFrom false .text .none [] p.next cs) (.scalar .singleQuoted)
  else if c == '"' then r.word (quotedFrom true .text .none [] p.next cs) (.scalar .doubleQuoted)
  else if startsPlain r.inFlow c cs then r.plainScalar
  else none

/-- Reads tokens to the end of the text. Every token takes at least one character off, so
    `fuel` need be no more than their number. -/
def tokens : (fuel : Nat) → TokenReader → Option (List Token)
  | fuel, r =>
    let r := r.toNextToken
    match r.rest with
    | [] => do
      let r ← (r.closeTo none).forgetKey
      some r.reversed.reverse
    | c :: cs =>
      match fuel with
      | 0 => none
      | fuel + 1 => do tokens fuel (← (r.closeTo (some r.position.column)).token c cs)

end TokenReader

/-- The tokens of a YAML text. -/
def Token.ofChars? (cs : List Char) : Option (List Token) :=
  if cs.all isAllowed then (TokenReader.start cs).tokens cs.length else none

end TestCluster.Yaml
