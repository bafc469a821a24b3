/-!
# Forms of a command line — options, switches and words

    An option is written with two dashes and its name, or with one dash and a letter. Its value
    is the next word, or stands in the same word: after an equals sign, or right after the
    letter. Letters of switches may share a word. The next word is no value if it starts with
    a dash, unless it is the dash alone; after a word of two dashes all are plain words. Only
    options that say so may be given more than once.
-/

namespace TestCluster.CommandLine

/-- Why a command line is not carried out. -/
inductive Stop
  /-- It is not one that the program understands. -/
  | usage
  | help
  | version
  deriving DecidableEq, Repr

/-- What an option does. -/
inductive Role
  | switch
  /-- Takes a value of a certain form; `repeats` says whether it may be given again. -/
  | value (accepts : String → Bool) (repeats : Bool)
  | stop (reason : Stop)

/-- An option. -/
structure OptionForm where
  name : String
  letter : Option Char := none
  role : Role

/-- A command: its options, and the forms of its plain words. -/
structure CommandForm where
  options : List OptionForm
  words : List (String → Bool) := []

/-- What is given on a command line, in its order. -/
structure Given where
  /-- The options by their names, with their values; that of a switch is empty. -/
  options : List (String × String) := []
  words : List String := []
  deriving DecidableEq, Repr

namespace Given

/-- Whether an option is given. -/
def has (g : Given) (name : String) : Bool := g.options.any (·.1 == name)

/-- The values of an option. -/
def values (g : Given) (name : String) : List String :=
  (g.options.filter (·.1 == name)).map Prod.snd

/-- The value of an option that is given at most once. -/
def value? (g : Given) (name : String) : Option String := g.options.lookup name

/-- Takes note of a switch. -/
def switch (g : Given) (o : OptionForm) : Except Stop Given :=
  match o.role with
  | .switch =>
    if g.has o.name then .error .usage else .ok { g with options := g.options ++ [(o.name, "")] }
  | .stop reason => .error reason
  | .value .. => .error .usage

/-- Takes note of an option with its value. -/
def option (g : Given) (o : OptionForm) (value : String) : Except Stop Given :=
  match o.role with
  | .value accepts repeats =>
    if accepts value && (repeats || !g.has o.name) then
      .ok { g with options := g.options ++ [(o.name, value)] }
    else .error .usage
  | _ => .error .usage

/-- Takes note of a plain word. -/
def word (g : Given) (form : CommandForm) (w : String) : Except Stop Given :=
  match form.words[g.words.length]? with
  | some accepts => if accepts w then .ok { g with words := g.words ++ [w] } else .error .usage
  | none => .error .usage

end Given

/-- What a word of a command line looks like. -/
inductive Word
  | plain
  /-- Two dashes alone. -/
  | dashes
  /-- The name of an option, and its value if there is an equals sign. -/
  | long (name : List Char) (value : Option (List Char))
  /-- The letters after a single dash. -/
  | short (letters : List Char)
  deriving DecidableEq, Repr

/-- What a word looks like. -/
def Word.ofChars : List Char → Word
  | ['-', '-'] => .dashes
  | '-' :: '-' :: cs =>
    let value := cs.dropWhile (· != '=')
    .long (cs.takeWhile (· != '=')) (if value.isEmpty then none else some (value.drop 1))
  | '-' :: c :: cs => .short (c :: cs)
  | _ => .plain

/-- What a word looks like. -/
def Word.of (s : String) : Word := .ofChars s.toList

/-- What is given up to a word, and the option whose value the next word is to be. -/
abbrev Reading := Except Stop (Given × Option OptionForm)

namespace CommandForm

variable (form : CommandForm)

/-- The option of a name. -/
def named? (name : List Char) : Option OptionForm := form.options.find? (·.name.toList == name)

/-- The option of a letter. -/
def lettered? (letter : Char) : Option OptionForm := form.options.find? (·.letter == some letter)

/-- Reads an option that is written with its name. -/
def readLong (g : Given) (name : List Char) (value : Option (List Char)) : Reading :=
  match form.named? name, value with
  | none, _ => .error .usage
  | some o, some v => (g.option o (String.ofList v)).map (·, none)
  | some o, none =>
    match o.role with
    | .value .. => .ok (g, some o)
    | _ => (g.switch o).map (·, none)

/-- Reads options that are written with their letters. -/
def readShort (g : Given) : List Char → Reading
  | [] => .ok (g, none)
  | c :: cs =>
    match form.lettered? c with
    | none => .error .usage
    | some o =>
      match o.role with
      | .value .. =>
        match cs with
        | [] => .ok (g, some o)
        | '=' :: v => (g.option o (String.ofList v)).map (·, none)
        | v => (g.option o (String.ofList v)).map (·, none)
      | _ =>
        match g.switch o with
        | .error stop => .error stop
        | .ok g => readShort g cs

/-- Reads plain words. -/
def readWords (g : Given) (words : List String) : Except Stop Given :=
  words.foldlM (fun g w => g.word form w) g

/-- Reads the words of a command. `pending` is an option whose value is to come. -/
def readFrom (g : Given) (pending : Option OptionForm) : List String → Except Stop Given
  | [] => if pending.isSome then .error .usage else .ok g
  | w :: ws =>
    match pending, Word.of w with
    | some o, .plain => do readFrom (← g.option o w) none ws
    | some _, _ => .error .usage
    | none, .plain => do readFrom (← g.word form w) none ws
    | none, .dashes => form.readWords g ws
    | none, .long name value => do
      let (g, pending) ← form.readLong g name value
      readFrom g pending ws
    | none, .short letters => do
      let (g, pending) ← form.readShort g letters
      readFrom g pending ws

/-- Reads the words of a command, all of whose plain words have to be there. -/
def read (words : List String) : Except Stop Given := do
  let g ← form.readFrom {} none words
  if g.words.length = form.words.length then pure g else throw .usage

/-- Reads the words before the name of a command, which is the first plain word; gives what
    is read, the name and the words after it. -/
def readAhead (g : Given) (pending : Option OptionForm) :
    List String → Except Stop (Given × String × List String)
  | [] => .error .usage
  | w :: ws =>
    match pending, Word.of w with
    | some o, .plain => do readAhead (← g.option o w) none ws
    | some _, _ => .error .usage
    | none, .plain => .ok (g, w, ws)
    | none, .dashes => .error .usage
    | none, .long name value => do
      let (g, pending) ← form.readLong g name value
      readAhead g pending ws
    | none, .short letters => do
      let (g, pending) ← form.readShort g letters
      readAhead g pending ws

end CommandForm

end TestCluster.CommandLine
