import TestCluster.Text.Digit
import TestCluster.Yaml.Token.Gap

/-!
# Quoted scalars — text between quotes

    Between single quotes a doubled quote stands for one, and nothing else is special.
    Between double quotes a backslash starts an escape; before a line end it keeps the lines
    together without a space. A document marker at the start of a line is never part of a
    scalar.
-/

namespace TestCluster.Yaml

/-- What has been read of an escape between quotes. -/
inductive QuoteMode
  /-- No escape is open. -/
  | text
  /-- A single quote was read, which either ends the scalar or is the first of two. -/
  | quote
  /-- A backslash was read. -/
  | escape
  /-- Hexadecimal digits are being read: how many are left, and the value so far. -/
  | hex (left value : Nat)
  deriving DecidableEq, Repr

/-- What a one-letter escape stands for. -/
def escapedChar? (c : Char) : Option Char :=
  match c with
  | '0' => some '\x00'
  | 'a' => some '\x07'
  | 'b' => some '\x08'
  | 't' => some '\t'
  | '\t' => some '\t'
  | 'n' => some '\n'
  | 'v' => some '\x0b'
  | 'f' => some '\x0c'
  | 'r' => some '\r'
  | 'e' => some '\x1b'
  | ' ' => some ' '
  | '"' => some '"'
  | '/' => some '/'
  | '\\' => some '\\'
  | 'N' => some '\u0085'
  | '_' => some '\u00a0'
  | 'L' => some '\u2028'
  | 'P' => some '\u2029'
  | _ => none

/-- How many hexadecimal digits follow the letter of an escape by code point. -/
def hexLength? (c : Char) : Option Nat :=
  match c with
  | 'x' => some 2
  | 'u' => some 4
  | 'U' => some 8
  | _ => none

/-- The character of a code point, if there is one. -/
def charOfCode? (n : Nat) : Option Char :=
  if n < 0xD800 ∨ (0xDFFF < n ∧ n ≤ 0x10FFFF) then some (Char.ofNat n) else none

/-- Reads a quoted scalar after its opening quote. -/
def quotedFrom (double : Bool) (mode : QuoteMode) (gap : Gap) (reversed : List Char)
    (p : Position) : List Char → Option (Piece (List Char))
  | [] => if mode = .quote then some ⟨reversed.reverse, [], p⟩ else none
  | c :: cs =>
    match mode with
    | .quote =>
      if c == '\'' then quotedFrom double .text .none (c :: reversed) p.next cs
      else some ⟨reversed.reverse, c :: cs, p⟩
    | .escape =>
      if isBreak c then
        if c == '\r' && cs.head? == some '\n' then quotedFrom double .escape gap reversed p.next cs
        else quotedFrom double .text (.breaks .none []) reversed p.newLine cs
      else
        match hexLength? c with
        | some n => quotedFrom double (.hex n 0) gap reversed p.next cs
        | none =>
          match escapedChar? c with
          | some d => quotedFrom double .text .none (d :: reversed) p.next cs
          | none => none
    | .hex left value =>
      match Text.hexDigit? c with
      | none => none
      | some d =>
        if left ≤ 1 then
          match charOfCode? (value * 16 + d) with
          | some e => quotedFrom double .text .none (e :: reversed) p.next cs
          | none => none
        else quotedFrom double (.hex (left - 1) (value * 16 + d)) gap reversed p.next cs
    | .text =>
      if isBlank c then quotedFrom double .text (gap.addBlank c) reversed p.next cs
      else if isBreak c then
        if c == '\r' && cs.head? == some '\n' then quotedFrom double .text gap reversed p.next cs
        else quotedFrom double .text (gap.addBreak c) reversed p.newLine cs
      else if p.column == 0 && isDocumentMarker (c :: cs) then none
      else
        let joined := gap.onto reversed
        if double then
          if c == '"' then some ⟨joined.reverse, cs, p.next⟩
          else if c == '\\' then quotedFrom double .escape .none joined p.next cs
          else quotedFrom double .text .none (c :: joined) p.next cs
        else if c == '\'' then quotedFrom double .quote .none joined p.next cs
        else quotedFrom double .text .none (c :: joined) p.next cs

end TestCluster.Yaml
