/-!
Contract: the inside of a JSON string.

Owns:
- `Piece`, a character as it stands or a 16-bit unit given by an escape;
- the reading of a string up to its closing quote;
- the joining of units to characters, which fails on half of a surrogate pair.

Does not own: where a string may stand.
-/

set_option autoImplicit false

namespace Standardize.Json

/-- A part of a string: a character, or a unit given by four hex digits. -/
inductive Piece where
  | char (value : Char)
  | unit (value : Nat)
deriving DecidableEq, Repr

namespace Piece

def isHighSurrogate (unit : Nat) : Bool :=
  0xd800 ≤ unit && unit < 0xdc00

def isLowSurrogate (unit : Nat) : Bool :=
  0xdc00 ≤ unit && unit < 0xe000

/-- The characters that pieces stand for. A high surrogate needs a low one
right after it, and a low one alone stands for nothing. -/
def characters? : List Piece → Option (List Char)
  | [] => some []
  | char value :: rest => (characters? rest).map (value :: ·)
  | unit high :: unit low :: rest =>
      if isHighSurrogate high then
        if isLowSurrogate low then
          (characters? rest).map
            (Char.ofNat (0x10000 + (high - 0xd800) * 0x400 + (low - 0xdc00)) :: ·)
        else none
      else if isLowSurrogate high then none
      else (characters? (unit low :: rest)).map (Char.ofNat high :: ·)
  | unit value :: rest =>
      if isHighSurrogate value || isLowSurrogate value then none
      else (characters? rest).map (Char.ofNat value :: ·)

end Piece

def hexDigit? (digit : Char) : Option Nat :=
  if '0' ≤ digit ∧ digit ≤ '9' then some (digit.toNat - '0'.toNat)
  else if 'a' ≤ digit ∧ digit ≤ 'f' then some (digit.toNat - 'a'.toNat + 10)
  else if 'A' ≤ digit ∧ digit ≤ 'F' then some (digit.toNat - 'A'.toNat + 10)
  else none

def unit? (first second third fourth : Char) : Option Nat := do
  let a ← hexDigit? first
  let b ← hexDigit? second
  let c ← hexDigit? third
  let d ← hexDigit? fourth
  return ((a * 16 + b) * 16 + c) * 16 + d

def shortEscape? : Char → Option Char
  | '"' => some '"'
  | '\\' => some '\\'
  | '/' => some '/'
  | 'b' => some '\x08'
  | 'f' => some '\x0c'
  | 'n' => some '\n'
  | 'r' => some '\r'
  | 't' => some '\t'
  | _ => none

/-- The pieces up to the closing quote, and what follows it. A control
character must be escaped. -/
def pieces? : List Char → Option (List Piece × List Char)
  | [] => none
  | '"' :: rest => some ([], rest)
  | '\\' :: 'u' :: a :: b :: c :: d :: rest =>
      match unit? a b c d, pieces? rest with
      | some unit, some (pieces, after) => some (.unit unit :: pieces, after)
      | _, _ => none
  | '\\' :: escape :: rest =>
      match shortEscape? escape, pieces? rest with
      | some char, some (pieces, after) => some (.char char :: pieces, after)
      | _, _ => none
  | char :: rest =>
      if char.toNat < 0x20 || char == '\\' then none
      else
        match pieces? rest with
        | some (pieces, after) => some (.char char :: pieces, after)
        | none => none

/-- A string read to its closing quote; `none` inside when half of a surrogate
pair makes it stand for no text. -/
def text? (rest : List Char) : Option (Option String × List Char) :=
  match pieces? rest with
  | some (pieces, after) => some ((Piece.characters? pieces).map String.ofList, after)
  | none => none

end Standardize.Json
