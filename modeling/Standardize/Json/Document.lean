import Standardize.Json.Text

/-!
Contract: JSON documents.

Owns:
- `Document`, the values of a JSON text, with numbers and strings told apart
  as far as a reader of sizes and names needs;
- the grammar: blanks between tokens, no leading zeros, no trailing commas, and
  nothing but blanks after the value.

Every call of the grammar either takes a character or hands the same ones on
once, so twice the length of the text bounds its depth.

Does not own: what a document means.
-/

set_option autoImplicit false

namespace Standardize.Json

/-- A number as written: its sign, its digits before a fraction or exponent,
and whether there is neither. -/
structure Number where
  negative : Bool
  whole : Nat
  isWhole : Bool
deriving DecidableEq, Repr

/-- A JSON value. A string that stands for no text is `text none`. -/
inductive Document where
  | null
  | bool (value : Bool)
  | number (value : Number)
  | text (value : Option String)
  | array (values : List Document)
  | object (members : List (Option String × Document))
deriving Repr

def isBlank (char : Char) : Bool :=
  char == ' ' || char == '\t' || char == '\n' || char == '\r'

def skipBlanks : List Char → List Char
  | [] => []
  | char :: rest => if isBlank char then skipBlanks rest else char :: rest

/-- What follows a word, if the text starts with it. -/
def afterWord? : List Char → List Char → Option (List Char)
  | [], rest => some rest
  | letter :: word, char :: rest => if letter = char then afterWord? word rest else none
  | _ :: _, [] => none

/-! ## Numbers -/

def digitsValue (digits : List Char) : Nat :=
  digits.foldl (fun value digit => value * 10 + (digit.toNat - '0'.toNat)) 0

/-- A run of at least one digit, and what follows it. -/
def digits? (rest : List Char) : Option (List Char × List Char) :=
  match rest.span Char.isDigit with
  | ([], _) => none
  | (digits, after) => some (digits, after)

/-- An exponent, if one starts here: whether there was one, and what follows. -/
def exponent? : List Char → Option (Bool × List Char)
  | mark :: rest =>
      if mark == 'e' || mark == 'E' then
        let unsigned :=
          match rest with
          | '+' :: after => after
          | '-' :: after => after
          | after => after
        (digits? unsigned).map fun (_, after) => (true, after)
      else some (false, mark :: rest)
  | [] => some (false, [])

/-- A fraction, if one starts here: whether there was one, and what follows. -/
def fraction? : List Char → Option (Bool × List Char)
  | '.' :: rest => (digits? rest).map fun (_, after) => (true, after)
  | rest => some (false, rest)

/-- A number after its sign. Only zero itself starts with a zero. -/
def unsigned? (negative : Bool) (rest : List Char) : Option (Document × List Char) := do
  let (digits, afterDigits) ← digits? rest
  if digits.head? == some '0' && digits.length != 1 then none
  else
    let (hasFraction, afterFraction) ← fraction? afterDigits
    let (hasExponent, after) ← exponent? afterFraction
    return (.number ⟨negative, digitsValue digits, !hasFraction && !hasExponent⟩, after)

/-! ## Values -/

mutual

def value? : Nat → List Char → Option (Document × List Char)
  | 0, _ => none
  | fuel + 1, input =>
      match skipBlanks input with
      | 'n' :: rest => (afterWord? ['u', 'l', 'l'] rest).map fun after => (.null, after)
      | 't' :: rest => (afterWord? ['r', 'u', 'e'] rest).map fun after => (.bool true, after)
      | 'f' :: rest =>
          (afterWord? ['a', 'l', 's', 'e'] rest).map fun after => (.bool false, after)
      | '"' :: rest => (text? rest).map fun (value, after) => (.text value, after)
      | '-' :: rest => unsigned? true rest
      | '[' :: rest =>
          match skipBlanks rest with
          | ']' :: after => some (.array [], after)
          | first => (elements? fuel first).map fun (values, after) => (.array values, after)
      | '\x7b' :: rest =>
          match skipBlanks rest with
          | '\x7d' :: after => some (.object [], after)
          | first => (members? fuel first).map fun (members, after) => (.object members, after)
      | rest => unsigned? false rest

/-- The values of an array up to its closing bracket, at least one. -/
def elements? : Nat → List Char → Option (List Document × List Char)
  | 0, _ => none
  | fuel + 1, input =>
      match value? fuel input with
      | none => none
      | some (first, afterFirst) =>
          match skipBlanks afterFirst with
          | ']' :: after => some ([first], after)
          | ',' :: more =>
              (elements? fuel more).map fun (rest, after) => (first :: rest, after)
          | _ => none

/-- The members of an object up to its closing brace, at least one. -/
def members? : Nat → List Char → Option (List (Option String × Document) × List Char)
  | 0, _ => none
  | fuel + 1, input =>
      match skipBlanks input with
      | '"' :: rest =>
          match text? rest with
          | none => none
          | some (name, afterName) =>
              match skipBlanks afterName with
              | ':' :: afterColon =>
                  match value? fuel afterColon with
                  | none => none
                  | some (first, afterFirst) =>
                      match skipBlanks afterFirst with
                      | '\x7d' :: after => some ([(name, first)], after)
                      | ',' :: more =>
                          (members? fuel more).map fun (others, after) =>
                            ((name, first) :: others, after)
                      | _ => none
              | _ => none
      | _ => none

end

/-- The document of a text, which holds one value and blanks. -/
def Document.ofText? (text : String) : Option Document :=
  let input := text.toList
  match value? (2 * input.length + 2) input with
  | some (document, after) => if (skipBlanks after).isEmpty then some document else none
  | none => none

end Standardize.Json
