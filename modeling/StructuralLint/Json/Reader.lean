import StructuralLint.Json.Numeral

/-!
# Reading JSON

A reader for one JSON text. Each step consumes at least one character, so the number of characters
bounds the number of steps.
-/

namespace StructuralLint.Json.Reader

/-- The blanks between tokens. -/
def isSpace (character : Char) : Bool :=
  character == ' ' || character == '\n' || character == '\t' || character == '\r'

/-- The rest of the text from the next token on. -/
def skipSpace (characters : List Char) : List Char :=
  characters.dropWhile isSpace

/-- A part of a string: a character, or a 16-bit unit written as an escape. -/
inductive Piece where
  | char (character : Char)
  | unit (value : Nat)

/-- The value of a hexadecimal digit. -/
def hexDigit? (character : Char) : Option Nat :=
  if character.isDigit then some (character.toNat - 48)
  else if 'a' ≤ character && character ≤ 'f' then some (character.toNat - 87)
  else if 'A' ≤ character && character ≤ 'F' then some (character.toNat - 55)
  else none

/-- The value of four hexadecimal digits. -/
def hexUnit? (a b c d : Char) : Option Nat := do
  let a ← hexDigit? a
  let b ← hexDigit? b
  let c ← hexDigit? c
  let d ← hexDigit? d
  return ((a * 16 + b) * 16 + c) * 16 + d

/-- The character behind a one-letter escape. -/
def shortEscape? (character : Char) : Option Char :=
  match character with
  | '"' => some '"'
  | '\\' => some '\\'
  | '/' => some '/'
  | 'b' => some (Char.ofNat 8)
  | 'f' => some (Char.ofNat 12)
  | 'n' => some '\n'
  | 'r' => some '\r'
  | 't' => some '\t'
  | _ => none

/--
The pieces of a string up to its closing quote, and the rest; `read` holds the pieces before, in
reverse.
-/
def pieces? (read : List Piece) : List Char → Option (List Piece × List Char)
  | [] => none
  | '"' :: rest => some (read.reverse, rest)
  | '\\' :: 'u' :: a :: b :: c :: d :: rest =>
      match hexUnit? a b c d with
      | some unit => pieces? (.unit unit :: read) rest
      | none => none
  | '\\' :: escape :: rest =>
      match shortEscape? escape with
      | some character => pieces? (.char character :: read) rest
      | none => none
  | character :: rest =>
      if character.toNat < 32 || character == '\\' then none
      else pieces? (.char character :: read) rest

/--
The characters that pieces denote. A pair of surrogate units is one character, and half a pair
denotes none; `read` holds the characters before, in reverse.
-/
def characters? (read : List Char) : List Piece → Option (List Char)
  | [] => some read.reverse
  | .char character :: rest => characters? (character :: read) rest
  | .unit high :: rest =>
      if high < 0xD800 || 0xDFFF < high then characters? (Char.ofNat high :: read) rest
      else if 0xDC00 ≤ high then none
      else
        match rest with
        | .unit low :: rest =>
            if 0xDC00 ≤ low && low ≤ 0xDFFF then
              characters?
                (Char.ofNat (0x10000 + (high - 0xD800) * 0x400 + (low - 0xDC00)) :: read) rest
            else none
        | _ => none

/-- A string after its opening quote; the text is missing where it holds half a surrogate pair. -/
def string? (characters : List Char) : Option (Option String × List Char) := do
  let (pieces, rest) ← pieces? [] characters
  return ((characters? [] pieces).map String.ofList, rest)

/-- The leading decimal digits and the rest. -/
def digits (characters : List Char) : List Nat × List Char :=
  ((characters.takeWhile Char.isDigit).map fun character => character.toNat - 48,
    characters.dropWhile Char.isDigit)

/-- The digits after a decimal point, if there is one; the point needs a digit. -/
def fraction? (characters : List Char) : Option (Option (List Nat) × List Char) :=
  match characters with
  | '.' :: rest =>
      match digits rest with
      | ([], _) => none
      | (digits, rest) => some (some digits, rest)
  | _ => some (none, characters)

/-- Sign and digits of an exponent, if there is one; the sign needs a digit. -/
def exponent? (characters : List Char) : Option (Option (Bool × List Nat) × List Char) :=
  let signed (rest : List Char) : Option (Option (Bool × List Nat) × List Char) :=
    let (negative, rest) :=
      match rest with
      | '-' :: rest => (true, rest)
      | '+' :: rest => (false, rest)
      | _ => (false, rest)
    match digits rest with
    | ([], _) => none
    | (digits, rest) => some (some (negative, digits), rest)
  match characters with
  | 'e' :: rest => signed rest
  | 'E' :: rest => signed rest
  | _ => some (none, characters)

/-- A numeral; a zero at its start stands alone. -/
def numeral? (characters : List Char) : Option (Numeral × List Char) := do
  let (negative, rest) :=
    match characters with
    | '-' :: rest => (true, rest)
    | _ => (false, characters)
  let (whole, rest) := digits rest
  if whole.isEmpty || (whole.head? == some 0 && 1 < whole.length) then none
  else
    let (fraction, rest) ← fraction? rest
    let (exponent, rest) ← exponent? rest
    return ({ negative, whole, fraction, exponent }, rest)

/-- The object of some fields; a field whose name is missing makes the object unreadable. -/
def objectOf (fields : List (Option String × Json)) : Json :=
  match fields.mapM fun (name, value) => name.map fun name => (name, value) with
  | some fields => .object fields
  | none => .unreadable

/-- The rest of the text after a word. -/
def after? (word : String) (characters : List Char) : Option (List Char) :=
  if word.toList.isPrefixOf characters then some (characters.drop word.length) else none

mutual

/-- A value at the start of the text, and the rest. -/
def value? : Nat → List Char → Option (Json × List Char)
  | 0, _ => none
  | fuel + 1, characters =>
      match characters with
      | '"' :: rest => (string? rest).map fun (text, rest) =>
          ((text.map Json.string).getD .unreadable, rest)
      | '[' :: rest =>
          match skipSpace rest with
          | ']' :: rest => some (.array [], rest)
          | rest => items? fuel [] rest
      | '\x7b' :: rest =>
          match skipSpace rest with
          | '\x7d' :: rest => some (.object [], rest)
          | rest => fields? fuel [] rest
      | 'n' :: rest => (after? "ull" rest).map fun rest => (.null, rest)
      | 't' :: rest => (after? "rue" rest).map fun rest => (.bool true, rest)
      | 'f' :: rest => (after? "alse" rest).map fun rest => (.bool false, rest)
      | _ => (numeral? characters).map fun (numeral, rest) => (numeral.value, rest)

/-- The remaining items of an array, at least one, and the text after its bracket. -/
def items? : Nat → List Json → List Char → Option (Json × List Char)
  | 0, _, _ => none
  | fuel + 1, read, characters =>
      match value? fuel (skipSpace characters) with
      | none => none
      | some (item, rest) =>
          match skipSpace rest with
          | ',' :: rest => items? fuel (item :: read) rest
          | ']' :: rest => some (.array (item :: read).reverse, rest)
          | _ => none

/-- The remaining fields of an object, at least one, and the text after its brace. -/
def fields? : Nat → List (Option String × Json) → List Char → Option (Json × List Char)
  | 0, _, _ => none
  | fuel + 1, read, characters =>
      match skipSpace characters with
      | '"' :: rest =>
          match string? rest with
          | none => none
          | some (name, rest) =>
              match skipSpace rest with
              | ':' :: rest =>
                  match value? fuel (skipSpace rest) with
                  | none => none
                  | some (value, rest) =>
                      match skipSpace rest with
                      | ',' :: rest => fields? fuel ((name, value) :: read) rest
                      | '\x7d' :: rest => some (objectOf ((name, value) :: read).reverse, rest)
                      | _ => none
              | _ => none
      | _ => none

end

end StructuralLint.Json.Reader

namespace StructuralLint.Json

/-- The value of a JSON text, with nothing but blanks around it. -/
def read? (text : String) : Option Json :=
  let characters := text.toList
  match Reader.value? (2 * characters.length + 1) (Reader.skipSpace characters) with
  | some (value, rest) => if (Reader.skipSpace rest).isEmpty then some value else none
  | none => none

end StructuralLint.Json
