import StructuralLint.Decimal.Plain
import StructuralLint.Json.Value

/-!
# Writing JSON

The compact text of a value, and a second form with one item a line. Doubles are written with the
fewest digits that read back, an even last digit where two decimals are equally near, and always
with a point or an exponent, so that they stay doubles.
-/

namespace StructuralLint.Json.Printer

/-- A hexadecimal digit. -/
def hexDigit (value : Nat) : Char :=
  if value < 10 then Char.ofNat (48 + value) else Char.ofNat (87 + value)

/-- A character inside a string. -/
def escape (character : Char) : List Char :=
  match character with
  | '"' => ['\\', '"']
  | '\\' => ['\\', '\\']
  | '\n' => ['\\', 'n']
  | '\r' => ['\\', 'r']
  | '\t' => ['\\', 't']
  | _ =>
      if character.toNat == 8 then ['\\', 'b']
      else if character.toNat == 12 then ['\\', 'f']
      else if character.toNat < 32 then
        ['\\', 'u', '0', '0', hexDigit (character.toNat / 16), hexDigit (character.toNat % 16)]
      else [character]

/-- A string between quotes. -/
def string (text : String) : String :=
  String.ofList ('"' :: text.toList.flatMap escape ++ ['"'])

/-- Digits with a point after the first, unless it is alone. -/
def pointed (digits : List Char) : List Char :=
  match digits with
  | [] => []
  | [digit] => [digit]
  | digit :: rest => digit :: '.' :: rest

/--
A positive decimal: positional from 1e-5 up to sixteen digits before the point, else with an
exponent.
-/
def decimal (value : Decimal.Digits) : String :=
  let digits := Nat.toDigits 10 value.digits
  let places := Int.ofNat digits.length + value.exponent
  if 0 ≤ value.exponent && places ≤ 16 then
    String.ofList (digits ++ List.replicate value.exponent.toNat '0' ++ ['.', '0'])
  else if -5 < places && places ≤ 16 then value.plain
  else String.ofList (pointed digits) ++ "e" ++ toString (places - 1)

/-- A double; one that is not finite has no numeral. -/
def float (value : Float) : String :=
  if value.isNaN || value.isInf then "null"
  else
    let sign := if Decimal.isNegative value then "-" else ""
    let magnitude := Decimal.Binary.ofFloat value
    if magnitude.significand == 0 then sign ++ "0.0" else sign ++ decimal (magnitude.shortest .even)

mutual

/-- The compact text of a value. -/
def compact : Json → String
  | .null => "null"
  | .bool value => if value then "true" else "false"
  | .int value => toString value
  | .float value => float value
  | .string text => string text
  | .array items => "[" ++ ",".intercalate (compactItems items) ++ "]"
  | .object fields => "\x7b" ++ ",".intercalate (compactFields fields) ++ "\x7d"
  | .unreadable => "null"

/-- The texts of some items. -/
def compactItems : List Json → List String
  | [] => []
  | item :: rest => compact item :: compactItems rest

/-- The texts of some fields. -/
def compactFields : List (String × Json) → List String
  | [] => []
  | (name, value) :: rest => (string name ++ ":" ++ compact value) :: compactFields rest

end

/-- Lines of a bracketed list: each item on lines of its own, two columns further in. -/
def block (opening closing : String) (indent : String) (items : List String) : String :=
  if items.isEmpty then opening ++ closing
  else
    opening ++ "\n" ++ ",\n".intercalate (items.map fun item => indent ++ "  " ++ item) ++ "\n" ++
      indent ++ closing

mutual

/-- The text of a value with one item a line. -/
def pretty (indent : String) : Json → String
  | .array items => block "[" "]" indent (prettyItems (indent ++ "  ") items)
  | .object fields => block "\x7b" "\x7d" indent (prettyFields (indent ++ "  ") fields)
  | .null => "null"
  | .bool value => if value then "true" else "false"
  | .int value => toString value
  | .float value => float value
  | .string text => string text
  | .unreadable => "null"

/-- The texts of some items, one item a line. -/
def prettyItems (indent : String) : List Json → List String
  | [] => []
  | item :: rest => pretty indent item :: prettyItems indent rest

/-- The texts of some fields, one item a line. -/
def prettyFields (indent : String) : List (String × Json) → List String
  | [] => []
  | (name, value) :: rest =>
      (string name ++ ": " ++ pretty indent value) :: prettyFields indent rest

end

end StructuralLint.Json.Printer

namespace StructuralLint.Json

/-- The compact text of a value. -/
def render (value : Json) : String :=
  Printer.compact value

/-- The text of a value with one item a line. -/
def renderLines (value : Json) : String :=
  Printer.pretty "" value

end StructuralLint.Json
