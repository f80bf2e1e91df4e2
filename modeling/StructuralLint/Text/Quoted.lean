import StructuralLint.Text.Char

/-!
# Quoted text

Text between double quotes, with every character that cannot be seen written as an escape.
-/

namespace StructuralLint.Text.Quoted

/-- A code point in hexadecimal, without leading zeros. -/
def hexadecimal (point : Nat) : List Char :=
  Nat.toDigits 16 point

/-- A character as it stands inside quotes. -/
def escape (character : Char) : List Char :=
  if character == Char.ofNat 0 then ['\\', '0']
  else if character == '\t' then ['\\', 't']
  else if character == '\r' then ['\\', 'r']
  else if character == '\n' then ['\\', 'n']
  else if character == '"' then ['\\', '"']
  else if character == '\\' then ['\\', '\\']
  else if isEscaped character then
    ['\\', 'u', '\x7b'] ++ hexadecimal character.toNat ++ ['\x7d']
  else [character]

/-- The text between quotes. -/
def encode (text : String) : String :=
  String.ofList ('"' :: text.toList.flatMap escape ++ ['"'])

end StructuralLint.Text.Quoted
