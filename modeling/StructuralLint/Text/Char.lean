import StructuralLint.Text.Table.Alphabetic
import StructuralLint.Text.Table.CaseIgnorable
import StructuralLint.Text.Table.Cased
import StructuralLint.Text.Table.Escaped
import StructuralLint.Text.Table.Lowercase
import StructuralLint.Text.Table.Lowering
import StructuralLint.Text.Table.Numeric
import StructuralLint.Text.Table.Uppercase
import StructuralLint.Text.Table.Word

/-!
# Classes of characters

Blanks, capitals, smalls, letters and digits, and the characters that may stand inside a word.
Every class is decided by a short rule on ASCII and by a table beyond it, so that statements about
ASCII text never look at a table.
-/

namespace StructuralLint.Text

/-- Whether a class that is listed by its bounds holds a code point. -/
def Table.holds (bounds : List Nat) (point : Nat) : Bool :=
  bounds.countP (· ≤ point) % 2 == 1

/-- Whether a character is one of the first 128. -/
def isAscii (character : Char) : Bool :=
  character.toNat < 128

/-- White space: the blanks of ASCII, the next-line control and the space separators beyond it. -/
def isBlank (character : Char) : Bool :=
  let point := character.toNat
  (9 ≤ point && point ≤ 13) || point == 32 || point == 0x85 || point == 0xA0 ||
    point == 0x1680 || (0x2000 ≤ point && point ≤ 0x200A) || point == 0x2028 ||
    point == 0x2029 || point == 0x202F || point == 0x205F || point == 0x3000

/-- Capital letters and letter-like capitals. -/
def isCapital (character : Char) : Bool :=
  if isAscii character then character.isUpper
  else Table.holds Table.uppercase character.toNat

/-- Small letters and letter-like smalls. -/
def isSmall (character : Char) : Bool :=
  if isAscii character then character.isLower
  else Table.holds Table.lowercase character.toNat

/-- Letters of any script. -/
def isLetter (character : Char) : Bool :=
  if isAscii character then character.isAlpha
  else Table.holds Table.alphabetic character.toNat

/-- Numbers of any script. -/
def isNumber (character : Char) : Bool :=
  if isAscii character then character.isDigit
  else Table.holds Table.numeric character.toNat

/-- Letters and numbers of any script. -/
def isAlphanumeric (character : Char) : Bool :=
  isLetter character || isNumber character

/-- Characters that continue a word: letters, marks, digits, joiners and the underscore family. -/
def isWordChar (character : Char) : Bool :=
  if isAscii character then character.isAlphanum || character == '_'
  else Table.holds Table.word character.toNat

/-- Characters that take part in the distinction of capitals and smalls. -/
def isCased (character : Char) : Bool :=
  if isAscii character then character.isAlpha
  else Table.holds Table.cased character.toNat

/-- Characters that are skipped when the letters next to a capital are inspected. -/
def isCaseIgnorable (character : Char) : Bool :=
  if isAscii character then ['\x27', '.', ':', '^', '\x60'].contains character
  else Table.holds Table.caseIgnorable character.toNat

/-- Characters that quoted text writes by their number. -/
def isEscaped (character : Char) : Bool :=
  if isAscii character then character.toNat < 32 || character.toNat == 127
  else Table.holds Table.escaped character.toNat

/-- The small form of a capital beyond ASCII, where it is a single character. -/
def Table.lowerPoint (point : Nat) : Nat :=
  match Table.lowering.find? fun (first, last, step, _) =>
      first ≤ point && point ≤ last && (point - first) % step == 0 with
  | some (_, _, _, distance) => (Int.ofNat point + distance).toNat
  | none => point

/--
The small form of a character; one capital, the dotted `İ`, has a small form of two characters.
-/
def lowerChar (character : Char) : List Char :=
  if isAscii character then [character.toLower]
  else if character.toNat == 0x130 then ['i', Char.ofNat 0x307]
  else [Char.ofNat (Table.lowerPoint character.toNat)]

/-- Whether the first character that is not skipped beside a capital is itself cased. -/
def isCasedAfterIgnorable (characters : List Char) : Bool :=
  match characters.dropWhile isCaseIgnorable with
  | next :: _ => isCased next
  | [] => false

/--
Small forms of a text whose part before it, read backwards, is `before`. A capital sigma at the
end of a word has a small form of its own.
-/
def lowerAfter (before : List Char) : List Char → List Char
  | [] => []
  | character :: rest =>
      let small :=
        if character.toNat == 0x3A3 then
          if isCasedAfterIgnorable before && !isCasedAfterIgnorable rest then [Char.ofNat 0x3C2]
          else [Char.ofNat 0x3C3]
        else lowerChar character
      small ++ lowerAfter (character :: before) rest

/-- The text in small letters. -/
def lower (text : String) : String :=
  String.ofList (lowerAfter [] text.toList)

/-- The text with capitals of ASCII, and no others, made small. -/
def lowerAscii (text : String) : String :=
  String.ofList (text.toList.map Char.toLower)

/-- Characters without the blanks at the start. -/
def trimStart (characters : List Char) : List Char :=
  characters.dropWhile isBlank

/-- Characters without the blanks at the end. -/
def trimEnd (characters : List Char) : List Char :=
  (characters.reverse.dropWhile isBlank).reverse

/-- Characters without the blanks at both ends. -/
def trimChars (characters : List Char) : List Char :=
  trimEnd (trimStart characters)

/-- The text without the blanks at both ends. -/
def trim (text : String) : String :=
  String.ofList (trimChars text.toList)

/-- Pieces between the occurrences of a character, empty ones included. -/
def splitAt (separator : Char) : List Char → List (List Char)
  | [] => [[]]
  | character :: rest =>
      if character == separator then [] :: splitAt separator rest
      else
        match splitAt separator rest with
        | [] => [[character]]
        | piece :: pieces => (character :: piece) :: pieces

/--
Lines of a text: a line feed ends a line, a carriage return before it is dropped, and nothing
stands after a final line feed.
-/
def lines (text : String) : List (List Char) :=
  let pieces := splitAt '\n' text.toList
  let ended := pieces.dropLast.map fun piece =>
    if piece.getLast? == some '\r' then piece.dropLast else piece
  match pieces.getLast? with
  | some (character :: rest) => ended ++ [character :: rest]
  | _ => ended

/-- Whether a text occurs inside another. -/
def occursIn (needle : List Char) : List Char → Bool
  | [] => needle.isEmpty
  | character :: rest => needle.isPrefixOf (character :: rest) || occursIn needle rest

/--
Whether a character stands for a small letter of ASCII in any case; two letters have a third
form.
-/
def foldsTo (small character : Char) : Bool :=
  character.toLower == small || (small == 's' && character.toNat == 0x17F) ||
    (small == 'k' && character.toNat == 0x212A)

/-- The characters after a word of small letters, if the text starts with it in any case. -/
def afterFolded? : List Char → List Char → Option (List Char)
  | [], characters => some characters
  | _ :: _, [] => none
  | small :: word, character :: rest =>
      if foldsTo small character then afterFolded? word rest else none

/-- Two texts in the order of their code points. -/
def order (left right : String) : Ordering :=
  if left == right then .eq else if left < right then .lt else .gt

end StructuralLint.Text
