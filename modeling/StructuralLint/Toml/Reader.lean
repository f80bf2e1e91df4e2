import StructuralLint.Json.Reader
import StructuralLint.Toml.Value

/-!
# Reading TOML

A document is a list of lines: headers, which choose the table that follows, and assignments of
values to dotted keys. The reader first splits the text into these and then builds the tables,
refusing keys and tables that are defined twice.
-/

namespace StructuralLint.Toml.Reader

/-! ## Blanks and comments -/

/-- Blanks inside a line. -/
def isSpace (character : Char) : Bool :=
  character == ' ' || character == '\t'

/-- The text after blanks inside a line. -/
def skipSpace (characters : List Char) : List Char :=
  characters.dropWhile isSpace

/-- Characters that may stand in comments and quoted text: no controls but the tab. -/
def isPlain (character : Char) : Bool :=
  character == '\t' || (32 ≤ character.toNat && character.toNat != 127)

/-- The text after a line break, if it starts with one. -/
def lineBreak? : List Char → Option (List Char)
  | '\n' :: rest => some rest
  | '\r' :: '\n' :: rest => some rest
  | _ => none

/-- The text after a comment, if it starts with one. -/
def skipComment : List Char → List Char
  | '#' :: rest => rest.dropWhile isPlain
  | characters => characters

/-- The text after the end of a line: blanks, perhaps a comment, and a line break or the end. -/
def lineEnd? (characters : List Char) : Option (List Char) :=
  match skipComment (skipSpace characters) with
  | [] => some []
  | rest => lineBreak? rest

/-- The text after blanks, comments and line breaks. -/
def skipLines : Nat → List Char → List Char
  | 0, characters => characters
  | fuel + 1, characters =>
      let rest := skipComment (skipSpace characters)
      match lineBreak? rest with
      | some rest => skipLines fuel rest
      | none => rest

/-! ## Strings -/

/-- The number of hexadecimal digits. -/
def hexNumber? (digits : List Char) : Option Nat :=
  digits.foldlM
    (fun value digit => (Json.Reader.hexDigit? digit).map fun digit => value * 16 + digit) 0

/-- The character of a code point, unless it is a surrogate or none at all. -/
def scalar? (point : Nat) : Option Char :=
  if point < 0xD800 || (0xDFFF < point && point < 0x110000) then some (Char.ofNat point) else none

/-- The character of an escape after its backslash, and the rest. -/
def escape? : List Char → Option (Char × List Char)
  | 'b' :: rest => some (Char.ofNat 8, rest)
  | 't' :: rest => some ('\t', rest)
  | 'n' :: rest => some ('\n', rest)
  | 'f' :: rest => some (Char.ofNat 12, rest)
  | 'r' :: rest => some ('\r', rest)
  | '"' :: rest => some ('"', rest)
  | '\\' :: rest => some ('\\', rest)
  | 'u' :: rest =>
      if rest.length < 4 then none
      else ((hexNumber? (rest.take 4)).bind scalar?).map fun character => (character, rest.drop 4)
  | 'U' :: rest =>
      if rest.length < 8 then none
      else ((hexNumber? (rest.take 8)).bind scalar?).map fun character => (character, rest.drop 8)
  | _ => none

/-- The rest of a string on one line with escapes. -/
def basic? : Nat → List Char → List Char → Option (String × List Char)
  | 0, _, _ => none
  | fuel + 1, read, characters =>
      match characters with
      | '"' :: rest => some (String.ofList read.reverse, rest)
      | '\\' :: rest =>
          match escape? rest with
          | some (character, rest) => basic? fuel (character :: read) rest
          | none => none
      | character :: rest =>
          if isPlain character then basic? fuel (character :: read) rest else none
      | [] => none

/-- The rest of a string on one line without escapes. -/
def literal? (characters : List Char) : Option (String × List Char) :=
  let text := characters.takeWhile fun character => isPlain character && character != '\x27'
  match characters.drop text.length with
  | '\x27' :: rest => some (String.ofList text, rest)
  | _ => none

/-- The text after blanks and line breaks. -/
def skipBlank : List Char → List Char
  | ' ' :: rest => skipBlank rest
  | '\t' :: rest => skipBlank rest
  | '\n' :: rest => skipBlank rest
  | '\r' :: '\n' :: rest => skipBlank rest
  | rest => rest

/-- The quotes at the start of the text, at most five. -/
def leadingQuotes (quote : Char) (characters : List Char) : Nat :=
  (characters.takeWhile (· == quote)).length.min 5

/--
The rest of a string over several lines; `escapes` says whether backslashes are special. Up to
two quotes may stand before the closing three.
-/
def multiLine? (quote : Char) (escapes : Bool) :
    Nat → List Char → List Char → Option (String × List Char)
  | 0, _, _ => none
  | fuel + 1, read, characters =>
      match leadingQuotes quote characters with
      | 0 =>
          match lineBreak? characters with
          | some rest => multiLine? quote escapes fuel ('\n' :: read) rest
          | none =>
              match characters with
              | [] => none
              | '\\' :: rest =>
                  if escapes then
                    match lineBreak? (skipSpace rest) with
                    | some rest => multiLine? quote escapes fuel read (skipBlank rest)
                    | none =>
                        match escape? rest with
                        | some (character, rest) =>
                            multiLine? quote escapes fuel (character :: read) rest
                        | none => none
                  else multiLine? quote escapes fuel ('\\' :: read) rest
              | character :: rest =>
                  if isPlain character then
                    multiLine? quote escapes fuel (character :: read) rest
                  else none
      | count =>
          if 3 ≤ count then
            some (String.ofList (List.replicate (count - 3) quote ++ read).reverse,
              characters.drop count)
          else
            multiLine? quote escapes fuel (List.replicate count quote ++ read)
              (characters.drop count)

/-- A string after its opening three quotes; a line break right after them does not count. -/
def openedLines? (quote : Char) (escapes : Bool) (characters : List Char) :
    Option (String × List Char) :=
  let rest := (lineBreak? characters).getD characters
  multiLine? quote escapes (rest.length + 1) [] rest

/-- A string of any kind. -/
def string? : List Char → Option (String × List Char)
  | '"' :: '"' :: '"' :: rest => openedLines? '"' true rest
  | '\x27' :: '\x27' :: '\x27' :: rest => openedLines? '\x27' false rest
  | '"' :: rest => basic? (rest.length + 1) [] rest
  | '\x27' :: rest => literal? rest
  | _ => none

/-! ## Keys -/

/-- Characters of keys without quotes. -/
def isBareKey (character : Char) : Bool :=
  character.isAlphanum || character == '_' || character == '-'

/-- One part of a key. -/
def simpleKey? (characters : List Char) : Option (String × List Char) :=
  match characters with
  | '"' :: rest => basic? (rest.length + 1) [] rest
  | '\x27' :: rest => literal? rest
  | _ =>
      let bare := characters.takeWhile isBareKey
      if bare.isEmpty then none else some (String.ofList bare, characters.drop bare.length)

/-- The parts of a key with dots between them, and blanks around the dots. -/
def keyParts? : Nat → List Char → Option (List String × List Char)
  | 0, _ => none
  | fuel + 1, characters => do
    let (part, rest) ← simpleKey? (skipSpace characters)
    match skipSpace rest with
    | '.' :: rest =>
        let (parts, rest) ← keyParts? fuel rest
        return (part :: parts, rest)
    | rest => return ([part], rest)

/-- The largest number of brackets around a value, and of parts of a key. -/
def maxDepth : Nat := 79

/-- A key, unless it has too many parts. -/
def key? (characters : List Char) : Option (List String × List Char) := do
  let (parts, rest) ← keyParts? characters.length characters
  if parts.length ≤ maxDepth then return (parts, rest) else none

/-! ## Numbers and dates -/

/-- Digits of a base with single underscores between them, and the rest. -/
def digits? (isDigit : Char → Bool) (characters : List Char) : Option (List Char × List Char) :=
  let token := characters.takeWhile fun character => isDigit character || character == '_'
  let rec underscored : List Char → Bool
    | '_' :: '_' :: _ => false
    | ['_'] => false
    | _ :: rest => underscored rest
    | [] => true
  if token.head?.any isDigit && underscored token then
    some (token.filter (· != '_'), characters.drop token.length)
  else none

/-- The number of digits in a base. -/
def ofDigits (base : Nat) (digits : List Char) : Nat :=
  digits.foldl (fun value digit => value * base + (Json.Reader.hexDigit? digit).getD 0) 0

/-- An integer, unless it takes more than 64 bits. -/
def integer? (negative : Bool) (magnitude : Nat) : Option Value :=
  if negative then
    if magnitude ≤ Nat.pow 2 63 then some (.integer (Int64.ofInt (-Int.ofNat magnitude))) else none
  else if magnitude < Nat.pow 2 63 then some (.integer (Int64.ofInt magnitude)) else none

/-- A double from its parts, nearest; a number beyond all positive doubles is refused. -/
def float? (negative : Bool) (whole fraction : List Char) (exponent : Int) : Option Value :=
  let significand := ofDigits 10 (whole ++ fraction)
  let scale := exponent - Int.ofNat fraction.length
  let bounded := if scale < -100000 then -100000 else if 100000 < scale then 100000 else scale
  let magnitude :=
    if significand == 0 then 0
    else
      match bounded with
      | .ofNat places =>
          if 400 < places then 1 / 0 else Float.ofScientific significand false places
      | .negSucc places => Float.ofScientific significand true (places + 1)
  let value := if negative then -magnitude else magnitude
  if value.isInf && !negative then none else some (.float value)

/-- The exponent of a number after its letter. -/
def exponent? (characters : List Char) : Option (Int × List Char) := do
  let (negative, rest) :=
    match characters with
    | '-' :: rest => (true, rest)
    | '+' :: rest => (false, rest)
    | _ => (false, characters)
  let (digits, rest) ← digits? Char.isDigit rest
  let magnitude := Int.ofNat (ofDigits 10 digits)
  return (if negative then -magnitude else magnitude, rest)

/-- A decimal number after its sign. A whole part does not start with a zero unless it is one. -/
def decimal? (negative : Bool) (characters : List Char) : Option (Value × List Char) := do
  let (whole, rest) ← digits? Char.isDigit characters
  if whole.head? == some '0' && 1 < whole.length then none
  else
    match rest with
    | '.' :: rest =>
        let (fraction, rest) ← digits? Char.isDigit rest
        match rest with
        | letter :: tail =>
            if letter == 'e' || letter == 'E' then
              let (exponent, rest) ← exponent? tail
              return (← float? negative whole fraction exponent, rest)
            else return (← float? negative whole fraction 0, rest)
        | [] => return (← float? negative whole fraction 0, rest)
    | letter :: tail =>
        if letter == 'e' || letter == 'E' then
          let (exponent, rest) ← exponent? tail
          return (← float? negative whole [] exponent, rest)
        else return (← integer? negative (ofDigits 10 whole), rest)
    | [] => return (← integer? negative (ofDigits 10 whole), rest)

/-- Whether a character is a hexadecimal digit. -/
def isHexDigit (character : Char) : Bool :=
  (Json.Reader.hexDigit? character).isSome

/-- A number, infinity or not-a-number. -/
def number? (characters : List Char) : Option (Value × List Char) :=
  let based (base : Nat) (isDigit : Char → Bool) (rest : List Char) :
      Option (Value × List Char) := do
    let (digits, rest) ← digits? isDigit rest
    return (← integer? false (ofDigits base digits), rest)
  let signed (negative : Bool) (rest : List Char) : Option (Value × List Char) :=
    match rest with
    | 'i' :: 'n' :: 'f' :: rest => some (.float (if negative then -1 / 0 else 1 / 0), rest)
    | 'n' :: 'a' :: 'n' :: rest => some (.float (0 / 0), rest)
    | _ => decimal? negative rest
  match characters with
  | '0' :: 'x' :: rest => based 16 isHexDigit rest
  | '0' :: 'o' :: rest => based 8 (fun digit => '0' ≤ digit && digit ≤ '7') rest
  | '0' :: 'b' :: rest => based 2 (fun digit => digit == '0' || digit == '1') rest
  | '+' :: rest => signed false rest
  | '-' :: rest => signed true rest
  | _ => signed false characters

/-- A number of exactly some digits within bounds, and the rest. -/
def field? (count least most : Nat) (characters : List Char) : Option (Nat × List Char) :=
  let digits := characters.take count
  if digits.length == count && digits.all Char.isDigit then
    let value := ofDigits 10 digits
    if least ≤ value && value ≤ most then some (value, characters.drop count) else none
  else none

/-- The text after a character. -/
def after? (expected : Char) : List Char → Option (List Char)
  | character :: rest => if character == expected then some rest else none
  | [] => none

/-- The number of days of a month. -/
def monthLength (year month : Nat) : Nat :=
  if month == 2 then
    if year % 4 == 0 && (year % 100 != 0 || year % 400 == 0) then 29 else 28
  else if [4, 6, 9, 11].contains month then 30
  else 31

/-- The text after a date. -/
def date? (characters : List Char) : Option (List Char) := do
  let (year, rest) ← field? 4 0 9999 characters
  let (month, rest) ← field? 2 1 12 (← after? '-' rest)
  let (_, rest) ← field? 2 1 (monthLength year month) (← after? '-' rest)
  return rest

/-- The text after a time of day. -/
def time? (characters : List Char) : Option (List Char) := do
  let (_, rest) ← field? 2 0 23 characters
  let (_, rest) ← field? 2 0 59 (← after? ':' rest)
  let (_, rest) ← field? 2 0 60 (← after? ':' rest)
  match rest with
  | '.' :: fraction =>
      if fraction.head?.any Char.isDigit then return fraction.dropWhile Char.isDigit else none
  | _ => return rest

/-- The text after an offset from universal time, if there is one. -/
def offset? (characters : List Char) : Option (List Char) :=
  let shifted (rest : List Char) : Option (List Char) := do
    let (_, rest) ← field? 2 0 23 rest
    let (_, rest) ← field? 2 0 59 (← after? ':' rest)
    return rest
  match characters with
  | 'Z' :: rest => some rest
  | 'z' :: rest => some rest
  | '+' :: rest => shifted rest
  | '-' :: rest => shifted rest
  | _ => some characters

/-- A date, a time or both, as it is written. -/
def dateTime? (characters : List Char) : Option (Value × List Char) := do
  let rest ←
    match date? characters with
    | none => time? characters
    | some rest =>
        match rest with
        | separator :: tail =>
            if separator == 'T' || separator == 't' then offset? (← time? tail)
            else if separator == ' ' && tail.head?.any Char.isDigit then offset? (← time? tail)
            else some rest
        | [] => some rest
  return (.dateTime (String.ofList (characters.take (characters.length - rest.length))), rest)

/-- Whether the text starts like a date or a time. -/
def startsDateTime (characters : List Char) : Bool :=
  ((characters.take 4).length == 4 && (characters.take 4).all Char.isDigit &&
      characters[4]? == some '-') ||
    ((characters.take 2).length == 2 && (characters.take 2).all Char.isDigit &&
      characters[2]? == some ':')

/-! ## Values -/

/-- Takes the parts of a key apart into the tables on the way and the last part. -/
def splitKey? (parts : List String) : Option (List String × String) :=
  parts.getLast?.map fun last => (parts.dropLast, last)

mutual

/-- A value at the start of the text, and the rest; `room` brackets may still be opened. -/
def value? : Nat → Nat → List Char → Option (Value × List Char)
  | 0, _, _ => none
  | fuel + 1, room, characters =>
      match characters with
      | '[' :: rest =>
          match room with
          | 0 => none
          | room + 1 => items? fuel room [] rest
      | '\x7b' :: rest =>
          match room, skipSpace rest with
          | 0, _ => none
          | _ + 1, '\x7d' :: rest => some (.table .inlined [], rest)
          | room + 1, rest => pairs? fuel room [] rest
      | 't' :: 'r' :: 'u' :: 'e' :: rest => some (.boolean true, rest)
      | 'f' :: 'a' :: 'l' :: 's' :: 'e' :: rest => some (.boolean false, rest)
      | character :: _ =>
          if character == '"' || character == '\x27' then
            (string? characters).map fun (text, rest) => (.string text, rest)
          else if startsDateTime characters then dateTime? characters
          else number? characters
      | [] => none

/-- The remaining items of an array; a comma may stand after the last. -/
def items? : Nat → Nat → List Value → List Char → Option (Value × List Char)
  | 0, _, _, _ => none
  | fuel + 1, room, read, characters =>
      match skipLines characters.length characters with
      | ']' :: rest => some (.array read.reverse, rest)
      | rest =>
          match value? fuel room rest with
          | none => none
          | some (item, rest) =>
              match skipLines rest.length rest with
              | ',' :: rest => items? fuel room (item :: read) rest
              | ']' :: rest => some (.array (item :: read).reverse, rest)
              | _ => none

/-- The remaining pairs of a table in braces, at least one. -/
def pairs? : Nat → Nat → Entries → List Char → Option (Value × List Char)
  | 0, _, _, _ => none
  | fuel + 1, room, read, characters =>
      match key? characters with
      | some (parts, '=' :: rest) =>
          match value? fuel room (skipSpace rest) with
          | none => none
          | some (value, rest) =>
              match splitKey? parts with
              | none => none
              | some (path, key) =>
                  match read.assign? .inlined path key value with
                  | none => none
                  | some entries =>
                      match skipSpace rest with
                      | ',' :: rest => pairs? fuel room entries rest
                      | '\x7d' :: rest => some (.table .inlined entries, rest)
                      | _ => none
      | _ => none

end

/-! ## Documents -/

/-- A line of a document. -/
inductive Line where
  /-- A header in single brackets. -/
  | header (path : List String)
  /-- A header in double brackets. -/
  | listHeader (path : List String)
  | assignment (path : List String) (key : String) (value : Value)

/-- A header of a table or of a table in a list. -/
def header? (characters : List Char) : Option (Line × List Char) := do
  match characters with
  | '[' :: '[' :: rest =>
      match ← key? rest with
      | (path, ']' :: ']' :: rest) => return (.listHeader path, rest)
      | _ => none
  | '[' :: rest =>
      match ← key? rest with
      | (path, ']' :: rest) => return (.header path, rest)
      | _ => none
  | _ => none

/-- An assignment of a value to a dotted key. -/
def assignment? (characters : List Char) : Option (Line × List Char) := do
  match ← key? characters with
  | (parts, '=' :: rest) =>
      let (value, rest) ← value? (2 * rest.length + 2) maxDepth (skipSpace rest)
      let (path, key) ← splitKey? parts
      return (.assignment path key value, rest)
  | _ => none

/-- The lines of a document. -/
def lines? : Nat → List Line → List Char → Option (List Line)
  | 0, _, _ => none
  | fuel + 1, read, characters =>
      match skipLines characters.length characters with
      | [] => some read.reverse
      | rest =>
          match (if rest.head? == some '[' then header? rest else assignment? rest) with
          | none => none
          | some (line, rest) =>
              match lineEnd? rest with
              | none => none
              | some rest => lines? fuel (line :: read) rest

/-- Opens the table of a header. -/
def openTable? (root : Entries) (path : List String) : Option Entries := do
  let (outer, key) ← splitKey? path
  Entries.descend? false
    (fun _ inner =>
      match inner.get? key with
      | none => some (inner.set key (.table .header []))
      | some (.table .implied entries) => some (inner.set key (.table .header entries))
      | some _ => none)
    outer .header root

/-- Opens a further table of a list header. -/
def openListed? (root : Entries) (path : List String) : Option Entries := do
  let (outer, key) ← splitKey? path
  Entries.descend? false
    (fun _ inner =>
      match inner.get? key with
      | none => some (inner.set key (.tables [[]]))
      | some (.tables items) => some (inner.set key (.tables (items ++ [[]])))
      | some _ => none)
    outer .header root

/-- Takes in a line; the state is the root table and the path of the current one. -/
def build? (state : Entries × List String) (line : Line) : Option (Entries × List String) :=
  let (root, current) := state
  match line with
  | .header path => (openTable? root path).map fun root => (root, path)
  | .listHeader path => (openListed? root path).map fun root => (root, path)
  | .assignment path key value =>
      (Entries.descend? false
        (fun origin inner => inner.assign? origin path key value) current .header root).map
        fun root => (root, current)

end StructuralLint.Toml.Reader

namespace StructuralLint.Toml

/-- The root table of a TOML document. A byte order mark at its start does not count. -/
def read? (text : String) : Option Entries := do
  let characters :=
    match text.toList with
    | mark :: rest => if mark.toNat == 0xFEFF then rest else mark :: rest
    | [] => []
  let lines ← Reader.lines? (characters.length + 1) [] characters
  let (root, _) ← lines.foldlM Reader.build? ([], [])
  return root

end StructuralLint.Toml
