import StructuralLint.Text.Char

/-!
# Text that reads like code

A heuristic that needs no grammar: a comment reads like code when one of its lines, without its
comment signs, ends like a statement, starts with a keyword followed by punctuation, is an
assignment or a bare call, or holds an arrow or a logical operator.
-/

namespace StructuralLint.Text.CodeLike

/-- Drops every leading occurrence of a sign. -/
def dropSign (sign : List Char) : Nat → List Char → List Char
  | 0, characters => characters
  | fuel + 1, characters =>
      if sign.isPrefixOf characters then dropSign sign fuel (characters.drop sign.length)
      else characters

/-- The characters after every leading occurrence of a sign. -/
def withoutSign (sign : String) (characters : List Char) : List Char :=
  dropSign sign.toList characters.length characters

/-- A line without blanks and comment signs around it. -/
def body (line : List Char) : List Char :=
  let opened := withoutSign "*" (withoutSign "/*" (withoutSign "#" (withoutSign "//"
    (trimChars line))))
  let closed := (withoutSign "/*" opened.reverse).reverse
  trimChars closed

/-- Words that open a statement. -/
def keywords : List String :=
  ["if", "for", "while", "return", "def", "fn", "function", "class", "import", "from", "const",
    "let", "var", "elif", "else"]

/-- The characters after a prefix, if the line starts with it. -/
def after? (start line : List Char) : Option (List Char) :=
  if start.isPrefixOf line then some (line.drop start.length) else none

/-- The line ends with the end of a statement or a brace. -/
def endsStatement (line : List Char) : Bool :=
  line.getLast?.any [';', '\x7b', '\x7d'].contains

/-- The line starts with a keyword and holds punctuation of a statement after it. -/
def startsWithKeyword (line : List Char) : Bool :=
  keywords.any fun keyword =>
    match after? keyword.toList line with
    | some rest =>
        !rest.head?.any isWordChar && rest.any ['(', ':', '=', ';', '\x7b'].contains
    | none => false

/-- Characters that may start a name. -/
def startsName (character : Char) : Bool :=
  character.isAlpha || character == '_'

/-- The characters after an assignment sign, if the line starts with one. -/
def afterAssignment? (line : List Char) : Option (List Char) :=
  match line with
  | '=' :: rest => some rest
  | sign :: '=' :: rest => if ['+', '-', '*', '/'].contains sign then some rest else none
  | _ => none

/-- The line assigns to a name, a member or an element. -/
def isAssignment (line : List Char) : Bool :=
  match line with
  | first :: rest =>
      startsName first &&
        (let tail := rest.dropWhile fun character =>
          isWordChar character || ['.', '[', ']'].contains character
        match afterAssignment? (tail.dropWhile isBlank) with
        | some value => (value.dropWhile isBlank).head?.any (· != '=')
        | none => false)
  | [] => false

/-- The line is a call and nothing else. -/
def isCall (line : List Char) : Bool :=
  match line with
  | first :: rest =>
      startsName first &&
        (match rest.dropWhile fun character => isWordChar character || character == '.' with
        | '(' :: arguments => arguments.getLast? == some ')'
        | _ => false)
  | [] => false

/-- The line holds an arrow or a logical operator. -/
def hasOperator (line : List Char) : Bool :=
  ["->", "=>", "&&", "||"].any fun operator => occursIn operator.toList line

/-- Whether a line without its comment signs reads like code. -/
def isCodeLine (line : List Char) : Bool :=
  endsStatement line || startsWithKeyword line || isAssignment line || isCall line ||
    hasOperator line

end StructuralLint.Text.CodeLike

namespace StructuralLint.Text

/-- Whether some line of a comment reads like code. -/
def looksLikeCode (comment : String) : Bool :=
  (lines comment).any fun line => CodeLike.isCodeLine (CodeLike.body line)

end StructuralLint.Text
