import StructuralLint.Rule.Basic
import StructuralLint.Text.Words

/-!
# Comments that say nothing

Comments that only repeat the names of the code below them, and comments that hold code.
-/

namespace StructuralLint.Rule

namespace Comments

/-- Words that carry no meaning of their own. -/
def stopwords : List String :=
  ["a", "an", "the", "this", "that", "these", "those", "of", "to", "for", "in", "on", "at", "by",
    "with", "from", "into", "and", "or", "is", "are", "be", "it", "its", "we", "our", "then",
    "here", "now", "just", "do", "does", "so"]

/-- Words that say that a comment carries intent. -/
def intentWords : List String :=
  ["todo", "fixme", "hack", "xxx", "note", "warning", "suppress:"]

/--
Whether one of the words of intent starts at a word boundary; `previous` is the character before
the text.
-/
def hasIntentAfter (previous : Option Char) : List Char → Bool
  | [] => false
  | character :: rest =>
      (!previous.any Text.isWordChar &&
          intentWords.any fun word =>
            (Text.afterFolded? word.toList (character :: rest)).isSome) ||
        hasIntentAfter (some character) rest

/-- Whether a comment carries intent. -/
def hasIntent (comment : String) : Bool :=
  hasIntentAfter none comment.toList

/-- A word in small letters and without the ending of a plural. -/
def stem (word : String) : String :=
  let small := (Text.lower word).toList
  let short := small.dropLast
  if small.getLast? == some 's' && 2 < (String.ofList short).utf8ByteSize &&
      short.getLast? != some 's' then String.ofList short
  else String.ofList small

/-- The words of a comment that carry meaning, in order and each once. -/
def commentWords (comment : String) : List String :=
  (((Text.words comment).filter fun word =>
    word.toList.any Text.isLetter && !stopwords.contains word).map stem).eraseDups

/--
The names that a comment on a node could repeat: the signature of a declaration, or all names of
other code, if the walk over it ends.
-/
def namesBelow? (model : Model) (owner : Node) : Option (List String) :=
  if [NodeKind.function, .class, .module].contains owner.kind then
    some (
      owner.nameText ::
        ((model.parameters owner.id).flatMap fun parameter =>
          parameter.nameText :: parameter.attributes.typeName.toList) ++
        owner.attributes.returnType.toList)
  else
    (model.descendants? owner.id).map (·.flatMap fun node =>
      node.name.toList ++ node.attributes.typeName.toList)

/-- The words of the names that a comment on a node could repeat. -/
def codeWords? (model : Model) (owner : Node) : Option (List String) :=
  (namesBelow? model owner).map fun names => (names.flatMap Text.words).map stem

/-- Whether a comment stands right above its owner or on its last line. -/
def isAdjacent (comment owner : Node) : Bool :=
  owner.span.startLine.toNat - comment.span.endLine.toNat ≤ 1 ||
    comment.span.startLine == owner.span.endLine

end Comments

/-- The share of repeated words from which a comment says nothing. -/
def overlapThreshold : Threshold := .real "overlapThreshold" 0.7 0 1

/-- The least number of words of a comment that is looked at. -/
def minWords : Threshold := .count "minWords" 2

/-- The owner of a comment that could say too little, and the words of the comment. -/
def Comments.worded? (context : Context) (node : Node) : Option (Node × List String) := do
  let text ← node.text
  guard (!hasIntent text)
  let owner ← context.model.commentOwner? node.id
  guard (isAdjacent node owner)
  let words := commentWords text
  guard (!words.isEmpty && context.count minWords ≤ words.length)
  return (owner, words)

/-- The findings on a comment by its words and those of the code. -/
def Comments.restatements (context : Context) (node : Node) (words known : List String) :
    List Violation :=
  let restated := words.countP known.contains
  let overlap := Float.ofNat restated / Float.ofNat words.length
  if overlap < context.threshold overlapThreshold then []
  else
    [context.violation "RedundantComment" .low node
      ("Comment only restates the code (" ++ Decimal.plainRounded (overlap * 100) ++
        "% of its words are identifiers below it); explain why, or delete it")]

/-- Comments that only repeat the code. -/
def redundantComment : Rule where
  id := "RedundantComment"
  description := "Detects comments that restate the code they describe"
  category := .comments
  severity := .low
  kinds := [.comment]
  thresholds := [overlapThreshold, minWords]
  evaluate context node :=
    match Comments.worded? context node with
    | none => .ok []
    | some (owner, words) =>
        match Comments.codeWords? context.model owner with
        | none => .error .endless
        | some known => .ok (Comments.restatements context node words known)

/-- Comments that hold code. -/
def commentedOutCode : Rule where
  id := "CommentedOutCode"
  description := "Detects code left behind in comments"
  category := .comments
  severity := .low
  kinds := [.comment]
  evaluate context node :=
    .ok (
      if node.text.any context.looksLikeCode then
        [context.violation "CommentedOutCode" .low node
          "Commented-out code; delete it, version control remembers"]
      else [])

end StructuralLint.Rule
