import StructuralLint.Decimal.Plain
import StructuralLint.Source.Span
import StructuralLint.Text.Quoted

/-!
# Nodes of a structural model

A node is one element of source structure: a module, class, function, parameter, statement,
expression, identifier, literal or comment. Nodes refer to each other only by their ids.

Children are laid out by kind. A function has its parameters first and its body last; an `if` has a
condition, a block and perhaps an alternative; a `select` has the value that is looked at and its
cases; an assignment has a target and a value; a call has the callee and its arguments; a member
access has the object. Comments are no children: the statement or declaration that follows a
comment lists it among its comments.
-/

namespace StructuralLint

/-- The id of a node within its model. -/
structure NodeId where
  index : UInt32
deriving DecidableEq, Repr, Inhabited

namespace NodeId

/-- An id as it is written in messages. -/
def text (id : NodeId) : String :=
  "#" ++ toString id.index.toNat

end NodeId

/-- What a node is. -/
inductive NodeKind where
  | «module»
  | «class»
  | function
  | parameter
  | statement
  | expression
  | identifier
  | comment
  | literal
deriving DecidableEq, Repr

namespace NodeKind

/-- Every kind of node. -/
def all : List NodeKind :=
  [«module», «class», function, parameter, statement, expression, identifier, comment, literal]

/-- The name of a kind. -/
def text : NodeKind → String
  | «module» => "Module"
  | «class» => "Class"
  | function => "Function"
  | parameter => "Parameter"
  | statement => "Statement"
  | expression => "Expression"
  | identifier => "Identifier"
  | comment => "Comment"
  | literal => "Literal"

/-- The kind with a name. -/
def ofText? (text : String) : Option NodeKind :=
  all.find? (·.text == text)

end NodeKind

/-- What a statement does. -/
inductive StatementKind where
  | ifElse
  | whileLoop
  | forLoop
  | select
  | case
  | return
  | assign
  | expression
  | varDecl
  | constDecl
  | block
  | break
  | continue
  | throw
  | tryCatch
  | other
deriving DecidableEq, Repr

namespace StatementKind

/-- Every kind of statement. -/
def all : List StatementKind :=
  [ifElse, whileLoop, forLoop, select, case, .return, assign, expression, varDecl, constDecl, block,
    .break, .continue, throw, tryCatch, other]

/-- The name of a kind. -/
def text : StatementKind → String
  | ifElse => "If"
  | whileLoop => "While"
  | forLoop => "For"
  | select => "Select"
  | case => "Case"
  | .return => "Return"
  | assign => "Assign"
  | expression => "Expression"
  | varDecl => "VarDecl"
  | constDecl => "ConstDecl"
  | block => "Block"
  | .break => "Break"
  | .continue => "Continue"
  | throw => "Throw"
  | tryCatch => "Try"
  | other => "Other"

/-- The kind with a name. -/
def ofText? (text : String) : Option StatementKind :=
  all.find? (·.text == text)

/-- Statements that nest other statements under a condition. -/
def isControl (kind : StatementKind) : Bool :=
  [ifElse, whileLoop, forLoop, select].contains kind

/-- Statements that leave the block they stand in. -/
def isExit (kind : StatementKind) : Bool :=
  [.return, throw, .break, .continue].contains kind

end StatementKind

/-- What an expression computes. -/
inductive ExprKind where
  | call
  | member
  | binary
  | unary
  | index
  | lambda
  | other
deriving DecidableEq, Repr

namespace ExprKind

/-- Every kind of expression. -/
def all : List ExprKind :=
  [call, member, binary, unary, index, lambda, other]

/-- The name of a kind. -/
def text : ExprKind → String
  | call => "Call"
  | member => "Member"
  | binary => "Binary"
  | unary => "Unary"
  | index => "Index"
  | lambda => "Lambda"
  | other => "Other"

/-- The kind with a name. -/
def ofText? (text : String) : Option ExprKind :=
  all.find? (·.text == text)

end ExprKind

/-- The value of a literal. -/
inductive Literal where
  | int (value : Int64)
  | float (value : Float)
  | str (text : String)
  | bool (value : Bool)
  | null
deriving Repr

namespace Literal

/-- The type of a literal, as it stands for the value when values do not matter. -/
def tag : Literal → String
  | int _ => "$INT"
  | float _ => "$FLOAT"
  | str _ => "$STR"
  | bool _ => "$BOOL"
  | null => "$NULL"

/-- Whether a literal is a number. -/
def isNumeric : Literal → Bool
  | int _ => true
  | float _ => true
  | _ => false

/-- The number of a numeric literal. -/
def number? : Literal → Option Float
  | int value => some value.toFloat
  | float value => some value
  | _ => none

/-- A literal as source text. -/
def text : Literal → String
  | int value => toString value.toInt
  | float value => Decimal.plain value
  | str text => Text.Quoted.encode text
  | bool value => if value then "true" else "false"
  | null => "null"

end Literal

/-- Facts about a declaration that have no node of their own. -/
structure Attributes where
  /-- The declared type of a parameter or variable. -/
  typeName : Option String := none
  /-- The parameter is passed by reference. -/
  byReference : Bool := false
  /-- The function overrides or implements an inherited member. -/
  isOverride : Bool := false
  /-- The class is an enumeration whose constants are the variants. -/
  isEnum : Bool := false
  /-- Base classes and implemented interfaces. -/
  bases : List String := []
  /-- The declared return type of a function. -/
  returnType : Option String := none
deriving DecidableEq, Repr, Inhabited

/-- One element of source structure. -/
structure Node where
  id : NodeId
  kind : NodeKind
  span : Span
  children : List NodeId := []
  comments : List NodeId := []
  name : Option String := none
  literal : Option Literal := none
  statement : Option StatementKind := none
  expression : Option ExprKind := none
  operator : Option String := none
  text : Option String := none
  attributes : Attributes := {}
deriving Repr

namespace Node

/-- The name of a node, or the empty text. -/
def nameText (node : Node) : String :=
  node.name.getD ""

/-- Whether a node is a statement of a kind. -/
def isStatement (node : Node) (kind : StatementKind) : Bool :=
  node.kind == .statement && node.statement == some kind

/-- Whether a node is an expression of a kind. -/
def isExpression (node : Node) (kind : ExprKind) : Bool :=
  node.kind == .expression && node.expression == some kind

/-- Whether a node is a statement that nests others under a condition. -/
def isControl (node : Node) : Bool :=
  node.kind == .statement && node.statement.any StatementKind.isControl

/-- Whether a node declares something that can own a comment. -/
def isDeclaration (node : Node) : Bool :=
  [NodeKind.module, .class, .function, .parameter].contains node.kind ||
    node.isStatement .varDecl || node.isStatement .constDecl

/-- Whether a node starts code of its own: what lies inside belongs to no function around it. -/
def isCodeBoundary (node : Node) : Bool :=
  node.kind == .function || node.kind == .class || node.isExpression .lambda

end Node

end StructuralLint
