import Mathlib.Data.List.Forall2
import Mathlib.Data.List.Infix
import StructuralLint.Duplication.Fingerprint

/-!
# Texts of tokens

The tokens of a subtree are written one after the other, each node with its kind and its number of
children and, where it has a name that counts, with the rank of that name.  This module shows that
nothing of that is lost in the texts.  The number of children stands after the last slash, so an
operator may hold slashes and colons; the text before it begins with a mark of the kind; and the
text of a name holds no slash at all.
-/

namespace StructuralLint.Duplication

/-! ## Nodes of one shape -/

/-- Two literals have one type. -/
def SameType : Literal → Literal → Prop
  | .int _, .int _ => True
  | .float _, .float _ => True
  | .str _, .str _ => True
  | .bool _, .bool _ => True
  | .null, .null => True
  | _, _ => False

/--
Two nodes agree in all that their tokens show: kind and number of children, the kind of a
statement, the kind and operator of an expression, and the type of a literal.
-/
structure SameShape (left right : Node) : Prop where
  kind : left.kind = right.kind
  children : left.children.length = right.children.length
  statement :
    left.kind = .statement → left.statement.getD .other = right.statement.getD .other
  expression :
    left.kind = .expression → left.expression.getD .other = right.expression.getD .other
  operator : left.kind = .expression → left.operator.getD "" = right.operator.getD ""
  literal : left.kind = .literal → Option.Rel SameType left.literal right.literal

/-! ## Reading a text back -/

/-- Lists that are cut at their first separators are equal part by part. -/
theorem eq_and_eq_of_first_separator {α : Type} {separator : α} {left right rest other : List α}
    (notInLeft : separator ∉ left)
    (notInRight : separator ∉ right)
    (equal : left ++ separator :: rest = right ++ separator :: other) :
    left = right ∧ rest = other := by
  -- Where one part ends before the other, the other holds the separator.
  induction left generalizing right with
  | nil =>
      cases right with
      | nil => exact ⟨rfl, (List.cons.inj equal).2⟩
      | cons head tail => exact absurd (by simp [(List.cons.inj equal).1]) notInRight
  | cons head tail induction =>
      cases right with
      | nil => exact absurd (by simp [(List.cons.inj equal).1]) notInLeft
      | cons rightHead rightTail =>
          rcases List.cons.inj equal with ⟨headEqual, tailEqual⟩
          rw [List.mem_cons, not_or] at notInLeft notInRight
          rcases induction notInLeft.2 notInRight.2 tailEqual with ⟨tails, rests⟩
          exact ⟨by rw [headEqual, tails], rests⟩

/-- Lists that are cut at their last separators are equal part by part. -/
theorem eq_and_eq_of_last_separator {α : Type} {separator : α} {left right rest other : List α}
    (notInRest : separator ∉ rest)
    (notInOther : separator ∉ other)
    (equal : left ++ separator :: rest = right ++ separator :: other) :
    left = right ∧ rest = other := by
  have reversed := congrArg List.reverse equal
  simp only [List.reverse_append, List.reverse_cons, List.append_assoc, List.singleton_append]
    at reversed
  rcases eq_and_eq_of_first_separator (by simpa using notInRest) (by simpa using notInOther)
    reversed with ⟨rests, lefts⟩
  exact ⟨List.reverse_injective lefts, List.reverse_injective rests⟩

theorem toList_toString_nat (number : Nat) : (toString number).toList = Nat.toDigits 10 number := by
  rw [Nat.toString_eq_ofList_toDigits, String.toList_ofList]

theorem slash_notMem_toString (number : Nat) : '/' ∉ (toString number).toList := by
  rw [toList_toString_nat]
  intro member
  have digit := Nat.isDigit_of_mem_toDigits (by decide) (by decide) member
  exact absurd digit (by decide)

theorem toString_nat_inj {left right : Nat} : toString left = toString right ↔ left = right := by
  constructor
  · intro equal
    have digits := congrArg String.toList equal
    rw [toList_toString_nat, toList_toString_nat] at digits
    rw [← Nat.ofDigitChars_ten_toDigits (n := left), digits, Nat.ofDigitChars_ten_toDigits]
  · rintro rfl
    rfl

/-- The text of a node without its number of children. -/
def shapeText (node : Node) : String :=
  match node.kind with
  | .statement => "S:" ++ (node.statement.getD .other).text
  | .expression => "E:" ++ (node.expression.getD .other).text ++ ":" ++ node.operator.getD ""
  | .literal => (node.literal.map Literal.tag).getD "$LIT"
  | kind => kind.text

theorem text_ofNode (node : Node) :
    (Token.ofNode node).text = shapeText node ++ "/" ++ toString node.children.length := by
  rw [Token.ofNode, shapeText]
  cases node.kind <;> rfl

theorem text_ofNode_eq_iff {left right : Node} :
    (Token.ofNode left).text = (Token.ofNode right).text ↔
      shapeText left = shapeText right ∧ left.children.length = right.children.length := by
  rw [text_ofNode, text_ofNode]
  constructor
  · intro equal
    have lists := congrArg String.toList equal
    simp only [String.toList_append, List.append_assoc] at lists
    rcases eq_and_eq_of_last_separator (slash_notMem_toString _) (slash_notMem_toString _)
      lists with ⟨shapes, numbers⟩
    exact ⟨String.toList_inj.mp shapes, toString_nat_inj.mp (String.toList_inj.mp numbers)⟩
  · rintro ⟨shapes, numbers⟩
    rw [shapes, numbers]

/-- The kind of node that a text begins with. -/
def kindOfShapeText? (text : String) : Option NodeKind :=
  match text.toList with
  | 'S' :: ':' :: _ => some .statement
  | 'E' :: ':' :: _ => some .expression
  | '$' :: _ => some .literal
  | _ => NodeKind.ofText? text

theorem kindOfShapeText?_shapeText (node : Node) :
    kindOfShapeText? (shapeText node) = some node.kind := by
  have plain : ∀ kind ∈ [NodeKind.module, .class, .function, .parameter, .identifier, .comment],
      kindOfShapeText? kind.text = some kind := by decide
  rw [shapeText]
  cases node.kind with
  | statement => simp [kindOfShapeText?]
  | expression => simp [kindOfShapeText?]
  | literal =>
      rcases node.literal with - | literal
      · simp [kindOfShapeText?]
      · cases literal <;> simp [kindOfShapeText?, Literal.tag]
  | «module» | «class» | function | parameter | identifier | comment =>
      exact plain _ (by decide)

theorem statementText_injective : Function.Injective StatementKind.text := by
  have readBack (kind : StatementKind) : StatementKind.ofText? kind.text = some kind := by
    cases kind <;> decide
  intro left right equal
  rw [← Option.some_inj, ← readBack left, ← readBack right, equal]

theorem exprText_injective : Function.Injective ExprKind.text := by
  have readBack (kind : ExprKind) : ExprKind.ofText? kind.text = some kind := by
    cases kind <;> decide
  intro left right equal
  rw [← Option.some_inj, ← readBack left, ← readBack right, equal]

/-- A kind of expression holds no colon, so the first colon after the mark ends it. -/
theorem expressionShape_eq_iff {left right : ExprKind} {operator other : String} :
    "E:" ++ left.text ++ ":" ++ operator = "E:" ++ right.text ++ ":" ++ other ↔
      left = right ∧ operator = other := by
  have noColon (kind : ExprKind) : ':' ∉ kind.text.toList := by
    cases kind <;> decide
  constructor
  · intro equal
    have lists := congrArg String.toList equal
    simp only [String.append_assoc, String.toList_append, List.append_cancel_left_eq] at lists
    have colon : ":".toList = [':'] := rfl
    simp only [colon, List.singleton_append] at lists
    rcases eq_and_eq_of_first_separator (noColon left) (noColon right) lists with
      ⟨kinds, operators⟩
    exact ⟨exprText_injective (String.toList_inj.mp kinds), String.toList_inj.mp operators⟩
  · rintro ⟨rfl, rfl⟩
    rfl

/-- The type of a literal, or that there is none, can be read off its tag. -/
theorem tag_eq_iff {left right : Option Literal} :
    (left.map Literal.tag).getD "$LIT" = (right.map Literal.tag).getD "$LIT" ↔
      Option.Rel SameType left right := by
  rcases left with - | left
  · rcases right with - | right
    · simp
    · cases right <;> simp [Literal.tag]
  · rcases right with - | right
    · cases left <;> simp [Literal.tag]
    · rw [Option.rel_some_some]
      cases left <;> cases right <;> simp [Literal.tag, SameType]

/-- Tokens of nodes have the same text exactly when the nodes have one shape. -/
theorem text_ofNode_eq_iff_sameShape {left right : Node} :
    (Token.ofNode left).text = (Token.ofNode right).text ↔ SameShape left right := by
  rw [text_ofNode_eq_iff]
  constructor
  · rintro ⟨shapes, children⟩
    have kinds : left.kind = right.kind := by
      rw [← Option.some_inj, ← kindOfShapeText?_shapeText, ← kindOfShapeText?_shapeText, shapes]
    simp only [shapeText, ← kinds] at shapes
    refine ⟨kinds, children, ?_, ?_, ?_, ?_⟩
    · intro kind
      simp only [kind, String.append_right_inj] at shapes
      exact statementText_injective shapes
    · intro kind
      simp only [kind] at shapes
      exact (expressionShape_eq_iff.mp shapes).1
    · intro kind
      simp only [kind] at shapes
      exact (expressionShape_eq_iff.mp shapes).2
    · intro kind
      simp only [kind] at shapes
      exact tag_eq_iff.mp shapes
  · intro same
    refine ⟨?_, same.children⟩
    simp only [shapeText, ← same.kind]
    cases kind : left.kind with
    | statement => simp only [same.statement kind]
    | expression => simp only [same.expression kind, same.operator kind]
    | literal => exact tag_eq_iff.mpr (same.literal kind)
    | «module» | «class» | function | parameter | identifier | comment => rfl

theorem text_name_inj {left right : Nat} :
    (Token.name left).text = (Token.name right).text ↔ left = right := by
  rw [Token.text, Token.text, String.append_right_inj, toString_nat_inj]

/-- The text of a name holds no slash, and that of a node does. -/
theorem text_ofNode_ne_text_name (node : Node) (rank : Nat) :
    (Token.ofNode node).text ≠ (Token.name rank).text := by
  intro equal
  have inNode : '/' ∈ (Token.ofNode node).text.toList := by
    simp [text_ofNode]
  rw [equal, Token.text, String.toList_append, List.mem_append] at inNode
  rcases inNode with inMark | inRank
  · exact absurd inMark (by decide)
  · exact slash_notMem_toString rank inRank

end StructuralLint.Duplication
