import Mathlib.Data.List.Forall2
import StructuralLint.Proofs.TextAtoms

/-!
# Texts of predicates

The text that identifies a conditional chain puts words between three separators: spaces between the
words of a predicate, bars between the labels of a case, and a control character between predicates.
Words are kinds of nodes, operators, names and literals.  The name of a kind begins each node, so
the text of a chain shows the text of every node, unless an operator or a name holds the control
character, a quote or the name of a kind between separators.  It shows nothing else: neither how
many children a node has nor what kind of expression it is.
-/

namespace StructuralLint.Duplication

open Text (Quoted.escape Quoted.encode)

/-! ## Words -/

/-- The character between the predicates of a chain. -/
def unitSeparator : Char := Char.ofNat 0x1F

/-- The characters between the words and the labels of a predicate. -/
def isSeparator (character : Char) : Bool :=
  character == ' ' || character == '|'

/--
A word holds no quote and no control character, and between its separators there is no name of
a kind of node.
-/
def IsPlain (word : String) : Prop :=
  (∀ character ∈ word.toList, character ≠ '"' ∧ character ≠ unitSeparator) ∧
    ∀ kind ∈ NodeKind.all, kind.text.toList ∉ word.toList.splitOnP isSeparator

instance (word : String) : Decidable (IsPlain word) :=
  inferInstanceAs (Decidable (_ ∧ _))

/-- The characters of literals without quotes. -/
def literalCharacters : List Char := "0123456789.-NaNinftruefalsenull".toList

theorem mem_literalCharacters_of_mem_word :
    ∀ word ∈ ["-", ".", "0", "0.", "NaN", "inf", "true", "false", "null"],
      ∀ character ∈ word.toList, character ∈ literalCharacters := by
  decide

theorem mem_literalCharacters_of_mem_toDigits {number : Nat} {character : Char}
    (member : character ∈ Nat.toDigits 10 number) :
    character ∈ literalCharacters := by
  rcases exists_digitChar_of_mem_toDigits (by decide) member with ⟨digit, small, rfl⟩
  have digits : ∀ digit < 10, Nat.digitChar digit ∈ literalCharacters := by decide
  exact digits digit small

theorem mem_literalCharacters_of_digits {decimal : Decimal.Digits} {character : Char}
    (member : character ∈ decimal.plain.toList) :
    character ∈ literalCharacters := by
  have isZero (count : Nat) (zero : character ∈ List.replicate count '0') :
      character ∈ literalCharacters := by
    rw [(List.mem_replicate.mp zero).2]
    decide
  simp only [Decimal.Digits.plain] at member
  split at member
  · rw [String.toList_ofList, List.mem_append] at member
    rcases member with digit | zero
    · exact mem_literalCharacters_of_mem_toDigits digit
    · exact isZero _ zero
  · split at member
    · rw [String.toList_ofList, List.mem_append, List.mem_append] at member
      rcases member with (start | zero) | digit
      · exact mem_literalCharacters_of_mem_word "0." (by decide) character start
      · exact isZero _ zero
      · exact mem_literalCharacters_of_mem_toDigits digit
    · rw [String.toList_ofList, List.mem_append, List.mem_append, List.mem_singleton] at member
      rcases member with (digit | rfl) | digit
      · exact mem_literalCharacters_of_mem_toDigits (List.mem_of_mem_take digit)
      · decide
      · exact mem_literalCharacters_of_mem_toDigits (List.mem_of_mem_drop digit)

theorem mem_literalCharacters_of_plain {value : Float} {character : Char}
    (member : character ∈ (Decimal.plain value).toList) :
    character ∈ literalCharacters := by
  simp only [Decimal.plain] at member
  split at member
  · exact mem_literalCharacters_of_mem_word "NaN" (by decide) character member
  · have signed (rest : String) (harmless : character ∈ rest.toList → character ∈ literalCharacters)
        (inWord :
          character ∈ ((if Decimal.isNegative value then "-" else "") ++ rest).toList) :
        character ∈ literalCharacters := by
      rw [String.toList_append, List.mem_append] at inWord
      rcases inWord with sign | inRest
      · split at sign
        · exact mem_literalCharacters_of_mem_word "-" (by decide) character sign
        · cases sign
      · exact harmless inRest
    split at member
    · exact signed "inf" (mem_literalCharacters_of_mem_word "inf" (by decide) character) member
    · split at member
      · exact signed "0" (mem_literalCharacters_of_mem_word "0" (by decide) character) member
      · exact signed _ mem_literalCharacters_of_digits member

theorem mem_literalCharacters_of_int {value : Int} {character : Char}
    (member : character ∈ (toString value).toList) :
    character ∈ literalCharacters := by
  have ofNat (number : Nat) (digit : character ∈ (toString number).toList) :
      character ∈ literalCharacters := by
    rw [Nat.toString_eq_ofList_toDigits, String.toList_ofList] at digit
    exact mem_literalCharacters_of_mem_toDigits digit
  cases value with
  | ofNat number => exact ofNat number member
  | negSucc number =>
      change character ∈ ("-" ++ toString (number + 1)).toList at member
      rw [String.toList_append, List.mem_append] at member
      rcases member with sign | digit
      · exact mem_literalCharacters_of_mem_word "-" (by decide) character sign
      · exact ofNat _ digit

/-- Literals but texts are written in few characters. -/
theorem mem_literalCharacters_of_text {literal : Literal}
    (notText : ∀ text, literal ≠ .str text)
    {character : Char}
    (member : character ∈ literal.text.toList) :
    character ∈ literalCharacters := by
  cases literal with
  | int value => exact mem_literalCharacters_of_int member
  | float value => exact mem_literalCharacters_of_plain member
  | str text => exact absurd rfl (notText text)
  | bool value =>
      cases value with
      | false => exact mem_literalCharacters_of_mem_word "false" (by decide) character member
      | true => exact mem_literalCharacters_of_mem_word "true" (by decide) character member
  | null => exact mem_literalCharacters_of_mem_word "null" (by decide) character member

theorem isPlain_text {literal : Literal}
    (notText : ∀ text, literal ≠ .str text) :
    IsPlain literal.text := by
  have characters := fun character => @mem_literalCharacters_of_text literal notText character
  constructor
  · have apart : ∀ character ∈ literalCharacters,
        character ≠ '"' ∧ character ≠ unitSeparator := by decide
    exact fun character member => apart character (characters character member)
  · have noSeparator : ∀ character ∈ literalCharacters, isSeparator character = false := by decide
    rw [List.splitOnP_eq_singleton fun character member =>
      noSeparator character (characters character member)]
    -- The name of every kind holds a capital letter that no literal holds.
    have capital : ∀ kind ∈ NodeKind.all,
        ∃ character ∈ kind.text.toList, character ∉ literalCharacters := by decide
    intro kind listed isName
    rcases capital kind listed with ⟨character, member, foreign⟩
    rw [List.mem_singleton.mp isName] at member
    exact foreign (characters character member)

/-! ## Nodes as atoms -/

/-- A word that is not quoted. -/
def wordAtoms (word : String) : List Atom :=
  word.toList.map Atom.single

/-- A literal; a text is one atom. -/
def literalAtoms : Literal → List Atom
  | .str text => [.quoted (text.toList.flatMap Quoted.escape)]
  | literal => wordAtoms literal.text

/-- What is written of a node behind its kind. -/
def dataAtoms (node : Node) : List (List Atom) :=
  node.operator.toList.map wordAtoms ++ node.name.toList.map wordAtoms ++
    node.literal.toList.map literalAtoms

/-- What is written of a node. -/
def nodeAtoms (node : Node) : List Atom :=
  [Atom.single ' '].intercalate (wordAtoms node.kind.text :: dataAtoms node)

/-- The words by which a predicate shows a node. -/
def nodeWords (node : Node) : List String :=
  node.kind.text :: node.operator.toList ++ node.name.toList ++
    (node.literal.map Literal.text).toList

/-- What a predicate shows of a node. -/
def nodeText (node : Node) : String :=
  " ".intercalate (nodeWords node)

/-- The operator and the name of a node are plain words. -/
def HasPlainWords (node : Node) : Prop :=
  ∀ word ∈ node.operator.toList ++ node.name.toList, IsPlain word

instance (node : Node) : Decidable (HasPlainWords node) :=
  inferInstanceAs (Decidable (∀ word ∈ node.operator.toList ++ node.name.toList, IsPlain word))

theorem render_wordAtoms (word : String) : (wordAtoms word).flatMap Atom.render = word.toList := by
  rw [wordAtoms, List.flatMap_map]
  exact List.flatMap_singleton' _

theorem render_literalAtoms (literal : Literal) :
    (literalAtoms literal).flatMap Atom.render = literal.text.toList := by
  cases literal with
  | str text =>
      rw [literalAtoms, List.flatMap_singleton, Literal.text, Quoted.encode, String.toList_ofList]
      rfl
  | int | float | bool | null => exact render_wordAtoms _

theorem render_dataAtoms (node : Node) :
    (wordAtoms node.kind.text :: dataAtoms node).map (List.flatMap Atom.render) =
      (nodeWords node).map String.toList := by
  have words (name : Option String) :
      (name.toList.map wordAtoms).map (List.flatMap Atom.render) =
        name.toList.map String.toList := by
    cases name with
    | none => rfl
    | some word => rw [Option.toList, List.map_singleton, List.map_singleton, render_wordAtoms,
        List.map_singleton]
  have literals :
      (node.literal.toList.map literalAtoms).map (List.flatMap Atom.render) =
        (node.literal.map Literal.text).toList.map String.toList := by
    cases node.literal with
    | none => rfl
    | some literal => simp [render_literalAtoms]
  rw [dataAtoms, nodeWords, List.map_cons, List.map_append, List.map_append, words, words,
    literals, render_wordAtoms]
  simp only [List.cons_append, List.map_cons, List.map_append]

theorem render_nodeAtoms (node : Node) :
    (nodeAtoms node).flatMap Atom.render = (nodeText node).toList := by
  rw [nodeAtoms, nodeText, flatMap_intercalate, render_dataAtoms, String.toList_intercalate]
  rfl

/-- Atoms can be read, and the control character is not among them. -/
def AreReadable (atoms : List Atom) : Prop :=
  ∀ atom ∈ atoms, atom.IsReadable ∧ atom ≠ .single unitSeparator

theorem areReadable_wordAtoms {word : String}
    (plain : ∀ character ∈ word.toList, character ≠ '"' ∧ character ≠ unitSeparator) :
    AreReadable (wordAtoms word) := by
  intro atom member
  rcases List.mem_map.mp member with ⟨character, inWord, rfl⟩
  have harmless := plain character inWord
  exact ⟨harmless.1, fun isSeparator => harmless.2 (Atom.single.inj isSeparator)⟩

theorem areReadable_literalAtoms (literal : Literal) : AreReadable (literalAtoms literal) := by
  cases literal with
  | str text =>
      intro atom member
      rw [List.mem_singleton.mp member]
      exact ⟨isBody_flatMap_escape _, Atom.noConfusion⟩
  | int | float | bool | null => exact areReadable_wordAtoms (isPlain_text (by simp)).1

/-- A join can be read when its parts can. -/
theorem areReadable_intercalate {separator : Char} {parts : List (List Atom)}
    (separatorReadable : separator ≠ '"' ∧ separator ≠ unitSeparator)
    (partsReadable : ∀ part ∈ parts, AreReadable part) :
    AreReadable ([Atom.single separator].intercalate parts) := by
  intro atom member
  rcases eq_or_exists_of_mem_intercalate member with rfl | ⟨part, listed, inPart⟩
  · exact ⟨separatorReadable.1, fun equal => separatorReadable.2 (Atom.single.inj equal)⟩
  · exact partsReadable part listed atom inPart

theorem mem_all (kind : NodeKind) : kind ∈ NodeKind.all := by
  cases kind <;> decide

theorem areReadable_nodeAtoms {node : Node}
    (plain : HasPlainWords node) :
    AreReadable (nodeAtoms node) := by
  apply areReadable_intercalate (by decide)
  intro atoms member
  rcases List.mem_cons.mp member with rfl | data
  · have kinds : ∀ kind ∈ NodeKind.all, ∀ character ∈ kind.text.toList,
        character ≠ '"' ∧ character ≠ unitSeparator := by decide
    exact areReadable_wordAtoms (kinds node.kind (mem_all node.kind))
  · rw [dataAtoms, ← List.map_append, List.mem_append] at data
    rcases data with isWord | isLiteral
    · rcases List.mem_map.mp isWord with ⟨word, listed, rfl⟩
      exact areReadable_wordAtoms (plain word listed).1
    · rcases List.mem_map.mp isLiteral with ⟨literal, _, rfl⟩
      exact areReadable_literalAtoms literal

/-! ## Nodes as blocks -/

/-- The separators among atoms. -/
def Atom.isSeparator : Atom → Bool
  | single character => Duplication.isSeparator character
  | quoted _ => false

/-- The blocks that begin with a separator and go on with the name of a kind. -/
def IsKind (block : List Atom) : Prop :=
  ∃ (separator : Char) (kind : NodeKind), block = .single separator :: wordAtoms kind.text

/-- What is written of a node and of the separator before it. -/
def markedAtoms (marked : Char × Node) : List Atom :=
  .single marked.1 :: nodeAtoms marked.2

/-- What is written of a node and of the separator before it, cut before every separator. -/
def nodeBlocks (marked : Char × Node) : List (List Atom) :=
  (.single marked.1 :: wordAtoms marked.2.kind.text) ::
    (dataAtoms marked.2).flatMap (cutAfter Atom.isSeparator [.single ' '])

theorem flatten_nodeBlocks (marked : Char × Node) :
    (nodeBlocks marked).flatten = markedAtoms marked := by
  rw [nodeBlocks, markedAtoms, nodeAtoms, intercalate_cons, List.flatten_cons, List.cons_append]
  congr 2
  induction dataAtoms marked.2 with
  | nil => rfl
  | cons atoms rest induction =>
      rw [List.flatMap_cons, List.flatten_append, induction, flatten_cutAfter, List.flatMap_cons]
      rfl

theorem isBlock_of_mem_nodeBlocks {marked : Char × Node} {block : List Atom}
    (separates : isSeparator marked.1 = true)
    (member : block ∈ nodeBlocks marked) :
    IsBlock (Atom.isSeparator · = true) block := by
  rcases List.mem_cons.mp member with rfl | data
  · have kinds : ∀ kind ∈ NodeKind.all, ∀ atom ∈ wordAtoms kind.text,
        ¬ atom.isSeparator = true := by decide
    exact .intro separates (kinds marked.2.kind (mem_all marked.2.kind))
  · rcases List.mem_flatMap.mp data with ⟨atoms, _, inAtoms⟩
    exact isBlock_of_mem_cutAfter Atom.isSeparator (.intro rfl (List.forall_mem_nil _)) inAtoms

theorem wordAtoms_inj {left right : String}
    (equal : wordAtoms left = wordAtoms right) :
    left = right := by
  have characters := congrArg (List.flatMap Atom.render) equal
  rwa [render_wordAtoms, render_wordAtoms, String.toList_inj] at characters

theorem not_isKind_of_mem_cutAfter_wordAtoms {word : String} {block : List Atom}
    (plain : IsPlain word)
    (member : block ∈ cutAfter Atom.isSeparator [.single ' '] (wordAtoms word)) :
    ¬ IsKind block := by
  rintro ⟨separator, kind, rfl⟩
  have cut : .single separator :: wordAtoms kind.text ∈
      (cutAfter isSeparator [' '] word.toList).map (List.map Atom.single) := by
    rw [← show Atom.isSeparator ∘ Atom.single = isSeparator from rfl, ← cutAfter_map]
    exact member
  rcases List.mem_map.mp cut with ⟨characters, inWord, isKind⟩
  -- Behind its separator the block is a piece of the word, and no piece is the name of a kind.
  have isPiece : characters.tail ∈ word.toList.splitOnP isSeparator := by
    have pieces := map_tail_cutAfter isSeparator ' ' [] word.toList
    rw [List.reverse_nil, List.splitOnPPrepend_nil_right] at pieces
    rw [← pieces]
    exact List.mem_map_of_mem inWord
  have isName : characters.tail = kind.text.toList := by
    have tails := congrArg List.tail isKind
    rw [← List.map_tail, List.tail_cons, wordAtoms] at tails
    exact List.map_injective_iff.mpr (fun _ _ => Atom.single.inj) tails
  rw [isName] at isPiece
  exact plain.2 kind (mem_all kind) isPiece

theorem not_isKind_of_mem_cutAfter_literalAtoms {literal : Literal} {block : List Atom}
    (member : block ∈ cutAfter Atom.isSeparator [.single ' '] (literalAtoms literal)) :
    ¬ IsKind block := by
  cases literal with
  | str text =>
      rintro ⟨separator, kind, rfl⟩
      have whole : wordAtoms kind.text = [.quoted (text.toList.flatMap Quoted.escape)] :=
        (List.cons.inj (List.mem_singleton.mp member)).2
      have quoted := List.mem_singleton_self (Atom.quoted (text.toList.flatMap Quoted.escape))
      rw [← whole] at quoted
      rcases List.mem_map.mp quoted with ⟨_, _, single⟩
      cases single
  | int | float | bool | null =>
      exact not_isKind_of_mem_cutAfter_wordAtoms (isPlain_text (by simp)) member

/-- The name of its kind begins a node, and no other begins inside it. -/
theorem isBlock_nodeBlocks {marked : Char × Node}
    (plain : HasPlainWords marked.2) :
    IsBlock IsKind (nodeBlocks marked) := by
  refine .intro ⟨marked.1, marked.2.kind, rfl⟩ ?_
  intro block member
  rcases List.mem_flatMap.mp member with ⟨atoms, isData, inAtoms⟩
  rw [dataAtoms, ← List.map_append, List.mem_append] at isData
  rcases isData with isWord | isLiteral
  · rcases List.mem_map.mp isWord with ⟨word, listed, rfl⟩
    exact not_isKind_of_mem_cutAfter_wordAtoms (plain word listed) inAtoms
  · rcases List.mem_map.mp isLiteral with ⟨literal, _, rfl⟩
    exact not_isKind_of_mem_cutAfter_literalAtoms inAtoms

/-- Nodes in a row show the text of each of them and the separators between them. -/
theorem map_markedAtoms_eq {lefts rights : List (Char × Node)}
    (leftPlain : ∀ marked ∈ lefts, isSeparator marked.1 = true ∧ HasPlainWords marked.2)
    (rightPlain : ∀ marked ∈ rights, isSeparator marked.1 = true ∧ HasPlainWords marked.2)
    (equal : lefts.flatMap markedAtoms = rights.flatMap markedAtoms) :
    lefts.map markedAtoms = rights.map markedAtoms := by
  -- The text is cut before every separator, and then the blocks are grouped by names of kinds.
  have separated {nodes : List (Char × Node)}
      (plain : ∀ marked ∈ nodes, isSeparator marked.1 = true ∧ HasPlainWords marked.2) :
      ∀ block ∈ nodes.flatMap nodeBlocks, IsBlock (Atom.isSeparator · = true) (id block) := by
    intro block member
    rcases List.mem_flatMap.mp member with ⟨marked, listed, inNode⟩
    exact isBlock_of_mem_nodeBlocks (plain marked listed).1 inNode
  have begun {nodes : List (Char × Node)}
      (plain : ∀ marked ∈ nodes, isSeparator marked.1 = true ∧ HasPlainWords marked.2) :
      ∀ marked ∈ nodes, IsBlock IsKind (nodeBlocks marked) :=
    fun marked listed => isBlock_nodeBlocks (plain marked listed).2
  have flattens : List.flatten ∘ nodeBlocks = markedAtoms := funext flatten_nodeBlocks
  have blocks : lefts.flatMap nodeBlocks = rights.flatMap nodeBlocks := by
    have flattened :
        (lefts.flatMap nodeBlocks).flatMap id = (rights.flatMap nodeBlocks).flatMap id := by
      rw [List.flatMap_assoc, List.flatMap_assoc]
      simpa only [List.flatMap_id, flatten_nodeBlocks] using equal
    simpa only [List.map_id] using
      map_eq_of_flatMap_eq (separated leftPlain) (separated rightPlain) flattened
  have nodes := congrArg (List.map List.flatten)
    (map_eq_of_flatMap_eq (begun leftPlain) (begun rightPlain) blocks)
  rwa [List.map_map, List.map_map, flattens] at nodes

/-! ## Predicates -/

/-- The atoms of a predicate, whose nodes are given in pre-order. -/
def predicateAtoms (nodes : List Node) : List Atom :=
  [Atom.single ' '].intercalate (nodes.map nodeAtoms)

/-- The atoms of the predicates of one branch. -/
def branchAtoms (predicates : List (List Node)) : List Atom :=
  [Atom.single '|'].intercalate (predicates.map predicateAtoms)

/-- The atoms of a chain. -/
def chainAtoms (tag : String) (branches : List (List (List Node))) : List Atom :=
  [Atom.single unitSeparator].intercalate (wordAtoms tag :: branches.map branchAtoms)

/-- Predicates show the same texts of nodes. -/
def SameTexts (lefts rights : List Node) : Prop :=
  lefts.map nodeText = rights.map nodeText

/-- A predicate has a node, and its nodes have plain words. -/
structure IsPlainPredicate (nodes : List Node) : Prop where
  nonempty : nodes ≠ []
  plain : ∀ node ∈ nodes, HasPlainWords node

/-- The nodes of a predicate with the separators before them. -/
def markedNodes : List Node → List (Char × Node)
  | [] => []
  | node :: rest => ('|', node) :: rest.map fun other => (' ', other)

theorem map_snd_markedNodes (nodes : List Node) : (markedNodes nodes).map Prod.snd = nodes := by
  cases nodes with
  | nil => rfl
  | cons node rest =>
      rw [markedNodes, List.map_cons, List.map_map]
      exact congrArg (node :: ·) (List.map_id rest)

theorem isPlain_of_mem_markedNodes {nodes : List Node}
    (isPlain : IsPlainPredicate nodes)
    {marked : Char × Node}
    (member : marked ∈ markedNodes nodes) :
    isSeparator marked.1 = true ∧ HasPlainWords marked.2 := by
  constructor
  · cases nodes with
    | nil => cases member
    | cons node rest =>
        rcases List.mem_cons.mp member with rfl | later
        · rfl
        · rcases List.mem_map.mp later with ⟨_, _, rfl⟩
          rfl
  · apply isPlain.plain
    rw [← map_snd_markedNodes nodes]
    exact List.mem_map_of_mem member

theorem cons_predicateAtoms {nodes : List Node}
    (nonempty : nodes ≠ []) :
    .single '|' :: predicateAtoms nodes = (markedNodes nodes).flatMap markedAtoms := by
  cases nodes with
  | nil => exact absurd rfl nonempty
  | cons node rest =>
      rw [predicateAtoms, List.map_cons, intercalate_cons, markedNodes, List.flatMap_cons,
        List.flatMap_map, List.flatMap_map]
      rfl

theorem cons_branchAtoms {predicates : List (List Node)}
    (nonempty : predicates ≠ [])
    (isPlain : ∀ nodes ∈ predicates, IsPlainPredicate nodes) :
    .single '|' :: branchAtoms predicates =
      (predicates.flatMap markedNodes).flatMap markedAtoms := by
  have parts : predicates.map predicateAtoms ≠ [] := by simpa using nonempty
  rw [branchAtoms, cons_intercalate _ parts]
  clear nonempty parts
  induction predicates with
  | nil => rfl
  | cons nodes rest induction =>
      rw [List.forall_mem_cons] at isPlain
      rw [List.map_cons, List.flatMap_cons, cons_predicateAtoms isPlain.1.nonempty,
        induction isPlain.2, List.flatMap_cons, List.flatMap_append]

theorem branchAtoms_ne_nil {nodes : List Node} {rest : List (List Node)}
    (nonempty : nodes ≠ []) :
    branchAtoms (nodes :: rest) ≠ [] := by
  cases nodes with
  | nil => exact absurd rfl nonempty
  | cons node others =>
      have kindNonempty : wordAtoms node.kind.text ≠ [] := by
        cases node.kind <;> decide
      simp [branchAtoms, predicateAtoms, nodeAtoms, intercalate_cons, kindNonempty]

theorem forall₂_imp_of_mem {α β : Type} {first second : α → β → Prop} {lefts : List α}
    {rights : List β}
    (step : ∀ left ∈ lefts, ∀ right ∈ rights, first left right → second left right)
    (related : List.Forall₂ first lefts rights) :
    List.Forall₂ second lefts rights := by
  induction related with
  | nil => exact .nil
  | @cons left right lefts rights head _ induction =>
      have stepLater := fun other member another anotherMember =>
        step other (List.mem_cons_of_mem left member) another
          (List.mem_cons_of_mem right anotherMember)
      exact .cons (step left List.mem_cons_self right List.mem_cons_self head)
        (induction stepLater)

theorem map_eq_map_iff_forall₂ {α β γ : Type} {leftImage : α → γ} {rightImage : β → γ}
    {lefts : List α} {rights : List β} :
    lefts.map leftImage = rights.map rightImage ↔
      List.Forall₂ (fun left right => leftImage left = rightImage right) lefts rights := by
  rw [← List.forall₂_eq_eq_eq, List.forall₂_map_left_iff, List.forall₂_map_right_iff]

theorem nodeText_eq_of_nodeAtoms_eq {left right : Node}
    (equal : nodeAtoms left = nodeAtoms right) :
    nodeText left = nodeText right := by
  have characters := congrArg (List.flatMap Atom.render) equal
  rwa [render_nodeAtoms, render_nodeAtoms, String.toList_inj] at characters

theorem sameTexts_of_map_markedAtoms_eq {lefts rights : List Node}
    (equal : (markedNodes lefts).map markedAtoms = (markedNodes rights).map markedAtoms) :
    SameTexts lefts rights := by
  have texts :
      (markedNodes lefts).map (nodeText ∘ Prod.snd) =
        (markedNodes rights).map (nodeText ∘ Prod.snd) := by
    refine map_eq_map_iff_forall₂.mpr (.imp ?_ (map_eq_map_iff_forall₂.mp equal))
    exact fun left right same => nodeText_eq_of_nodeAtoms_eq (List.cons.inj same).2
  rwa [← List.map_map, ← List.map_map, map_snd_markedNodes, map_snd_markedNodes] at texts

/-- The first node of a predicate comes behind a bar. -/
def BeginsPredicate (block : List Atom) : Prop :=
  block.head? = some (.single '|')

theorem isBlock_map_markedAtoms {nodes : List Node}
    (nonempty : nodes ≠ []) :
    IsBlock BeginsPredicate ((markedNodes nodes).map markedAtoms) := by
  cases nodes with
  | nil => exact absurd rfl nonempty
  | cons node rest =>
      refine .intro rfl ?_
      intro block member
      rw [List.map_map] at member
      rcases List.mem_map.mp member with ⟨other, _, rfl⟩
      simp [BeginsPredicate, markedAtoms]

theorem forall₂_sameTexts_of_branchAtoms_eq {lefts rights : List (List Node)}
    (leftPlain : ∀ nodes ∈ lefts, IsPlainPredicate nodes)
    (rightPlain : ∀ nodes ∈ rights, IsPlainPredicate nodes)
    (equal : branchAtoms lefts = branchAtoms rights) :
    List.Forall₂ SameTexts lefts rights := by
  -- Only a branch without predicates is written as nothing.
  cases lefts with
  | nil =>
      cases rights with
      | nil => exact .nil
      | cons right rights =>
          have nonempty := (rightPlain right List.mem_cons_self).nonempty
          exact absurd equal.symm (branchAtoms_ne_nil nonempty)
  | cons left lefts =>
      cases rights with
      | nil => exact absurd equal (branchAtoms_ne_nil (leftPlain left List.mem_cons_self).nonempty)
      | cons right rights =>
          have led := congrArg (Atom.single '|' :: ·) equal
          simp only [cons_branchAtoms (List.cons_ne_nil _ _) leftPlain,
            cons_branchAtoms (List.cons_ne_nil _ _) rightPlain] at led
          have plain {predicates : List (List Node)}
              (isPlain : ∀ nodes ∈ predicates, IsPlainPredicate nodes) :
              ∀ marked ∈ predicates.flatMap markedNodes,
                isSeparator marked.1 = true ∧ HasPlainWords marked.2 := by
            intro marked member
            rcases List.mem_flatMap.mp member with ⟨nodes, listed, inNodes⟩
            exact isPlain_of_mem_markedNodes (isPlain nodes listed) inNodes
          have nodes := map_markedAtoms_eq (plain leftPlain) (plain rightPlain) led
          rw [List.map_flatMap, List.map_flatMap] at nodes
          have predicates := map_eq_of_flatMap_eq
            (fun _ listed => isBlock_map_markedAtoms (leftPlain _ listed).nonempty)
            (fun _ listed => isBlock_map_markedAtoms (rightPlain _ listed).nonempty) nodes
          exact (map_eq_map_iff_forall₂.mp predicates).imp
            fun _ _ => sameTexts_of_map_markedAtoms_eq

/-! ## Chains -/

theorem areReadable_branchAtoms {predicates : List (List Node)}
    (isPlain : ∀ nodes ∈ predicates, IsPlainPredicate nodes) :
    AreReadable (branchAtoms predicates) := by
  apply areReadable_intercalate (by decide)
  intro atoms member
  rcases List.mem_map.mp member with ⟨nodes, listed, rfl⟩
  apply areReadable_intercalate (by decide)
  intro atoms member
  rcases List.mem_map.mp member with ⟨node, inPredicate, rfl⟩
  exact areReadable_nodeAtoms ((isPlain nodes listed).plain node inPredicate)

theorem areReadable_of_mem_chainParts {tag : String} {branches : List (List (List Node))}
    (tagPlain : IsPlain tag)
    (isPlain : ∀ predicates ∈ branches, ∀ nodes ∈ predicates, IsPlainPredicate nodes)
    {part : List Atom}
    (member : part ∈ wordAtoms tag :: branches.map branchAtoms) :
    AreReadable part := by
  rcases List.mem_cons.mp member with rfl | isBranch
  · exact areReadable_wordAtoms tagPlain.1
  · rcases List.mem_map.mp isBranch with ⟨predicates, listed, rfl⟩
    exact areReadable_branchAtoms (isPlain predicates listed)

/-- The kind of a chain and the texts of its nodes can be read back from its atoms. -/
theorem eq_and_forall₂_of_chainAtoms_eq {leftTag rightTag : String}
    {lefts rights : List (List (List Node))}
    (leftTagPlain : IsPlain leftTag)
    (rightTagPlain : IsPlain rightTag)
    (leftPlain : ∀ predicates ∈ lefts, ∀ nodes ∈ predicates, IsPlainPredicate nodes)
    (rightPlain : ∀ predicates ∈ rights, ∀ nodes ∈ predicates, IsPlainPredicate nodes)
    (equal : chainAtoms leftTag lefts = chainAtoms rightTag rights) :
    leftTag = rightTag ∧ List.Forall₂ (List.Forall₂ SameTexts) lefts rights := by
  have led := congrArg (Atom.single unitSeparator :: ·) equal
  simp only [chainAtoms, cons_intercalate _ (List.cons_ne_nil _ _)] at led
  have isBlock {tag : String} {branches : List (List (List Node))}
      (tagPlain : IsPlain tag)
      (isPlain : ∀ predicates ∈ branches, ∀ nodes ∈ predicates, IsPlainPredicate nodes) :
      ∀ part ∈ wordAtoms tag :: branches.map branchAtoms,
        IsBlock (· = Atom.single unitSeparator) (.single unitSeparator :: part) :=
    fun part member => .intro rfl fun atom inPart =>
      (areReadable_of_mem_chainParts tagPlain isPlain member atom inPart).2
  have parts := map_eq_of_flatMap_eq (isBlock leftTagPlain leftPlain)
    (isBlock rightTagPlain rightPlain) led
  rcases List.cons.inj (List.map_injective_iff.mpr (fun _ _ => List.tail_eq_of_cons_eq) parts) with
    ⟨tags, branches⟩
  exact ⟨wordAtoms_inj tags, forall₂_imp_of_mem
    (fun left leftListed right rightListed =>
      forall₂_sameTexts_of_branchAtoms_eq (leftPlain left leftListed)
        (rightPlain right rightListed))
    (map_eq_map_iff_forall₂.mp branches)⟩

/-- The text of a predicate, whose nodes are given in pre-order. -/
def nodesText (nodes : List Node) : String :=
  " ".intercalate (nodes.flatMap nodeWords)

/-- The text of the predicates of one branch. -/
def branchText (predicates : List (List Node)) : String :=
  "|".intercalate (predicates.map nodesText)

theorem nodesText_eq (nodes : List Node) :
    nodesText nodes = " ".intercalate (nodes.map nodeText) := by
  have words (node : Node) (_ : node ∈ nodes) : (nodeWords node).map String.toList ≠ [] :=
    List.cons_ne_nil _ _
  have characters : (nodesText nodes).toList = (" ".intercalate (nodes.map nodeText)).toList := by
    rw [nodesText, String.toList_intercalate, String.toList_intercalate, List.map_flatMap,
      List.map_map]
    refine (intercalate_flatMap ' ' words).trans ?_
    simp only [Function.comp_def, nodeText, String.toList_intercalate]
    rfl
  exact String.toList_inj.mp characters

theorem toList_nodesText (nodes : List Node) :
    (nodesText nodes).toList = (predicateAtoms nodes).flatMap Atom.render := by
  rw [nodesText_eq, predicateAtoms, String.toList_intercalate, flatMap_intercalate, List.map_map,
    List.map_map]
  simp only [Function.comp_def, render_nodeAtoms]
  rfl

theorem toList_branchText (predicates : List (List Node)) :
    (branchText predicates).toList = (branchAtoms predicates).flatMap Atom.render := by
  rw [branchText, branchAtoms, String.toList_intercalate, flatMap_intercalate, List.map_map,
    List.map_map]
  simp only [Function.comp_def, toList_nodesText]
  rfl

theorem toList_chainText (tag : String) (branches : List (List (List Node))) :
    (chainText (tag :: branches.map branchText)).toList =
      (chainAtoms tag branches).flatMap Atom.render := by
  rw [chainText, chainAtoms, String.toList_intercalate, flatMap_intercalate, List.map_cons,
    List.map_cons, List.map_map, List.map_map, render_wordAtoms]
  simp only [Function.comp_def, toList_branchText]
  rfl

theorem nodesText_eq_of_sameTexts {lefts rights : List Node}
    (same : SameTexts lefts rights) :
    nodesText lefts = nodesText rights := by
  rw [nodesText_eq, nodesText_eq, same]

theorem chainText_eq_of_forall₂ {lefts rights : List (List (List Node))}
    (same : List.Forall₂ (List.Forall₂ SameTexts) lefts rights)
    (tag : String) :
    chainText (tag :: lefts.map branchText) = chainText (tag :: rights.map branchText) := by
  have branchTexts (left right : List (List Node))
      (branchSame : List.Forall₂ SameTexts left right) :
      branchText left = branchText right := by
    have predicateTexts := branchSame.imp fun _ _ => nodesText_eq_of_sameTexts
    rw [branchText, branchText, map_eq_map_iff_forall₂.mpr predicateTexts]
  rw [map_eq_map_iff_forall₂.mpr (same.imp branchTexts)]

/-- Where words are plain, the text of a chain shows its kind and the texts of its nodes. -/
theorem eq_and_forall₂_of_chainText_eq {leftTag rightTag : String}
    {lefts rights : List (List (List Node))}
    (leftTagPlain : IsPlain leftTag)
    (rightTagPlain : IsPlain rightTag)
    (leftPlain : ∀ predicates ∈ lefts, ∀ nodes ∈ predicates, IsPlainPredicate nodes)
    (rightPlain : ∀ predicates ∈ rights, ∀ nodes ∈ predicates, IsPlainPredicate nodes)
    (equal :
      chainText (leftTag :: lefts.map branchText) =
        chainText (rightTag :: rights.map branchText)) :
    leftTag = rightTag ∧ List.Forall₂ (List.Forall₂ SameTexts) lefts rights := by
  have characters := congrArg String.toList equal
  rw [toList_chainText, toList_chainText] at characters
  have readable {tag : String} {branches : List (List (List Node))}
      (tagPlain : IsPlain tag)
      (isPlain : ∀ predicates ∈ branches, ∀ nodes ∈ predicates, IsPlainPredicate nodes) :
      ∀ atom ∈ chainAtoms tag branches, atom.IsReadable := by
    intro atom member
    rcases eq_or_exists_of_mem_intercalate member with rfl | ⟨part, listed, inPart⟩
    · exact (by decide : unitSeparator ≠ '"')
    · exact (areReadable_of_mem_chainParts tagPlain isPlain listed atom inPart).1
  exact eq_and_forall₂_of_chainAtoms_eq leftTagPlain rightTagPlain leftPlain rightPlain
    (Atom.flatMap_render_inj (readable leftTagPlain leftPlain)
      (readable rightTagPlain rightPlain) characters)

end StructuralLint.Duplication
