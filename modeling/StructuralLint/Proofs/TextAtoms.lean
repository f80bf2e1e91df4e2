import StructuralLint.Duplication.Fingerprint

/-!
# Texts that can be read back

Texts that identify code are joins of words.  A join can be read back as blocks, where a block is a
mark and what follows it up to the next mark: separators are marks of characters, and words that
begin something are marks of words.  A quoted text may hold separators, but it can be skipped as a
whole, so a text is first read as a list of atoms, and an atom is a character or a quoted text.
-/

namespace StructuralLint.Duplication

open Text (Quoted.escape Quoted.encode)

-- What is said of the characters of a text is tested on them, and not on all characters there are.
scoped instance (priority := 1100) decidableForallCharacters (characters : List Char)
    (holds : Char → Prop) [DecidablePred holds] :
    Decidable (∀ character ∈ characters, holds character) :=
  List.decidableBAll holds characters

scoped instance (priority := 1100) decidableExistsCharacter (characters : List Char)
    (holds : Char → Prop) [DecidablePred holds] :
    Decidable (∃ character ∈ characters, holds character) :=
  List.decidableBEx holds characters

/-! ## Quoted texts -/

/-- What stands between quotes: quotes and backslashes come behind a backslash only. -/
inductive IsBody : List Char → Prop where
  | nil : IsBody []
  | plain {character : Char} {rest : List Char}
      (notQuote : character ≠ '"')
      (notBackslash : character ≠ '\\')
      (restIsBody : IsBody rest) :
      IsBody (character :: rest)
  | escaped {character : Char} {rest : List Char}
      (restIsBody : IsBody rest) :
      IsBody ('\\' :: character :: rest)

theorem IsBody.append {first second : List Char}
    (firstIsBody : IsBody first)
    (secondIsBody : IsBody second) :
    IsBody (first ++ second) := by
  induction firstIsBody with
  | nil => exact secondIsBody
  | plain notQuote notBackslash _ induction => exact .plain notQuote notBackslash induction
  | escaped _ induction => exact .escaped induction

/-- The first quote that is not behind a backslash ends a quoted text. -/
theorem IsBody.eq_and_eq {left right rest other : List Char}
    (leftIsBody : IsBody left)
    (rightIsBody : IsBody right)
    (equal : left ++ '"' :: rest = right ++ '"' :: other) :
    left = right ∧ rest = other := by
  induction leftIsBody generalizing right with
  | nil =>
      cases rightIsBody with
      | nil => exact ⟨rfl, (List.cons.inj equal).2⟩
      | plain notQuote _ _ => exact absurd (List.cons.inj equal).1.symm notQuote
      | escaped _ => exact absurd (List.cons.inj equal).1 (by decide)
  | plain notQuote notBackslash _ induction =>
      cases rightIsBody with
      | nil => exact absurd (List.cons.inj equal).1 notQuote
      | plain _ _ rightRest =>
          rcases List.cons.inj equal with ⟨same, restEqual⟩
          rcases induction rightRest restEqual with ⟨bodies, rests⟩
          exact ⟨by rw [same, bodies], rests⟩
      | escaped _ => exact absurd (List.cons.inj equal).1 notBackslash
  | escaped _ induction =>
      cases rightIsBody with
      | nil => exact absurd (List.cons.inj equal).1 (by decide)
      | plain _ notBackslash _ => exact absurd (List.cons.inj equal).1.symm notBackslash
      | escaped rightRest =>
          rcases List.cons.inj (List.cons.inj equal).2 with ⟨same, restEqual⟩
          rcases induction rightRest restEqual with ⟨bodies, rests⟩
          exact ⟨by rw [same, bodies], rests⟩

theorem isBody_of_forall_mem {characters : List Char}
    (harmless : ∀ character ∈ characters, character ≠ '"' ∧ character ≠ '\\') :
    IsBody characters := by
  induction characters with
  | nil => exact .nil
  | cons character rest induction =>
      have first := harmless character List.mem_cons_self
      exact .plain first.1 first.2
        (induction fun other member => harmless other (List.mem_cons_of_mem character member))

theorem exists_digitChar_of_mem_toDigits {base number : Nat} {character : Char}
    (large : 1 < base)
    (member : character ∈ Nat.toDigits base number) :
    ∃ digit < base, character = Nat.digitChar digit := by
  induction number using Nat.strongRecOn with
  | ind number induction =>
      rw [Nat.toDigits_eq_if large] at member
      split at member
      next small => exact ⟨number, small, List.mem_singleton.mp member⟩
      next notSmall =>
        rcases List.mem_append.mp member with before | last
        · exact induction (number / base) (Nat.div_lt_self (by omega) large) before
        · exact ⟨number % base, Nat.mod_lt number (by omega), List.mem_singleton.mp last⟩

theorem isBody_hexadecimal (point : Nat) : IsBody (Text.Quoted.hexadecimal point) := by
  apply isBody_of_forall_mem
  intro character member
  rcases exists_digitChar_of_mem_toDigits (by decide) member with ⟨digit, small, rfl⟩
  have harmless : ∀ digit < 16, Nat.digitChar digit ≠ '"' ∧ Nat.digitChar digit ≠ '\\' := by
    decide
  exact harmless digit small

theorem isBody_escape (character : Char) : IsBody (Quoted.escape character) := by
  rw [Quoted.escape]
  iterate 4 (split; exact .escaped .nil)
  split
  · exact .escaped .nil
  next notQuote =>
    split
    · exact .escaped .nil
    next notBackslash =>
      split
      · have closes : IsBody ['\x7d'] := isBody_of_forall_mem (by decide)
        have opens : IsBody ['\\', 'u', '\x7b'] := .escaped (isBody_of_forall_mem (by decide))
        exact (opens.append (isBody_hexadecimal character.toNat)).append closes
      · exact .plain (by simpa using notQuote) (by simpa using notBackslash) .nil

theorem isBody_flatMap_escape (characters : List Char) :
    IsBody (characters.flatMap Quoted.escape) := by
  induction characters with
  | nil => exact .nil
  | cons character rest induction =>
      rw [List.flatMap_cons]
      exact (isBody_escape character).append induction

/-! ## Atoms -/

/-- A part of a text: one character, or a quoted text as a whole. -/
inductive Atom where
  | single (character : Char)
  | quoted (body : List Char)
deriving DecidableEq

namespace Atom

/-- The characters of an atom. -/
def render : Atom → List Char
  | single character => [character]
  | quoted body => '"' :: (body ++ ['"'])

/-- A quote does not stand alone, and nothing inside a quoted text ends it. -/
def IsReadable : Atom → Prop
  | single character => character ≠ '"'
  | quoted body => IsBody body

theorem render_ne_nil (atom : Atom) : atom.render ≠ [] := by
  cases atom with
  | single character => exact List.cons_ne_nil _ _
  | quoted body => exact List.cons_ne_nil _ _

/-- An atom ends where it says that it ends. -/
theorem render_append_inj {left right : Atom} {rest other : List Char}
    (leftReadable : left.IsReadable)
    (rightReadable : right.IsReadable)
    (equal : left.render ++ rest = right.render ++ other) :
    left = right ∧ rest = other := by
  cases left with
  | single character =>
      cases right with
      | single another =>
          rcases List.cons.inj equal with ⟨rfl, tails⟩
          exact ⟨rfl, tails⟩
      | quoted body => exact absurd (List.cons.inj equal).1 leftReadable
  | quoted body =>
      cases right with
      | single another => exact absurd (List.cons.inj equal).1.symm rightReadable
      | quoted otherBody =>
          have inner := (List.cons.inj equal).2
          change (body ++ ['"']) ++ rest = (otherBody ++ ['"']) ++ other at inner
          rw [List.append_assoc, List.append_assoc] at inner
          rcases leftReadable.eq_and_eq rightReadable inner with ⟨rfl, tails⟩
          exact ⟨rfl, tails⟩

/-- The atoms of a text can be read back from its characters. -/
theorem flatMap_render_inj {left right : List Atom}
    (leftReadable : ∀ atom ∈ left, atom.IsReadable)
    (rightReadable : ∀ atom ∈ right, atom.IsReadable)
    (equal : left.flatMap render = right.flatMap render) :
    left = right := by
  induction left generalizing right with
  | nil =>
      cases right with
      | nil => rfl
      | cons atom rest =>
          exact absurd (List.append_eq_nil_iff.mp equal.symm).1 (render_ne_nil atom)
  | cons atom rest induction =>
      rw [List.forall_mem_cons] at leftReadable
      cases right with
      | nil => exact absurd (List.append_eq_nil_iff.mp equal).1 (render_ne_nil atom)
      | cons other others =>
          rw [List.forall_mem_cons] at rightReadable
          rw [List.flatMap_cons, List.flatMap_cons] at equal
          rcases render_append_inj leftReadable.1 rightReadable.1 equal with ⟨rfl, tails⟩
          rw [induction leftReadable.2 rightReadable.2 tails]

end Atom

/-! ## Joins -/

section Joins

variable {α β : Type}

theorem intercalate_cons (separator : α) (part : List α) (parts : List (List α)) :
    [separator].intercalate (part :: parts) = part ++ parts.flatMap (separator :: ·) := by
  induction parts generalizing part with
  | nil => simp
  | cons next parts induction =>
      rw [List.intercalate_cons_cons, induction, List.flatMap_cons, List.append_assoc,
        List.singleton_append, List.cons_append]

theorem cons_intercalate (separator : α) {parts : List (List α)}
    (nonempty : parts ≠ []) :
    separator :: [separator].intercalate parts = parts.flatMap (separator :: ·) := by
  cases parts with
  | nil => exact absurd rfl nonempty
  | cons part parts => rw [intercalate_cons, List.flatMap_cons, List.cons_append]

theorem flatMap_intercalate (image : α → List β) (separator : α) (parts : List (List α)) :
    ([separator].intercalate parts).flatMap image =
      (image separator).intercalate (parts.map (List.flatMap image)) := by
  induction parts with
  | nil => rfl
  | cons part rest induction =>
      cases rest with
      | nil => simp
      | cons next rest =>
          simp only [List.map_cons, List.intercalate_cons_cons, List.flatMap_append] at induction ⊢
          rw [induction, List.flatMap_singleton]

/-- What is joined by one separator can be joined in groups. -/
theorem intercalate_flatMap (separator : α) {image : β → List (List α)} {items : List β}
    (nonempty : ∀ item ∈ items, image item ≠ []) :
    [separator].intercalate (items.flatMap image) =
      [separator].intercalate (items.map fun item => [separator].intercalate (image item)) := by
  have led :
      (items.flatMap image).flatMap (separator :: ·) =
        (items.map fun item => [separator].intercalate (image item)).flatMap (separator :: ·) := by
    induction items with
    | nil => rfl
    | cons item rest induction =>
        rw [List.forall_mem_cons] at nonempty
        rw [List.flatMap_cons, List.flatMap_append, List.map_cons, List.flatMap_cons,
          induction nonempty.2, cons_intercalate separator nonempty.1]
  cases items with
  | nil => rfl
  | cons item rest =>
      have joined : (item :: rest).flatMap image ≠ [] := by
        simp [nonempty item List.mem_cons_self]
      rw [← cons_intercalate separator joined,
        ← cons_intercalate separator (by simp)] at led
      exact (List.cons.inj led).2

theorem eq_or_exists_of_mem_intercalate {separator item : α} {parts : List (List α)}
    (member : item ∈ [separator].intercalate parts) :
    item = separator ∨ ∃ part ∈ parts, item ∈ part := by
  cases parts with
  | nil => cases member
  | cons part rest =>
      rw [intercalate_cons, List.mem_append, List.mem_flatMap] at member
      rcases member with inPart | ⟨other, listed, inOther⟩
      · exact Or.inr ⟨part, List.mem_cons_self, inPart⟩
      · rcases List.mem_cons.mp inOther with isSeparator | inOther
        · exact Or.inl isSeparator
        · exact Or.inr ⟨other, List.mem_cons_of_mem part listed, inOther⟩

end Joins

/-! ## Blocks -/

/-- A list begins with a mark and holds no other one. -/
inductive IsBlock {α : Type} (isMark : α → Prop) : List α → Prop where
  | intro {first : α} {rest : List α}
      (marked : isMark first)
      (unmarked : ∀ item ∈ rest, ¬ isMark item) :
      IsBlock isMark (first :: rest)

section Blocks

variable {α β : Type} {isMark : β → Prop}

/-- Lists that are cut before their first marks are equal part by part. -/
theorem eq_and_eq_of_first_mark {left right rest other : List β}
    (notInLeft : ∀ item ∈ left, ¬ isMark item)
    (notInRight : ∀ item ∈ right, ¬ isMark item)
    (restMarked : ∀ item ∈ rest.head?, isMark item)
    (otherMarked : ∀ item ∈ other.head?, isMark item)
    (equal : left ++ rest = right ++ other) :
    left = right ∧ rest = other := by
  induction left generalizing right with
  | nil =>
      cases right with
      | nil => exact ⟨rfl, equal⟩
      | cons head tail =>
          rw [List.nil_append] at equal
          rw [equal] at restMarked
          exact absurd (restMarked head rfl) (notInRight head List.mem_cons_self)
  | cons head tail induction =>
      cases right with
      | nil =>
          rw [List.nil_append] at equal
          rw [← equal] at otherMarked
          exact absurd (otherMarked head rfl) (notInLeft head List.mem_cons_self)
      | cons rightHead rightTail =>
          rw [List.forall_mem_cons] at notInLeft notInRight
          rcases List.cons.inj equal with ⟨rfl, tailEqual⟩
          rcases induction notInLeft.2 notInRight.2 tailEqual with ⟨rfl, rests⟩
          exact ⟨rfl, rests⟩

theorem isMark_of_mem_head?_flatMap {image : α → List β} {items : List α}
    (blocks : ∀ item ∈ items, IsBlock isMark (image item))
    {first : β}
    (isFirst : first ∈ (items.flatMap image).head?) :
    isMark first := by
  cases items with
  | nil => cases isFirst
  | cons item rest =>
      rw [List.flatMap_cons] at isFirst
      cases imageEqual : image item with
      | nil =>
          have isBlock := blocks item List.mem_cons_self
          rw [imageEqual] at isBlock
          cases isBlock
      | cons head tail =>
          have isBlock := blocks item List.mem_cons_self
          rw [imageEqual] at isBlock isFirst
          cases isBlock with
          | intro marked _ =>
              cases isFirst
              exact marked

/-- Blocks of one kind of marks can be told apart in their concatenation. -/
theorem map_eq_of_flatMap_eq {image : α → List β} {lefts rights : List α}
    (leftBlocks : ∀ item ∈ lefts, IsBlock isMark (image item))
    (rightBlocks : ∀ item ∈ rights, IsBlock isMark (image item))
    (equal : lefts.flatMap image = rights.flatMap image) :
    lefts.map image = rights.map image := by
  have nonempty {block : List β} (isBlock : IsBlock isMark block) : block ≠ [] := by
    cases isBlock with
    | intro _ _ => exact List.cons_ne_nil _ _
  induction lefts generalizing rights with
  | nil =>
      cases rights with
      | nil => rfl
      | cons right rights =>
          have empty := (List.append_eq_nil_iff.mp equal.symm).1
          exact absurd empty (nonempty (rightBlocks right List.mem_cons_self))
  | cons left lefts induction =>
      cases rights with
      | nil =>
          have empty := (List.append_eq_nil_iff.mp equal).1
          exact absurd empty (nonempty (leftBlocks left List.mem_cons_self))
      | cons right rights =>
          rw [List.forall_mem_cons] at leftBlocks rightBlocks
          rw [List.flatMap_cons, List.flatMap_cons] at equal
          rcases leftBlocks with ⟨leftBlock, leftBlocks⟩
          rcases rightBlocks with ⟨rightBlock, rightBlocks⟩
          have heads : image left = image right ∧ lefts.flatMap image = rights.flatMap image := by
            generalize image left = leftImage at equal leftBlock ⊢
            generalize image right = rightImage at equal rightBlock ⊢
            cases leftBlock with
            | intro _ leftUnmarked =>
                cases rightBlock with
                | intro _ rightUnmarked =>
                    rcases List.cons.inj equal with ⟨rfl, afterMarks⟩
                    rcases eq_and_eq_of_first_mark leftUnmarked rightUnmarked
                      (fun _ => isMark_of_mem_head?_flatMap leftBlocks)
                      (fun _ => isMark_of_mem_head?_flatMap rightBlocks) afterMarks with
                      ⟨rfl, rests⟩
                    exact ⟨rfl, rests⟩
          rw [List.map_cons, List.map_cons, heads.1, induction leftBlocks rightBlocks heads.2]

end Blocks

/-! ## Cutting before separators -/

section Cutting

variable {α β : Type} (isSeparator : β → Bool)

/-- A list cut before its separators, where a block is begun already. -/
def cutAfter (block : List β) : List β → List (List β)
  | [] => [block]
  | item :: rest =>
      if isSeparator item then block :: cutAfter [item] rest else cutAfter (block ++ [item]) rest

theorem flatten_cutAfter (block items : List β) :
    (cutAfter isSeparator block items).flatten = block ++ items := by
  induction items generalizing block with
  | nil => simp [cutAfter]
  | cons item rest induction =>
      rw [cutAfter]
      split
      · rw [List.flatten_cons, induction, List.singleton_append]
      · rw [induction, List.append_assoc, List.singleton_append]

theorem isBlock_of_mem_cutAfter {block items result : List β}
    (isBlock : IsBlock (isSeparator · = true) block)
    (member : result ∈ cutAfter isSeparator block items) :
    IsBlock (isSeparator · = true) result := by
  induction items generalizing block with
  | nil =>
      rw [List.mem_singleton.mp member]
      exact isBlock
  | cons item rest induction =>
      rw [cutAfter] at member
      split at member
      next separates =>
        rcases List.mem_cons.mp member with rfl | later
        · exact isBlock
        · exact induction (.intro separates (List.forall_mem_nil _)) later
      next separatesNot =>
        refine induction ?_ member
        cases isBlock with
        | intro marked unmarked =>
            refine .intro marked ?_
            intro other otherMember
            rcases List.mem_append.mp otherMember with inRest | isItem
            · exact unmarked other inRest
            · rwa [List.mem_singleton.mp isItem]

/-- Without the separators before them, the blocks are the pieces between separators. -/
theorem map_tail_cutAfter (first : β) (before items : List β) :
    (cutAfter isSeparator (first :: before) items).map List.tail =
      items.splitOnPPrepend isSeparator before.reverse := by
  induction items generalizing first before with
  | nil => simp [cutAfter]
  | cons item rest induction =>
      rw [cutAfter, List.splitOnPPrepend_cons_eq_if]
      split
      · rw [List.map_cons, induction, List.reverse_reverse]
        rfl
      · rw [List.cons_append, induction, List.reverse_append]
        rfl

theorem cutAfter_map (image : α → β) (block items : List α) :
    cutAfter isSeparator (block.map image) (items.map image) =
      (cutAfter (isSeparator ∘ image) block items).map (List.map image) := by
  induction items generalizing block with
  | nil => rfl
  | cons item rest induction =>
      have single := induction [item]
      have longer := induction (block ++ [item])
      rw [List.map_append] at longer
      rw [List.map_cons, cutAfter, cutAfter, Function.comp_apply]
      split
      · rw [List.map_cons, ← single]
        rfl
      · rw [← longer]
        rfl

end Cutting

end StructuralLint.Duplication
