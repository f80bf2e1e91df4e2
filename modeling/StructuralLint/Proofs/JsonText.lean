import Mathlib.Data.List.DropRight
import StructuralLint.Proofs.JsonTokens

/-!
# JSON texts read back

Printing a value and reading the text gives the value again.  Strings and integers of 64 bits come
back by themselves.  Of a double it is only assumed that its numeral alone reads back; then it reads
back in every place, since a numeral does not see what stands behind it.  Arrays and objects follow
by induction on the value, with as much fuel as twice the length of the text.
-/

namespace StructuralLint.Json

open Printer Reader

namespace Reader

/-! ## Blanks -/

theorem skipSpace_cons {character : Char} (token : isSpace character = false)
    (rest : List Char) :
    skipSpace (character :: rest) = character :: rest :=
  List.dropWhile_cons_of_neg (by simp [token])

theorem skipSpace_skipSpace (characters : List Char) :
    skipSpace (skipSpace characters) = skipSpace characters :=
  List.dropWhile_idempotent isSpace characters

theorem skipSpace_append_of_nil {characters : List Char} (blank : skipSpace characters = [])
    (rest : List Char) :
    skipSpace (characters ++ rest) = skipSpace rest :=
  List.dropWhile_append_of_pos (List.dropWhile_eq_nil_iff.mp blank)

theorem skipSpace_append {characters : List Char} (token : skipSpace characters ≠ [])
    (rest : List Char) :
    skipSpace (characters ++ rest) = skipSpace characters ++ rest := by
  induction characters with
  | nil => exact absurd rfl token
  | cons character others induction =>
      cases blank : isSpace character with
      | true =>
          rw [skipSpace, List.dropWhile_cons_of_pos blank] at token
          rw [List.cons_append, skipSpace, List.dropWhile_cons_of_pos blank, skipSpace,
            List.dropWhile_cons_of_pos blank]
          exact induction token
      | false => rw [List.cons_append, skipSpace_cons blank, skipSpace_cons blank, List.cons_append]

/-! ## Values -/

/-- Numerals start with a minus or a digit. -/
theorem head_of_numeral? {characters after : List Char} {numeral : Numeral}
    (read : numeral? characters = some (numeral, after)) :
    ∃ first others, characters = first :: others ∧ (first = '-' ∨ first.isDigit = true) := by
  rcases numeral?_eq_some_iff.mp read with ⟨behindWhole, _, _, isWhole, someDigit, _⟩
  cases characters with
  | nil => exact absurd (congrArg Prod.fst isWhole).symm someDigit
  | cons first others =>
      refine ⟨first, others, rfl, ?_⟩
      by_cases minus : first = '-'
      · exact Or.inl minus
      · have unsigned : numeralSign (first :: others) = (false, first :: others) := by
          simp [numeralSign, minus]
        rw [unsigned] at isWhole
        cases isDigit : first.isDigit with
        | true => exact Or.inr rfl
        | false =>
            have noDigit : (digits (first :: others)).1 = [] := by
              simp [digits, isDigit]
            rw [isWhole] at noDigit
            exact absurd noDigit someDigit

theorem isSpace_eq_false_of_first {first : Char}
    (isFirst : first = '-' ∨ first.isDigit = true) :
    isSpace first = false := by
  cases blank : isSpace first with
  | false => rfl
  | true =>
      simp only [isSpace, Bool.or_eq_true, beq_iff_eq] at blank
      rcases blank with ((rfl | rfl) | rfl) | rfl <;> exact absurd isFirst (by decide)

theorem value?_of_numeral? {characters after : List Char} {numeral : Numeral}
    (read : numeral? characters = some (numeral, after)) (fuel : Nat) :
    value? (fuel + 1) characters = some (numeral.value, after) := by
  rcases head_of_numeral? read with ⟨first, others, rfl, isFirst⟩
  have apart (other : Char) (noMinus : other ≠ '-') (noDigit : other.isDigit = false) :
      first ≠ other := by
    rintro rfl
    rcases isFirst with minus | digit
    · exact noMinus minus
    · rw [noDigit] at digit
      cases digit
  rw [value?.eq_def]
  dsimp only
  split
  next _ equal =>
    exact absurd (List.cons.inj equal).1 (apart '"' (by decide) (by decide))
  next _ equal =>
    exact absurd (List.cons.inj equal).1 (apart '[' (by decide) (by decide))
  next _ equal =>
    exact absurd (List.cons.inj equal).1 (apart '\x7b' (by decide) (by decide))
  next _ equal =>
    exact absurd (List.cons.inj equal).1 (apart 'n' (by decide) (by decide))
  next _ equal =>
    exact absurd (List.cons.inj equal).1 (apart 't' (by decide) (by decide))
  next _ equal =>
    exact absurd (List.cons.inj equal).1 (apart 'f' (by decide) (by decide))
  next => rw [read, Option.map_some]

theorem exists_array_of_items? {fuel : Nat} {read : List Json} {characters after : List Char}
    {value : Json}
    (isRead : items? fuel read characters = some (value, after)) :
    ∃ items, value = .array items := by
  induction fuel generalizing read characters with
  | zero => cases isRead
  | succ fuel induction =>
      rw [items?] at isRead
      split at isRead
      next => cases isRead
      next =>
        split at isRead
        next => exact induction isRead
        next =>
          cases isRead
          exact ⟨_, rfl⟩
        next => cases isRead

theorem exists_objectOf_of_fields? {fuel : Nat} {read : List (Option String × Json)}
    {characters after : List Char} {value : Json}
    (isRead : fields? fuel read characters = some (value, after)) :
    ∃ fields, value = objectOf fields := by
  induction fuel generalizing read characters with
  | zero => cases isRead
  | succ fuel induction =>
      rw [fields?] at isRead
      split at isRead
      next =>
        split at isRead
        next => cases isRead
        next =>
          split at isRead
          next =>
            split at isRead
            next => cases isRead
            next =>
              split at isRead
              next => exact induction isRead
              next =>
                cases isRead
                exact ⟨_, rfl⟩
              next => cases isRead
          next => cases isRead
      next => cases isRead

theorem objectOf_ne_float (fields : List (Option String × Json)) (value : Float) :
    objectOf fields ≠ .float value := by
  rw [objectOf]
  split <;> exact Json.noConfusion

/-- Only numerals are read as doubles. -/
theorem exists_numeral_of_value?_eq_float {fuel : Nat} {characters after : List Char}
    {value : Float}
    (read : value? fuel characters = some (.float value, after)) :
    ∃ numeral, numeral? characters = some (numeral, after) ∧ numeral.value = .float value := by
  cases fuel with
  | zero => cases read
  | succ fuel =>
      rw [value?.eq_def] at read
      dsimp only at read
      split at read
      next =>
        rcases Option.map_eq_some_iff.mp read with ⟨⟨text, rest⟩, _, equal⟩
        cases text <;> cases equal
      next =>
        split at read
        next => cases read
        next =>
          rcases exists_array_of_items? read with ⟨items, equal⟩
          cases equal
      next =>
        split at read
        next => cases read
        next =>
          rcases exists_objectOf_of_fields? read with ⟨fields, equal⟩
          exact absurd equal.symm (objectOf_ne_float fields value)
      next =>
        rcases Option.map_eq_some_iff.mp read with ⟨_, _, equal⟩
        cases equal
      next =>
        rcases Option.map_eq_some_iff.mp read with ⟨_, _, equal⟩
        cases equal
      next =>
        rcases Option.map_eq_some_iff.mp read with ⟨_, _, equal⟩
        cases equal
      next =>
        rcases Option.map_eq_some_iff.mp read with ⟨⟨numeral, rest⟩, isNumeral, equal⟩
        rcases Prod.mk.inj equal with ⟨isValue, rfl⟩
        exact ⟨numeral, isNumeral, isValue⟩

/--
A text is read as a value wherever something follows that ends a numeral.  Blanks may be left
over behind a numeral.
-/
def ReadsAs (text : List Char) (value : Json) : Prop :=
  ∀ fuel rest,
    2 * text.length ≤ fuel →
      EndsNumeral rest →
        ∃ after,
          value? fuel (skipSpace (text ++ rest)) = some (value, after) ∧
            skipSpace after = skipSpace rest

theorem readsAs_of_numeral? {text after : List Char} {numeral : Numeral}
    (read : numeral? (skipSpace text) = some (numeral, after))
    (blank : skipSpace after = []) :
    ReadsAs text numeral.value := by
  intro fuel rest enough ends
  rcases head_of_numeral? read with ⟨first, others, isCons, _⟩
  have token : skipSpace text ≠ [] := by
    rw [isCons]
    exact List.cons_ne_nil first others
  have someText : 0 < text.length := by
    rw [List.length_pos_iff]
    rintro rfl
    exact token rfl
  rcases Nat.exists_eq_add_of_lt (show 0 < fuel by omega) with ⟨less, isMore⟩
  rw [isMore, skipSpace_append token]
  exact ⟨_, value?_of_numeral? (numeral?_append ends read) _, skipSpace_append_of_nil blank rest⟩

/-- A text that starts with a token of its own is read as a value when it is from there on. -/
theorem readsAs_of_value? {text : List Char} {value : Json} {first : Char} {others : List Char}
    (starts : text = first :: others)
    (token : isSpace first = false)
    (read :
      ∀ fuel rest,
        2 * text.length ≤ fuel + 1 →
          EndsNumeral rest → value? (fuel + 1) (first :: (others ++ rest)) = some (value, rest)) :
    ReadsAs text value := by
  intro fuel rest enough ends
  rcases Nat.exists_eq_add_of_lt (show 0 < fuel by rw [starts, List.length_cons] at enough; omega)
    with ⟨less, isMore⟩
  rw [Nat.zero_add] at isMore
  rw [starts, List.cons_append, skipSpace_cons token, isMore]
  exact ⟨rest, read less rest (by omega) ends, rfl⟩

theorem readsAs_word (first : Char) (word : String) (value : Json)
    (token : isSpace first = false)
    (read :
      ∀ fuel rest,
        value? (fuel + 1) (first :: rest) = (after? word rest).map fun rest => (value, rest)) :
    ReadsAs (first :: word.toList) value := by
  apply readsAs_of_value? rfl token
  intro fuel rest _ _
  have isWord : after? word (word.toList ++ rest) = some rest := by
    rw [after?, if_pos (by simp), ← String.length_toList, List.drop_left]
  rw [read, isWord]
  rfl

theorem readsAs_null : ReadsAs (compact .null).toList .null := by
  rw [compact]
  exact readsAs_word 'n' "ull" .null (by decide) fun _ _ => rfl

theorem readsAs_bool (value : Bool) : ReadsAs (compact (.bool value)).toList (.bool value) := by
  cases value with
  | true =>
      rw [compact]
      exact readsAs_word 't' "rue" (.bool true) (by decide) fun _ _ => rfl
  | false =>
      rw [compact]
      exact readsAs_word 'f' "alse" (.bool false) (by decide) fun _ _ => rfl

theorem readsAs_int {value : Int} (least : -Int.ofNat (Nat.pow 2 63) ≤ value)
    (most : value < Int.ofNat UInt64.size) :
    ReadsAs (compact (.int value)).toList (.int value) := by
  have read := numeral?_toString value
  rcases head_of_numeral? read with ⟨first, others, isCons, isFirst⟩
  have token := isSpace_eq_false_of_first isFirst
  rw [compact, ← value_numeralOf least most]
  apply readsAs_of_numeral? _ (show skipSpace [] = [] from rfl)
  rw [isCons, skipSpace_cons token, ← isCons]
  exact read

theorem toList_string (text : String) :
    (Printer.string text).toList = '"' :: (text.toList.flatMap escape ++ ['"']) := by
  rw [Printer.string, String.toList_ofList]
  rfl

theorem readsAs_string (text : String) :
    ReadsAs (compact (.string text)).toList (.string text) := by
  apply readsAs_of_value? (toList_string text) (by decide)
  intro fuel rest _ _
  rw [List.append_assoc]
  show (string? _).map _ = _
  rw [List.singleton_append, string?_string]
  rfl

/-- A double that reads back alone reads back anywhere. -/
theorem readsAs_float {value : Float}
    (readsBack : Json.read? (render (.float value)) = some (.float value)) :
    ReadsAs (compact (.float value)).toList (.float value) := by
  rw [Json.read?, render] at readsBack
  split at readsBack
  next read after isRead =>
    split at readsBack
    next blank =>
      cases readsBack
      rcases exists_numeral_of_value?_eq_float isRead with ⟨numeral, isNumeral, isValue⟩
      have reads := readsAs_of_numeral? isNumeral (List.isEmpty_iff.mp blank)
      rw [isValue] at reads
      exact reads
    next => cases readsBack
  next => cases readsBack

/-! ## Arrays and objects -/

theorem endsNumeral_cons {character : Char} (rest : List Char)
    (ends :
      character.isDigit = false ∧ character ≠ '.' ∧ character ≠ 'e' ∧ character ≠ 'E') :
    EndsNumeral (character :: rest) := by
  rintro _ ⟨⟩
  exact ends

theorem compactItems_eq_map (items : List Json) : compactItems items = items.map compact := by
  induction items with
  | nil => rfl
  | cons item rest induction => rw [compactItems, induction, List.map_cons]

/-- The text of a field. -/
def fieldText (field : String × Json) : String :=
  Printer.string field.1 ++ ":" ++ compact field.2

theorem compactFields_eq_map (fields : List (String × Json)) :
    compactFields fields = fields.map fieldText := by
  induction fields with
  | nil => rfl
  | cons field rest induction => rw [compactFields, induction, List.map_cons, fieldText]

/-- The texts of a list with commas between them. -/
def joined {α : Type} (text : α → String) (parts : List α) : List Char :=
  [','].intercalate (parts.map fun part => (text part).toList)

theorem joined_singleton {α : Type} (text : α → String) (part : α) :
    joined text [part] = (text part).toList := by
  simp [joined]

theorem joined_cons_cons {α : Type} (text : α → String) (part next : α) (parts : List α) :
    joined text (part :: next :: parts) =
      (text part).toList ++ ',' :: joined text (next :: parts) := by
  simp [joined, List.intercalate_cons_cons]

theorem toList_compact_array (items : List Json) :
    (compact (.array items)).toList = '[' :: (joined compact items ++ [']']) := by
  rw [compact, compactItems_eq_map]
  simp [joined, String.toList_intercalate, Function.comp_def]

theorem toList_compact_object (fields : List (String × Json)) :
    (compact (.object fields)).toList = '\x7b' :: (joined fieldText fields ++ ['\x7d']) := by
  rw [compact, compactFields_eq_map]
  simp [joined, String.toList_intercalate, Function.comp_def]

theorem items?_skipSpace (fuel : Nat) (read : List Json) (characters : List Char) :
    items? fuel read (skipSpace characters) = items? fuel read characters := by
  cases fuel with
  | zero => rfl
  | succ fuel => rw [items?, items?, skipSpace_skipSpace]

/-- No item starts with the bracket that ends an array. -/
theorem items?_closing (fuel : Nat) (read : List Json) (rest : List Char) :
    items? fuel read (']' :: rest) = none := by
  have noNumeral : numeral? (']' :: rest) = none := by
    cases isNumeral : numeral? (']' :: rest) with
    | none => rfl
    | some found =>
        rcases head_of_numeral? isNumeral with ⟨_, _, ⟨⟩, isFirst⟩
        exact absurd isFirst (by decide)
  rcases fuel with _ | _ | fuel
  · rfl
  · rfl
  · rw [items?, skipSpace_cons (by decide), value?, noNumeral]
    · rfl
    all_goals rintro _ ⟨⟩

/-- One item is read, and what stands behind it says how to go on. -/
theorem items?_compact {item : Json}
    (reads : ReadsAs (compact item).toList item)
    {fuel : Nat}
    (enough : 2 * (compact item).toList.length ≤ fuel)
    {tail : List Char}
    (ends : EndsNumeral tail)
    (read : List Json) :
    items? (fuel + 1) read ((compact item).toList ++ tail) =
      match skipSpace tail with
      | ',' :: rest => items? fuel (item :: read) rest
      | ']' :: rest => some (.array (item :: read).reverse, rest)
      | _ => none := by
  rcases reads fuel tail enough ends with ⟨after, isRead, behind⟩
  rewrite [items?, isRead, ← behind]
  rfl

/-- The items of an array are read back with the bracket behind them. -/
theorem items?_joined {item : Json} {others : List Json}
    (reads : ∀ other ∈ item :: others, ReadsAs (compact other).toList other)
    {fuel : Nat}
    (enough : 2 * (joined compact (item :: others)).length ≤ fuel)
    (read : List Json) (rest : List Char) :
    items? (fuel + 1) read (joined compact (item :: others) ++ ']' :: rest) =
      some (.array (read.reverse ++ item :: others), rest) := by
  induction others generalizing item fuel read with
  | nil =>
      rw [joined_singleton] at enough ⊢
      rw [items?_compact (reads item List.mem_cons_self) enough
        (endsNumeral_cons rest (by decide)), List.reverse_cons]
      rfl
  | cons next others induction =>
      rcases List.forall_mem_cons.mp reads with ⟨itemReads, othersRead⟩
      rw [joined_cons_cons, List.length_append, List.length_cons] at enough
      rw [joined_cons_cons, List.append_assoc, List.cons_append, items?_compact itemReads
        (by omega) (endsNumeral_cons _ (by decide))]
      rcases Nat.exists_eq_add_of_lt (show 0 < fuel by omega) with ⟨less, rfl⟩
      show items? (0 + less + 1) (item :: read) _ = _
      rw [induction othersRead (by omega), List.reverse_cons, List.append_assoc]
      rfl

theorem readsAs_array {items : List Json}
    (reads : ∀ item ∈ items, ReadsAs (compact item).toList item) :
    ReadsAs (compact (.array items)).toList (.array items) := by
  apply readsAs_of_value? (toList_compact_array items) (by decide)
  intro fuel rest enough _
  rw [toList_compact_array, List.length_cons, List.length_append, List.length_singleton] at enough
  rw [List.append_assoc, List.singleton_append, value?]
  cases items with
  | nil =>
      rfl
  | cons item others =>
      rcases Nat.exists_eq_add_of_lt (show 0 < fuel by omega) with ⟨less, rfl⟩
      have isRead := items?_joined reads (show _ ≤ 0 + less by omega) [] rest
      rw [← items?_skipSpace] at isRead
      split
      next closing =>
        rw [closing, items?_closing] at isRead
        cases isRead
      next => exact isRead

theorem objectOf_some (fields : List (String × Json)) :
    objectOf (fields.map fun field => (some field.1, field.2)) = .object fields := by
  have named :
      (fields.map fun field => (some field.1, field.2)).mapM
          (fun field : Option String × Json => field.1.map fun name => (name, field.2)) =
        some fields := by
    induction fields with
    | nil => rfl
    | cons field others induction =>
        rw [List.map_cons, List.mapM_cons, induction]
        rfl
  rw [objectOf, named]

theorem toList_fieldText (field : String × Json) :
    (fieldText field).toList =
      '"' :: (field.1.toList.flatMap escape ++ '"' :: ':' :: (compact field.2).toList) := by
  rw [fieldText, String.toList_append, String.toList_append, toList_string]
  simp

/-- One field is read, and what stands behind it says how to go on. -/
theorem fields?_fieldText {field : String × Json}
    (reads : ReadsAs (compact field.2).toList field.2)
    {fuel : Nat}
    (enough : 2 * (fieldText field).toList.length ≤ fuel)
    {tail : List Char}
    (ends : EndsNumeral tail)
    (read : List (Option String × Json)) :
    fields? (fuel + 1) read ((fieldText field).toList ++ tail) =
      match skipSpace tail with
      | ',' :: rest => fields? fuel ((some field.1, field.2) :: read) rest
      | '\x7d' :: rest => some (objectOf ((some field.1, field.2) :: read).reverse, rest)
      | _ => none := by
  rw [toList_fieldText, List.length_cons, List.length_append, List.length_cons,
    List.length_cons] at enough
  rcases reads fuel tail (by omega) ends with ⟨after, isRead, behind⟩
  rw [toList_fieldText, List.cons_append, List.append_assoc, List.cons_append, List.cons_append,
    fields?, skipSpace_cons (by decide)]
  simp only [string?_string, skipSpace_cons (show isSpace ':' = false by decide), isRead]
  rewrite [← behind]
  rfl

/-- The fields of an object are read back with the brace behind them. -/
theorem fields?_joined {field : String × Json} {others : List (String × Json)}
    (reads : ∀ other ∈ field :: others, ReadsAs (compact other.2).toList other.2)
    {fuel : Nat}
    (enough : 2 * (joined fieldText (field :: others)).length ≤ fuel)
    (read : List (String × Json)) (rest : List Char) :
    fields? (fuel + 1) (read.map fun field => (some field.1, field.2))
        (joined fieldText (field :: others) ++ '\x7d' :: rest) =
      some (.object (read.reverse ++ field :: others), rest) := by
  induction others generalizing field fuel read with
  | nil =>
      rw [joined_singleton] at enough ⊢
      rw [fields?_fieldText (reads field List.mem_cons_self) enough
        (endsNumeral_cons rest (by decide))]
      show
        some (objectOf ((field :: read).map fun field => (some field.1, field.2)).reverse, rest) = _
      rw [← List.map_reverse, objectOf_some, List.reverse_cons]
  | cons next others induction =>
      rcases List.forall_mem_cons.mp reads with ⟨fieldReads, othersRead⟩
      rw [joined_cons_cons, List.length_append, List.length_cons] at enough
      rw [joined_cons_cons, List.append_assoc, List.cons_append, fields?_fieldText fieldReads
        (by omega) (endsNumeral_cons _ (by decide))]
      rcases Nat.exists_eq_add_of_lt (show 0 < fuel by omega) with ⟨less, rfl⟩
      show fields? (0 + less + 1) ((field :: read).map fun field => (some field.1, field.2)) _ = _
      rw [induction othersRead (by omega), List.reverse_cons, List.append_assoc]
      rfl

theorem readsAs_object {fields : List (String × Json)}
    (reads : ∀ field ∈ fields, ReadsAs (compact field.2).toList field.2) :
    ReadsAs (compact (.object fields)).toList (.object fields) := by
  apply readsAs_of_value? (toList_compact_object fields) (by decide)
  intro fuel rest enough _
  rw [toList_compact_object, List.length_cons, List.length_append, List.length_singleton] at enough
  rw [List.append_assoc, List.singleton_append, value?]
  cases fields with
  | nil => rfl
  | cons field others =>
      rcases Nat.exists_eq_add_of_lt (show 0 < fuel by omega) with ⟨less, rfl⟩
      have isRead := fields?_joined reads (show _ ≤ 0 + less by omega) [] rest
      -- The first field starts with a quote, and so with no blank and no brace.
      have starts :
          ∃ text, joined fieldText (field :: others) ++ '\x7d' :: rest = '"' :: text := by
        cases others with
        | nil => exact ⟨_, by rw [joined_singleton, toList_fieldText, List.cons_append]⟩
        | cons next others =>
            exact ⟨_, by
              rw [joined_cons_cons, toList_fieldText, List.cons_append, List.cons_append]⟩
      rcases starts with ⟨text, isText⟩
      rw [isText] at isRead ⊢
      rw [skipSpace_cons (by decide)]
      exact isRead

end Reader

/-! ## The round trip -/

/-- A value that its text gives back: integers have 64 bits, and doubles read back alone. -/
inductive IsReadable : Json → Prop where
  | null : IsReadable .null
  | bool (value : Bool) : IsReadable (.bool value)
  | int {value : Int} (least : -Int.ofNat (Nat.pow 2 63) ≤ value)
    (most : value < Int.ofNat UInt64.size) : IsReadable (.int value)
  | float {value : Float} (readsBack : read? (render (.float value)) = some (.float value)) :
    IsReadable (.float value)
  | string (text : String) : IsReadable (.string text)
  | array {items : List Json} (readable : ∀ item ∈ items, IsReadable item) :
    IsReadable (.array items)
  | object {fields : List (String × Json)} (readable : ∀ field ∈ fields, IsReadable field.2) :
    IsReadable (.object fields)

theorem IsReadable.readsAs {value : Json} (readable : value.IsReadable) :
    ReadsAs (compact value).toList value := by
  induction readable with
  | null => exact readsAs_null
  | bool value => exact readsAs_bool value
  | int least most => exact readsAs_int least most
  | float readsBack => exact readsAs_float readsBack
  | string text => exact readsAs_string text
  | array _ induction => exact readsAs_array induction
  | object _ induction => exact readsAs_object induction

/-- A readable value is read back from its text. -/
theorem IsReadable.read?_render {value : Json} (readable : value.IsReadable) :
    read? (render value) = some value := by
  have ends : EndsNumeral [] := by rintro _ ⟨⟩
  rcases readable.readsAs (2 * (compact value).toList.length + 1) [] (by omega) ends with
    ⟨after, isRead, behind⟩
  rw [List.append_nil] at isRead
  simp only [read?, render, isRead, behind]
  rfl

end StructuralLint.Json
