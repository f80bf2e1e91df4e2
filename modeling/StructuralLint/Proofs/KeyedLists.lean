import Mathlib.Data.List.Nodup
import Mathlib.Data.List.Pairwise
import StructuralLint.Lookup

/-!
# Lists with distinct keys

Nodes, settings and the entries of look-up tables are kept in lists and looked up by the first item
with a key.  Where no key occurs twice, such a search finds exactly the item of the key.
-/

namespace StructuralLint

variable {α β κ : Type}

/-- Where keys are distinct, looking for the key of an item finds the item. -/
theorem find?_eq_some_of_nodup_keys [DecidableEq κ] {key : α → κ} {items : List α}
    (distinct : (items.map key).Nodup)
    {item : α}
    (member : item ∈ items) :
    items.find? (key · == key item) = some item := by
  have present : (items.find? (key · == key item)).isSome = true := by
    rw [List.find?_isSome]
    exact ⟨item, member, beq_self_eq_true _⟩
  rcases Option.isSome_iff_exists.mp present with ⟨found, isFound⟩
  have sameKey : key found = key item := by simpa using List.find?_some isFound
  rw [isFound, List.inj_on_of_nodup_map distinct (List.mem_of_find?_eq_some isFound) member sameKey]

/-- Where keys are distinct, looking up a key finds the value that is recorded for it. -/
theorem Lookup.get?_eq_some_iff [DecidableEq κ] {table : Lookup κ β}
    (distinct : (table.map Prod.fst).Nodup)
    {key : κ} {value : β} :
    table.get? key = some value ↔ (key, value) ∈ table := by
  rw [Lookup.get?, Option.map_eq_some_iff]
  constructor
  · rintro ⟨entry, found, rfl⟩
    have isKey : entry.1 = key := by simpa using List.find?_some found
    rw [← isKey]
    exact List.mem_of_find?_eq_some found
  · intro member
    exact ⟨(key, value), find?_eq_some_of_nodup_keys distinct member, rfl⟩

/-- Where keys are distinct, their order of recording does not matter. -/
theorem Lookup.get?_reverse_eq_some_iff [DecidableEq κ] {entries : List (κ × β)}
    (distinct : (entries.map Prod.fst).Nodup)
    {key : κ} {value : β} :
    Lookup.get? entries.reverse key = some value ↔ (key, value) ∈ entries := by
  rw [Lookup.get?_eq_some_iff (by rwa [List.map_reverse, List.nodup_reverse]), List.mem_reverse]

/-- Changing one item keeps what a map reads where the change does. -/
theorem map_modify_eq {change : α → α} {read : α → β}
    (same : ∀ item, read (change item) = read item)
    (items : List α) (index : Nat) :
    (items.modify index change).map read = items.map read := by
  apply List.ext_getElem?
  intro position
  rw [List.getElem?_map, List.getElem?_modify, List.getElem?_map]
  cases items[position]? with
  | none => rfl
  | some item => by_cases isIndex : index = position <;> simp [isIndex, same]

/-- Where nothing is listed twice, one item lists a value. -/
theorem eq_of_mem_of_nodup_flatMap {list : α → List β} {items : List α}
    (once : (items.flatMap list).Nodup)
    {first second : α}
    (firstMember : first ∈ items)
    (secondMember : second ∈ items)
    {value : β}
    (firstLists : value ∈ list first)
    (secondLists : value ∈ list second) :
    first = second := by
  by_contra different
  have disjoint := (List.nodup_flatMap.mp once).2
  have symmetric : Std.Symm (Function.onFun List.Disjoint list) :=
    ⟨fun _ _ apart _ inSecond inFirst => apart inFirst inSecond⟩
  exact disjoint.forall firstMember secondMember different firstLists secondLists

/-- What is made of items with distinct keys has distinct keys where it keeps the key. -/
theorem nodup_keys_filterMap {key : α → κ} {keyOf : β → κ} {made : α → Option β}
    (keeps : ∀ item result, made item = some result → keyOf result = key item)
    {items : List α}
    (distinct : (items.map key).Nodup) :
    ((items.filterMap made).map keyOf).Nodup := by
  rw [List.Nodup, List.pairwise_map] at distinct ⊢
  rw [List.pairwise_filterMap]
  refine distinct.imp ?_
  intro first second different firstResult isFirst secondResult isSecond
  rwa [keeps first firstResult isFirst, keeps second secondResult isSecond]

end StructuralLint
