import Mathlib
import StructuralLint.Adapter.ModelDocument

/-!
# Endings of file names

An adapter is registered for all its endings, and a later registration for an ending takes the place
of an earlier one.  The adapter for a path is the one registered last for the longest ending of the
file name that any adapter is registered for.

The registry is read through `get?` only: what one registration changes is one equation about it,
and the history of an ending follows by induction on the registrations.  On the side of the file
name, the endings are listed from the longest to the shortest, so the first one that is registered
is the longest one.
-/

namespace StructuralLint

/-- An adapter handles the endings of its extensions, in small letters of ASCII. -/
def Adapter.Handles (adapter : Adapter) (ending : String) : Prop :=
  ∃ extension ∈ adapter.extensions, Text.lowerAscii extension = ending

instance (adapter : Adapter) (ending : String) : Decidable (adapter.Handles ending) :=
  inferInstanceAs (Decidable (∃ extension ∈ adapter.extensions, Text.lowerAscii extension = ending))

namespace AdapterSet

/-- The set after some registrations, one after the other. -/
def registerAll (adapters : List Adapter) : AdapterSet :=
  adapters.foldl register {}

/-- The last of some adapters that handles an ending. -/
def IsLatest (adapters : List Adapter) (ending : String) (adapter : Adapter) : Prop :=
  ∃ before after, adapters = before ++ adapter :: after ∧ adapter.Handles ending ∧
    ∀ later ∈ after, ¬ later.Handles ending

/-- An ending of a file name, in small letters of ASCII: what follows one of its dots. -/
def IsEnding (name ending : String) : Prop :=
  '.' :: ending.toList <:+ (Text.lowerAscii name).toList

/-- An ending of a file name that some adapter handles. -/
def IsHandledEnding (adapters : List Adapter) (name ending : String) : Prop :=
  IsEnding name ending ∧ ∃ adapter ∈ adapters, adapter.Handles ending

/-- The longest ending of a file name that some adapter handles. -/
def IsLongestHandledEnding (adapters : List Adapter) (name ending : String) : Prop :=
  IsHandledEnding adapters name ending ∧
    ∀ other, IsHandledEnding adapters name other → other.length ≤ ending.length

/-! ## Registrations -/

theorem get?_insert (adapter : Adapter) (entries : List (String × Adapter))
    (extension ending : String) :
    (⟨insert adapter entries extension⟩ : AdapterSet).get? ending =
      if Text.lowerAscii extension = ending then some adapter
      else (⟨entries⟩ : AdapterSet).get? ending := by
  rw [get?, get?, insert, List.find?_cons, List.find?_filter]
  by_cases same : Text.lowerAscii extension = ending
  · rw [if_pos same, beq_iff_eq.mpr same]
    rfl
  · have kept : ∀ entry : String × Adapter,
        ((entry.1 != Text.lowerAscii extension) = true ∧ (entry.1 == ending) = true) ↔
          (entry.1 == ending) = true := by
      intro entry
      rw [and_iff_right_iff_imp, beq_iff_eq, bne_iff_ne]
      exact fun isEnding other => same (other.symm.trans isEnding)
    rw [if_neg same, beq_eq_false_iff_ne.mpr same]
    simp only [kept, Bool.decide_eq_true]

theorem get?_foldl_insert (adapter : Adapter) (entries : List (String × Adapter))
    (extensions : List String) (ending : String) :
    (⟨extensions.foldl (insert adapter) entries⟩ : AdapterSet).get? ending =
      if ∃ extension ∈ extensions, Text.lowerAscii extension = ending then some adapter
      else (⟨entries⟩ : AdapterSet).get? ending := by
  induction extensions generalizing entries with
  | nil => simp
  | cons extension rest induction =>
      rw [List.foldl_cons, induction, get?_insert, ← ite_or]
      refine if_congr ?_ rfl rfl
      rw [List.exists_mem_cons_iff, or_comm]

/-- A registration decides for the endings of the adapter, and for no others. -/
theorem get?_register (adapters : AdapterSet) (adapter : Adapter) (ending : String) :
    (adapters.register adapter).get? ending =
      if adapter.Handles ending then some adapter else adapters.get? ending :=
  get?_foldl_insert adapter adapters.entries adapter.extensions ending

/-- After any registrations, the last adapter that handles an ending is found. -/
theorem get?_registerAll (adapters : List Adapter) (ending : String) :
    (registerAll adapters).get? ending =
      adapters.reverse.find? fun adapter => decide (adapter.Handles ending) := by
  induction adapters using List.reverseRecOn with
  | nil => rfl
  | append_singleton earlier adapter induction =>
      rw [registerAll, List.foldl_concat, get?_register, ← registerAll, induction,
        List.reverse_concat, List.find?_cons]
      split_ifs with handles <;> simp [handles]

theorem get?_registerAll_eq_some_iff {adapters : List Adapter} {ending : String}
    {adapter : Adapter} :
    (registerAll adapters).get? ending = some adapter ↔ IsLatest adapters ending adapter := by
  rw [get?_registerAll, List.find?_eq_some_iff_append]
  simp only [decide_eq_true_eq, Bool.not_eq_true', decide_eq_false_iff_not]
  constructor
  · rintro ⟨handles, after, before, isReverse, unhandled⟩
    refine ⟨before.reverse, after.reverse, ?_, handles, ?_⟩
    · simpa using congrArg List.reverse isReverse
    · intro later member
      exact unhandled later (List.mem_reverse.mp member)
  · rintro ⟨before, after, rfl, handles, unhandled⟩
    refine ⟨handles, after.reverse, before.reverse, by simp, ?_⟩
    intro later member
    exact unhandled later (List.mem_reverse.mp member)

theorem get?_registerAll_isSome_iff {adapters : List Adapter} {ending : String} :
    ((registerAll adapters).get? ending).isSome ↔ ∃ adapter ∈ adapters, adapter.Handles ending := by
  rw [get?_registerAll, List.find?_isSome]
  simp only [List.mem_reverse, decide_eq_true_eq]

/-! ## Endings -/

theorem mem_endings_iff {characters : List Char} {ending : String} :
    ending ∈ endings characters ↔ '.' :: ending.toList <:+ characters := by
  induction characters with
  | nil => simp [endings]
  | cons character rest induction =>
      rw [endings, List.suffix_cons_iff, List.cons.injEq]
      by_cases isDot : character = '.'
      · rw [if_pos (beq_iff_eq.mpr isDot), List.mem_cons, induction, String.ext_iff,
          String.toList_ofList]
        simp [isDot]
      · rw [if_neg (mt beq_iff_eq.mp isDot), induction]
        simp [Ne.symm isDot]

/-- The endings of a name are listed from the longest to the shortest. -/
theorem pairwise_length_endings (characters : List Char) :
    (endings characters).Pairwise fun ending later => later.length < ending.length := by
  induction characters with
  | nil => exact List.Pairwise.nil
  | cons character rest induction =>
      rw [endings]
      split
      · refine List.pairwise_cons.mpr ⟨?_, induction⟩
        intro later member
        have within := (mem_endings_iff.mp member).length_le
        rw [List.length_cons] at within
        rw [String.length_ofList]
        exact within
      · exact induction

/-- The first ending with a value is the longest one with a value. -/
theorem findSome?_endings_eq_some_iff {β : Type} {characters : List Char} {look : String → Option β}
    {value : β} :
    (endings characters).findSome? look = some value ↔
      ∃ ending ∈ endings characters, look ending = some value ∧
        ∀ other ∈ endings characters, (look other).isSome → other.length ≤ ending.length := by
  have ordered := pairwise_length_endings characters
  rw [List.findSome?_eq_some_iff]
  constructor
  · rintro ⟨before, ending, after, isSplit, found, missing⟩
    rw [isSplit] at ordered ⊢
    refine ⟨ending, by simp, found, ?_⟩
    intro other member isFound
    rcases List.mem_append.mp member with earlier | later
    · rw [missing other earlier] at isFound
      cases isFound
    · rcases List.mem_cons.mp later with rfl | later
      · exact Nat.le_refl _
      · have shorter := (List.pairwise_cons.mp (List.pairwise_append.mp ordered).2.1).1
        exact Nat.le_of_lt (shorter other later)
  · rintro ⟨ending, member, found, longest⟩
    rcases List.append_of_mem member with ⟨before, after, isSplit⟩
    refine ⟨before, ending, after, isSplit, found, ?_⟩
    intro earlier isEarlier
    rw [isSplit] at ordered longest
    have longer := (List.pairwise_append.mp ordered).2.2 earlier isEarlier ending (by simp)
    by_contra isFound
    have bounded := longest earlier (List.mem_append_left _ isEarlier)
      (Option.isSome_iff_ne_none.mpr isFound)
    exact absurd bounded (Nat.not_le.mpr longer)

/-! ## Paths -/

theorem forPath?_eq_findSome? {path : SourcePath} {name : String}
    (named : path.fileName? = some name) (adapters : AdapterSet) :
    adapters.forPath? path =
      (endings (Text.lowerAscii name).toList).findSome? adapters.get? := by
  rw [forPath?, named]
  rfl

theorem isHandledEnding_iff {adapters : List Adapter} {name ending : String} :
    IsHandledEnding adapters name ending ↔
      ending ∈ endings (Text.lowerAscii name).toList ∧
        ((registerAll adapters).get? ending).isSome := by
  rw [IsHandledEnding, IsEnding, mem_endings_iff, get?_registerAll_isSome_iff]

/--
The adapter for a path is the one registered last for the longest ending of the file name that
any adapter is registered for, and there is none exactly if there is no such ending.
-/
theorem forPath?_registerAll {path : SourcePath} {name : String}
    (named : path.fileName? = some name) (adapters : List Adapter) :
    (∀ adapter,
        (registerAll adapters).forPath? path = some adapter ↔
          ∃ ending, IsLongestHandledEnding adapters name ending ∧
            IsLatest adapters ending adapter) ∧
      ((registerAll adapters).forPath? path = none ↔
        ¬ ∃ ending, IsHandledEnding adapters name ending) := by
  rw [forPath?_eq_findSome? named]
  constructor
  · intro adapter
    rw [findSome?_endings_eq_some_iff]
    refine exists_congr fun ending => ?_
    rw [IsLongestHandledEnding, isHandledEnding_iff, ← get?_registerAll_eq_some_iff]
    constructor
    · rintro ⟨member, found, longest⟩
      refine ⟨⟨⟨member, Option.isSome_of_eq_some found⟩, ?_⟩, found⟩
      intro other handled
      rcases isHandledEnding_iff.mp handled with ⟨isOther, isFound⟩
      exact longest other isOther isFound
    · rintro ⟨⟨⟨member, _⟩, longest⟩, found⟩
      refine ⟨member, found, ?_⟩
      intro other isOther isFound
      exact longest other (isHandledEnding_iff.mpr ⟨isOther, isFound⟩)
  · simp only [List.findSome?_eq_none_iff, isHandledEnding_iff, not_exists, not_and,
      Option.not_isSome_iff_eq_none]

/--
An adapter that shares an ending with the adapter for model documents, in other letters, and
handles another one.
-/
def recordAdapter : Adapter where
  name := "record"
  extensions := ["IR.Json", "rec"]
  attempt _ _ := { outcome := .rejected "no records here" }

/-- The adapter for model documents, without a word on what it cannot read. -/
def silentDocuments : Adapter :=
  Adapter.modelDocument Adapter.silent

/--
The longer ending decides, although both adapters are registered for one, and on that ending
the later registration.
-/
theorem forPath?_registerAll_sharedEnding :
    (⟨"src/.a.ir.JSON"⟩ : SourcePath).fileName? = some ".a.ir.JSON" ∧
      (registerAll [silentDocuments, recordAdapter]).forPath? ⟨"src/.a.ir.JSON"⟩ =
        some recordAdapter ∧
      ∃ ending, IsLongestHandledEnding [silentDocuments, recordAdapter] ".a.ir.JSON" ending ∧
        IsLatest [silentDocuments, recordAdapter] ending recordAdapter := by
  have named : (⟨"src/.a.ir.JSON"⟩ : SourcePath).fileName? = some ".a.ir.JSON" := by cbv
  have found :
      (registerAll [silentDocuments, recordAdapter]).forPath? ⟨"src/.a.ir.JSON"⟩ =
        some recordAdapter := by
    cbv
  exact ⟨named, found, ((forPath?_registerAll named _).1 recordAdapter).mp found⟩

end AdapterSet

end StructuralLint
