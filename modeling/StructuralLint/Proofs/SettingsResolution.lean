import StructuralLint.Proofs.Ingestion
import StructuralLint.Proofs.Order
import StructuralLint.Rule.Comments
import StructuralLint.Rule.MagicLiteral
import StructuralLint.Rule.SimilarNames
import StructuralLint.Settings.Resolved

/-!
# Which settings resolve, and to what

`Settings.resolve` goes through the sections of a document one by one, and inside a section through
its thresholds; each of them may be refused, and each that passes overwrites a default.  `IsValid`
says without any order of checks when a document is acceptable for a catalogue of rules, and
`CompletedBy` what comes out of it.  The main statement is that exactly the valid documents resolve,
and that they resolve to their completion by the defaults.

Sections are the only part with a state.  After some sections the rules they denote are marked as
seen, and every rule of the catalogue has its section, or its defaults where it has none; one
section more keeps this, and the whole pass follows by induction.
-/

namespace StructuralLint

/-! ## Values by key -/

section Entries

variable {α β : Type}

/-- The value of a key in a list that may repeat keys: the last entry counts. -/
def lastValue? (entries : List (String × α)) (key : String) : Option α :=
  (entries.reverse.find? (·.1 == key)).map (·.2)

theorem lastValue?_cons (entry : String × α) (rest : List (String × α)) (key : String) :
    lastValue? (entry :: rest) key =
      (lastValue? rest key).or (if entry.1 = key then some entry.2 else none) := by
  rw [lastValue?, lastValue?, List.reverse_cons, List.find?_append, List.find?_singleton]
  cases rest.reverse.find? (·.1 == key) with
  | some found => rfl
  | none =>
      simp only [beq_iff_eq, Option.none_or, Option.map_none]
      split <;> rfl

theorem mem_of_lastValue?_eq_some {entries : List (String × α)} {key : String} {value : α}
    (found : lastValue? entries key = some value) :
    (key, value) ∈ entries := by
  rcases Option.map_eq_some_iff.mp found with ⟨entry, isFound, rfl⟩
  have isKey : entry.1 = key := by simpa using List.find?_some isFound
  subst isKey
  exact List.mem_reverse.mp (List.mem_of_find?_eq_some isFound)

/-- Where no key is repeated, the last entry of a key is its only one. -/
theorem lastValue?_eq_some_of_mem {entries : List (String × α)}
    (distinct : (entries.map Prod.fst).Nodup)
    {entry : String × α}
    (member : entry ∈ entries) :
    lastValue? entries entry.1 = some entry.2 := by
  have reversed : (entries.reverse.map Prod.fst).Nodup := by
    rw [List.map_reverse]
    exact List.nodup_reverse.mpr distinct
  rw [lastValue?, find?_eq_some_of_nodup_keys reversed (List.mem_reverse.mpr member)]
  rfl

namespace Sorted

theorem get?_insert (entries : Sorted α) (key other : String) (value : α) :
    (entries.insert key value).get? other =
      if key = other then some value else entries.get? other := by
  induction entries with
  | nil =>
      show Option.map _ (List.find? _ [(key, value)]) = _
      rw [List.find?_singleton]
      simp only [beq_iff_eq]
      split <;> rfl
  | cons entry rest induction =>
      rw [insert]
      split
      next => simp only [get?, List.find?_cons]; split <;> simp_all
      next level =>
        have sameKey := (Text.order_eq_iff _ _).mp level
        simp only [get?, List.find?_cons, sameKey]
        split <;> simp_all
      next after =>
        have otherKey : key ≠ entry.1 := by
          intro equal
          rw [(Text.order_eq_iff _ _).mpr equal] at after
          cases after
        simp only [get?, List.find?_cons] at induction ⊢
        split
        next isOther => simp_all
        next => exact induction

theorem mem_keys_insert {entries : Sorted α} {key name : String} {value : α} :
    name ∈ (entries.insert key value).map Prod.fst ↔
      name = key ∨ name ∈ entries.map Prod.fst := by
  induction entries with
  | nil => simp [insert]
  | cons entry rest induction =>
      rw [insert]
      split
      next => simp
      next level =>
        have sameKey := (Text.order_eq_iff _ _).mp level
        simp [sameKey]
      next =>
        rw [List.map_cons, List.mem_cons, induction, List.map_cons, List.mem_cons]
        tauto

theorem get?_eq_none_iff {entries : Sorted α} {key : String} :
    entries.get? key = none ↔ key ∉ entries.map Prod.fst := by
  simp only [get?, Option.map_eq_none_iff, List.find?_eq_none, List.mem_map, beq_iff_eq,
    not_exists, not_and]

/-- Sets the values of several keys one after another. -/
def insertAll (entries : Sorted α) (more : List (String × α)) : Sorted α :=
  more.foldl (fun sorted (key, value) => sorted.insert key value) entries

theorem get?_insertAll (entries : Sorted α) (more : List (String × α)) (key : String) :
    (entries.insertAll more).get? key = (lastValue? more key).or (entries.get? key) := by
  induction more generalizing entries with
  | nil => rfl
  | cons entry rest induction =>
      show (insertAll (entries.insert entry.1 entry.2) rest).get? key = _
      rw [induction, get?_insert, lastValue?_cons, Option.or_assoc]
      split <;> rfl

theorem mem_keys_insertAll {entries : Sorted α} {more : List (String × α)} {name : String} :
    name ∈ (entries.insertAll more).map Prod.fst ↔
      name ∈ more.map Prod.fst ∨ name ∈ entries.map Prod.fst := by
  induction more generalizing entries with
  | nil => simp [insertAll]
  | cons entry rest induction =>
      show name ∈ (insertAll (entries.insert entry.1 entry.2) rest).map Prod.fst ↔ _
      rw [induction, mem_keys_insert, List.map_cons, List.mem_cons]
      tauto

theorem get?_ofList (entries : List (String × α)) (key : String) :
    (ofList entries).get? key = lastValue? entries key := by
  show (insertAll [] entries).get? key = _
  rw [get?_insertAll]
  exact Option.or_none

theorem mem_keys_ofList {entries : List (String × α)} {name : String} :
    name ∈ (ofList entries).map Prod.fst ↔ name ∈ entries.map Prod.fst := by
  show name ∈ (insertAll [] entries).map Prod.fst ↔ _
  simp [mem_keys_insertAll]

end Sorted

end Entries

/-! ## Thresholds -/

/-- What a threshold asks of a number. -/
structure Threshold.Accepts (threshold : Threshold) (number : Float) : Prop where
  finite : number.isFinite = true
  whole : threshold.isInteger = true → Decimal.isWhole number = true
  least : ¬ number < threshold.least
  most : ∀ most, threshold.most = some most → ¬ number > most

theorem Threshold.refusal?_eq_none_iff {threshold : Threshold} {number : Float} :
    threshold.refusal? number = none ↔ threshold.Accepts number := by
  have parts :
      threshold.Accepts number ↔
        number.isFinite = true ∧ (threshold.isInteger = true → Decimal.isWhole number = true) ∧
          ¬ number < threshold.least ∧ ∀ most, threshold.most = some most → ¬ number > most :=
    ⟨fun accepts => ⟨accepts.finite, accepts.whole, accepts.least, accepts.most⟩,
      fun ⟨finite, whole, least, most⟩ => ⟨finite, whole, least, most⟩⟩
  rw [parts, refusal?]
  cases finite : number.isFinite with
  | false => simp
  | true =>
      cases threshold.isInteger <;> cases Decimal.isWhole number <;>
        by_cases below : number < threshold.least <;> cases threshold.most <;> simp [below]

namespace RuleInfo

/-- A rule is denoted by every spelling of its id. -/
def IsDenotedBy (info : RuleInfo) (key : String) : Prop :=
  RuleName.normalize info.id = RuleName.normalize key

instance (info : RuleInfo) (key : String) : Decidable (info.IsDenotedBy key) :=
  inferInstanceAs (Decidable (_ = _))

/-- The default that a rule declares for a name. -/
def default? (info : RuleInfo) (name : String) : Option Float :=
  lastValue? (info.thresholds.map fun threshold => (threshold.name, threshold.default)) name

/-- A rule declares a threshold of this name, which accepts the value as a number. -/
def Takes (info : RuleInfo) (configured : String × SettingValue) : Prop :=
  ∃ threshold number,
    info.threshold? configured.1 = some threshold ∧ configured.2.number? = some number ∧
      threshold.Accepts number

end RuleInfo

/-- The number that a section gives for a name. -/
def RuleSection.number? (configured : RuleSection) (name : String) : Option Float :=
  (lastValue? configured.thresholds name).bind SettingValue.number?

namespace Settings

/-- A configured value as a number under its name. -/
def numbered (configured : String × SettingValue) : String × Float :=
  (configured.1, configured.2.number?.getD 0)

theorem applyThreshold_eq_ok_iff {info : RuleInfo} {settings result : RuleSettings}
    {configured : String × SettingValue} :
    applyThreshold info settings configured = .ok result ↔
      info.Takes configured ∧
        { settings with
          thresholds :=
            settings.thresholds.insert (numbered configured).1 (numbered configured).2 } =
          result := by
  rcases configured with ⟨name, value⟩
  rw [applyThreshold, RuleInfo.Takes, numbered]
  cases info.threshold? name with
  | none => simp
  | some threshold =>
      cases value.number? with
      | none => simp
      | some number =>
          have accepts : threshold.refusal? number = none ↔ threshold.Accepts number :=
            Threshold.refusal?_eq_none_iff
          cases refused : threshold.refusal? number with
          | none => simp [refused, accepts.mp refused]
          | some refusal =>
              have notAccepted : ¬ threshold.Accepts number := by
                rw [← accepts, refused]
                exact Option.some_ne_none refusal
              simp [refused, notAccepted]

/-- The thresholds of a section pass when the rule takes each of them, and overwrite the others. -/
theorem foldlM_applyThreshold_eq_ok_iff {info : RuleInfo} {settings result : RuleSettings}
    {configured : List (String × SettingValue)} :
    configured.foldlM (applyThreshold info) settings = .ok result ↔
      (∀ entry ∈ configured, info.Takes entry) ∧
        { settings with thresholds := settings.thresholds.insertAll (configured.map numbered) } =
          result := by
  induction configured generalizing settings with
  | nil =>
      show Except.ok settings = .ok result ↔ _
      simp [Sorted.insertAll]
  | cons entry rest induction =>
      simp only [List.foldlM_cons, bind_eq_ok_iff, applyThreshold_eq_ok_iff, List.forall_mem_cons]
      constructor
      · rintro ⟨_, ⟨takes, rfl⟩, passed⟩
        rcases induction.mp passed with ⟨restTaken, rfl⟩
        exact ⟨⟨takes, restTaken⟩, rfl⟩
      · rintro ⟨⟨takes, restTaken⟩, rfl⟩
        exact ⟨_, ⟨takes, rfl⟩, induction.mpr ⟨restTaken, rfl⟩⟩

/-! ## Global values -/

/-- A global count is left out, or an integer within bounds. -/
def IsCount (least : Int) (most : Option Int) (value : Option SettingValue) : Prop :=
  ∀ given, value = some given →
    ∃ word, given = .integer word ∧ least ≤ word.toInt ∧
      ∀ limit, most = some limit → word.toInt ≤ limit

/-- The count that a global value gives. -/
def count? : Option SettingValue → Option Nat
  | some (.integer word) => some word.toInt.toNat
  | _ => none

theorem globalCount_eq_ok_iff {value : Option SettingValue} {key : String} {least : Int}
    {most : Option Int} {result : Option Nat} :
    globalCount value key least most = .ok result ↔
      IsCount least most value ∧ count? value = result := by
  rw [globalCount.eq_def, IsCount]
  match value with
  | none => simp [count?]
  | some (.float number) => simp
  | some (.boolean flag) => simp
  | some (.string text) => simp
  | some (.integer word) =>
      by_cases below : word.toInt < least
      · have missed : ¬ least ≤ word.toInt := Int.not_le.mpr below
        simp [below, missed]
      · have reached : least ≤ word.toInt := Int.not_lt.mp below
        cases most with
        | none => simp [below, reached, count?]
        | some limit =>
            by_cases above : limit < word.toInt
            · have exceeded : ¬ word.toInt ≤ limit := Int.not_le.mpr above
              simp [below, above, exceeded]
            · have bounded : word.toInt ≤ limit := Int.not_lt.mp above
              simp [below, reached, above, bounded, count?]

/-- The similarity is left out, or a number above zero and at most one. -/
def IsSimilarity (value : Option SettingValue) : Prop :=
  ∀ given, value = some given →
    ∃ number, given.number? = some number ∧ number > 0 ∧ number ≤ 1

theorem similarity_eq_ok_iff {value : Option SettingValue} {result : Float} :
    similarity value = .ok result ↔
      IsSimilarity value ∧ (value.bind SettingValue.number?).getD defaultSimilarity = result := by
  rw [similarity.eq_def, IsSimilarity]
  cases value with
  | none => simp
  | some given =>
      cases isNumber : given.number? with
      | none => simp [isNumber]
      | some number =>
          by_cases positive : number > 0
          · by_cases bounded : number ≤ 1
            · simp [isNumber, positive, bounded]
            · simp [isNumber, positive, bounded]
          · simp [isNumber, positive]

/-! ## Sections -/

/-- The section that configures a rule, in any spelling of its id. -/
def sectionFor? (sections : List (String × RuleSection)) (info : RuleInfo) : Option RuleSection :=
  (sections.find? fun entry => RuleName.normalize entry.1 == RuleName.normalize info.id).map (·.2)

/-- The settings of a rule under a section. -/
def configure (configured : RuleSection) (present : RuleSettings) : RuleSettings :=
  { enabled := configured.enabled.getD present.enabled
    thresholds := present.thresholds.insertAll (configured.thresholds.map numbered) }

/-- The settings of a rule under some sections: the defaults where none of them denotes it. -/
def settingsUnder (sections : List (String × RuleSection)) (info : RuleInfo) : RuleSettings :=
  (sectionFor? sections info).elim (RuleSettings.ofInfo info) fun configured =>
    configure configured (RuleSettings.ofInfo info)

/-- A section denotes a rule of the catalogue that takes all its thresholds. -/
def FitsSection (catalog : List RuleInfo) (entry : String × RuleSection) : Prop :=
  ∃ info ∈ catalog, info.IsDenotedBy entry.1 ∧ ∀ configured ∈ entry.2.thresholds,
    info.Takes configured

/-- Two sections do not denote the same rule. -/
def Apart (first second : String × RuleSection) : Prop :=
  RuleName.normalize first.1 ≠ RuleName.normalize second.1

theorem sectionFor?_eq_none_iff {sections : List (String × RuleSection)} {info : RuleInfo} :
    sectionFor? sections info = none ↔ ∀ entry ∈ sections, ¬ info.IsDenotedBy entry.1 := by
  simp only [sectionFor?, Option.map_eq_none_iff, List.find?_eq_none, beq_iff_eq,
    RuleInfo.IsDenotedBy, @eq_comm _ (RuleName.normalize info.id)]

theorem sectionFor?_append_singleton (sections : List (String × RuleSection))
    (entry : String × RuleSection) (info : RuleInfo) :
    sectionFor? (sections ++ [entry]) info =
      (sectionFor? sections info).or
        (if RuleName.normalize entry.1 = RuleName.normalize info.id then some entry.2
          else none) := by
  rw [sectionFor?, sectionFor?, List.find?_append, List.find?_singleton]
  cases sections.find? fun entry => RuleName.normalize entry.1 == RuleName.normalize info.id with
  | some found => rfl
  | none =>
      simp only [beq_iff_eq, Option.none_or, Option.map_none]
      split <;> rfl

/-- Where sections are apart, each configures the rule that it denotes. -/
theorem sectionFor?_eq_some_of_mem {sections : List (String × RuleSection)}
    (once : sections.Pairwise Apart)
    {entry : String × RuleSection}
    (member : entry ∈ sections)
    {info : RuleInfo}
    (denoted : info.IsDenotedBy entry.1) :
    sectionFor? sections info = some entry.2 := by
  have distinct : (sections.map fun entry => RuleName.normalize entry.1).Nodup :=
    List.pairwise_map.mpr once
  rw [sectionFor?, show RuleName.normalize info.id = RuleName.normalize entry.1 from denoted,
    find?_eq_some_of_nodup_keys distinct member]
  rfl

/-- The settings at some point of a pass are those of the rules of the catalogue. -/
def Progress.HasIds (progress : Progress) (catalog : List RuleInfo) : Prop :=
  ∀ id, id ∈ progress.rules.map Prod.fst ↔ id ∈ catalog.map (·.id)

theorem hasIds_defaults (catalog : List RuleInfo) :
    Progress.HasIds
      { rules := Sorted.ofList (catalog.map fun info => (info.id, RuleSettings.ofInfo info)) }
      catalog := by
  intro id
  rw [Sorted.mem_keys_ofList, List.map_map]
  rfl

theorem Progress.HasIds.section {catalog : List RuleInfo} {progress next : Progress}
    {entry : String × RuleSection}
    (ids : progress.HasIds catalog)
    (passed : applySection catalog progress entry = .ok next) :
    next.HasIds catalog := by
  rw [applySection] at passed
  dsimp only at passed
  split at passed
  next => cases passed
  next info found =>
    split at passed
    next => cases passed
    next =>
      rcases bind_eq_ok_iff.mp passed with ⟨complete, _, equal⟩
      cases equal
      intro id
      rw [Sorted.mem_keys_insert, ids id]
      constructor
      · rintro (rfl | known)
        · exact List.mem_map_of_mem (List.mem_of_find?_eq_some found)
        · exact known
      · exact Or.inr

theorem Progress.HasIds.foldlM {catalog : List RuleInfo} {progress result : Progress}
    {sections : List (String × RuleSection)}
    (ids : progress.HasIds catalog)
    (passed : sections.foldlM (applySection catalog) progress = .ok result) :
    result.HasIds catalog := by
  induction sections generalizing progress with
  | nil =>
      cases passed
      exact ids
  | cons entry rest induction =>
      rw [List.foldlM_cons, bind_eq_ok_iff] at passed
      rcases passed with ⟨next, first, restPassed⟩
      exact induction (ids.section first) restPassed

/-- What is known after some sections: which rules they denote, and the settings of all rules. -/
structure Progress.Covers (progress : Progress) (catalog : List RuleInfo)
    (taken : List (String × RuleSection)) : Prop where
  seen : ∀ info ∈ catalog,
    info.id ∈ progress.seen.map Prod.fst ↔ ∃ entry ∈ taken, info.IsDenotedBy entry.1
  ids : progress.HasIds catalog
  rules : ∀ info ∈ catalog, progress.rules.get? info.id = some (settingsUnder taken info)

section Catalog

variable {catalog : List RuleInfo}
  (distinct : (catalog.map fun info => RuleName.normalize info.id).Nodup)

include distinct in
theorem eq_of_denoted {first second : RuleInfo} (firstMember : first ∈ catalog)
    (secondMember : second ∈ catalog) {key : String} (firstDenoted : first.IsDenotedBy key)
    (secondDenoted : second.IsDenotedBy key) :
    first = second :=
  List.inj_on_of_nodup_map distinct firstMember secondMember
    (firstDenoted.trans secondDenoted.symm)

include distinct in
theorem find?_denoted_eq_some_iff {key : String} {info : RuleInfo} :
    catalog.find? (fun info => RuleName.normalize info.id == RuleName.normalize key) =
        some info ↔
      info ∈ catalog ∧ info.IsDenotedBy key := by
  constructor
  · intro found
    have denoted := List.find?_some found
    exact ⟨List.mem_of_find?_eq_some found, beq_iff_eq.mp denoted⟩
  · rintro ⟨member, denoted⟩
    rw [show RuleName.normalize key = RuleName.normalize info.id from denoted.symm]
    exact find?_eq_some_of_nodup_keys distinct member

include distinct in
theorem nodup_ids : (catalog.map (·.id)).Nodup := by
  apply List.Nodup.of_map RuleName.normalize
  rw [List.map_map]
  exact distinct

include distinct in
/-- The settings of all rules before any section are the defaults. -/
theorem covers_defaults :
    Progress.Covers
      { rules := Sorted.ofList (catalog.map fun info => (info.id, RuleSettings.ofInfo info)) }
      catalog [] where
  seen := by simp
  ids := hasIds_defaults catalog
  rules := by
    intro info member
    have keys :
        ((catalog.map fun info => (info.id, RuleSettings.ofInfo info)).map Prod.fst).Nodup := by
      rw [List.map_map]
      exact nodup_ids distinct
    rw [Sorted.get?_ofList]
    exact lastValue?_eq_some_of_mem keys (List.mem_map_of_mem member)

variable {progress : Progress} {taken : List (String × RuleSection)}
  (covers : progress.Covers catalog taken)

include distinct covers in
/-- The exact condition under which a section passes, and what it leaves behind. -/
theorem applySection_eq_ok_iff {entry : String × RuleSection} {next : Progress} :
    applySection catalog progress entry = .ok next ↔
      ∃ info ∈ catalog,
        info.IsDenotedBy entry.1 ∧ (∀ configured ∈ entry.2.thresholds, info.Takes configured) ∧
          (∀ earlier ∈ taken, Apart earlier entry) ∧
            { seen := (info.id, entry.1) :: progress.seen
              rules :=
                progress.rules.insert info.id
                  (configure entry.2 (RuleSettings.ofInfo info)) } = next := by
  have passes (info : RuleInfo) (member : info ∈ catalog) (denoted : info.IsDenotedBy entry.1) :
      (progress.seen.find? (·.1 == info.id) = none ↔ ∀ earlier ∈ taken, Apart earlier entry) := by
    have unseen : progress.seen.find? (·.1 == info.id) = none ↔
        info.id ∉ progress.seen.map Prod.fst := by
      simp only [List.find?_eq_none, List.mem_map, beq_iff_eq, not_exists, not_and]
    rw [unseen, covers.seen info member]
    simp only [not_exists, not_and, Apart, RuleInfo.IsDenotedBy] at denoted ⊢
    rw [denoted]
    simp only [@eq_comm _ (RuleName.normalize entry.1)]
  rw [applySection]
  cases found : catalog.find?
      fun info => RuleName.normalize info.id == RuleName.normalize entry.1 with
  | none =>
      have unknown : ∀ info ∈ catalog, ¬ info.IsDenotedBy entry.1 := by
        intro info member denoted
        rw [(find?_denoted_eq_some_iff distinct).mpr ⟨member, denoted⟩] at found
        cases found
      constructor
      · intro passed
        cases passed
      · rintro ⟨info, member, denoted, _⟩
        exact absurd denoted (unknown info member)
  | some info =>
      rcases (find?_denoted_eq_some_iff distinct).mp found with ⟨member, denoted⟩
      have only : ∀ other ∈ catalog, other.IsDenotedBy entry.1 → other = info :=
        fun other otherMember otherDenoted =>
          eq_of_denoted distinct otherMember member otherDenoted denoted
      have unseen := passes info member denoted
      dsimp only
      cases seen : progress.seen.find? (·.1 == info.id) with
      | some earlier =>
          constructor
          · intro passed
            cases passed
          · rintro ⟨other, otherMember, otherDenoted, _, apart, _⟩
            rw [← unseen, seen] at apart
            cases apart
      | none =>
          have apart := unseen.mp seen
          have present : (progress.rules.get? info.id).getD (RuleSettings.ofInfo info) =
              RuleSettings.ofInfo info := by
            have noSection : sectionFor? taken info = none := by
              rw [sectionFor?_eq_none_iff]
              intro earlier isEarlier earlierDenoted
              exact apart earlier isEarlier (earlierDenoted.symm.trans denoted)
            rw [covers.rules info member, settingsUnder, noSection]
            rfl
          simp only [bind_eq_ok_iff, foldlM_applyThreshold_eq_ok_iff, present]
          constructor
          · rintro ⟨_, ⟨taken, rfl⟩, equal⟩
            cases equal
            exact ⟨info, member, denoted, taken, apart, rfl⟩
          · rintro ⟨other, otherMember, otherDenoted, taken, _, rfl⟩
            rw [only other otherMember otherDenoted] at taken ⊢
            exact ⟨_, ⟨taken, rfl⟩, rfl⟩

include distinct covers in
/-- A section that passes is covered from then on. -/
theorem covers_section {entry : String × RuleSection} {next : Progress}
    (passed : applySection catalog progress entry = .ok next) :
    next.Covers catalog (taken ++ [entry]) := by
  have hasIds := covers.ids.section passed
  rcases (applySection_eq_ok_iff distinct covers).mp passed with
    ⟨info, member, denoted, _, apart, rfl⟩
  have ids := nodup_ids distinct
  have sameId (other : RuleInfo) (otherMember : other ∈ catalog) :
      other.id = info.id ↔ other.IsDenotedBy entry.1 := by
    constructor
    · intro same
      rw [List.inj_on_of_nodup_map ids otherMember member same]
      exact denoted
    · intro otherDenoted
      rw [eq_of_denoted distinct otherMember member otherDenoted denoted]
  refine { seen := ?seen, ids := hasIds, rules := ?rules }
  case seen =>
    intro other otherMember
    rw [List.map_cons, List.mem_cons, covers.seen other otherMember, sameId other otherMember]
    simp only [List.mem_append, List.mem_singleton, or_and_right, exists_or, exists_eq_left]
    exact or_comm
  case rules =>
    intro other otherMember
    have spelled :
        RuleName.normalize entry.1 = RuleName.normalize other.id ↔ info.id = other.id :=
      eq_comm.trans ((sameId other otherMember).symm.trans eq_comm)
    rw [Sorted.get?_insert, settingsUnder, sectionFor?_append_singleton]
    by_cases same : info.id = other.id
    · have isRule : other = info := List.inj_on_of_nodup_map ids otherMember member same.symm
      have noSection : sectionFor? taken other = none := by
        rw [sectionFor?_eq_none_iff]
        intro earlier isEarlier earlierDenoted
        rw [isRule] at earlierDenoted
        exact apart earlier isEarlier (earlierDenoted.symm.trans denoted)
      rw [if_pos same, if_pos (spelled.mpr same), noSection, isRule]
      rfl
    · rw [if_neg same, if_neg (mt spelled.mp same), Option.or_none, covers.rules other otherMember]
      rfl

include distinct covers in
/-- When all sections pass, each of them fits, no two denote the same rule, and all are covered. -/
theorem covers_foldlM_applySection {sections : List (String × RuleSection)} {result : Progress}
    (passed : sections.foldlM (applySection catalog) progress = .ok result) :
    (∀ entry ∈ sections, FitsSection catalog entry) ∧ sections.Pairwise Apart ∧
      (∀ earlier ∈ taken, ∀ entry ∈ sections, Apart earlier entry) ∧
        result.Covers catalog (taken ++ sections) := by
  induction sections generalizing progress taken with
  | nil =>
      cases passed
      rw [List.append_nil]
      exact ⟨by simp, List.Pairwise.nil, by simp, covers⟩
  | cons entry rest induction =>
      rw [List.foldlM_cons, bind_eq_ok_iff] at passed
      rcases passed with ⟨next, first, restPassed⟩
      rcases (applySection_eq_ok_iff distinct covers).mp first with
        ⟨info, member, denoted, takes, apart, _⟩
      rcases induction (covers_section distinct covers first) restPassed with
        ⟨restFits, restOnce, restApart, restCovers⟩
      rw [List.append_assoc] at restCovers
      refine ⟨?_, ?_, ?_, restCovers⟩
      · exact List.forall_mem_cons.mpr ⟨⟨info, member, denoted, takes⟩, restFits⟩
      · apply List.Pairwise.cons ?_ restOnce
        exact restApart entry (List.mem_append_right taken List.mem_cons_self)
      · intro earlier isEarlier
        rw [List.forall_mem_cons]
        exact ⟨apart earlier isEarlier, restApart earlier (List.mem_append_left [entry] isEarlier)⟩

include distinct covers in
/-- Sections pass when each of them fits and no two denote the same rule. -/
theorem exists_foldlM_applySection {sections : List (String × RuleSection)}
    (fits : ∀ entry ∈ sections, FitsSection catalog entry)
    (once : sections.Pairwise Apart)
    (apart : ∀ earlier ∈ taken, ∀ entry ∈ sections, Apart earlier entry) :
    ∃ result, sections.foldlM (applySection catalog) progress = .ok result := by
  induction sections generalizing progress taken with
  | nil => exact ⟨progress, rfl⟩
  | cons entry rest induction =>
      rcases fits entry List.mem_cons_self with ⟨info, member, denoted, takes⟩
      have first := (applySection_eq_ok_iff distinct covers).mpr
        ⟨info, member, denoted, takes,
          fun earlier isEarlier => apart earlier isEarlier entry List.mem_cons_self, rfl⟩
      rw [List.foldlM_cons, first]
      rcases List.pairwise_cons.mp once with ⟨entryApart, restOnce⟩
      apply induction (covers_section distinct covers first) _ restOnce
      · intro earlier isEarlier later isLater
        rcases List.mem_append.mp isEarlier with isTaken | isEntry
        · exact apart earlier isTaken later (List.mem_cons_of_mem entry isLater)
        · rw [List.mem_singleton.mp isEntry]
          exact entryApart later isLater
      · exact fun later isLater => fits later (List.mem_cons_of_mem entry isLater)

end Catalog

/-! ## Whole documents -/

/-- Whether a rule is on under a document: on, unless its section says something else. -/
def enabledFor (settings : Settings) (info : RuleInfo) : Bool :=
  ((sectionFor? settings.rules info).bind (·.enabled)).getD true

/-- The threshold of a rule under a document: the configured number, else the declared default. -/
def thresholdFor? (settings : Settings) (info : RuleInfo) (name : String) : Option Float :=
  ((sectionFor? settings.rules info).bind (·.number? name)).or (info.default? name)

/-- What a document has to be for a catalogue of rules. -/
structure IsValid (settings : Settings) (catalog : List RuleInfo) : Prop where
  workers : IsCount 0 (some 256) settings.workers
  minDuplicateStatements : IsCount 1 none settings.minDuplicateStatements
  perFileTimeoutMs : IsCount 1 none settings.perFileTimeoutMs
  similarity : IsSimilarity settings.duplicationSimilarityThreshold
  rulesKnown : ∀ entry ∈ settings.rules, ∃ info ∈ catalog, info.IsDenotedBy entry.1
  rulesOnce :
    settings.rules.Pairwise fun first second =>
      RuleName.normalize first.1 ≠ RuleName.normalize second.1
  thresholdsTaken :
    ∀ entry ∈ settings.rules, ∀ info ∈ catalog, info.IsDenotedBy entry.1 →
      ∀ configured ∈ entry.2.thresholds, info.Takes configured
  /-- The distance up to which names are similar is below the length from which they count. -/
  distanceBelowLength :
    ∀ info ∈ catalog, info.id = "SimilarNames" → ∀ distance length,
      settings.thresholdFor? info "maxEditDistance" = some distance →
        settings.thresholdFor? info "minNameLength" = some length → distance < length

/--
Resolved settings are those of a document, completed by the machine and the defaults of a catalogue.
-/
structure CompletedBy (settings : Settings) (machine : Machine) (catalog : List RuleInfo)
    (resolved : ResolvedSettings) : Prop where
  workers : resolved.workers = effectiveWorkers machine ((count? settings.workers).getD 0)
  minDuplicateStatements :
    resolved.minDuplicateStatements =
      (count? settings.minDuplicateStatements).getD defaultMinDuplicateStatements
  perFileTimeoutMs :
    resolved.perFileTimeoutMs =
      (count? settings.perFileTimeoutMs).getD defaultPerFileTimeoutMs
  similarity :
    resolved.duplicationSimilarityThreshold =
      (settings.duplicationSimilarityThreshold.bind SettingValue.number?).getD defaultSimilarity
  rules :
    ∀ info ∈ catalog, ∃ own,
      resolved.rule? info.id = some own ∧ own.enabled = settings.enabledFor info ∧
        ∀ name, own.threshold? name = settings.thresholdFor? info name
  noOthers : ∀ id, id ∉ catalog.map (·.id) → resolved.rule? id = none
  /-- A key leads to the rule that its section configures. -/
  canonical :
    ∀ entry ∈ settings.rules, ∃ info ∈ catalog,
      info.IsDenotedBy entry.1 ∧ resolved.canonicalId? entry.1 = some info.id ∧
        sectionFor? settings.rules info = some entry.2

theorem checkConflicts_eq_ok_iff {resolved : ResolvedSettings} {result : Unit} :
    checkConflicts resolved = .ok result ↔
      ∀ distance length,
        resolved.threshold? "SimilarNames" "maxEditDistance" = some distance →
          resolved.threshold? "SimilarNames" "minNameLength" = some length →
            ¬ length ≤ distance := by
  rw [checkConflicts]
  cases resolved.threshold? "SimilarNames" "maxEditDistance" with
  | none => simp
  | some distance =>
      cases resolved.threshold? "SimilarNames" "minNameLength" with
      | none => simp
      | some length =>
          have of_both {holds : Float → Float → Prop} :
              (∀ first second, some distance = some first → some length = some second →
                holds first second) ↔ holds distance length := by
            constructor
            · intro every
              exact every distance length rfl rfl
            · rintro each _ _ ⟨⟩ ⟨⟩
              exact each
          rw [of_both]
          by_cases reaches : length ≤ distance <;> simp [reaches]

/-- A document resolves when its global values and its sections pass and nothing conflicts. -/
theorem resolve_eq_ok_iff {settings : Settings} {machine : Machine} {catalog : List RuleInfo}
    {resolved : ResolvedSettings} :
    settings.resolve machine catalog = .ok resolved ↔
      IsCount 0 (some 256) settings.workers ∧
        IsCount 1 none settings.minDuplicateStatements ∧
        IsCount 1 none settings.perFileTimeoutMs ∧
        IsSimilarity settings.duplicationSimilarityThreshold ∧
        ∃ progress,
          settings.rules.foldlM (applySection catalog)
              { rules :=
                  Sorted.ofList (catalog.map fun info => (info.id, RuleSettings.ofInfo info)) } =
            .ok progress ∧
          { workers := effectiveWorkers machine ((count? settings.workers).getD 0)
            minDuplicateStatements :=
              (count? settings.minDuplicateStatements).getD defaultMinDuplicateStatements
            duplicationSimilarityThreshold :=
              (settings.duplicationSimilarityThreshold.bind SettingValue.number?).getD
                defaultSimilarity
            perFileTimeoutMs :=
              (count? settings.perFileTimeoutMs).getD defaultPerFileTimeoutMs
            rules := progress.rules } = resolved ∧
          checkConflicts resolved = .ok () := by
  simp only [resolve, bind_eq_ok_iff, globalCount_eq_ok_iff, similarity_eq_ok_iff]
  constructor
  · rintro ⟨_, ⟨workers, rfl⟩, _, ⟨statements, rfl⟩, _, ⟨timeout, rfl⟩, _, ⟨similar, rfl⟩,
      progress, passed, _, free, equal⟩
    cases equal
    exact ⟨workers, statements, timeout, similar, progress, passed, rfl, free⟩
  · rintro ⟨workers, statements, timeout, similar, progress, passed, rfl, free⟩
    exact ⟨_, ⟨workers, rfl⟩, _, ⟨statements, rfl⟩, _, ⟨timeout, rfl⟩, _, ⟨similar, rfl⟩,
      progress, passed, _, free, rfl⟩

/-- Resolved settings are those of the rules of the catalogue. -/
theorem mem_ruleIds_iff_of_resolve {settings : Settings} {machine : Machine}
    {catalog : List RuleInfo} {resolved : ResolvedSettings}
    (accepted : settings.resolve machine catalog = .ok resolved)
    (id : String) :
    id ∈ resolved.ruleIds ↔ id ∈ catalog.map (·.id) := by
  rcases resolve_eq_ok_iff.mp accepted with ⟨_, _, _, _, progress, passed, rfl, _⟩
  have hasIds := (hasIds_defaults catalog).foldlM passed
  exact hasIds id

/-- A resolved document has at least one worker, and no more than can be configured. -/
theorem workers_of_resolve {settings : Settings} {machine : Machine} {catalog : List RuleInfo}
    {resolved : ResolvedSettings}
    (accepted : settings.resolve machine catalog = .ok resolved) :
    0 < resolved.workers ∧ resolved.workers ≤ 256 := by
  rcases resolve_eq_ok_iff.mp accepted with ⟨isCount, _, _, _, _, _, rfl, _⟩
  have some_le : (count? settings.workers).getD 0 ≤ 256 := by
    cases given : settings.workers with
    | none => exact Nat.zero_le _
    | some value =>
        rcases isCount value given with ⟨word, rfl, _, most⟩
        have bounded := most 256 rfl
        simp only [count?, Option.getD_some]
        omega
  have available := machine.threads_pos
  simp only [effectiveWorkers, maxWorkers]
  split <;> omega

section Whole

variable {settings : Settings} {machine : Machine} {catalog : List RuleInfo}
  (distinct : (catalog.map fun info => RuleName.normalize info.id).Nodup)

/-- The number that a section gives for a name is the last of its numbers under the name. -/
theorem lastValue?_map_numbered {configured : RuleSection} {info : RuleInfo}
    (takes : ∀ entry ∈ configured.thresholds, info.Takes entry) (name : String) :
    lastValue? (configured.thresholds.map numbered) name = configured.number? name := by
  have sameSearch :
      lastValue? (configured.thresholds.map numbered) name =
        (lastValue? configured.thresholds name).map fun value => value.number?.getD 0 := by
    rw [lastValue?, lastValue?, ← List.map_reverse, List.find?_map, Option.map_map, Option.map_map]
    rfl
  rw [sameSearch, RuleSection.number?]
  cases found : lastValue? configured.thresholds name with
  | none => rfl
  | some value =>
      rcases takes _ (mem_of_lastValue?_eq_some found) with ⟨_, number, _, isNumber, _⟩
      rw [Option.map_some, Option.bind_some, isNumber]
      rfl

theorem threshold?_ofInfo (info : RuleInfo) (name : String) :
    (RuleSettings.ofInfo info).threshold? name = info.default? name :=
  Sorted.get?_ofList _ name

/-- The settings of a rule under a document are the configured values, else the defaults. -/
theorem settingsUnder_eq {info : RuleInfo}
    (takes :
      ∀ configured, sectionFor? settings.rules info = some configured →
        ∀ entry ∈ configured.thresholds, info.Takes entry) :
    (settingsUnder settings.rules info).enabled = settings.enabledFor info ∧
      ∀ name, (settingsUnder settings.rules info).threshold? name =
        settings.thresholdFor? info name := by
  simp only [settingsUnder, enabledFor, thresholdFor?]
  cases found : sectionFor? settings.rules info with
  | none => exact ⟨rfl, threshold?_ofInfo info⟩
  | some configured =>
      refine ⟨rfl, ?_⟩
      intro name
      rw [Option.elim_some, Option.bind_some, ← lastValue?_map_numbered (takes configured found),
        ← threshold?_ofInfo]
      exact Sorted.get?_insertAll _ _ name

theorem takes_of_fitsSection {info : RuleInfo}
    (distinct : (catalog.map fun info => RuleName.normalize info.id).Nodup)
    (member : info ∈ catalog)
    {entry : String × RuleSection}
    (denoted : info.IsDenotedBy entry.1)
    (fits : FitsSection catalog entry) :
    ∀ configured ∈ entry.2.thresholds, info.Takes configured := by
  rcases fits with ⟨other, otherMember, otherDenoted, takes⟩
  rw [eq_of_denoted distinct member otherMember denoted otherDenoted]
  exact takes

theorem exists_entry_of_sectionFor? {info : RuleInfo} {configured : RuleSection}
    (found : sectionFor? settings.rules info = some configured) :
    ∃ entry ∈ settings.rules, info.IsDenotedBy entry.1 ∧ entry.2 = configured := by
  rcases Option.map_eq_some_iff.mp found with ⟨entry, isFound, equal⟩
  have denoted := List.find?_some isFound
  exact ⟨entry, List.mem_of_find?_eq_some isFound, (beq_iff_eq.mp denoted).symm, equal⟩

include distinct in
/-- What a resolved document holds of a rule of the catalogue. -/
theorem threshold?_of_covers {progress : Progress} {resolved : ResolvedSettings}
    (fits : ∀ entry ∈ settings.rules, FitsSection catalog entry)
    (covers : progress.Covers catalog settings.rules)
    (rules : resolved.rules = progress.rules)
    {info : RuleInfo}
    (member : info ∈ catalog) :
    ∃ own,
      resolved.rule? info.id = some own ∧ own.enabled = settings.enabledFor info ∧
        ∀ name, own.threshold? name = settings.thresholdFor? info name := by
  refine ⟨settingsUnder settings.rules info, ?_, settingsUnder_eq ?_⟩
  · rw [ResolvedSettings.rule?, rules]
    exact covers.rules info member
  · intro configured found
    rcases exists_entry_of_sectionFor? found with ⟨entry, isEntry, denoted, rfl⟩
    exact takes_of_fitsSection distinct member denoted (fits entry isEntry)

/-- What a document makes of a threshold is a number, unless the default is none. -/
theorem isNaN_eq_false_of_thresholdFor? {info : RuleInfo}
    (takes :
      ∀ configured, sectionFor? settings.rules info = some configured →
        ∀ entry ∈ configured.thresholds, info.Takes entry)
    (defaults : ∀ threshold ∈ info.thresholds, threshold.default.isNaN = false)
    {name : String} {number : Float}
    (found : settings.thresholdFor? info name = some number) :
    number.isNaN = false := by
  rw [thresholdFor?, Option.or_eq_some_iff] at found
  rcases found with configured | ⟨_, isDefault⟩
  · rcases Option.bind_eq_some_iff.mp configured with ⟨configured, isSection, isNumber⟩
    rcases Option.bind_eq_some_iff.mp isNumber with ⟨value, isValue, isNumber⟩
    rcases takes configured isSection _ (mem_of_lastValue?_eq_some isValue) with
      ⟨threshold, taken, _, isTaken, accepts⟩
    rw [isTaken] at isNumber
    rw [← Option.some.inj isNumber]
    exact isNaN_eq_false_of_isFinite accepts.finite
  · rcases List.mem_map.mp (mem_of_lastValue?_eq_some isDefault) with ⟨threshold, member, equal⟩
    cases equal
    exact defaults threshold member

include distinct in
/--
Nothing conflicts in a resolved document when the rule on similar names has its bounds in order.
-/
theorem checkConflicts_of_covers_iff {progress : Progress} {resolved : ResolvedSettings}
    (defaults : ∀ info ∈ catalog, ∀ threshold ∈ info.thresholds, threshold.default.isNaN = false)
    (fits : ∀ entry ∈ settings.rules, FitsSection catalog entry)
    (covers : progress.Covers catalog settings.rules)
    (rules : resolved.rules = progress.rules) :
    checkConflicts resolved = .ok () ↔
      ∀ info ∈ catalog, info.id = "SimilarNames" → ∀ distance length,
        settings.thresholdFor? info "maxEditDistance" = some distance →
          settings.thresholdFor? info "minNameLength" = some length → distance < length := by
  have below_iff (info : RuleInfo) (member : info ∈ catalog) (distance length : Float)
      (isDistance : settings.thresholdFor? info "maxEditDistance" = some distance)
      (isLength : settings.thresholdFor? info "minNameLength" = some length) :
      ¬ length ≤ distance ↔ distance < length := by
    have takes (configured : RuleSection)
        (found : sectionFor? settings.rules info = some configured) :
        ∀ entry ∈ configured.thresholds, info.Takes entry := by
      rcases exists_entry_of_sectionFor? found with ⟨entry, isEntry, denoted, rfl⟩
      exact takes_of_fitsSection distinct member denoted (fits entry isEntry)
    have isNumber {name : String} {number : Float} :=
      @isNaN_eq_false_of_thresholdFor? settings info takes (defaults info member) name number
    rw [not_le_iff_lt_or_isNaN, isNumber isDistance, isNumber isLength]
    simp
  have threshold (info : RuleInfo) (member : info ∈ catalog) (name : String) :
      resolved.threshold? info.id name = settings.thresholdFor? info name := by
    rcases threshold?_of_covers distinct fits covers rules member with ⟨own, isOwn, _, same⟩
    rw [ResolvedSettings.threshold?, isOwn]
    exact same name
  rw [checkConflicts_eq_ok_iff]
  constructor
  · intro below info member isSimilarNames distance length isDistance isLength
    rw [← below_iff info member distance length isDistance isLength]
    rw [← threshold info member, isSimilarNames] at isDistance isLength
    exact below distance length isDistance isLength
  · intro below distance length isDistance isLength
    by_cases known : "SimilarNames" ∈ catalog.map (·.id)
    · rcases List.mem_map.mp known with ⟨info, member, isSimilarNames⟩
      rw [← isSimilarNames, threshold info member] at isDistance isLength
      rw [below_iff info member distance length isDistance isLength]
      exact below info member isSimilarNames distance length isDistance isLength
    · have missing : resolved.rule? "SimilarNames" = none := by
        rw [ResolvedSettings.rule?, rules, Sorted.get?_eq_none_iff, covers.ids]
        exact known
      rw [ResolvedSettings.threshold?, missing] at isDistance
      cases isDistance

include distinct in
theorem isValid_and_completedBy_of_resolve {resolved : ResolvedSettings}
    (defaults : ∀ info ∈ catalog, ∀ threshold ∈ info.thresholds, threshold.default.isNaN = false)
    (accepted : settings.resolve machine catalog = .ok resolved) :
    settings.IsValid catalog ∧ settings.CompletedBy machine catalog resolved := by
  rcases resolve_eq_ok_iff.mp accepted with
    ⟨workers, statements, timeout, similar, progress, passed, isResolved, free⟩
  have rules : resolved.rules = progress.rules := by rw [← isResolved]
  rcases covers_foldlM_applySection distinct (covers_defaults distinct) passed with
    ⟨fits, once, _, covers⟩
  rw [List.nil_append] at covers
  constructor
  · exact
      { workers := workers
        minDuplicateStatements := statements
        perFileTimeoutMs := timeout
        similarity := similar
        rulesKnown := by
          intro entry isEntry
          rcases fits entry isEntry with ⟨info, member, denoted, _⟩
          exact ⟨info, member, denoted⟩
        rulesOnce := once
        thresholdsTaken := fun entry isEntry info member denoted =>
          takes_of_fitsSection distinct member denoted (fits entry isEntry)
        distanceBelowLength :=
          (checkConflicts_of_covers_iff distinct defaults fits covers rules).mp free }
  · constructor
    case rules =>
      exact fun info member => threshold?_of_covers distinct fits covers rules member
    case noOthers =>
      intro id unknown
      rw [ResolvedSettings.rule?, rules, Sorted.get?_eq_none_iff, covers.ids]
      exact unknown
    case canonical =>
      intro entry isEntry
      rcases fits entry isEntry with ⟨info, member, denoted, _⟩
      refine ⟨info, member, denoted, ?_, sectionFor?_eq_some_of_mem once isEntry denoted⟩
      -- The ids of the result are those of the catalogue, so the search finds the same rule.
      have present : info.id ∈ resolved.ruleIds := by
        rw [ResolvedSettings.ruleIds, rules]
        exact (covers.ids info.id).mpr (List.mem_map_of_mem member)
      have isSome : (resolved.canonicalId? entry.1).isSome = true := by
        rw [ResolvedSettings.canonicalId?, List.find?_isSome]
        exact ⟨info.id, present, beq_iff_eq.mpr denoted⟩
      rcases Option.isSome_iff_exists.mp isSome with ⟨id, found⟩
      have isId : id ∈ resolved.ruleIds := List.mem_of_find?_eq_some found
      rw [ResolvedSettings.ruleIds, rules] at isId
      rcases List.mem_map.mp ((covers.ids id).mp isId) with ⟨other, otherMember, rfl⟩
      have otherDenoted := List.find?_some found
      rw [found, eq_of_denoted distinct otherMember member (beq_iff_eq.mp otherDenoted) denoted]
    all_goals rw [← isResolved]

include distinct in
theorem IsValid.exists_resolve (machine : Machine)
    (defaults : ∀ info ∈ catalog, ∀ threshold ∈ info.thresholds, threshold.default.isNaN = false)
    (valid : settings.IsValid catalog) :
    ∃ resolved, settings.resolve machine catalog = .ok resolved := by
  have fits : ∀ entry ∈ settings.rules, FitsSection catalog entry := by
    intro entry isEntry
    rcases valid.rulesKnown entry isEntry with ⟨info, member, denoted⟩
    exact ⟨info, member, denoted, valid.thresholdsTaken entry isEntry info member denoted⟩
  have start := covers_defaults distinct
  rcases exists_foldlM_applySection distinct start fits valid.rulesOnce (by simp) with
    ⟨progress, passed⟩
  have covers := (covers_foldlM_applySection distinct start passed).2.2.2
  rw [List.nil_append] at covers
  refine ⟨_, resolve_eq_ok_iff.mpr ⟨valid.workers, valid.minDuplicateStatements,
    valid.perFileTimeoutMs, valid.similarity, progress, passed, rfl, ?_⟩⟩
  exact (checkConflicts_of_covers_iff distinct defaults fits covers rfl).mpr
    valid.distanceBelowLength

end Whole

/--
A document resolves against a catalogue of rules, in which every default is a number, exactly when
it is valid for it, and then it resolves to its completion by the machine and the defaults of the
catalogue.
-/
theorem resolve_iff_isValid_and_completes
    (settings : Settings)
    (machine : Machine)
    (catalog : List RuleInfo)
    (distinct : (catalog.map fun info => RuleName.normalize info.id).Nodup)
    (defaults :
      ∀ info ∈ catalog, ∀ threshold ∈ info.thresholds, threshold.default.isNaN = false) :
    ((∃ resolved, settings.resolve machine catalog = .ok resolved) ↔ settings.IsValid catalog) ∧
      ∀ resolved,
        settings.resolve machine catalog = .ok resolved →
          settings.CompletedBy machine catalog resolved := by
  constructor
  · constructor
    · rintro ⟨resolved, accepted⟩
      exact (isValid_and_completedBy_of_resolve distinct defaults accepted).1
    · exact IsValid.exists_resolve distinct machine defaults
  · intro resolved accepted
    exact (isValid_and_completedBy_of_resolve distinct defaults accepted).2

/--
Two sections in two spellings, one of them with a threshold, resolve against three rules; two
sections for one rule do not.
-/
theorem resolve_two_spellings :
    let catalog := [Rule.magicLiteral.info, Rule.redundantComment.info, Rule.similarNames.info]
    let settings : Settings :=
      { workers := some (.integer 256)
        rules :=
          [("magic-literal", { enabled := some false }),
            ("redundant_comment", { thresholds := [("overlapThreshold", .float 0.5)] })] }
    let doubled : Settings :=
      { rules := [("MagicLiteral", {}), ("magic-literal", { enabled := some false })] }
    (catalog.map fun info => RuleName.normalize info.id).Nodup ∧
      (∃ resolved,
        settings.resolve {} catalog = .ok resolved ∧ resolved.workers = 256 ∧
          resolved.isEnabled "MagicLiteral" = false ∧
          resolved.isEnabled "RedundantComment" = true ∧
          resolved.threshold? "RedundantComment" "overlapThreshold" = some 0.5 ∧
          resolved.canonicalId? "magic-literal" = some "MagicLiteral") ∧
      ¬ ∃ resolved, doubled.resolve {} catalog = .ok resolved := by
  intro catalog settings doubled
  have distinct : (catalog.map fun info => RuleName.normalize info.id).Nodup := by decide +kernel
  have defaults :
      ∀ info ∈ catalog, ∀ threshold ∈ info.thresholds, threshold.default.isNaN = false := by
    decide +kernel
  have accepted := resolve_iff_isValid_and_completes settings {} catalog distinct defaults
  have refused := resolve_iff_isValid_and_completes doubled {} catalog distinct defaults
  refine ⟨distinct, ?_, ?_⟩
  · have literal : Rule.magicLiteral.info ∈ catalog := List.mem_cons_self
    have comment : Rule.redundantComment.info ∈ catalog :=
      List.mem_cons_of_mem _ List.mem_cons_self
    have names : Rule.similarNames.info ∈ catalog :=
      List.mem_cons_of_mem _ (List.mem_cons_of_mem _ List.mem_cons_self)
    have literalKey : Rule.magicLiteral.info.IsDenotedBy "magic-literal" := by
      decide +kernel
    have commentKey : Rule.redundantComment.info.IsDenotedBy "redundant_comment" := by
      decide +kernel
    have valid : settings.IsValid catalog := by
      constructor
      case workers =>
        rintro given ⟨⟩
        exact ⟨256, rfl, by decide, by rintro limit ⟨⟩; decide⟩
      case minDuplicateStatements => rintro given ⟨⟩
      case perFileTimeoutMs => rintro given ⟨⟩
      case similarity => rintro given ⟨⟩
      case rulesKnown =>
        rw [List.forall_mem_cons, List.forall_mem_singleton]
        exact ⟨⟨_, literal, literalKey⟩, ⟨_, comment, commentKey⟩⟩
      case rulesOnce => exact List.pairwise_pair.mpr (by decide +kernel)
      case thresholdsTaken =>
        rw [List.forall_mem_cons, List.forall_mem_singleton]
        constructor
        · rintro info member denoted entry ⟨⟩
        · intro info member denoted
          rw [eq_of_denoted distinct member comment denoted commentKey]
          rw [List.forall_mem_singleton]
          refine ⟨_, 0.5, rfl, rfl, by decide +kernel, ?_, by decide +kernel, ?_⟩
          · rintro ⟨⟩
          · rintro most ⟨⟩
            decide +kernel
      case distanceBelowLength =>
        intro info member isSimilarNames distance length isDistance isLength
        have isRule : info = Rule.similarNames.info :=
          List.inj_on_of_nodup_map (nodup_ids distinct) member names isSimilarNames
        have noSection : sectionFor? settings.rules Rule.similarNames.info = none := by
          decide +kernel
        rw [isRule, thresholdFor?, noSection] at isDistance isLength
        rw [← Option.some.inj isDistance, ← Option.some.inj isLength]
        decide +kernel
    rcases accepted.1.mpr valid with ⟨resolved, isResolved⟩
    have completed := accepted.2 resolved isResolved
    refine ⟨resolved, isResolved, completed.workers, ?_, ?_, ?_, ?_⟩
    · rcases completed.rules _ literal with ⟨own, isOwn, enabled, _⟩
      show (resolved.rule? Rule.magicLiteral.info.id).any (·.enabled) = false
      rw [isOwn, Option.any_some, enabled]
      decide +kernel
    · rcases completed.rules _ comment with ⟨own, isOwn, enabled, _⟩
      show (resolved.rule? Rule.redundantComment.info.id).any (·.enabled) = true
      rw [isOwn, Option.any_some, enabled]
      decide +kernel
    · rcases completed.rules _ comment with ⟨own, isOwn, _, threshold⟩
      show (resolved.rule? Rule.redundantComment.info.id).bind _ = some 0.5
      rw [isOwn, Option.bind_some, threshold]
      rfl
    · rcases completed.canonical _ List.mem_cons_self with ⟨info, member, denoted, canonical, _⟩
      rw [eq_of_denoted distinct member literal denoted literalKey] at canonical
      exact canonical
  · rw [refused.1]
    intro valid
    have apart := List.pairwise_cons.mp valid.rulesOnce
    exact apart.1 _ List.mem_cons_self (by decide +kernel)

end Settings

end StructuralLint
