import Mathlib
import StructuralLint.Proofs.ArrivalOrder

/-!
# Cancelled calls

A call on an engine hands its files to workers that go on independently.  Each worker looks at the
token before it starts on a file, and the call looks at it three more times: at the start, when all
files are settled, and after the comparison.  Anybody who holds the token, also an adapter in the
middle of a file, may cancel between any two of these looks.

A file that breaks down ends the call for whoever waits for it: the call never returns.  A worker
that never comes back from a file is taken to settle the file with its breakdown, since the call
waits for it in any case.

`Run` holds all interleavings of the steps of a call with cancellations.  Nothing takes a
cancellation back, so a file that a worker skipped is still known when all files are settled: what
goes on to the comparison is the outcome of every file.  The main statement says that every call
that no file holds back ends, with the interruption or with the report of a call that nobody
cancels, and that `Engine.analyze` is one of the interleavings.
-/

namespace StructuralLint.Engine

/-- What a worker has made of a file so far. -/
inductive Slot where
  | waiting
  | running
  /-- The worker saw the cancellation and did not start. -/
  | skipped
  | finished (outcome : Except Breakdown FileOutcome)

namespace Slot

/-- Nothing is left to do for the file. -/
def IsSettled : Slot → Prop
  | waiting => False
  | running => False
  | skipped => True
  | finished _ => True

/-- What the file contributes to the comparison. -/
def contribution : Slot → Except Breakdown (List FileOutcome)
  | finished outcome => outcome.map ([·])
  | _ => .ok []

/-- The number of steps that are left for the file. -/
def work : Slot → Nat
  | waiting => 2
  | running => 1
  | skipped => 0
  | finished _ => 0

/-- A file is skipped only after a cancellation, and finished only with its own outcome. -/
def Fits (engine : Engine) (token : Bool) (file : SourceFile) : Slot → Prop
  | waiting => True
  | running => True
  | skipped => token = true
  | finished outcome => outcome = engine.analyzeFile file

end Slot

/-- How far a call has come. -/
inductive Phase where
  | opening
  | reading (slots : List (SourceFile × Slot))
  | comparing (outcomes : List FileOutcome)
  | ended (result : Except Interruption Report)
  /-- A file broke down, and the call never returns. -/
  | lost

/-- A moment of a call: whether the engine was cancelled, and how far the call has come. -/
structure Moment where
  token : Bool
  phase : Phase

/-- What a call goes on with after it looked at the token. -/
def Phase.unlessCancelled (token : Bool) (next : Phase) : Phase :=
  if token then .ended (.error .cancelled) else next

/-- What a call goes on with when all files are settled. -/
def Phase.joined (token : Bool) : Except Breakdown (List FileOutcome) → Phase
  | .ok outcomes => .unlessCancelled token (.comparing outcomes)
  | .error _ => .lost

/-- The phase in which a call has a result, or has none and never will. -/
def Phase.ofResult : Option (Except Interruption Report) → Phase
  | some result => .ended result
  | none => .lost

section Calls

variable (engine : Engine) (files : List SourceFile)

/-- What a call begins with that was not cancelled. -/
def Phase.opened : Phase :=
  match engine.poolFault? with
  | some reason => .ended (.error (.noPool reason))
  | none => .reading (files.map fun file => (file, .waiting))

/-- The next step of a call.  Any worker may be the one that takes it. -/
inductive Advance : Moment → Moment → Prop where
  | start {token : Bool} :
      Advance ⟨token, .opening⟩
        ⟨token, .unlessCancelled token (.opened engine files)⟩
  | take {token : Bool} {before after : List (SourceFile × Slot)} {file : SourceFile} :
      Advance ⟨token, .reading (before ++ (file, .waiting) :: after)⟩
        ⟨token, .reading (before ++ (file, if token then .skipped else .running) :: after)⟩
  | finish {token : Bool} {before after : List (SourceFile × Slot)} {file : SourceFile} :
      Advance ⟨token, .reading (before ++ (file, .running) :: after)⟩
        ⟨token, .reading (before ++ (file, .finished (engine.analyzeFile file)) :: after)⟩
  | join {token : Bool} {slots : List (SourceFile × Slot)}
      (settled : ∀ entry ∈ slots, entry.2.IsSettled) :
      Advance ⟨token, .reading slots⟩
        ⟨token, .joined token (gather (fun entry => entry.2.contribution) slots)⟩
  | report {token : Bool} {outcomes : List FileOutcome} :
      Advance ⟨token, .comparing outcomes⟩
        ⟨token, .unlessCancelled token (.ended (.ok (engine.reportOn files.length outcomes)))⟩

/-- The moments that a call reaches after a number of its own steps, while others cancel at will. -/
inductive Run (first : Moment) : Nat → Moment → Prop where
  | refl : Run first 0 first
  | advance {count : Nat} {moment next : Moment}
      (run : Run first count moment)
      (step : Advance engine files moment next) :
      Run first (count + 1) next
  | cancel {count : Nat} {moment : Moment}
      (run : Run first count moment) :
      Run first count { moment with token := true }

end Calls

/-! ## Cancellations are never taken back -/

section Steps

variable {engine : Engine} {files : List SourceFile}

theorem Advance.token_eq {moment next : Moment}
    (step : Advance engine files moment next) :
    next.token = moment.token := by
  cases step <;> rfl

theorem Run.token_of_token {first moment : Moment} {count : Nat}
    (run : Run engine files first count moment)
    (cancelled : first.token = true) :
    moment.token = true := by
  induction run with
  | refl => exact cancelled
  | advance _ step induction =>
      rw [step.token_eq]
      exact induction
  | cancel => rfl

/-! ## Calls come to an end -/

/-- The number of steps that a call has left at most. -/
def Phase.work (fileCount : Nat) : Phase → Nat
  | opening => 2 * fileCount + 3
  | reading slots => (slots.map fun entry => entry.2.work).sum + 2
  | comparing _ => 1
  | ended _ => 0
  | lost => 0

theorem Phase.work_unlessCancelled_le (fileCount : Nat) (token : Bool) (next : Phase) :
    (Phase.unlessCancelled token next).work fileCount ≤ next.work fileCount := by
  rw [Phase.unlessCancelled]
  split
  · exact Nat.zero_le _
  · exact Nat.le_refl _

theorem Phase.work_opened_le (engine : Engine) (files : List SourceFile) :
    (Phase.opened engine files).work files.length ≤ 2 * files.length + 2 := by
  rw [Phase.opened]
  split
  · exact Nat.zero_le _
  · simp [Phase.work, Slot.work, Function.comp_def, Nat.mul_comm]

theorem Phase.work_joined_le (fileCount : Nat) (token : Bool)
    (outcomes : Except Breakdown (List FileOutcome)) :
    (Phase.joined token outcomes).work fileCount ≤ 1 := by
  cases outcomes with
  | ok outcomes => exact Phase.work_unlessCancelled_le _ _ _
  | error breakdown => exact Nat.zero_le _

theorem Advance.work_lt {moment next : Moment}
    (step : Advance engine files moment next) :
    next.phase.work files.length < moment.phase.work files.length := by
  cases step with
  | start =>
      apply Nat.lt_of_le_of_lt (Phase.work_unlessCancelled_le _ _ _)
      exact Nat.lt_succ_of_le (Phase.work_opened_le engine files)
  | @take token before after file =>
      cases token <;> simp [Phase.work, Slot.work]
  | finish => simp [Phase.work, Slot.work]
  | join =>
      apply Nat.lt_of_le_of_lt (Phase.work_joined_le _ _ _)
      simp [Phase.work]
  | report =>
      apply Nat.lt_of_le_of_lt (Phase.work_unlessCancelled_le _ _ _)
      simp [Phase.work]

/-- Cancellations leave the work as it is, so a call makes no more steps than it had work. -/
theorem Run.count_add_work_le {first moment : Moment} {count : Nat}
    (run : Run engine files first count moment) :
    count + moment.phase.work files.length ≤ first.phase.work files.length := by
  induction run with
  | refl => exact Nat.le_of_eq (Nat.zero_add _)
  | advance _ step induction =>
      have less := step.work_lt
      omega
  | cancel _ induction => exact induction

/-- A call that has not ended can go on, unless a file holds it back for ever. -/
theorem Moment.ended_or_lost_or_advance (moment : Moment) :
    (∃ result, moment.phase = .ended result) ∨ moment.phase = .lost ∨
      ∃ next, Advance engine files moment next := by
  rcases moment with ⟨token, phase⟩
  cases phase with
  | opening => exact Or.inr (Or.inr ⟨_, .start⟩)
  | comparing outcomes => exact Or.inr (Or.inr ⟨_, .report⟩)
  | ended result => exact Or.inl ⟨result, rfl⟩
  | lost => exact Or.inr (Or.inl rfl)
  | reading slots =>
      right
      right
      by_cases settled : ∀ entry ∈ slots, entry.2.IsSettled
      · exact ⟨_, .join settled⟩
      · simp only [not_forall] at settled
        rcases settled with ⟨⟨file, slot⟩, member, unsettled⟩
        rcases List.append_of_mem member with ⟨before, after, rfl⟩
        cases slot with
        | waiting => exact ⟨_, .take⟩
        | running => exact ⟨_, .finish⟩
        | skipped => exact absurd trivial unsettled
        | finished outcome => exact absurd trivial unsettled

/-! ## Nothing but the whole report -/

/-- What holds at every moment of a call over some files. -/
def Moment.Sound (engine : Engine) (files : List SourceFile) (moment : Moment) : Prop :=
  match moment.phase with
  | .opening => True
  | .reading slots =>
      engine.poolFault? = none ∧ slots.map Prod.fst = files ∧
        ∀ entry ∈ slots, entry.2.Fits engine moment.token entry.1
  | .comparing outcomes =>
      engine.poolFault? = none ∧ engine.outcomes .never files = .ok outcomes
  | .ended result => result = .error .cancelled ∨ engine.run .never files = some result
  | .lost => engine.run .never files = none ∧ ¬ engine.WorksThrough files

theorem Moment.sound_unlessCancelled {token : Bool} {next : Phase}
    (sound : token = false → Moment.Sound engine files ⟨token, next⟩) :
    Moment.Sound engine files ⟨token, .unlessCancelled token next⟩ := by
  cases token with
  | true => exact Or.inl rfl
  | false => exact sound rfl

/-- A worker that goes on with its own file leaves the other files as they were. -/
theorem Moment.Sound.set {token : Bool} {before after : List (SourceFile × Slot)}
    {file : SourceFile} {slot changed : Slot}
    (sound : Moment.Sound engine files ⟨token, .reading (before ++ (file, slot) :: after)⟩)
    (fits : changed.Fits engine token file) :
    Moment.Sound engine files ⟨token, .reading (before ++ (file, changed) :: after)⟩ := by
  rcases sound with ⟨pool, names, slotsFit⟩
  refine ⟨pool, by simpa using names, ?_⟩
  intro entry member
  rcases List.mem_append.mp member with earlier | later
  · exact slotsFit entry (List.mem_append_left _ earlier)
  · rcases List.mem_cons.mp later with equal | last
    · rw [equal]
      exact fits
    · exact slotsFit entry (List.mem_append_right _ (List.mem_cons_of_mem _ last))

/-- When all files are settled and nobody has cancelled, every file has its outcome. -/
theorem gather_contribution_eq_outcomes {slots : List (SourceFile × Slot)}
    (names : slots.map Prod.fst = files)
    (settled : ∀ entry ∈ slots, entry.2.IsSettled)
    (fits : ∀ entry ∈ slots, entry.2.Fits engine false entry.1) :
    gather (fun entry => entry.2.contribution) slots = engine.outcomes .never files := by
  rw [outcomes_never, ← names, gather_map]
  apply gather_congr
  rintro ⟨file, slot⟩ member
  cases slot with
  | waiting => exact absurd (settled _ member) id
  | running => exact absurd (settled _ member) id
  | skipped => exact absurd (fits _ member) Bool.false_ne_true
  | finished outcome =>
      have own : outcome = engine.analyzeFile file := fits _ member
      rw [own]
      rfl

/-- What breaks down keeps the call from its end also when somebody cancelled. -/
theorem not_worksThrough_of_gather_eq_error {token : Bool} {slots : List (SourceFile × Slot)}
    (fits : ∀ entry ∈ slots, entry.2.Fits engine token entry.1)
    {breakdown : Breakdown}
    (broken : gather (fun entry => entry.2.contribution) slots = .error breakdown) :
    ¬ engine.WorksThrough (slots.map Prod.fst) := by
  rcases exists_error_of_gather_eq_error broken with ⟨⟨file, slot⟩, member, isBroken⟩
  intro complete
  rcases complete file (List.mem_map_of_mem member) with ⟨outcome, analyzed⟩
  cases slot with
  | waiting => cases isBroken
  | running => cases isBroken
  | skipped => cases isBroken
  | finished found =>
      have own : found = engine.analyzeFile file := fits _ member
      rw [own, analyzed] at isBroken
      cases isBroken

theorem Moment.sound_opened (token : Bool) :
    Moment.Sound engine files ⟨token, .opened engine files⟩ := by
  rw [Phase.opened]
  cases pool : engine.poolFault? with
  | some reason => exact Or.inr (run_never_of_poolFault pool files)
  | none =>
      refine ⟨pool, by simp [Function.comp_def], ?_⟩
      intro entry member
      rcases List.mem_map.mp member with ⟨file, _, rfl⟩
      exact trivial

theorem Advance.sound {moment next : Moment}
    (step : Advance engine files moment next)
    (sound : moment.Sound engine files) :
    next.Sound engine files := by
  cases step with
  | start => exact Moment.sound_unlessCancelled fun _ => Moment.sound_opened _
  | @take token before after file =>
      apply sound.set
      cases token with
      | true => exact rfl
      | false => exact trivial
  | finish => exact sound.set rfl
  | @join token slots settled =>
      rcases sound with ⟨pool, names, fits⟩
      cases joined : gather (fun entry => entry.2.contribution) slots with
      | error breakdown =>
          have broken := not_worksThrough_of_gather_eq_error fits joined
          rw [names] at broken
          exact ⟨run_never_of_not_worksThrough pool broken, broken⟩
      | ok outcomes =>
          apply Moment.sound_unlessCancelled
          intro uncancelled
          subst uncancelled
          exact ⟨pool, (gather_contribution_eq_outcomes names settled fits).symm.trans joined⟩
  | @report token outcomes =>
      apply Moment.sound_unlessCancelled
      intro _
      rcases sound with ⟨pool, complete⟩
      right
      rw [run, pool, complete]
      rfl

/-- A cancellation only adds to what the skipped files ask for. -/
theorem Moment.Sound.cancel {moment : Moment}
    (sound : moment.Sound engine files) :
    Moment.Sound engine files { moment with token := true } := by
  rcases moment with ⟨token, phase⟩
  cases phase with
  | opening => exact trivial
  | comparing outcomes => exact sound
  | ended result => exact sound
  | lost => exact sound
  | reading slots =>
      rcases sound with ⟨pool, names, slotsFit⟩
      refine ⟨pool, names, ?_⟩
      intro entry member
      have fits := slotsFit entry member
      rcases entry with ⟨file, slot⟩
      cases slot with
      | waiting => exact trivial
      | running => exact trivial
      | skipped => exact rfl
      | finished outcome => exact fits

theorem Run.sound {first moment : Moment} {count : Nat}
    (run : Run engine files first count moment)
    (sound : first.Sound engine files) :
    moment.Sound engine files := by
  induction run with
  | refl => exact sound
  | advance _ step induction => exact step.sound induction
  | cancel _ induction => exact induction.cancel

/-- A call that finds the engine cancelled does not get past its first look. -/
theorem Run.ended_cancelled {count : Nat} {moment : Moment}
    (run : Run engine files ⟨true, .opening⟩ count moment) :
    moment.phase = .opening ∨ moment.phase = .ended (.error .cancelled) := by
  induction run with
  | refl => exact Or.inl rfl
  | cancel _ induction => exact induction
  | @advance count moment next run step induction =>
      have cancelled : moment.token = true := run.token_of_token rfl
      cases step with
      | start =>
          subst cancelled
          exact Or.inr rfl
      | take => rcases induction with impossible | impossible <;> cases impossible
      | finish => rcases induction with impossible | impossible <;> cases impossible
      | join => rcases induction with impossible | impossible <;> cases impossible
      | report => rcases induction with impossible | impossible <;> cases impossible

end Steps

/-! ## Files one after another -/

section Sequence

variable {engine : Engine} {files : List SourceFile}

/-- What one worker makes of some files; adapters may cancel meanwhile. -/
def settledInOrder (engine : Engine) (token : Bool) :
    List SourceFile → List (SourceFile × Slot)
  | [] => []
  | file :: rest =>
      (file, if token then .skipped else .finished (engine.analyzeFile file)) ::
        settledInOrder engine (token || engine.cancelsAt file) rest

theorem isSettled_of_mem_settledInOrder {token : Bool} {entry : SourceFile × Slot}
    (member : entry ∈ settledInOrder engine token files) :
    entry.2.IsSettled := by
  induction files generalizing token with
  | nil => cases member
  | cons file rest induction =>
      rcases List.mem_cons.mp member with rfl | later
      · cases token <;> exact trivial
      · exact induction later

/-- The files before a position decide what the check before the file there sees. -/
theorem gather_settledInOrder (earlier rest : List SourceFile) (token : Bool) :
    gather (fun entry => entry.2.contribution)
        (settledInOrder engine (token || earlier.any engine.cancelsAt) rest) =
      gather
        (fun entry =>
          if token || ((earlier ++ rest).take entry.2).any engine.cancelsAt then .ok []
          else (engine.analyzeFile entry.1).map ([·]))
        (rest.zipIdx earlier.length) := by
  induction rest generalizing earlier with
  | nil => rfl
  | cons file rest induction =>
      have others := induction (earlier ++ [file])
      rw [List.any_append, List.any_cons, List.any_nil, Bool.or_false, ← Bool.or_assoc,
        List.append_assoc, List.singleton_append, List.length_append, List.length_singleton]
        at others
      rw [settledInOrder, List.zipIdx_cons, gather, gather, others, List.take_left]
      cases token || earlier.any engine.cancelsAt <;> rfl

/-- One worker settles the next file. -/
theorem Run.exists_settled {first : Moment} {count : Nat} {token : Bool}
    {before after : List (SourceFile × Slot)} {file : SourceFile}
    (run : Run engine files first count ⟨token, .reading (before ++ (file, .waiting) :: after)⟩) :
    ∃ more,
      Run engine files first more
        ⟨token || engine.cancelsAt file,
          .reading
            (before ++
              (file, if token then .skipped else .finished (engine.analyzeFile file)) ::
                after)⟩ := by
  have taken := run.advance .take
  cases token with
  | true => exact ⟨_, taken⟩
  | false =>
      cases cancels : engine.cancelsAt file with
      | true => exact ⟨_, taken.cancel.advance .finish⟩
      | false => exact ⟨_, taken.advance .finish⟩

/-- One worker settles all files in their order. -/
theorem Run.exists_all_settled {first : Moment} {count : Nat} {token : Bool}
    {done : List (SourceFile × Slot)} {rest : List SourceFile}
    (run :
      Run engine files first count
        ⟨token, .reading (done ++ rest.map fun file => (file, .waiting))⟩) :
    ∃ more,
      Run engine files first more
        ⟨token || rest.any engine.cancelsAt,
          .reading (done ++ settledInOrder engine token rest)⟩ := by
  induction rest generalizing count token done with
  | nil => exact ⟨count, by simpa [settledInOrder] using run⟩
  | cons file rest induction =>
      rcases run.exists_settled with ⟨more, next⟩
      rw [List.append_cons] at next
      rcases induction next with ⟨last, settled⟩
      rw [← List.append_cons, Bool.or_assoc] at settled
      exact ⟨last, settled⟩

/-- What the files contribute when they are analyzed one after another. -/
theorem outcomes_during_eq (pool : engine.poolFault? = none) :
    engine.outcomes (.during engine false files) files =
      gather (fun entry => entry.2.contribution) (settledInOrder engine false files) := by
  have same := @gather_settledInOrder engine [] files false
  rw [List.any_nil, Bool.or_self] at same
  rw [same, outcomes, Cancellation.during, pool]
  rfl

theorem afterFiles_during_eq (pool : engine.poolFault? = none) :
    (Cancellation.during engine false files).afterFiles = files.any engine.cancelsAt := by
  simp [Cancellation.during, pool]

/-- A run with a report was not cancelled when all files were settled. -/
theorem afterFiles_of_run_eq_ok {cancellation : Cancellation} {report : Report}
    (completed : engine.run cancellation files = some (.ok report)) :
    cancellation.afterFiles = false := by
  by_contra after
  rw [Bool.not_eq_false] at after
  simp only [Engine.run, after, if_true] at completed
  split at completed
  · cases completed
  · split at completed
    · cases completed
    · split at completed <;> cases completed

/-- Analyzing the files one after another is one of the runs. -/
theorem exists_run_analyze (token : Bool) :
    ∃ count,
      Run engine files ⟨token, .opening⟩ count
        ⟨(engine.analyze token files).2, .ofResult (engine.analyze token files).1⟩ := by
  have opened : Run engine files ⟨token, .opening⟩ 1 _ := Run.refl.advance .start
  cases token with
  | true => exact ⟨1, opened⟩
  | false =>
      cases pool : engine.poolFault? with
      | some reason =>
          have analyzed : engine.analyze false files =
              (some (.error (.noPool reason)), false) := by
            simp [analyze, Engine.run, Cancellation.during, pool]
          rw [Phase.opened, pool] at opened
          rw [analyzed]
          exact ⟨1, opened⟩
      | none =>
          rw [Phase.opened, pool] at opened
          rcases @Run.exists_all_settled engine files _ _ _ [] _ opened with ⟨count, run⟩
          have joined := run.advance (.join fun _ => isSettled_of_mem_settledInOrder)
          rw [List.nil_append, ← outcomes_during_eq pool, Bool.false_or] at joined
          rw [analyze, Engine.run, pool, afterFiles_during_eq pool]
          cases gathered : engine.outcomes (.during engine false files) files with
          | error breakdown =>
              rw [gathered] at joined
              exact ⟨_, joined⟩
          | ok outcomes =>
              rw [gathered] at joined
              cases cancels : files.any engine.cancelsAt with
              | true =>
                  rw [cancels] at joined
                  exact ⟨_, joined⟩
              | false =>
                  rw [cancels] at joined
                  have reported := joined.advance .report
                  have notAfter :
                      (Cancellation.during engine false files).afterComparison = false :=
                    (afterFiles_during_eq pool).trans cancels
                  simp only [notAfter]
                  exact ⟨_, reported⟩

end Sequence

/--
However the steps of a call interleave with cancellations, the call makes at most two steps for each
file and three more, and can go on until it has ended or a file has broken down.  It ends with the
interruption or as a call that nobody cancels, and where a file keeps it from its end, a call that
nobody cancels does not end either.  A cancelled engine stays cancelled, and a call that finds it
cancelled ends with the interruption.  Analyzing the files one after another is one of these calls.
-/
theorem call_cancelled_or_complete (engine : Engine) (files : List SourceFile) :
    (∀ token count moment, Run engine files ⟨token, .opening⟩ count moment →
      count ≤ 2 * files.length + 3 ∧
        ((∃ result, moment.phase = .ended result) ∨ moment.phase = .lost ∨
          ∃ next, Advance engine files moment next) ∧
        (∀ result, moment.phase = .ended result →
          result = .error .cancelled ∨ engine.run .never files = some result) ∧
        (moment.phase = .lost →
          engine.run .never files = none ∧
            ∃ file ∈ files, ∃ breakdown, engine.analyzeFile file = .error breakdown) ∧
        (token = true →
          moment.token = true ∧ moment.phase ≠ .lost ∧
            ∀ result, moment.phase = .ended result → result = .error .cancelled)) ∧
      (∀ first count moment, Run engine files first count moment →
        first.token = true → moment.token = true) ∧
      ∀ token, ∃ count,
        Run engine files ⟨token, .opening⟩ count
          ⟨(engine.analyze token files).2, .ofResult (engine.analyze token files).1⟩ := by
  refine ⟨?_, fun _ _ _ run => run.token_of_token, exists_run_analyze⟩
  intro token count moment run
  have sound : moment.Sound engine files := run.sound trivial
  refine ⟨?_, moment.ended_or_lost_or_advance, ?_, ?_, ?_⟩
  · have bounded := run.count_add_work_le
    exact Nat.le_trans (Nat.le_add_right count _) bounded
  · intro result ended
    rw [Moment.Sound, ended] at sound
    exact sound
  · intro lost
    rw [Moment.Sound, lost] at sound
    exact ⟨sound.1, exists_breakdown_of_not_worksThrough sound.2⟩
  · intro cancelled
    subst cancelled
    refine ⟨run.token_of_token rfl, ?_⟩
    rcases run.ended_cancelled with opening | interrupted
    · rw [opening]
      exact ⟨nofun, nofun⟩
    · rw [interrupted]
      refine ⟨nofun, ?_⟩
      rintro result ⟨⟩
      rfl

end StructuralLint.Engine
