/-
This file shows when a run injects input although it has to stop: before a click on a match that has
just been found, and when a failed input action is tried again.
-/

import DeskScript.Proofs.Run.Pending
import DeskScript.Proofs.Run.PromptStop

namespace DeskScript

variable {device : Type} {place : Workplace device}

namespace Interpreter

/-! ### Steps of a script -/

/-- These are the steps that may still be run for a task. -/
def Task.remaining : Task → List (Nat × Step)
  | .steps depth others => Step.visitAll depth others
  | .check _ => []
  | .loop opened => Step.visitAll (opened.depth + 1) opened.body

def remaining (tasks : List Task) : List (Nat × Step) := tasks.flatMap Task.remaining

theorem remainingTail (task : Task) (tasks : List Task) :
    remaining tasks ⊆ remaining (task :: tasks) := List.subset_append_right _ _

/-- Behind a step the steps after it remain. -/
theorem remainingBehind (stepId : String) (depth : Nat) (step : Step) (rest : List Step)
    (tasks : List Task) :
    remaining (.check stepId :: .steps depth rest :: tasks) ⊆
      remaining (.steps depth (step :: rest) :: tasks) := by
  intro found member
  simp only [remaining, List.flatMap_cons, Task.remaining, Step.visitAll, List.mem_append,
    List.nil_append] at member ⊢
  exact member.imp_left .inr

/-- Within a step the steps in it remain, and behind it the steps after it. -/
theorem remainingWithin {depth : Nat} {step : Step} {inner : List Step}
    (within_ : Step.visitAll (depth + 1) inner ⊆ step.visit depth) (stepId : String)
    (rest : List Step) (tasks : List Task) :
    remaining (.steps (depth + 1) inner :: .check stepId :: .steps depth rest :: tasks) ⊆
      remaining (.steps depth (step :: rest) :: tasks) := by
  intro found member
  simp only [remaining, List.flatMap_cons, Task.remaining, Step.visitAll, List.mem_append,
    List.nil_append] at member ⊢
  exact member.elim (fun inside => .inl (.inl (within_ inside))) fun behind =>
    behind.imp_left .inr

theorem sameRemaining {loop later : OpenLoop} (same : later.step = loop.step)
    (sameDepth : later.depth = loop.depth) :
    Task.remaining (.loop later) = Task.remaining (.loop loop) := by
  have sameBody : later.body = loop.body := by
    rw [OpenLoop.step, OpenLoop.step, Step.loop.injEq] at same
    exact same.2.2
  rw [Task.remaining, Task.remaining, sameBody, sameDepth]

/-- From moment to moment no steps are added to those that remain. -/
theorem Move.remaining {before after : Moment device} (moves : Move place before after) :
    remaining after.tasks ⊆ remaining before.tasks := by
  cases moves with
  | idle => exact List.Subset.refl _
  | dropped session reason task tasks => exact remainingTail task tasks
  | unwound session reason loop tasks => exact remainingTail (.loop loop) tasks
  | exhausted session depth tasks => exact remainingTail _ tasks
  | passed session stepId tasks => exact remainingTail _ tasks
  | stopped session stepId abort task tasks => exact remainingTail task tasks
  | tooDeep session depth step rest tasks => exact remainingBehind _ depth step rest tasks
  | skipped session depth step rest tasks => exact remainingBehind _ depth step rest tasks
  | leaf session depth header action rest tasks => exact remainingBehind _ depth _ rest tasks
  | branch session depth header condition whenTrue whenFalse way taken notes rest tasks begins
      isWay =>
      refine remainingWithin ?_ header.id rest tasks
      rw [Step.visit]
      obtain rfl | rfl := isWay
      · exact fun _ member => List.mem_cons_of_mem _ (List.mem_append_left _ member)
      · exact fun _ member => List.mem_cons_of_mem _ (List.mem_append_right _ member)
  | loop session depth header rule body opened rest tasks begins isOpened isDepth =>
      obtain ⟨header, rule, body, depth, startedAt, left, iterations, notes⟩ := opened
      cases isOpened
      cases isDepth
      exact remainingWithin (List.subset_cons_self _ _) header.id rest tasks
  | loopStopped session loop later abort tasks stops same sameDepth =>
      simp only [Interpreter.remaining, List.flatMap_cons, sameRemaining same sameDepth]
      exact List.Subset.refl _
  | iterated session loop later tasks same sameDepth =>
      simp only [Interpreter.remaining, List.flatMap_cons, sameRemaining same sameDepth]
      exact List.append_subset.mpr ⟨List.subset_append_left _ _, List.Subset.refl _⟩
  | ended session loop later tasks => exact remainingTail _ tasks
  | limited session loop later tasks => exact remainingTail _ tasks

/-! ### Steps that inject input late -/

/-- A step may inject input late when it clicks on a match, or when its input is tried again. -/
def mayBeLate (header : StepHeader) (action : Action) : Bool :=
  if Leaf.waits action then (Leaf.sensing? action).any fun sensing => sensing.click.isSome
  else header.retryCount ≠ 0

/--
A step in progress belongs to the script. Unless it is retried, its input was not delayed by other
attempts, and it injects input after a wait only if its action asks for a click on a match.
-/
structure Regular (script : Script) (session : Session device) (leaf : OpenLeaf) : Prop where
  member : (leaf.depth, leaf.step) ∈ script.visit
  once : leaf.header.retryCount = 0 → leaf.left = 0
  fresh : leaf.header.retryCount = 0 → Leaf.waits leaf.action = false →
    leaf.phase = .begin ∨ leaf.phase.isPress = true → ¬session.context.Stopped
  clicks : Leaf.waits leaf.action = true → leaf.phase.isPress = true →
    ∃ sensing, Leaf.sensing? leaf.action = some sensing ∧ sensing.click.isSome = true
  searches : ∀ search, leaf.phase.search? = some search →
    Leaf.sensing? leaf.action = some search.sensing

namespace Regular

variable {script : Script} {session : Session device} {leaf : OpenLeaf}

/-- Where a step neither injects input now nor looks at the screen, little is asked of it. -/
theorem ofIdle (member : (leaf.depth, leaf.step) ∈ script.visit)
    (once : leaf.header.retryCount = 0 → leaf.left = 0)
    (fresh : leaf.header.retryCount = 0 → Leaf.waits leaf.action = false →
      leaf.phase = .begin → ¬session.context.Stopped)
    (noPress : leaf.phase.isPress = false) (noSearch : leaf.phase.search? = none) :
    Regular script session leaf where
  member := member
  once := once
  fresh never impatient due := fresh never impatient (due.resolve_right (by simp [noPress]))
  clicks _ pressing := by
    rw [noPress] at pressing
    cases pressing
  searches search isSearch := by
    rw [noSearch] at isSearch
    cases isSearch

/-- Pending input is due now, or it is due at the begin of an attempt, perhaps a further one. -/
theorem duePhase (tasks : List Task)
    (pending : (Instant.within session leaf tasks).pending = true) :
    leaf.phase.isPress = true ∨
      leaf.beginsWithInput session = true ∧ (leaf.phase = .begin ∨ leaf.left ≠ 0) := by
  obtain ⟨header, action, depth, startedAt, left, number, phase⟩ := leaf
  cases phase with
  | press notes input => exact .inl rfl
  | begin => exact .inr ⟨pending, .inl rfl⟩
  | tried notes ending =>
      cases ending with
      | failed failure =>
          change (left ≠ 0 && failure.isRecoverable && _) = true at pending
          simp only [Bool.and_eq_true, decide_eq_true_eq] at pending
          exact .inr ⟨pending.2, .inr pending.1.1⟩
      | _ => cases pending
  | _ => cases pending

/-- A step that injects input when the run has to stop is one that may do so. -/
theorem late (regular : Regular script session leaf) (tasks : List Task)
    (stopped : session.context.Stopped)
    (pending : (Instant.within session leaf tasks).pending = true) :
    mayBeLate leaf.header leaf.action = true := by
  rw [mayBeLate]
  cases waits : Leaf.waits leaf.action with
  | true =>
      obtain pressing | ⟨begins, -⟩ := duePhase tasks pending
      · obtain ⟨sensing, isSensing, clicking⟩ := regular.clicks waits pressing
        rw [if_pos rfl, isSensing]
        exact clicking
      · have impatient :=
          (Leaf.actionPrepared leaf.header.id session leaf.action).follows.impatient begins
        rw [waits] at impatient
        cases impatient
  | false =>
      refine (if_neg Bool.false_ne_true).trans (decide_eq_true fun never => ?_)
      have free := regular.fresh never waits
      obtain pressing | ⟨-, isBegin | more⟩ := duePhase tasks pending
      · exact free (.inr pressing) stopped
      · exact free (.inl isBegin) stopped
      · exact more (regular.once never)

/-- Within an attempt a step stays regular. -/
theorem advance (regular : Regular script session leaf)
    (patient : leaf.phase.isWaiting = true → Leaf.waits leaf.action = true)
    (going : leaf.phase.isOver = false) :
    Regular script (Leaf.advance place leaf.header.id leaf.action session leaf.phase).1
      { leaf with
        phase := (Leaf.advance place leaf.header.id leaf.action session leaf.phase).2 } := by
  have follows := Leaf.advanceFollows place leaf.header.id leaf.action session going
  refine ⟨regular.member, regular.once, fun never impatient due => ?_, fun waits pressing => ?_,
    fun search isSearch => ?_⟩
  · obtain ⟨isBegin, -⟩ | ⟨search, isLook, -⟩ :=
      follows.pressing (due.resolve_left follows.begun)
    · have free := regular.fresh never impatient (.inl isBegin)
      rw [isBegin, Leaf.advance, (Leaf.actionPrepared leaf.header.id session leaf.action).context]
      exact free
    · rw [patient (by rw [isLook]; rfl)] at impatient
      cases impatient
  · obtain ⟨-, impatient⟩ | ⟨search, isLook, clicking⟩ := follows.pressing pressing
    · rw [waits] at impatient
      cases impatient
    · exact ⟨search.sensing, regular.searches search (by rw [isLook]; rfl), clicking⟩
  · obtain isSensing | ⟨earlier, isEarlier, same⟩ := follows.searching isSearch
    · exact isSensing
    · rw [same]
      exact regular.searches earlier isEarlier

/-- A step stays regular when it is tried again. -/
theorem again (regular : Regular script session leaf) {left : Nat} (isLeft : leaf.left = left + 1) :
    Regular script session (leaf.again left) := by
  have retried : leaf.header.retryCount ≠ 0 := fun never => by
    rw [regular.once never] at isLeft
    cases isLeft
  exact .ofIdle regular.member (fun never => absurd never retried)
    (fun never => absurd never retried) rfl rfl

/-- A step that is over and only pauses stays regular. -/
theorem rested (regular : Regular script session leaf) (after : Session device) :
    Regular script after { leaf with phase := .rest } :=
  .ofIdle regular.member regular.once (fun _ _ isBegin => by cases isBegin) rfl rfl

end Regular

/-- At every instant of a run the steps that remain and the one in progress are of the script. -/
structure InScript (script : Script) (instant : Instant device) : Prop where
  remaining : remaining instant.tasks ⊆ script.visit
  regular : ∀ {session leaf tasks}, instant = .within session leaf tasks →
    Regular script session leaf

namespace InScript

variable {script : Script}

theorem openLeaf {session : Session device} {depth : Nat} {header : StepHeader} {action : Action}
    {rest : List Step} {tasks : List Task}
    (remains : Interpreter.remaining (.steps depth (.leaf header action :: rest) :: tasks) ⊆
      script.visit)
    (begins : Begins place session depth (.leaf header action)) :
    InScript script (Moment.openLeaf place session depth header action rest tasks) where
  remaining := List.Subset.trans (remainingBehind header.id depth _ rest tasks) remains
  regular := by
    rintro _ _ _ ⟨⟩
    have first : (depth, Step.leaf header action) ∈
        Interpreter.remaining (.steps depth (.leaf header action :: rest) :: tasks) := by
      simp [Interpreter.remaining, Task.remaining, Step.visitAll, Step.visit]
    exact .ofIdle (remains first)
      (fun never => by simp [Leaf.furtherAttempts, show header.retryCount = 0 from never])
      (fun _ _ _ => RunContext.freeOfCheckpoint begins.passed) rfl rfl

theorem next (place : Workplace device) {instant : Instant device} (sound : instant.Sound)
    (inScript : InScript script instant) : InScript script (instant.next place) := by
  cases instant with
  | between moment =>
      cases isOpen : moment.opens? place with
      | none =>
          rw [Instant.nextClosed isOpen]
          exact ⟨List.Subset.trans (moveOfNext moment).remaining inScript.remaining, nofun⟩
      | some opened =>
          rw [Instant.nextOpened isOpen]
          cases opensOfSome isOpen with
          | leaf session depth header action rest tasks begins =>
              exact openLeaf inScript.remaining begins
  | within session leaf tasks =>
      have regular := inScript.regular rfl
      have patient := sound.2
      refine ⟨?_, ?_⟩
      · rw [Instant.next, leaf.nextTasks place]
        exact inScript.remaining
      · intro after later others isNext
        cases OpenLeaf.continues isNext with
        | advanced going => exact regular.advance patient going
        | again left isLeft => exact regular.again isLeft
        | rested => exact regular.rested after

theorem along {first last : Instant device} (passes : Passes place first last)
    (sound : first.Sound) (inScript : InScript script first) : InScript script last := by
  induction passes with
  | refl => exact inScript
  | tail passed next inductionHypothesis =>
      exact next ▸ inductionHypothesis.next place (Instant.soundAlong passed sound)

end InScript

/-! ### Runs -/

/--
From an instant on at which a run has to stop it injects input exactly if input is pending at this
instant. This happens only in a step that clicks on a match or may be tried again with its input.
-/
theorem inputAfterStop (place : Workplace device) (script : Script) (context : RunContext)
    (bindings : Bindings) (state : device) (final : Session device) (found : Option RunReport)
    (ended : run place script (Session.start context bindings state) = (final, found))
    (instant : Instant device)
    (passes : Passes place (.start script (Session.start context bindings state)) instant)
    (stopped : instant.Stopped) :
    (∃ later, final.calls.toList = instant.session.calls.toList ++ later ∧
      ((∃ record ∈ later, record.injects = true) ↔ instant.pending = true)) ∧
    (instant.pending = true → ∃ depth header action,
      (depth, .leaf header action) ∈ script.visit ∧ mayBeLate header action = true) := by
  obtain ⟨after, halt, passesEnd, -, concludes⟩ := runConcludes ended
  refine ⟨?_, fun pending => ?_⟩
  · rw [concludes.calls]
    exact Instant.pendingAlong (passes.reaches passesEnd) stopped
  · have inScript : InScript script instant := by
      refine InScript.along passes trivial ⟨?_, nofun⟩
      exact List.append_subset.mpr ⟨List.Subset.refl _, List.nil_subset _⟩
    cases instant with
    | between moment => cases pending
    | within session leaf tasks =>
        have regular := inScript.regular rfl
        exact ⟨leaf.depth, leaf.header, leaf.action, regular.member,
          regular.late tasks stopped pending⟩

/-- Here the user cancels the run while keys are pressed, and pressing them fails. -/
def stubborn : Workplace Unit where
  devices :=
    { note := fun state _ => (state, ⟨0, some 0⟩)
      input := fun state _ => (state, .failed (.synthesis "stubborn"))
      look := fun state _ => (state, .nothing) }
  config := .standard
  origin := .epoch

/-- In this script a step presses a key, at most twice. -/
def pressAgain : Script :=
  { Script.new "script" "press" .epoch with
    steps := [.leaf { Step.newHeader "press" with retryCount := 1 } (.hotkey ["a"])] }

/-- A key is pressed again after the run was cancelled. -/
theorem inputAfterStopPressAgain : ∃ final found instant,
    run stubborn pressAgain (Session.start (.start "run" none 0) .empty ()) = (final, found) ∧
      Passes stubborn (.start pressAgain (Session.start (.start "run" none 0) .empty ())) instant ∧
      instant.Stopped ∧
      (∃ later, final.calls.toList = instant.session.calls.toList ++ later ∧
        ∃ record ∈ later, record.injects = true) ∧
      ∃ depth header action,
        (depth, .leaf header action) ∈ pressAgain.visit ∧ mayBeLate header action = true := by
  have passes := passesIterate stubborn 3
    (.start pressAgain (Session.start (.start "run" none 0) .empty ()))
  generalize isInstant : (Instant.next stubborn)^[3] _ = instant at passes
  have stopped : instant.Stopped := by rw [← isInstant]; decide +kernel
  have pending : instant.pending = true := by rw [← isInstant]; decide +kernel
  obtain ⟨⟨later, calls, injects⟩, late⟩ := inputAfterStop stubborn pressAgain _ _ _ _ _ rfl instant
    passes stopped
  exact ⟨_, _, instant, rfl, passes, stopped, ⟨later, calls, injects.mpr pending⟩, late pending⟩

/-- A match is clicked although the run was cancelled before the click was called. -/
theorem clickAfterStop : ∃ instant,
    Passes foundTooLate (.start clickOnText (Session.start (.start "run" none 0) .empty ()))
      instant ∧
    instant.Stopped ∧ instant.session.calls.toList.map CallRecord.injects = [false] ∧
    (run foundTooLate clickOnText (Session.start (.start "run" none 0) .empty ())).1.calls.toList.map
      CallRecord.injects = [false, true] := by
  have passes := passesIterate foundTooLate 3
    (.start clickOnText (Session.start (.start "run" none 0) .empty ()))
  exact ⟨_, passes, by decide +kernel, by decide +kernel, by decide +kernel⟩

end Interpreter

end DeskScript
