/-
This file lists what a run can do on its way from one moment to the next.
-/

import DeskScript.Proofs.Run.Course

namespace DeskScript

variable {device : Type}

namespace Interpreter

/-- A step begins when the run passes the checkpoint before it and the step may be run. -/
structure Begins (place : Workplace device) (session : Session device) (depth : Nat) (step : Step) :
    Prop where
  passed : session.context.checkpoint (some step.id) = none
  fits : depth < place.config.maxDepth.toNat
  enabled : step.header.enabled = true

/-- These are the ways from one moment of a run to the next. -/
inductive Move (place : Workplace device) : Moment device → Moment device → Prop where
  | idle (session : Session device) (halt : Option Halt) :
      Move place ⟨session, halt, []⟩ ⟨session, halt, []⟩
  /-- After the run has halted, nothing is left of a task that is not a loop. -/
  | dropped (session : Session device) (reason : Halt) (task : Task) (tasks : List Task)
      (noLoop : ∀ loop, task ≠ .loop loop) :
      Move place ⟨session, some reason, task :: tasks⟩ ⟨session, some reason, tasks⟩
  | unwound (session : Session device) (reason : Halt) (loop : OpenLoop) (tasks : List Task) :
      Move place ⟨session, some reason, .loop loop :: tasks⟩
        ⟨loop.close place session false (some reason), some reason, tasks⟩
  | exhausted (session : Session device) (depth : Nat) (tasks : List Task) :
      Move place ⟨session, none, .steps depth [] :: tasks⟩ ⟨session, none, tasks⟩
  | passed (session : Session device) (stepId : String) (tasks : List Task)
      (free : session.context.checkpoint (some stepId) = none) :
      Move place ⟨session, none, .check stepId :: tasks⟩ ⟨session, none, tasks⟩
  | stopped (session : Session device) (stepId : String) (abort : Abort) (task : Task)
      (tasks : List Task) (stops : session.context.checkpoint (some stepId) = some abort)
      (noLoop : ∀ loop, task ≠ .loop loop) :
      Move place ⟨session, none, task :: tasks⟩ ⟨session, some (.aborted abort), tasks⟩
  | tooDeep (session : Session device) (depth : Nat) (step : Step) (rest : List Step)
      (tasks : List Task) (deep : place.config.maxDepth.toNat ≤ depth) :
      Move place ⟨session, none, .steps depth (step :: rest) :: tasks⟩
        ⟨session, some (depthFailure place.config step),
          .check step.id :: .steps depth rest :: tasks⟩
  | skipped (session : Session device) (depth : Nat) (step : Step) (rest : List Step)
      (tasks : List Task) (fits : depth < place.config.maxDepth.toNat)
      (disabled : step.header.enabled = false) :
      Move place ⟨session, none, .steps depth (step :: rest) :: tasks⟩
        ⟨session.record place step depth .skip .empty none 0 (session.time place), none,
          .check step.id :: .steps depth rest :: tasks⟩
  | leaf (session : Session device) (depth : Nat) (header : StepHeader) (action : Action)
      (rest : List Step) (tasks : List Task)
      (begins : Begins place session depth (.leaf header action)) :
      Move place ⟨session, none, .steps depth (.leaf header action :: rest) :: tasks⟩
        (.ofFlow (Leaf.attempt place (.leaf header action) action depth (session.time place)
            (Leaf.furtherAttempts header) 1 (startStep depth (.leaf header action) session))
          (.check header.id :: .steps depth rest :: tasks))
  | branch (session : Session device) (depth : Nat) (header : StepHeader) (condition : Condition)
      (whenTrue whenFalse way : List Step) (taken : BranchTaken) (notes : StepNotes)
      (rest : List Step) (tasks : List Task)
      (begins : Begins place session depth (.branch header condition whenTrue whenFalse))
      (isWay : way = whenTrue ∨ way = whenFalse)
      (decided : taken =
        if (condition.evaluate session.bindings).result then .whenTrue else .whenFalse) :
      Move place
        ⟨session, none, .steps depth (.branch header condition whenTrue whenFalse :: rest) :: tasks⟩
        ⟨(startStep depth (.branch header condition whenTrue whenFalse) session).record place
            (.branch header condition whenTrue whenFalse) depth (.branch taken) notes none 1
            (session.time place), none,
          .steps (depth + 1) way :: .check header.id :: .steps depth rest :: tasks⟩
  | loop (session : Session device) (depth : Nat) (header : StepHeader) (rule : LoopRule)
      (body : List Step) (opened : OpenLoop) (rest : List Step) (tasks : List Task)
      (begins : Begins place session depth (.loop header rule body))
      (isOpened : opened.step = .loop header rule body) (isDepth : opened.depth = depth) :
      Move place ⟨session, none, .steps depth (.loop header rule body :: rest) :: tasks⟩
        ⟨startStep depth (.loop header rule body) session, none,
          .loop opened :: .check header.id :: .steps depth rest :: tasks⟩
  /-- At a checkpoint of a loop the run stops, and the loop is still open. -/
  | loopStopped (session : Session device) (loop later : OpenLoop) (abort : Abort)
      (tasks : List Task) (stops : session.context.checkpoint (some loop.header.id) = some abort)
      (same : later.step = loop.step) (sameDepth : later.depth = loop.depth) :
      Move place ⟨session, none, .loop loop :: tasks⟩
        ⟨session, some (.aborted abort), .loop later :: tasks⟩
  | iterated (session : Session device) (loop later : OpenLoop) (tasks : List Task)
      (same : later.step = loop.step) (sameDepth : later.depth = loop.depth) :
      Move place ⟨session, none, .loop loop :: tasks⟩
        ⟨later.bindIndex session, none, .steps (loop.depth + 1) loop.body :: .loop later :: tasks⟩
  | ended (session : Session device) (loop later : OpenLoop) (tasks : List Task)
      (same : later.step = loop.step) (sameDepth : later.depth = loop.depth) :
      Move place ⟨session, none, .loop loop :: tasks⟩
        ⟨later.close place session false none, none, tasks⟩
  | limited (session : Session device) (loop later : OpenLoop) (tasks : List Task)
      (same : later.step = loop.step) (sameDepth : later.depth = loop.depth) :
      Move place ⟨session, none, .loop loop :: tasks⟩
        ⟨later.close place (session.warn ⟨loop.header.id, loop.rule.limit⟩) true none, none, tasks⟩

variable {place : Workplace device}

/-- A leaf step that begins is run to its end before the next moment. -/
theorem nextLeaf (session : Session device) (depth : Nat) (header : StepHeader) (action : Action)
    (rest : List Step) (tasks : List Task)
    (begins : Begins place session depth (.leaf header action)) :
    (Moment.mk session none (.steps depth (.leaf header action :: rest) :: tasks)).next place =
      .ofFlow (Leaf.attempt place (.leaf header action) action depth (session.time place)
          (Leaf.furtherAttempts header) 1 (startStep depth (.leaf header action) session))
        (.check header.id :: .steps depth rest :: tasks) := by
  have enabled : (Step.leaf header action).header.enabled = true := begins.enabled
  simp only [Moment.next, Task.perform, Moment.checkpoint, begins.passed, begin,
    if_neg (Nat.not_le.mpr begins.fits), enabled, Bool.not_true, Bool.false_eq_true, if_false]
  rfl

/-- A branching step is recorded with the way that its condition decides on. -/
theorem nextBranch (session : Session device) (depth : Nat) (header : StepHeader)
    (condition : Condition) (whenTrue whenFalse rest : List Step) (tasks : List Task)
    (begins : Begins place session depth (.branch header condition whenTrue whenFalse)) :
    (Moment.mk session none
        (.steps depth (.branch header condition whenTrue whenFalse :: rest) :: tasks)).next place =
      ⟨recordBranch place (.branch header condition whenTrue whenFalse) depth (session.time place)
          (condition.evaluate session.bindings)
          (startStep depth (.branch header condition whenTrue whenFalse) session), none,
        .steps (depth + 1)
          (if (condition.evaluate session.bindings).result then whenTrue else whenFalse) ::
            .check header.id :: .steps depth rest :: tasks⟩ := by
  have enabled : (Step.branch header condition whenTrue whenFalse).header.enabled = true :=
    begins.enabled
  simp only [Moment.next, Task.perform, Moment.checkpoint, begins.passed, begin,
    if_neg (Nat.not_le.mpr begins.fits), enabled, Bool.not_true, Bool.false_eq_true, if_false]
  rfl

theorem moveOfBegin (session : Session device) (depth : Nat) (step : Step) (rest : List Step)
    (tasks : List Task) (passed : session.context.checkpoint (some step.id) = none) :
    Move place ⟨session, none, .steps depth (step :: rest) :: tasks⟩
      ((begin place depth step session).andThen
        (.check step.id :: .steps depth rest :: tasks)) := by
  rw [begin]
  split
  · rename_i deep
    exact .tooDeep session depth step rest tasks deep
  · rename_i shallow
    simp only
    split
    · rename_i disabled
      exact .skipped session depth step rest tasks (Nat.lt_of_not_le shallow)
        (by simpa using disabled)
    · rename_i enabled
      have begins : Begins place session depth step :=
        ⟨passed, Nat.lt_of_not_le shallow, by simpa using enabled⟩
      cases step with
      | leaf header action => exact .leaf session depth header action rest tasks begins
      | branch header condition whenTrue whenFalse =>
          refine .branch session depth header condition whenTrue whenFalse _ _ _ rest tasks
            begins ?_ rfl
          split
          · exact .inl rfl
          · exact .inr rfl
      | loop header rule body =>
          exact .loop session depth header rule body _ rest tasks begins rfl rfl

theorem moveOfIterate (session : Session device) (loop noted : OpenLoop) (left : Nat)
    (tasks : List Task) (same : noted.step = loop.step) (sameDepth : noted.depth = loop.depth) :
    Move place ⟨session, none, .loop loop :: tasks⟩
      ((noted.iterate left session).andThen tasks) := by
  have parts := same
  rw [OpenLoop.step, OpenLoop.step, Step.loop.injEq] at parts
  rw [OpenLoop.iterate, Moment.checkpoint]
  cases checked : session.context.checkpoint (some noted.header.id) with
  | some abort =>
      rw [parts.1] at checked
      exact .loopStopped session loop _ abort tasks checked same sameDepth
  | none =>
      have moved : Move place _ _ := .iterated session loop
        { noted with left, iterations := noted.iterations + 1 } tasks same sameDepth
      rw [← sameDepth, ← parts.2.2] at moved
      exact moved

theorem moveOfTurn (session : Session device) (loop : OpenLoop) (tasks : List Task) :
    Move place ⟨session, none, .loop loop :: tasks⟩ ((loop.turn place session).andThen tasks) := by
  rw [OpenLoop.turn]
  split
  · split
    · exact .ended session loop loop tasks rfl rfl
    · exact moveOfIterate session loop loop _ tasks rfl rfl
  · rw [Moment.checkpoint]
    cases checked : session.context.checkpoint (some loop.header.id) with
    | some abort => exact .loopStopped session loop loop abort tasks checked rfl rfl
    | none =>
        simp only
        split
        · exact .ended session loop _ tasks rfl rfl
        · split
          · exact .limited session loop _ tasks rfl rfl
          · exact moveOfIterate session loop _ _ tasks rfl rfl

/-- A run goes from every moment to the next in one of these ways. -/
theorem moveOfNext (moment : Moment device) : Move place moment (moment.next place) := by
  obtain ⟨session, halt, _ | ⟨task, tasks⟩⟩ := moment
  · cases halt <;> exact .idle session _
  · cases halt with
    | some reason =>
        cases task with
        | loop opened => exact .unwound session reason opened tasks
        | _ => exact .dropped session reason _ tasks (by simp)
    | none =>
        cases task with
        | steps depth steps =>
            cases steps with
            | nil => exact .exhausted session depth tasks
            | cons step rest =>
                rw [Moment.next, Task.perform, Moment.checkpoint]
                cases checked : session.context.checkpoint (some step.id) with
                | some abort =>
                    exact .stopped session step.id abort _ tasks checked (by simp)
                | none =>
                    have moved : Move place _ _ := moveOfBegin session depth step rest tasks checked
                    simpa only [Moment.andThen, List.append_assoc, List.cons_append,
                      List.nil_append] using moved
        | check stepId =>
            rw [Moment.next, Task.perform, Moment.checkpoint]
            cases checked : session.context.checkpoint (some stepId) with
            | some abort =>
                exact .stopped session stepId abort _ tasks checked (by simp)
            | none => exact .passed session stepId tasks checked
        | loop opened => exact moveOfTurn session opened tasks

/-- A run that has halted stays halted for the same reason. -/
theorem Move.halted {before after : Moment device} {reason : Halt} (moves : Move place before after)
    (halted : before.halt = some reason) : after.halt = some reason := by
  cases moves with
  | idle => exact halted
  | dropped => exact halted
  | unwound => exact halted
  | _ => cases halted

theorem Move.going {before after : Moment device} (moves : Move place before after)
    (going : after.halt = none) : before.halt = none := by
  cases halted : before.halt with
  | none => rfl
  | some reason =>
      rw [moves.halted halted] at going
      cases going

/-- What holds at a moment and is kept by every move holds at all moments after it. -/
@[elab_as_elim]
theorem Leads.keeps {property : Moment device → Prop} {before after : Moment device}
    (leads : Leads place before after) (first : property before)
    (kept : ∀ {middle later}, Move place middle later → property middle → property later) :
    property after := by
  induction leads with
  | refl => exact first
  | @tail middle later _ next inductionHypothesis =>
      have moves : Move place middle later := next ▸ moveOfNext middle
      exact kept moves inductionHypothesis

theorem Leads.halted {before after : Moment device} {reason : Halt}
    (leads : Leads place before after) (halted : before.halt = some reason) :
    after.halt = some reason :=
  leads.keeps halted Move.halted

/-- As long as no device breaks down, a run has what it has at first and keeps with every move. -/
@[elab_as_elim]
theorem Leads.keepsWorking {property : Moment device → Prop} {before after : Moment device}
    (leads : Leads place before after) (works : after.halt ≠ some .brokeDown)
    (first : property before)
    (kept : ∀ {middle later}, Move place middle later → later.halt ≠ some .brokeDown →
      property middle → property later) : property after := by
  -- Once a device has broken down the run does not recover, so it worked at every moment before.
  have held : after.halt ≠ some .brokeDown → property after :=
    leads.keeps (fun _ => first) fun moves before works =>
      kept moves works (before fun broken => works (moves.halted broken))
  exact held works

theorem Leads.ofOver {session : Session device} {halt : Option Halt} {last : Moment device}
    (leads : Leads place ⟨session, halt, []⟩ last) : last = ⟨session, halt, []⟩ := by
  induction leads with
  | refl => rfl
  | tail _ next inductionHypothesis =>
      rw [← next, inductionHypothesis]
      cases halt <;> rfl

/-- A run that is over has passed every moment to which it led. -/
theorem Leads.reaches {start moment : Moment device} {after : Session device} {halt : Option Halt}
    (leads : Leads place start moment) (leadsEnd : Leads place start ⟨after, halt, []⟩) :
    Leads place moment ⟨after, halt, []⟩ := by
  obtain ahead | behind := leads.linear leadsEnd
  · exact ahead
  · rw [behind.ofOver]

end Interpreter

end DeskScript
