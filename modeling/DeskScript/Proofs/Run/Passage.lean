/-
This file shows that a run passes through its instants: the phases of a leaf step come to the end of
the step, and so every moment of a run is an instant of it.
-/

import DeskScript.Proofs.Run.Arrival
import DeskScript.Proofs.Run.Instants
import Mathlib.Logic.Function.Iterate

namespace DeskScript

variable {device : Type} {place : Workplace device}

namespace Interpreter

theorem Passes.step {first second last : Instant device} (next : first.next place = second)
    (passes : Passes place second last) : Passes place first last := .head next passes

/-! ### Attempts -/

namespace OpenLeaf

variable {leaf : OpenLeaf}

/-- A leaf step goes through phases of an attempt until its action is done. -/
def Reaches (place : Workplace device) (leaf : OpenLeaf) (reached : Session device × Leaf.Phase)
    (run : ActionRun device) : Prop :=
  ∀ tasks, Passes place (leaf.enter tasks reached)
    (leaf.enter tasks (run.session, .tried run.notes run.ending))

theorem reachesAtOnce (session : Session device) (notes : StepNotes) (ending : ActionEnd) :
    Reaches place leaf (session, .tried notes ending) ⟨session, notes, ending⟩ := fun _ => .refl

/-- A phase reaches what its next phase reaches. -/
theorem Reaches.later {session : Session device} {phase : Leaf.Phase} {run : ActionRun device}
    (reached : Session device × Leaf.Phase)
    (next : ∀ tasks, { leaf with phase }.next place session tasks = leaf.enter tasks reached)
    (reaches : Reaches place leaf reached run) : Reaches place leaf (session, phase) run :=
  fun tasks => Passes.step (next tasks) (reaches tasks)

theorem pressReaches (session : Session device) (notes : StepNotes) (action : InputAction) :
    Reaches place leaf (session, .press notes action) (Leaf.input place session notes action) := by
  refine .later (Leaf.press place session notes action)
    (fun _ => rfl) ?_
  rw [Leaf.press, Leaf.input]
  obtain ⟨after, answer⟩ := session.input place action
  cases answer <;> exact reachesAtOnce _ _ _

theorem clickReaches (session : Session device) (notes : StepNotes) (sensing : Sensing)
    (found : Match Float) :
    Reaches place leaf (Leaf.beginClick session notes sensing found)
      (Leaf.useMatch place session notes sensing found) := by
  rw [Leaf.beginClick, Leaf.useMatch]
  cases sensing.click with
  | none => exact reachesAtOnce _ _ _
  | some click =>
      simp only
      cases Leaf.checkedAdd? found.center.x click.offset.x with
      | none => exact reachesAtOnce _ _ _
      | some x =>
          cases Leaf.checkedAdd? found.center.y click.offset.y with
          | none => exact reachesAtOnce _ _ _
          | some y => exact pressReaches _ _ _

/-! ### Searches -/

/-- This is how an attempt ends with what a search has come to. -/
def afterSearch (place : Workplace device) (search : Leaf.Search) :
    Session device × Leaf.PollEnd → ActionRun device
  | (session, .found found) => Leaf.useMatch place session search.notes search.sensing found
  | (session, .failed failure) => ⟨session, search.notes, .failed failure⟩
  | (session, .brokeDown) => ⟨session, search.notes, .brokeDown⟩

/-- A search is done as often as there are looks left. -/
def searched (place : Workplace device) (search : Leaf.Search) (session : Session device) :
    ActionRun device :=
  afterSearch place search
    (Leaf.poll place search.wait (search.further + 1) search.looks session)

/-- A search that may look further reaches what it comes to after the next looks. -/
def ReachesAgain (place : Workplace device) (leaf : OpenLeaf) (search : Leaf.Search) : Prop :=
  ∀ (further : Nat) (session : Session device), search.further = further + 1 →
    Reaches place leaf (session, .look { search with further, looks := search.looks + 1 })
      (searched place { search with further, looks := search.looks + 1 } session)

theorem pauseReaches (search : Leaf.Search) (session : Session device) (duration : Nat)
    (again : ReachesAgain place leaf search) :
    Reaches place leaf (session, .pause search duration)
      (afterSearch place search
        (match session.sleep duration with
        | (session, some reason) =>
            (session, .failed (.aborted (session.abort reason search.wait.stepId)))
        | (session, none) =>
            Leaf.poll place search.wait search.further (search.looks + 1) session)) := by
  refine .later
    (Leaf.wakeUp session search.notes search.wait.stepId duration (Leaf.lookAgain search))
    (fun _ => rfl) ?_
  rw [Leaf.wakeUp]
  obtain ⟨later, _ | reason⟩ := session.sleep duration
  · simp only [Leaf.lookAgain]
    cases isFurther : search.further with
    | zero => exact reachesAtOnce _ _ _
    | succ further => exact again further later isFurther
  · exact reachesAtOnce _ _ _

theorem lookReachesOnce (search : Leaf.Search) (session : Session device)
    (again : ReachesAgain place leaf search) :
    Reaches place leaf (session, .look search) (searched place search session) := by
  refine .later (Leaf.lookOnce place session search)
    (fun _ => rfl) ?_
  rw [searched, Leaf.poll, Leaf.lookOnce]
  cases session.context.checkpoint (some search.wait.stepId) with
  | some abort => exact reachesAtOnce _ _ _
  | none =>
      simp only
      obtain ⟨after, reason | found | _ | unavailable | _⟩ := session.look place search.wait.look
      · exact reachesAtOnce _ _ _
      · exact clickReaches after search.notes search.sensing found
      · simp only
        split
        · exact reachesAtOnce _ _ _
        · exact pauseReaches search after _ again
      · exact reachesAtOnce _ _ _
      · exact reachesAtOnce _ _ _

theorem lookReaches (search : Leaf.Search) (session : Session device) :
    Reaches place leaf (session, .look search) (searched place search session) := by
  induction isFurther : search.further generalizing search session with
  | zero =>
      refine lookReachesOnce search session fun further later isSucc => ?_
      rw [isFurther] at isSucc
      cases isSucc
  | succ further inductionHypothesis =>
      refine lookReachesOnce search session fun other later isSucc => ?_
      rw [isFurther] at isSucc
      cases isSucc
      exact inductionHypothesis _ later rfl

theorem searchReaches (stepId : String) (session : Session device) (notes : StepNotes)
    (target : Target) (sensing : Sensing) :
    Reaches place leaf (Leaf.beginSearch stepId session notes target sensing)
      (Leaf.sense place stepId session notes target sensing) :=
  lookReaches _ _

/-! ### Leaf steps -/

/-- The phases of an attempt come to what the action comes to. -/
theorem actionReaches (session : Session device) :
    Reaches place leaf (Leaf.prepare leaf.header.id session leaf.action)
      (Leaf.act place leaf.header.id session leaf.action) := by
  cases leaf.action with
  | click x y button count =>
      rw [Leaf.prepare, Leaf.act]
      obtain ⟨failure | ⟨x, y⟩, notes⟩ := Leaf.position session.bindings x y
      · exact reachesAtOnce _ _ _
      · exact pressReaches _ _ _
  | move x y duration =>
      rw [Leaf.prepare, Leaf.act]
      obtain ⟨failure | ⟨x, y⟩, notes⟩ := Leaf.position session.bindings x y
      · exact reachesAtOnce _ _ _
      · exact pressReaches _ _ _
  | type text interval => exact pressReaches _ _ _
  | hotkey keys =>
      rw [Leaf.prepare, Leaf.act]
      obtain ⟨_ | ⟨key, others⟩, notes⟩ := Leaf.pressedKeys session.bindings keys .empty
      · exact reachesAtOnce _ _ _
      · exact pressReaches _ _ _
  | wait duration =>
      refine .later (Leaf.wakeUp session .empty leaf.header.id duration.toNat fun session =>
        (session, .tried .empty .done)) (fun _ => rfl) ?_
      rw [Leaf.wakeUp, Leaf.act]
      obtain ⟨later, _ | reason⟩ := session.sleep duration.toNat
      · exact reachesAtOnce _ _ _
      · exact reachesAtOnce _ _ _
  | waitImage template sensing => exact searchReaches _ _ _ _ _
  | searchText query exactly sensing => exact searchReaches _ _ _ _ _

/-- A step that has done its work is over after a pause. -/
theorem restPasses (leaf : OpenLeaf) (session : Session device) (tasks : List Task)
    (notes : StepNotes) :
    Passes place (leaf.enter tasks (session, .tried notes .done))
      (leave tasks (Leaf.succeed place leaf.step leaf.depth leaf.startedAt session notes
        leaf.number)) := by
  refine Passes.step rfl (Passes.step rfl ?_)
  exact .refl

/-- This is how the attempts end that are left of a step. -/
def attempt (leaf : OpenLeaf) (place : Workplace device) (session : Session device) : Flow device :=
  Leaf.attempt place leaf.step leaf.action leaf.depth leaf.startedAt leaf.left leaf.number session

/-- The further attempts of a step pass through the instants from their beginning on. -/
def AgainPasses (place : Workplace device) (leaf : OpenLeaf) : Prop :=
  ∀ (left : Nat) (session : Session device) (tasks : List Task), leaf.left = left + 1 →
    Passes place (.within session (leaf.again left) tasks)
      (leave tasks ((leaf.again left).attempt place session))

/-- After a failure from which the run can recover the step is tried again. -/
theorem failedPasses (leaf : OpenLeaf) (session : Session device) (tasks : List Task)
    (notes : StepNotes) (failure : StepFailure) (unaborted : ∀ abort, failure ≠ .aborted abort)
    (again : AgainPasses place leaf) :
    Passes place (leaf.enter tasks (session, .tried notes (.failed failure)))
      (leave tasks
        (match leaf.left with
        | 0 => leaf.fail place session notes failure
        | left + 1 =>
            if failure.isRecoverable then (leaf.again left).attempt place session
            else leaf.fail place session notes failure)) := by
  have next : (leaf.enter tasks (session, .tried notes (.failed failure))).next place =
      leaf.tryAgain place session tasks notes failure := by
    cases failure with
    | aborted abort => exact absurd rfl (unaborted abort)
    | _ => rfl
  refine Passes.step next ?_
  rw [tryAgain]
  cases isLeft : leaf.left with
  | zero => exact .refl
  | succ left =>
      simp only
      split
      · exact again left session tasks isLeft
      · exact .refl

theorem attemptPassesOnce (leaf : OpenLeaf) (session : Session device) (tasks : List Task)
    (again : AgainPasses place leaf) :
    Passes place (.within session { leaf with phase := .begin } tasks)
      (leave tasks (leaf.attempt place session)) := by
  have acted :
      Passes place (leaf.enter tasks (Leaf.prepare leaf.header.id session leaf.action)) _ :=
    actionReaches session tasks
  refine Passes.step rfl (acted.trans ?_)
  rw [attempt, Leaf.attempt, show leaf.step.id = leaf.header.id from rfl]
  generalize Leaf.act place leaf.header.id session leaf.action = run
  obtain ⟨after, notes, _ | failure | _⟩ := run
  · exact restPasses leaf after tasks notes
  · cases failure with
    | aborted abort => exact Passes.step rfl .refl
    | _ => exact failedPasses leaf after tasks notes _ nofun again
  · exact Passes.step rfl .refl

/-- The instants of a leaf step come to the end of its attempts. -/
theorem attemptPasses (leaf : OpenLeaf) (session : Session device) (tasks : List Task) :
    Passes place (.within session { leaf with phase := .begin } tasks)
      (leave tasks (leaf.attempt place session)) := by
  obtain ⟨left, isLeft⟩ : ∃ left, leaf.left = left := ⟨_, rfl⟩
  induction left generalizing leaf session tasks with
  | zero =>
      refine attemptPassesOnce leaf session tasks fun left later others isSucc => ?_
      rw [isLeft] at isSucc
      cases isSucc
  | succ left inductionHypothesis =>
      refine attemptPassesOnce leaf session tasks fun other later others isSucc => ?_
      rw [isLeft] at isSucc
      cases isSucc
      exact inductionHypothesis (leaf.again left) later others rfl

end OpenLeaf

/-! ### Moments -/

/-- A leaf step is opened at a moment at which it begins. -/
inductive Opens (place : Workplace device) : Moment device → Instant device → Prop where
  | leaf (session : Session device) (depth : Nat) (header : StepHeader) (action : Action)
      (rest : List Step) (tasks : List Task)
      (begins : Begins place session depth (.leaf header action)) :
      Opens place ⟨session, none, .steps depth (.leaf header action :: rest) :: tasks⟩
        (Moment.openLeaf place session depth header action rest tasks)

theorem opensOfSome {moment : Moment device} {opened : Instant device}
    (isOpen : moment.opens? place = some opened) : Opens place moment opened := by
  obtain ⟨session, halt, tasks⟩ := moment
  unfold Moment.opens? at isOpen
  split at isOpen
  · rename_i same
    split at isOpen
    · rename_i begins
      cases same
      cases isOpen
      exact .leaf _ _ _ _ _ _ ⟨begins.1, begins.2.1, begins.2.2⟩
    · cases isOpen
  · cases isOpen

/-- A run passes from a moment to the next one. -/
theorem momentPasses (moment : Moment device) :
    Passes place (.between moment) (.between (moment.next place)) := by
  cases isOpen : moment.opens? place with
  | none =>
      refine Passes.step ?_ .refl
      rw [Instant.next, isOpen]
      rfl
  | some opened =>
      have next : (Instant.between moment).next place = opened := by
        rw [Instant.next, isOpen]
        rfl
      refine Passes.step next ?_
      cases opensOfSome isOpen with
      | leaf session depth header action rest tasks begins =>
          rw [nextLeaf session depth header action rest tasks begins]
          exact OpenLeaf.attemptPasses
            ⟨header, action, depth, session.time place, Leaf.furtherAttempts header, 1, .begin⟩ _ _

theorem Leads.passes {first last : Moment device} (leads : Leads place first last) :
    Passes place (.between first) (.between last) := by
  induction leads with
  | refl => exact .refl
  | tail _ next inductionHypothesis => exact inductionHypothesis.trans (next ▸ momentPasses _)

/-! ### Runs -/

/-- Of two instants of a run one comes to the other. -/
theorem Passes.linear {start first second : Instant device} (one : Passes place start first)
    (other : Passes place start second) : Passes place first second ∨ Passes place second first :=
  Relation.ReflTransGen.total_of_right_unique (fun _ _ _ one other => one.symm.trans other) one
    other

theorem Passes.ofOver {session : Session device} {halt : Option Halt} {last : Instant device}
    (passes : Passes place (.between ⟨session, halt, []⟩) last) :
    last = .between ⟨session, halt, []⟩ := by
  induction passes with
  | refl => rfl
  | tail _ next inductionHypothesis =>
      rw [← next, inductionHypothesis]
      cases halt <;> rfl

theorem passesIterate (place : Workplace device) (count : Nat) (instant : Instant device) :
    Passes place instant ((Instant.next place)^[count] instant) := by
  induction count generalizing instant with
  | zero => exact .refl
  | succ count inductionHypothesis => exact Passes.step rfl (inductionHypothesis _)

/-- A run that is over has passed through every instant to which it came. -/
theorem Passes.reaches {start instant : Instant device} {after : Session device}
    {halt : Option Halt} (passes : Passes place start instant)
    (ends : Passes place start (.between ⟨after, halt, []⟩)) :
    Passes place instant (.between ⟨after, halt, []⟩) := by
  obtain ahead | behind := passes.linear ends
  · exact ahead
  · rw [behind.ofOver]

end Interpreter

end DeskScript
