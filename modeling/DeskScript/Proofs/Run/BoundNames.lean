/-
This file compares the names that are taken to be bound by a run with those that are bound in some
run. Every name that is bound belongs to a step that gives it a value, and where a run comes to such
a step the name is bound in a run, perhaps with other devices.
-/

import DeskScript.Proofs.Run.Alike
import DeskScript.Proofs.Run.LateInput
import DeskScript.Proofs.Run.Takeover
import DeskScript.Proofs.Run.Variables
import DeskScript.Proofs.Script.Validity

namespace DeskScript

variable {device : Type} {place : Workplace device} {name : String}

/-! ### Phases bind few names -/

namespace Leaf

variable {names : List String} {kept : Session device → Session device → Prop}

theorem boundOfSensing {action : Action} {sensing : Sensing}
    (isSensing : sensing? action = some sensing) :
    boundNames action = matchedNames ++ outputNames sensing.output := by
  cases action with
  | waitImage template other =>
      cases isSensing
      rfl
  | searchText query exactly other =>
      cases isSensing
      rfl
  | _ => cases isSensing

/-- What an attempt keeps that binds some names is kept when the attempt begins. -/
theorem prepareKeeps {action : Action} (keeps : ActionKeeps place (boundNames action) kept)
    (stepId : String) (session : Session device) :
    kept session (prepare stepId session action).1 := by
  have cleared (sensing : Sensing) (isSensing : sensing? action = some sensing) :
      kept session (clearOutputs session sensing.output) :=
    clearOutputsKeeps keeps session
      (boundOfSensing isSensing ▸ List.subset_append_right matchedNames _)
  cases action with
  | click x y button count =>
      rw [prepare]
      split <;> exact keeps.refl session
  | move x y duration =>
      rw [prepare]
      split <;> exact keeps.refl session
  | hotkey keys =>
      rw [prepare]
      split <;> exact keeps.refl session
  | waitImage template sensing => exact cleared sensing rfl
  | searchText query exactly sensing => exact cleared sensing rfl
  | _ => exact keeps.refl session

theorem beginClickKeeps (keeps : ActionKeeps place names kept) (session : Session device)
    (notes : StepNotes) {sensing : Sensing} (found : Match Float)
    (inside : matchedNames ++ outputNames sensing.output ⊆ names) :
    kept session (beginClick session notes sensing found).1 := by
  rw [beginClickSession]
  exact bindAllKeeps keeps session (matchBindingsNames found sensing.output ▸ inside)

theorem lookOnceKeeps (keeps : ActionKeeps place names kept) (session : Session device)
    {search : Search} (inside : matchedNames ++ outputNames search.sensing.output ⊆ names) :
    kept session (lookOnce place session search).1 := by
  rw [lookOnce]
  split
  · exact keeps.refl session
  · have looked := keeps.look session search.wait.look
    generalize session.look place search.wait.look = looking at looked
    obtain ⟨after, reason | found | _ | unavailable | _⟩ := looking
    · exact looked
    · exact keeps.trans looked (beginClickKeeps keeps after search.notes found inside)
    · simp only
      split <;> exact looked
    · exact looked
    · exact looked

/-- A phase keeps what an action keeps that binds the same names. -/
theorem advanceKeeps {action : Action} (keeps : ActionKeeps place (boundNames action) kept)
    (stepId : String) (session : Session device) {phase : Phase}
    (searches : ∀ search, phase.search? = some search → sensing? action = some search.sensing) :
    kept session (advance place stepId action session phase).1 := by
  cases phase with
  | begin => exact prepareKeeps keeps stepId session
  | wait duration =>
      rw [advance, wakeUpSession _ _ _ _ _ fun _ => rfl]
      exact keeps.sleep session duration
  | look search =>
      exact lookOnceKeeps keeps session
        (boundOfSensing (searches search rfl) ▸ List.Subset.refl _)
  | pause search duration =>
      rw [advance, wakeUpSession _ _ _ _ _ (lookAgainSession search)]
      exact keeps.sleep session duration
  | press notes input => exact keeps.input session input
  | _ => exact keeps.refl session

end Leaf

namespace Interpreter

/-- Between two attempts, and after the last one, the variables stay as they are. -/
theorem OpenLeaf.Concluded.bindings {leaf : OpenLeaf} {session : Session device}
    {tasks : List Task} {notes : StepNotes} {instant : Instant device}
    (concluded : Concluded place leaf session tasks notes instant) :
    instant.session.bindings = session.bindings := by
  cases concluded <;> rfl

/-- A leaf step in progress binds no other names than its action. -/
theorem OpenLeaf.nextKeepsName {script : Script} {session : Session device} {leaf : OpenLeaf}
    (regular : Regular script session leaf) (other : name ∉ Leaf.boundNames leaf.action)
    (tasks : List Task) :
    (leaf.next place session tasks).session.bindings.find? name = session.bindings.find? name := by
  cases isOver : leaf.phase.isOver with
  | false =>
      rw [nextAdvance session tasks isOver]
      exact Leaf.advanceKeeps (actionKeepsName other) leaf.header.id session regular.searches
  | true =>
      obtain ⟨header, action, depth, startedAt, left, number, phase⟩ := leaf
      cases phase with
      | tried notes ending =>
          exact congrArg (·.find? name)
            (concluded place _ session tasks notes ending).bindings
      | rest =>
          have finished : (finish ⟨header, action, depth, startedAt, left, number, .rest⟩
              place session).1 = (session.sleep place.config.stepDelay.toNat).1 :=
            finishSession _ session
          exact congrArg (fun session => session.bindings.find? name) finished
      | _ => cases isOver

end Interpreter

/-! ### Steps that give a value to a name -/

/-- A sensing step gives values to what a match binds, and a loop to its index variable. -/
def Step.Gives (name : String) : Step → Prop
  | .leaf _ action => name ∈ Leaf.boundNames action
  | .branch .. => False
  | .loop _ rule _ => rule.indexVariable = some name

namespace Interpreter

/-- A run is at work on a leaf step in progress, and on a loop that is about to iterate. -/
inductive AtWork (place : Workplace device) (step : Step) : Instant device → Prop where
  | leaf (session : Session device) (leaf : OpenLeaf) (tasks : List Task)
      (isStep : leaf.step = step) : AtWork place step (.within session leaf tasks)
  | loop (session : Session device) (loop later : OpenLoop) (tasks : List Task)
      (isStep : loop.step = step)
      (iterates : ((Moment.mk session none (.loop loop :: tasks)).next place).tasks =
        .steps (loop.depth + 1) loop.body :: .loop later :: tasks) :
      AtWork place step (.between ⟨session, none, .loop loop :: tasks⟩)

/-! ### A name is bound by a step that gives it a value -/

theorem givenByIndex {loop later : OpenLoop} {session : Session device}
    (same : later.step = loop.step) (unbound : session.bindings.find? name = none)
    (bound : (later.bindIndex session).bindings.find? name ≠ none) : loop.step.Gives name := by
  rw [← same]
  rw [OpenLoop.bindIndex] at bound
  cases isIndex : later.rule.indexVariable with
  | none =>
      rw [isIndex] at bound
      exact absurd unbound bound
  | some index =>
      rw [isIndex] at bound
      by_cases other : name = index
      · exact other ▸ isIndex
      · exact absurd ((Table.findPutOther _ _ _ _ other).trans unbound) bound

theorem givenBetween {moment : Moment device} (closed : moment.opens? place = none)
    (unbound : moment.session.bindings.find? name = none)
    (bound : (moment.next place).session.bindings.find? name ≠ none) :
    ∃ loop, .loop loop ∈ moment.tasks ∧ loop.step.Gives name ∧
      AtWork place loop.step (.between moment) := by
  obtain unmoved | ⟨session, loop, later, tasks, rfl, isNext, same⟩ :=
    Instant.unmovedBetween closed
  · rw [unmoved.bindings] at bound
    exact absurd unbound bound
  · rw [isNext] at bound
    exact ⟨loop, List.mem_cons_self, givenByIndex same unbound bound,
      .loop session loop later tasks rfl (congrArg Moment.tasks isNext)⟩

/-- At this instant a run is at work on a step of the script that gives a value to the name. -/
def Giving (place : Workplace device) (script : Script) (name : String)
    (instant : Instant device) : Prop :=
  ∃ depth step, (depth, step) ∈ script.visit ∧ step.Gives name ∧ AtWork place step instant

variable {script : Script}

/-- The loops that are open belong to the script. -/
def LoopsVisited (script : Script) (instant : Instant device) : Prop :=
  ∀ loop : OpenLoop, .loop loop ∈ instant.tasks → ∃ depth, (depth, loop.step) ∈ script.visit

theorem LoopsVisited.next {instant : Instant device} (loops : LoopsVisited script instant)
    (inScript : InScript script instant) : LoopsVisited script (instant.next place) := by
  intro loop isOpen
  cases instant with
  | within session leaf tasks =>
      rw [Instant.next, leaf.nextTasks place] at isOpen
      exact loops loop isOpen
  | between moment =>
      cases opening : moment.opens? place with
      | some opened =>
          rw [Instant.nextOpened opening] at isOpen
          cases opensOfSome opening
          refine loops loop (List.mem_cons_of_mem _ ?_)
          simpa [Moment.openLeaf, Instant.tasks] using isOpen
      | none =>
          rw [Instant.nextClosed opening] at isOpen
          have moves : Move place moment (moment.next place) := moveOfNext moment
          obtain ⟨session, depth, rest, tasks, rfl, -⟩ | ⟨earlier, wasOpen, same⟩ :=
            moves.openLoop isOpen
          · have first : (depth, loop.step) ∈
                remaining (.steps depth (loop.step :: rest) :: tasks) := by
              simp [remaining, Task.remaining, Step.visitAll, OpenLoop.step, Step.visit]
            exact ⟨depth, inScript.remaining first⟩
          · exact same ▸ loops earlier wasOpen

/-- A name that has no value but has one at the next instant is given it by a step at work. -/
theorem givenNext {instant : Instant device} (inScript : InScript script instant)
    (loops : LoopsVisited script instant)
    (unbound : instant.session.bindings.find? name = none)
    (bound : (instant.next place).session.bindings.find? name ≠ none) :
    Giving place script name instant := by
  cases instant with
  | within session leaf tasks =>
      have regular := inScript.regular rfl
      refine ⟨leaf.depth, leaf.step, regular.member, ?_, .leaf session leaf tasks rfl⟩
      by_contra other
      exact bound ((leaf.nextKeepsName regular other tasks).trans unbound)
  | between moment =>
      cases isOpen : moment.opens? place with
      | none =>
          rw [Instant.nextClosed isOpen] at bound
          obtain ⟨loop, inside, gives, works⟩ := givenBetween isOpen unbound bound
          obtain ⟨depth, visited⟩ := loops loop inside
          exact ⟨depth, loop.step, visited, gives, works⟩
      | some opened =>
          rw [Instant.nextOpened isOpen] at bound
          cases opensOfSome isOpen
          exact absurd unbound bound

/-! ### Runs -/

section

variable {context : RunContext} {bindings : Bindings} {state : device} {instant : Instant device}

theorem inScriptAlong
    (passes : Passes place (.start script (Session.start context bindings state)) instant) :
    InScript script instant := by
  refine InScript.along passes trivial ⟨?_, nofun⟩
  exact List.append_subset.mpr ⟨List.Subset.refl _, List.nil_subset _⟩

theorem loopsVisitedAlong
    (passes : Passes place (.start script (Session.start context bindings state)) instant) :
    LoopsVisited script instant := by
  induction passes with
  | refl =>
      intro loop isOpen
      cases List.mem_singleton.mp isOpen
  | tail before next inductionHypothesis =>
      exact next ▸ inductionHypothesis.next (inScriptAlong before)

/-- Before a name has a value, the run is at work on a step that gives a value to it. -/
theorem givenBefore
    (passes : Passes place (.start script (Session.start context bindings state)) instant)
    (unbound : bindings.find? name = none) (bound : instant.session.bindings.find? name ≠ none) :
    ∃ earlier, Passes place (.start script (Session.start context bindings state)) earlier ∧
      Giving place script name earlier := by
  induction passes with
  | refl => exact absurd unbound bound
  | @tail middle later before next inductionHypothesis =>
      subst next
      -- The last instant without a value is the one at which the value is given.
      by_cases already : middle.session.bindings.find? name = none
      · exact ⟨middle, before,
          givenNext (inScriptAlong before) (loopsVisitedAlong before) already bound⟩
      · exact inductionHypothesis already

/-- A leaf step in progress has begun earlier in the run. -/
theorem begunBefore {first : Moment device} {session : Session device} {leaf : OpenLeaf}
    {tasks : List Task} (passes : Passes place (.between first) (.within session leaf tasks)) :
    ∃ before depth rest others, Begins place before depth (.leaf leaf.header leaf.action) ∧
      Passes place (.between first)
        (Moment.openLeaf place before depth leaf.header leaf.action rest others) := by
  generalize isLast : Instant.within session leaf tasks = last at passes
  induction passes generalizing session leaf tasks with
  | refl => cases isLast
  | @tail middle later before next inductionHypothesis =>
      subst next
      cases middle with
      | between moment =>
          cases opening : moment.opens? place with
          | none =>
              rw [Instant.nextClosed opening] at isLast
              cases isLast
          | some opened =>
              have opens : Passes place (.between moment) opened :=
                .single (Instant.nextOpened opening)
              rw [Instant.nextOpened opening] at isLast
              cases opensOfSome opening with
              | leaf session depth header action rest others begins =>
                  cases isLast
                  exact ⟨session, depth, rest, others, begins, before.trans opens⟩
      | within earlier open_ others =>
          -- Phases and attempts go by, but the header and the action of the step stay.
          have same := inductionHypothesis rfl
          cases OpenLeaf.continues isLast.symm with
          | advanced => exact same
          | again => exact same
          | rested => exact same

end

end Interpreter

/-! ### What is looked for is found -/

namespace Leaf

theorem beginClickBinds (session : Session device) (notes : StepNotes) {sensing : Sensing}
    (found : Match Float) (inside : name ∈ matchedNames ++ outputNames sensing.output) :
    (beginClick session notes sensing found).1.bindings.find? name ≠ none := by
  rw [beginClickSession, bindAllBindings]
  exact putAllBound session.bindings (matchBindingsNames found sensing.output ▸ inside)

/-- This is the search of a sensing step. -/
structure Search.For (search : Search) (stepId : String) (sensing : Sensing) : Prop where
  stepId : search.wait.stepId = stepId
  threshold : search.wait.look.threshold = sensing.threshold
  sensing : search.sensing = sensing

theorem prepareSearching {action : Action} {sensing : Sensing}
    (isSensing : sensing? action = some sensing) (stepId : String) (session : Session device) :
    ∃ search : Search, search.For stepId sensing ∧
      prepare stepId session action = (clearOutputs session sensing.output, .look search) := by
  cases action with
  | waitImage template other =>
      cases isSensing
      exact ⟨_, ⟨rfl, rfl, rfl⟩, rfl⟩
  | searchText query exactly other =>
      cases isSensing
      exact ⟨_, ⟨rfl, rfl, rfl⟩, rfl⟩
  | _ => cases isSensing

theorem clearOutputsContext (session : Session device) (output : Option String) :
    (clearOutputs session output).context = session.context := by
  cases output <;> rfl

theorem clearOutputsDevice (session : Session device) (output : Option String) :
    (clearOutputs session output).device = session.device := by
  cases output <;> rfl

/-- After other devices have taken over, a look binds the names that a match binds. -/
theorem lookOnceBinds {limit : Nat} {session : Session (device × Nat)} {search : Search}
    (free : session.context.checkpoint (some search.wait.stepId) = none)
    (spent : limit ≤ session.device.2) (certain : search.wait.look.threshold ≤ 1)
    (inside : name ∈ matchedNames ++ outputNames search.sensing.output) :
    (lookOnce (place.thenFinding limit) session search).1.bindings.find? name ≠ none := by
  obtain ⟨after, found, isFound⟩ :=
    session.lookFinds place search.wait.look spent certain
  rw [lookOnce, free]
  simp only [isFound]
  exact beginClickBinds after search.notes found inside

end Leaf

namespace Interpreter

/-- A sensing step finds what it looks for when other devices take over as it begins. -/
theorem boundAtOnce {session : Session device} {depth : Nat} {header : StepHeader}
    {action : Action} {sensing : Sensing}
    (begins : Begins place session depth (.leaf header action))
    (isSensing : Leaf.sensing? action = some sensing) (certain : sensing.threshold ≤ 1)
    (inside : name ∈ Leaf.boundNames action) (rest : List Step) (tasks : List Task) :
    ∃ instant, Passes (place.thenFinding session.calls.size)
        (Moment.openLeaf place session depth header action rest tasks).counted instant ∧
      instant.session.bindings.find? name ≠ none := by
  rw [Leaf.boundOfSensing isSensing] at inside
  let started := (startStep depth (.leaf header action) session).counted
  obtain ⟨search, isSearch, isPrepared⟩ := Leaf.prepareSearching isSensing header.id started
  cases isSearch.sensing
  let looking : OpenLeaf :=
    ⟨header, action, depth, session.time place, Leaf.furtherAttempts header, 1, .look search⟩
  let cleared := Leaf.clearOutputs started search.sensing.output
  have prepares : Passes (place.thenFinding session.calls.size)
      (Moment.openLeaf place session depth header action rest tasks).counted
      (.within cleared looking (.check header.id :: .steps depth rest :: tasks)) :=
    .single (congrArg (OpenLeaf.enter looking _) isPrepared)
  refine ⟨_, prepares.tail rfl, Leaf.lookOnceBinds ?_ ?_ ?_ inside⟩
  · rw [Leaf.clearOutputsContext, isSearch.stepId]
    exact begins.passed
  · rw [Leaf.clearOutputsDevice]
    exact Nat.le_refl _
  · exact isSearch.threshold ▸ certain

end Interpreter

/-! ### Names that are bound in some run -/

namespace Step

/-- The names that an action may bind are those of a search that it does. -/
theorem sensingOfBound {action : Action} (given : name ∈ Leaf.boundNames action) :
    ∃ sensing, Leaf.sensing? action = some sensing := by
  cases action with
  | waitImage template sensing => exact ⟨sensing, rfl⟩
  | searchText query exactly sensing => exact ⟨sensing, rfl⟩
  | _ => cases given

theorem thresholdOfSound {header : StepHeader} {action : Action} {sensing : Sensing}
    (sound : (Step.leaf header action).checkOwn = .ok ())
    (isSensing : Leaf.sensing? action = some sensing) : sensing.threshold ≤ 1 := by
  have fields := fieldsSound _ sound
  cases action with
  | waitImage template other =>
      cases isSensing
      exact (sensing.probable (FieldCheck.second _ _ fields)).2
  | searchText query exactly other =>
      cases isSensing
      exact (sensing.probable (FieldCheck.second _ _ fields)).2
  | _ => cases isSensing

theorem outputOfMayBind {sensing : Sensing} (binds : mayBind.outputsOf name sensing = true) :
    name ∈ Leaf.outputNames sensing.output := by
  rw [mayBind.outputsOf] at binds
  cases isOutput : sensing.output with
  | none =>
      rw [isOutput] at binds
      cases binds
  | some output =>
      rw [isOutput] at binds
      simpa [Leaf.outputNames, or_assoc] using binds

theorem givesOfMayBind {step : Step} (binds : step.mayBind name = true) : step.Gives name := by
  cases step with
  | leaf header action =>
      cases action with
      | waitImage template sensing => exact List.mem_append_right _ (outputOfMayBind binds)
      | searchText query exactly sensing => exact List.mem_append_right _ (outputOfMayBind binds)
      | _ => cases binds
  | branch header condition whenTrue whenFalse => cases binds
  | loop header rule body =>
      have isIndex : rule.indexVariable = some name := of_decide_eq_true binds
      exact isIndex

theorem matchedIsMatchName (matched : name ∈ Leaf.matchedNames) :
    Script.isMatchName name = true :=
  (by decide : ∀ name ∈ Leaf.matchedNames, Script.isMatchName name = true) name matched

/-- A name that a step gives a value to is one that it may bind, unless it is kept for matches. -/
theorem mayBindOfGives {step : Step} (gives : step.Gives name)
    (other : Script.isMatchName name = false) : step.mayBind name = true := by
  cases step with
  | leaf header action =>
      have unmatched : name ∉ Leaf.matchedNames := fun matched =>
        Bool.false_ne_true (other.symm.trans (matchedIsMatchName matched))
      exact Bool.of_not_eq_false fun unbound => Interpreter.notBound unmatched unbound gives
  | branch header condition whenTrue whenFalse => cases gives
  | loop header rule body =>
      have isIndex : rule.indexVariable = some name := gives
      exact decide_eq_true isIndex

end Step

namespace Script

open Interpreter

variable {script : Script} {context : RunContext}

/-- A name is taken to be bound when a step of the script gives a value to it. -/
theorem mayBindOfGives {depth : Nat} {step : Step} (visited : (depth, step) ∈ script.visit)
    (gives : step.Gives name) : script.mayBind name = true := by
  rw [mayBind]
  cases isMatch : isMatchName name with
  | true => rfl
  | false =>
      exact List.any_eq_true.mpr ⟨(depth, step), visited, Step.mayBindOfGives gives isMatch⟩

/-- Unless it is kept for matches, a name is taken to be bound only then. -/
theorem mayBindIff (other : isMatchName name = false) :
    script.mayBind name = true ↔ ∃ depth step, (depth, step) ∈ script.visit ∧ step.Gives name := by
  refine ⟨fun binds => ?_, fun ⟨depth, step, visited, gives⟩ => mayBindOfGives visited gives⟩
  rw [mayBind, other, Bool.false_or, List.any_eq_true] at binds
  obtain ⟨⟨depth, step⟩, visited, binds⟩ := binds
  exact ⟨depth, step, visited, Step.givesOfMayBind binds⟩

theorem unboundIff :
    name ∈ script.unboundNames ↔
      name ∈ script.referencedVariables ∧ script.defaults.find? name = none ∧
        script.mayBind name = false := by
  simp [unboundNames, Option.isNone_iff_eq_none]

/-- A run of the script comes to this instant. -/
def ComesTo {device : Type} (script : Script) (context : RunContext) (place : Workplace device)
    (instant : Instant device) : Prop :=
  ∃ state, Passes place (.start script (Session.start context script.defaults state)) instant

/--
In some run of the script the name has a value at some instant. Its devices find nothing too
uncertain.
-/
def Bindable (script : Script) (context : RunContext) (name : String) : Prop :=
  ∃ (device : Type) (place : Workplace device) (instant : Instant device),
    place.devices.Honest ∧ script.ComesTo context place instant ∧
      instant.session.bindings.find? name ≠ none

/-- Some run of the script with such devices is at work on the step at some instant. -/
def Employs (script : Script) (context : RunContext) (step : Step) : Prop :=
  ∃ (device : Type) (place : Workplace device) (instant : Instant device),
    place.devices.Honest ∧ script.ComesTo context place instant ∧ AtWork place step instant

/-- Whatever the devices find, a name gets its value when its run is at work on a step. -/
theorem workedBefore {device : Type} {place : Workplace device} {instant : Instant device}
    (undeclared : script.defaults.find? name = none) (comes : script.ComesTo context place instant)
    (bound : instant.session.bindings.find? name ≠ none) :
    ∃ depth step, (depth, step) ∈ script.visit ∧ step.Gives name ∧
      ∃ earlier, script.ComesTo context place earlier ∧ AtWork place step earlier := by
  obtain ⟨state, passes⟩ := comes
  obtain ⟨earlier, came, depth, step, visited, gives, works⟩ :=
    givenBefore passes undeclared bound
  exact ⟨depth, step, visited, gives, earlier, ⟨state, came⟩, works⟩

theorem employedOfBindable (undeclared : script.defaults.find? name = none)
    (bindable : script.Bindable context name) :
    ∃ depth step, (depth, step) ∈ script.visit ∧ step.Gives name ∧ script.Employs context step := by
  obtain ⟨device, place, instant, honest, comes, bound⟩ := bindable
  obtain ⟨depth, step, visited, gives, earlier, came, works⟩ :=
    workedBefore undeclared comes bound
  exact ⟨depth, step, visited, gives, device, place, earlier, honest, came, works⟩

/-- Where a loop iterates its index variable has a value. -/
theorem boundByIteration {device : Type} {place : Workplace device} {session : Session device}
    {loop later : OpenLoop} {tasks : List Task} (given : loop.step.Gives name)
    (iterates : ((Moment.mk session none (.loop loop :: tasks)).next place).tasks =
      .steps (loop.depth + 1) loop.body :: .loop later :: tasks) :
    ((Moment.mk session none (.loop loop :: tasks)).next place).session.bindings.find? name ≠
      none := by
  have moves : Move place ⟨session, none, .loop loop :: tasks⟩ _ := moveOfNext _
  generalize (Moment.mk session none (.loop loop :: tasks)).next place = after at moves iterates
  cases moves with
  | stopped session stepId abort task tasks stops noLoop => exact absurd rfl (noLoop loop)
  | loopStopped => cases iterates
  | iterated session loop next tasks same =>
      rw [← same] at given
      have isIndex : next.rule.indexVariable = some name := given
      rw [OpenLoop.bindIndex, isIndex]
      simp [Session.bind]
  | ended | limited =>
      have longer := congrArg List.length iterates
      simp only [List.length_cons] at longer
      omega

theorem bindableOfEmployed {step : Step} (sound : step.checkOwn = .ok ())
    (gives : step.Gives name) (employed : script.Employs context step) :
    script.Bindable context name := by
  obtain ⟨device, place, instant, honest, ⟨state, passes⟩, works⟩ := employed
  cases works with
  | leaf session leaf tasks isStep =>
      subst isStep
      obtain ⟨sensing, isSensing⟩ := Step.sensingOfBound gives
      obtain ⟨before, depth, rest, others, begins, begun⟩ := begunBefore passes
      -- Up to this call the devices do what they did, so that the other run begins the step too.
      have counted := begun.counted (Nat.le_refl before.calls.size)
      obtain ⟨last, finds, bound⟩ := boundAtOnce begins isSensing
        (Step.thresholdOfSound sound isSensing) gives rest others
      exact ⟨device × Nat, place.thenFinding before.calls.size, last, honest.thenFinding _,
        ⟨(state, 0), counted.trans finds⟩, bound⟩
  | loop session loop later tasks isStep iterates =>
      subst isStep
      exact ⟨device, place, _, honest, ⟨state, passes.tail rfl⟩, boundByIteration gives iterates⟩

/--
This accounts for a name in a placeholder that has no default. The command line warns of it unless
it is taken to be bound, and a name that is bound in a run with any devices is taken to be. So is
one that a step of the script gives a value to, and only such a one unless it is kept for matches.
It is bound in some run exactly if some run comes to work on such a step.
-/
structure Accounted (script : Script) (context : RunContext) (name : String) : Prop where
  warned : name ∈ script.unboundNames ↔ script.mayBind name = false
  bound : ∀ (device : Type) (place : Workplace device) (instant : Instant device),
    script.ComesTo context place instant → instant.session.bindings.find? name ≠ none →
    script.mayBind name = true
  given : ∀ depth step, (depth, step) ∈ script.visit → step.Gives name → script.mayBind name = true
  taken : isMatchName name = false → script.mayBind name = true →
    ∃ depth step, (depth, step) ∈ script.visit ∧ step.Gives name
  employed : script.Bindable context name ↔
    ∃ depth step, (depth, step) ∈ script.visit ∧ step.Gives name ∧ script.Employs context step

/-- All names in placeholders of a valid script are accounted for. -/
theorem namesAccounted (script : Script) (context : RunContext) (name : String)
    (valid : script.validate = .ok ()) (referenced : name ∈ script.referencedVariables)
    (undeclared : script.defaults.find? name = none) : script.Accounted context name where
  warned :=
    script.unboundIff.trans ⟨fun told => told.2.2, fun unset => ⟨referenced, undeclared, unset⟩⟩
  bound device place instant comes isBound := by
    obtain ⟨depth, step, visited, gives, -⟩ := workedBefore undeclared comes isBound
    exact mayBindOfGives visited gives
  given depth step visited gives := mayBindOfGives visited gives
  taken other binds := (mayBindIff other).mp binds
  employed := by
    refine ⟨employedOfBindable undeclared, fun ⟨depth, step, visited, gives, employed⟩ => ?_⟩
    have sound := script.stepsSound valid step (List.mem_map_of_mem visited)
    exact bindableOfEmployed sound gives employed

/-- In this script a step looks for a text, and then it is typed where it has been found. -/
def typeWhereFound : Script :=
  { Script.new "script" "type" .epoch with
    steps := [
      .leaf (Step.newHeader "look") (.searchText "text" false
        { Step.newSensing Step.textThreshold 5 with output := some "place" }),
      Step.newType "type" "$\x7bplace_x\x7d"] }

theorem namesAccountedTypeWhereFound :
    typeWhereFound.validate = .ok () ∧ "place_x" ∈ typeWhereFound.referencedVariables ∧
      typeWhereFound.defaults.find? "place_x" = none ∧
      typeWhereFound.Accounted (.start "run" none 0) "place_x" := by
  have valid : typeWhereFound.validate = .ok () := okOfToBool (by decide +kernel)
  have referenced : "place_x" ∈ typeWhereFound.referencedVariables := by decide +kernel
  have undeclared : typeWhereFound.defaults.find? "place_x" = none := by decide +kernel
  exact ⟨valid, referenced, undeclared,
    namesAccounted typeWhereFound _ "place_x" valid referenced undeclared⟩

/-- No run comes to an iteration of a loop whose condition is never true. -/
theorem neverAtWork {device : Type} {place : Workplace device} {instant : Instant device}
    {header : StepHeader} {rule : LoopRule} {body : List Step} {condition : Condition}
    (isMode : rule.mode = .while_ condition)
    (never : ∀ bindings, (condition.evaluate bindings).result = false) :
    ¬AtWork place (.loop header rule body) instant := by
  intro works
  cases works with
  | leaf session leaf tasks isStep => cases isStep
  | loop session loop later tasks isStep iterates =>
      have isRule : loop.rule = rule := by
        cases isStep
        rfl
      subst isRule
      simp only [Moment.next, Task.perform, OpenLoop.turn, isMode, Moment.checkpoint, never]
        at iterates
      cases checked : session.context.checkpoint (some loop.header.id) with
      | some abort =>
          rw [checked] at iterates
          cases iterates
      | none =>
          rw [checked] at iterates
          have longer : tasks.length = tasks.length + 1 + 1 := congrArg List.length iterates
          omega

/-- This loop is never iterated. -/
def neverRound : Step :=
  .loop (Step.newHeader "never") ⟨.while_ ⟨"day", .equals, "night"⟩, 3, some "round"⟩
    [Step.newWait "wait" 1]

/-- In this script the number of rounds is typed after a loop that is never iterated. -/
def typeRounds : Script :=
  { Script.new "script" "type" .epoch with
    steps := [neverRound, Step.newType "type" "$\x7bround\x7d"] }

theorem neverRoundNever (bindings : Bindings) :
    ((Condition.mk "day" .equals "night").evaluate bindings).result = false := by
  have mentions : ∀ template ∈ Step.conditionTemplates ⟨"day", .equals, "night"⟩,
      ∀ name ∈ Template.placeholders template, name ∈ ([] : List String) := by decide +kernel
  have agree : Bindings.Agree [] bindings .empty := nofun
  rw [Condition.evaluateAgree mentions agree]
  decide +kernel

/-- A name is taken to be bound for a step to which no run comes, whatever devices it has. -/
theorem takenForNeverRound :
    typeRounds.validate = .ok () ∧ "round" ∈ typeRounds.referencedVariables ∧
      typeRounds.defaults.find? "round" = none ∧ typeRounds.mayBind "round" = true ∧
      ∀ (context : RunContext) (device : Type) (place : Workplace device)
        (instant : Instant device), typeRounds.ComesTo context place instant →
        instant.session.bindings.find? "round" = none := by
  refine ⟨okOfToBool (by decide +kernel), by decide +kernel, rfl, by decide +kernel,
    fun context device place instant comes => ?_⟩
  by_contra bound
  obtain ⟨depth, step, visited, gives, earlier, -, works⟩ := workedBefore rfl comes bound
  have visited : (depth, step) ∈ [(0, neverRound), (1, Step.newWait "wait" 1),
      (0, Step.newType "type" "$\x7bround\x7d")] := visited
  simp only [List.mem_cons, List.not_mem_nil, or_false, Prod.mk.injEq] at visited
  obtain ⟨-, rfl⟩ | ⟨-, rfl⟩ | ⟨-, rfl⟩ := visited
  · exact neverAtWork rfl neverRoundNever works
  · cases gives
  · cases gives

end Script

end DeskScript
