/-
This file says when all attempts at an action ask for the same. Each of them replaces the
placeholders anew, so an attempt that failed must not have changed what they stand for.
-/

import DeskScript.Proofs.Run.SearchWindow
import DeskScript.Proofs.Run.Variables

namespace DeskScript

variable {device : Type} {place : Workplace device}

namespace Leaf

/-! ### What an attempt that failed has changed -/

/-- An attempt that failed may have bound or unbound these names. It binds a match to click on. -/
def changedNames (action : Action) : List String :=
  match sensing? action with
  | none => []
  | some sensing =>
      outputNames sensing.output ++ if sensing.click.isSome then matchedNames else []

theorem changedNamesSensing {action : Action} {name : String}
    (changed : name ∈ changedNames action) :
    ∃ sensing, sensing? action = some sensing ∧ (name ∈ outputNames sensing.output ∨
      sensing.click.isSome = true ∧ name ∈ matchedNames) := by
  rw [changedNames] at changed
  cases isSensing : sensing? action with
  | none =>
      rw [isSensing] at changed
      cases changed
  | some sensing =>
      rw [isSensing] at changed
      exact ⟨sensing, rfl, by simpa [and_comm] using changed⟩

/-- These names stand in the placeholders of an action. -/
def ownNames (header : StepHeader) (action : Action) : List String :=
  (Step.leaf header action).templates.flatMap Template.placeholders

theorem mentionsOwn (header : StepHeader) (action : Action) :
    (Step.leaf header action).Mentions (ownNames header action) :=
  fun template given _ named => List.mem_flatMap.mpr ⟨template, given, named⟩

/-- A step is steady if no attempt that fails changes what its placeholders stand for. -/
def Steady (header : StepHeader) (action : Action) : Prop :=
  ∀ name ∈ ownNames header action, name ∉ changedNames action

instance (header : StepHeader) (action : Action) : Decidable (Steady header action) :=
  inferInstanceAs (Decidable (∀ name ∈ ownNames header action, name ∉ changedNames action))

/-- Without a click only a search that saw nothing fails. -/
theorem missedUnseen {stepId : String} {session : Session device} {notes : StepNotes}
    {target : Target} {sensing : Sensing} {failure : StepFailure}
    (noClick : sensing.click = none)
    (fails : (sense place stepId session notes target sensing).ending = .failed failure) :
    Unseen failure := by
  have polled := pollEnded place (searchWait stepId session target sensing)
    (sensing.timeout.toNat + 1) 0 (clearOutputs session sensing.output)
  rw [← search] at polled
  rw [senseSearches] at fails
  generalize search place stepId session target sensing = result at polled fails
  obtain ⟨after, found | missed | _⟩ := result
  · dsimp only at fails
    rw [useMatch, noClick] at fails
    cases fails
  · cases fails
    exact polled.unseen failure rfl
  · cases fails

/-- An attempt that failed has changed no other names. -/
theorem failedKeeps {stepId : String} {session : Session device} {action : Action}
    {failure : StepFailure} (fails : (act place stepId session action).ending = .failed failure)
    {name : String} (other : name ∉ changedNames action) :
    (act place stepId session action).session.bindings.find? name =
      session.bindings.find? name := by
  cases isSensing : sensing? action with
  | none =>
      have unbound : boundNames action = [] := by
        cases action <;> first | rfl | cases isSensing
      refine actKeeps (Interpreter.actionKeepsName ?_) stepId session
      rw [unbound]
      exact List.not_mem_nil
  | some sensing =>
      have isBound : boundNames action = matchedNames ++ outputNames sensing.output := by
        cases action <;> cases isSensing <;> rfl
      rw [changedNames, isSensing] at other
      dsimp only at other
      rw [List.mem_append, not_or] at other
      cases isClick : sensing.click with
      | some click =>
          refine actKeeps (Interpreter.actionKeepsName ?_) stepId session
          rw [isClick] at other
          rw [isBound, List.mem_append, not_or]
          exact ⟨other.2, other.1⟩
      | none =>
          obtain ⟨target, -, sensed⟩ := actSearches place stepId session isSensing
          rw [sensed] at fails ⊢
          rw [unseenBindings fails (missedUnseen isClick fails)]
          have keeps : ActionKeeps place (outputNames sensing.output) _ :=
            Interpreter.actionKeepsName other.1
          exact clearOutputsKeeps keeps session (List.Subset.refl _)

/-! ### Notes of an attempt -/

theorem performUnresolved (place : Workplace device) (stepId : String) (session : Session device)
    (asked : Except StepFailure Request × StepNotes) :
    (perform place stepId session asked).notes.unresolved = asked.2.unresolved := by
  obtain ⟨failure | asked, notes⟩ := asked
  · rfl
  cases asked with
  | input action => rw [perform, inputNotes]
  | pause duration =>
      rw [perform]
      generalize session.sleep duration = sleeping
      obtain ⟨after, _ | reason⟩ := sleeping <;> rfl
  | search target sensing =>
      rw [perform, senseSearches]
      generalize search place stepId session target sensing = result
      obtain ⟨after, found | failure | _⟩ := result
      · dsimp only
        rw [useMatch]
        cases sensing.click with
        | none => rfl
        | some click =>
            dsimp only
            split
            · rw [inputNotes]
            · rfl
      · rfl
      · rfl

/-- A step that looks for something notes the names in it that are not bound. -/
theorem requestUnresolved {header : StepHeader} {action : Action} {sensing : Sensing}
    {name : String} (isSensing : sensing? action = some sensing)
    (own : name ∈ ownNames header action) (bindings : Bindings) :
    name ∈ (request bindings action).2.unresolved ↔ bindings.find? name = none := by
  have noted {template : String} (named : name ∈ Template.placeholders template) :
      name ∈ (StepNotes.empty.resolve bindings template).2.unresolved ↔
        bindings.find? name = none := by
    have inTemplate : ∃ part ∈ Template.parts template.toList,
        Template.TemplatePart.name? part = some name :=
      List.mem_filterMap.mp ((Template.memPlaceholders template name).mp named)
    rw [StepNotes.resolve, Template.memAddNames, Template.memUnresolved, StepNotes.empty]
    simp [inTemplate]
  cases action with
  | waitImage template own =>
      exact noted (by simpa [ownNames, Step.templates] using own)
  | searchText query exactly own =>
      exact noted (by simpa [ownNames, Step.templates] using own)
  | _ => cases isSensing

end Leaf

namespace Interpreter

/-! ### Attempts at a step -/

/-- The attempt at an index is made if it is allowed and those before it failed recoverably. -/
structure Attempted (place : Workplace device) (session : Session device) (depth : Nat)
    (header : StepHeader) (action : Action) (index : Nat) : Prop where
  allowed : index < Leaf.allowance header
  repeated : ∀ earlier < index, Leaf.Repeatable (tried place session depth header action earlier)

section

variable {session after : Session device} {depth index last : Nat} {header : StepHeader}
  {action : Action}

theorem Attempted.before (attempted : Attempted place session depth header action (index + 1)) :
    Attempted place session depth header action index where
  allowed := Nat.lt_of_succ_lt attempted.allowed
  repeated earlier less := attempted.repeated earlier (Nat.lt_succ_of_lt less)

theorem triedUnresolved (place : Workplace device) (session : Session device) (depth : Nat)
    (header : StepHeader) (action : Action) (index : Nat) :
    (tried place session depth header action index).notes.unresolved =
      (Leaf.request (attemptStart place session depth header action index).bindings
        action).2.unresolved := by
  rw [triedActs, Leaf.actPerforms, Leaf.performUnresolved]

/-- Attempts at a steady step find the same values for its placeholders. -/
theorem steadyAgree (steady : Leaf.Steady header action)
    (attempted : Attempted place session depth header action index) :
    Bindings.Agree (Leaf.ownNames header action)
      (attemptStart place session depth header action index).bindings session.bindings := by
  induction index with
  | zero => exact fun name inside => rfl
  | succ index inductionHypothesis =>
      intro name inside
      obtain ⟨failure, fails, -⟩ := attempted.repeated index (Nat.lt_succ_self index)
      rw [triedActs] at fails
      rw [attemptStart, triedActs, Leaf.failedKeeps fails (steady name inside)]
      exact inductionHypothesis attempted.before name inside

/-- This attempt asks for what the first one asks for, and reports the same names. -/
structure Repeats (place : Workplace device) (session : Session device) (depth : Nat)
    (header : StepHeader) (action : Action) (index : Nat) : Prop where
  request : Leaf.request (attemptStart place session depth header action index).bindings action =
    Leaf.request session.bindings action
  unresolved : (tried place session depth header action index).notes.unresolved =
    (tried place session depth header action 0).notes.unresolved

theorem steadyRepeats (steady : Leaf.Steady header action)
    (attempted : Attempted place session depth header action index) :
    Repeats place session depth header action index := by
  have same := (Leaf.requestAgree (Leaf.mentionsOwn header action)
    (steadyAgree steady attempted)).1
  refine ⟨same, ?_⟩
  rw [triedUnresolved, triedUnresolved, same]
  rfl

end

end Interpreter

/-! ### Devices that refuse clicks -/

/-- Every look takes these devices the same time and shows them the same. They do not click. -/
def Devices.refusing (duration : Nat) (seen : LookAnswer) : Devices Unit where
  note state _ := (state, ⟨duration, none⟩)
  input state _ := (state, .failed (.unsupported "click"))
  look state _ := (state, seen)

def Workplace.refusing (duration : Nat) (seen : LookAnswer) : Workplace Unit :=
  ⟨.refusing duration seen, .standard, .epoch⟩

namespace Leaf

variable {session : Session Unit}

theorem freshPasses (begins : session.context = .start "run" none 0) (stepId : String) :
    session.context.checkpoint (some stepId) = none := by
  rw [begins]
  rfl

theorem refusingLook (begins : session.context = .start "run" none 0) (duration : Nat)
    (seen : LookAnswer) (look : Look) :
    session.look (.refusing duration seen) look =
      ({ session with
          context := { session.context with now := 0 + duration }
          calls := session.calls.push ⟨0, .look look⟩ }, .ok seen) := by
  obtain ⟨context, bindings, state, calls, trace, warnings, events⟩ := session
  cases begins
  cases duration <;> rfl

/-- The first look of a search ends it if it is over too late or if it shows something. -/
theorem refusingMissed (begins : session.context = .start "run" none 0) {wait : Wait}
    (fromStart : wait.startedAt = 0) (rounds : Nat) :
    (poll (.refusing wait.timeout .nothing) wait (rounds + 1) 0 session).2 =
      .failed (wait.expired 1) := by
  have late : wait.timeout ≤ 0 + wait.timeout - wait.startedAt := by omega
  rw [pollRound, searchRound, freshPasses begins, refusingLook begins]
  dsimp only
  rw [if_pos late]

theorem refusingFound (begins : session.context = .start "run" none 0) (wait : Wait)
    (rounds : Nat) (found : Match Float) :
    (poll (.refusing 0 (.found found)) wait (rounds + 1) 0 session).2 = .found found := by
  rw [pollRound, searchRound, freshPasses begins, refusingLook begins]

/-- A click on a match is refused unless its place is none. -/
theorem clickRefused (session : Session Unit) (duration : Nat) (seen : LookAnswer)
    (notes : StepNotes) {sensing : Sensing} (clicks : sensing.click.isSome) (found : Match Float) :
    ∃ failure, (useMatch (.refusing duration seen) session notes sensing found).ending =
        .failed failure ∧ failure.isRecoverable = true := by
  obtain ⟨click, isClick⟩ := Option.isSome_iff_exists.mp clicks
  rw [useMatch, isClick]
  dsimp only
  split
  · exact ⟨.input (.unsupported "click"), rfl, rfl⟩
  · exact ⟨_, rfl, rfl⟩

theorem clearedContext (begins : session.context = .start "run" none 0) (output : Option String) :
    (clearOutputs session output).context = .start "run" none 0 := by
  rw [clearOutputsBindings]
  exact begins

/-- This attempt sees nothing, so it leaves the output variables unbound. -/
theorem missedUnbinds (begins : session.context = .start "run" none 0) (stepId : String)
    (notes : StepNotes) (target : Target) (sensing : Sensing) :
    Repeatable (sense (.refusing sensing.timeout.toNat .nothing) stepId session notes target
        sensing) ∧
      Unbound (sense (.refusing sensing.timeout.toNat .nothing) stepId session notes target
        sensing).session.bindings sensing.output := by
  have fromStart : (searchWait stepId session target sensing).startedAt = 0 := by
    rw [searchWait, begins]
    rfl
  have missed := refusingMissed (clearedContext begins sensing.output) fromStart
    sensing.timeout.toNat
  have polled := pollEnded (.refusing sensing.timeout.toNat .nothing)
    (searchWait stepId session target sensing) (sensing.timeout.toNat + 1) 0
    (clearOutputs session sensing.output)
  have cleared := clearedOutputs session sensing.output
  rw [← polled.bindings] at cleared
  rw [senseSearches, search]
  change (poll (.refusing sensing.timeout.toNat .nothing) _ _ 0 _).2 = _ at missed
  generalize poll (.refusing sensing.timeout.toNat .nothing) _ _ 0 _ = result at missed cleared ⊢
  obtain ⟨after, ending⟩ := result
  cases missed
  exact ⟨⟨_, rfl, rfl⟩, cleared⟩

/-- This attempt sees something, so it binds what every match binds, and fails after that. -/
theorem refusedBinds (begins : session.context = .start "run" none 0) (stepId : String)
    (notes : StepNotes) (target : Target) {sensing : Sensing} (clicks : sensing.click.isSome)
    (found : Match Float) :
    Repeatable (sense (.refusing 0 (.found found)) stepId session notes target sensing) ∧
      ∀ name ∈ matchedNames, (sense (.refusing 0 (.found found)) stepId session notes target
        sensing).session.bindings.find? name ≠ none := by
  have seen := refusingFound (clearedContext begins sensing.output)
    (searchWait stepId session target sensing) sensing.timeout.toNat found
  rw [senseSearches, search]
  generalize poll (.refusing 0 (.found found)) _ _ 0 _ = result at seen ⊢
  obtain ⟨after, ending⟩ := result
  cases seen
  obtain ⟨failure, fails, recoverable⟩ := clickRefused after 0 (.found found) notes clicks found
  refine ⟨⟨failure, fails, recoverable⟩, fun name inside => ?_⟩
  dsimp only
  rw [useMatchBindings]
  refine putAllBound _ ?_
  rw [matchBindingsNames]
  exact List.mem_append_left _ inside

end Leaf

namespace Interpreter

variable {header : StepHeader} {action : Action}

/-- An attempt that fails and changes the names that are noted lets the next one note others. -/
theorem notRepeated {place : Workplace device} {session : Session device} {depth : Nat}
    {sensing : Sensing} {name : String} (isSensing : Leaf.sensing? action = some sensing)
    (own : name ∈ Leaf.ownNames header action) (more : header.retryCount ≠ 0)
    (failed : Leaf.Repeatable (tried place session depth header action 0))
    (changes : session.bindings.find? name = none ↔
      (tried place session depth header action 0).session.bindings.find? name ≠ none) :
    Attempted place session depth header action 1 ∧
      ¬ Repeats place session depth header action 1 := by
  constructor
  · constructor
    · have isMore : header.retryCount.toNat ≠ 0 := fun isZero => more (UInt32.toNat_inj.mp isZero)
      rw [Leaf.allowance]
      omega
    · intro earlier less
      rw [Nat.lt_one_iff.mp less]
      exact failed
  · intro repeats
    have same := repeats.unresolved
    rw [triedUnresolved, triedUnresolved] at same
    have again := Leaf.requestUnresolved isSensing own
      (attemptStart place session depth header action 1).bindings
    have first := Leaf.requestUnresolved isSensing own
      (attemptStart place session depth header action 0).bindings
    rw [same, first] at again
    change session.bindings.find? name = none ↔
      (tried place session depth header action 0).session.bindings.find? name = none at again
    rw [changes] at again
    exact iff_not_self again.symm

/-- This is the state of a run that has only begun. -/
def fresh (bindings : Bindings) : Session Unit := .start (.start "run" none 0) bindings ()

/-- Where a placeholder has the name of an output variable, a search may see nothing. -/
theorem outputDiffers {sensing : Sensing} {name : String}
    (isSensing : Leaf.sensing? action = some sensing) (own : name ∈ Leaf.ownNames header action)
    (more : header.retryCount ≠ 0) (isOutput : name ∈ Leaf.outputNames sensing.output) :
    Attempted (.refusing sensing.timeout.toNat .nothing) (fresh (.ofList [(name, "")])) 0 header
        action 1 ∧
      ¬ Repeats (.refusing sensing.timeout.toNat .nothing) (fresh (.ofList [(name, "")])) 0 header
        action 1 := by
  obtain ⟨target, -, sensed⟩ := Leaf.actSearches (.refusing sensing.timeout.toNat .nothing)
    header.id (startStep 0 (.leaf header action) (fresh (.ofList [(name, "")]))) isSensing
  have begins : (startStep 0 (.leaf header action) (fresh (.ofList [(name, "")]))).context =
    .start "run" none 0 := rfl
  obtain ⟨failed, unbound⟩ := Leaf.missedUnbinds begins header.id _ target sensing
  rw [← sensed] at failed unbound
  have bound : (fresh (.ofList [(name, "")])).bindings.find? name = some "" := Table.findPutSame ..
  refine notRepeated isSensing own more failed (iff_of_false ?_ fun still => ?_)
  · rw [bound]
    exact nofun
  · exact still (unbound name isOutput)

/-- Where a placeholder has a name that every match binds, the click on a match may be refused. -/
theorem matchedDiffers {sensing : Sensing} {name : String}
    (isSensing : Leaf.sensing? action = some sensing) (own : name ∈ Leaf.ownNames header action)
    (more : header.retryCount ≠ 0) (clicks : sensing.click.isSome)
    (isMatched : name ∈ Leaf.matchedNames) (found : Match Float) :
    Attempted (.refusing 0 (.found found)) (fresh .empty) 0 header action 1 ∧
      ¬ Repeats (.refusing 0 (.found found)) (fresh .empty) 0 header action 1 := by
  obtain ⟨target, -, sensed⟩ := Leaf.actSearches (.refusing 0 (.found found)) header.id
    (startStep 0 (.leaf header action) (fresh .empty)) isSensing
  have begins : (startStep 0 (.leaf header action) (fresh .empty)).context =
    .start "run" none 0 := rfl
  obtain ⟨failed, bound⟩ := Leaf.refusedBinds begins header.id
    (Leaf.request (startStep 0 (.leaf header action) (fresh .empty)).bindings action).2 target
    clicks found
  rw [← sensed] at failed bound
  exact notRepeated isSensing own more failed (iff_of_true rfl (bound name isMatched))

/-- All attempts at a step ask for the same just if there is only one or the step is steady. -/
theorem attemptsRepeatIff (header : StepHeader) (action : Action) :
    (∀ (device : Type) (place : Workplace device) (session : Session device) (depth index : Nat),
        Attempted place session depth header action index →
          Repeats place session depth header action index) ↔
      header.retryCount = 0 ∨ Leaf.Steady header action := by
  constructor
  · intro repeats
    by_contra unsteady
    obtain ⟨more, unsteady⟩ := not_or.mp unsteady
    rw [Leaf.Steady] at unsteady
    push Not at unsteady
    obtain ⟨name, own, changed⟩ := unsteady
    obtain ⟨sensing, isSensing, isOutput | ⟨clicks, isMatched⟩⟩ := Leaf.changedNamesSensing changed
    · obtain ⟨attempted, differs⟩ := outputDiffers isSensing own more isOutput
      exact differs (repeats _ _ _ _ _ attempted)
    · obtain ⟨attempted, differs⟩ :=
        matchedDiffers isSensing own more clicks isMatched ⟨"here", 1, ⟨0, 0, 10, 20⟩⟩
      exact differs (repeats _ _ _ _ _ attempted)
  · rintro (once | steady) device place session depth index attempted
    · have only : index = 0 := by
        have allowed := attempted.allowed
        rw [Leaf.allowance, once] at allowed
        exact Nat.lt_one_iff.mp (Nat.lt_of_lt_of_le allowed (Nat.min_le_left _ _))
      rw [only]
      exact ⟨rfl, rfl⟩
    · exact steadyRepeats steady attempted

/-- This step looks for an image up to two times, and keeps in a variable what it has found. -/
def lookTwice : StepHeader := { Step.newHeader "look" with retryCount := 1 }

def seenAgain : Action := .waitImage "${seen}" { Step.newSensing 0.9 5 with output := some "seen" }

def soughtIn (record : CallRecord) : Option Target :=
  match record.call with
  | .look look => some look.target
  | .input _ => none

/-- The first attempt forgets the name of the image, so the second one looks for nothing. -/
theorem imageForgotten :
    Attempted .idle (fresh (.ofList [("seen", "door.png")])) 0 lookTwice seenAgain 1 ∧
      ¬ Repeats .idle (fresh (.ofList [("seen", "door.png")])) 0 lookTwice seenAgain 1 ∧
      (run .idle { Script.new "script" "look" .epoch with steps := [.leaf lookTwice seenAgain] }
          (fresh (.ofList [("seen", "door.png")]))).1.calls.toList.filterMap soughtIn =
        [.image "door.png", .image "door.png", .image "", .image ""] := by
  refine ⟨⟨by decide, fun earlier less => ?_⟩, fun repeats => ?_, ?_⟩
  · rw [Nat.lt_one_iff.mp less]
    decide +kernel
  · have unresolved := repeats.unresolved
    revert unresolved
    decide +kernel
  · decide +kernel

end Interpreter

end DeskScript
