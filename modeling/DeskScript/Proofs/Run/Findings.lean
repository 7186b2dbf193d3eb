/-
This file says what a step that looks at the screen leaves in its output variable.
-/

import DeskScript.Proofs.Run.Phases

namespace DeskScript

variable {device : Type}

/-- What these devices find has a label that is not empty. -/
def Devices.Labelled (devices : Devices device) : Prop :=
  ∀ state look found, (devices.look state look).2 = .found found → found.label ≠ ""

namespace Leaf

/-! ### Looking -/

/-- This failure is one of not having seen what a step looks for. -/
inductive Unseen : StepFailure → Prop where
  | timeout (stepId target : String) (timeout attempts : Nat) :
      Unseen (.matchTimeout stepId target timeout attempts)
  | unavailable (missing : Unavailable) : Unseen (.unavailable missing)
  | aborted (abort : Abort) : Unseen (.aborted abort)

/-- A search ends with what a device has seen or because nothing has been seen. -/
structure PollEnded (place : Workplace device) (wait : Wait) (session : Session device)
    (result : Session device × PollEnd) : Prop where
  bindings : result.1.bindings = session.bindings
  seen : ∀ found, result.2 = .found found →
    ∃ state, (place.devices.look state wait.look).2 = .found found
  unseen : ∀ failure, result.2 = .failed failure → Unseen failure

namespace PollEnded

variable {place : Workplace device} {wait : Wait} {session after : Session device}

theorem found (kept : after.bindings = session.bindings) {match_ : Match Float}
    (answered : ∃ state, (place.devices.look state wait.look).2 = .found match_) :
    PollEnded place wait session (after, .found match_) where
  bindings := kept
  seen other same := by
    cases same
    exact answered
  unseen failure same := by cases same

theorem failed (kept : after.bindings = session.bindings) {failure : StepFailure}
    (unseen : Unseen failure) : PollEnded place wait session (after, .failed failure) where
  bindings := kept
  seen other same := by cases same
  unseen other same := by
    cases same
    exact unseen

theorem brokeDown (kept : after.bindings = session.bindings) :
    PollEnded place wait session (after, .brokeDown) where
  bindings := kept
  seen other same := by cases same
  unseen other same := by cases same

end PollEnded

theorem pollEnded (place : Workplace device) (wait : Wait) (rounds attempts : Nat)
    (session : Session device) :
    PollEnded place wait session (poll place wait rounds attempts session) := by
  induction rounds generalizing attempts session with
  | zero => exact .failed rfl (.timeout ..)
  | succ rounds inductionHypothesis =>
      rw [poll]
      split
      · exact .failed rfl (.aborted _)
      · have kept := (session.lookKeeps place wait.look).1
        have answered : ∀ found, (session.look place wait.look).2 = .ok (.found found) →
            ∃ state, (place.devices.look state wait.look).2 = .found found := by
          intro found isFound
          rw [Session.look] at isFound
          dsimp only at isFound
          split at isFound
          · cases isFound
          · exact ⟨_, Except.ok.inj isFound⟩
        generalize session.look place wait.look = looking at kept answered ⊢
        obtain ⟨after, reason | found | _ | missing | _⟩ := looking
        · exact .failed kept (.aborted _)
        · exact .found kept (answered found rfl)
        · dsimp only
          split
          · exact .failed kept (.timeout ..)
          · generalize min place.config.pollWait
              (wait.timeout - (after.context.now - wait.startedAt)) = duration
            have slept : (after.sleep duration).1.bindings = session.bindings := kept
            generalize after.sleep duration = sleeping at slept ⊢
            obtain ⟨later, _ | reason⟩ := sleeping
            · have further := inductionHypothesis (attempts + 1) later
              exact ⟨further.bindings.trans slept, further.seen, further.unseen⟩
            · exact .failed slept (.aborted _)
        · exact .failed kept (.unavailable missing)
        · exact .brokeDown kept

/-! ### Output variables -/

/-- What an attempt to find something leaves in the output variable depends on how it ends. -/
structure Leaves (output : String) (run : ActionRun device) : Prop where
  found : run.ending = .done → ∃ label, label ≠ "" ∧ run.session.bindings.find? output = some label
  failed : ∀ failure, run.ending = .failed failure → run.session.bindings.find? output = none

namespace Leaves

variable {output : String} {after : Session device}

theorem ofDone {label : String} (written : label ≠ "")
    (bound : after.bindings.find? output = some label) (notes : StepNotes) :
    Leaves output ⟨after, notes, .done⟩ where
  found _ := ⟨label, written, bound⟩
  failed other same := by cases same

theorem ofFailed (unbound : after.bindings.find? output = none) (notes : StepNotes)
    (failure : StepFailure) : Leaves output ⟨after, notes, .failed failure⟩ where
  found same := by cases same
  failed _ _ := unbound

theorem ofBroken (after : Session device) (notes : StepNotes) :
    Leaves output ⟨after, notes, .brokeDown⟩ where
  found same := by cases same
  failed other same := by cases same

end Leaves

theorem outputOther (output : String) {ending : String} (written : ending ≠ "") :
    output ≠ output ++ ending := by
  intro same
  have lengths := congrArg (fun text : String => text.toList.length) same
  simp only [String.toList_append, List.length_append] at lengths
  have empty : ending.toList = [] := List.eq_nil_of_length_eq_zero (by omega)
  exact written (String.toList_eq_nil_iff.mp empty)

theorem clearedOutput (session : Session device) (output : String) :
    (clearOutputs session (some output)).bindings.find? output = none := by
  have notX : output ≠ outputX output := outputOther output (by decide)
  have notY : output ≠ outputY output := outputOther output (by decide)
  show (((session.bindings.erase output).erase (outputX output)).erase (outputY output)).find?
    output = none
  rw [Table.findEraseOther _ _ _ notY, Table.findEraseOther _ _ _ notX, Table.findEraseSame]

/-- A match is bound to the output variable after everything else that might have its name. -/
theorem boundOutput (session : Session device) (found : Match Float) (output : String) :
    ((matchBindings found (some output)).foldl
      (fun session (name, value) => session.bind name value) session).bindings.find? output =
        some found.label := by
  have notX : output ≠ outputX output := outputOther output (by decide)
  have notY : output ≠ outputY output := outputOther output (by decide)
  rw [matchBindings, List.foldl_append]
  generalize List.foldl _ session _ = before
  show (((before.bindings.put output found.label).put (outputX output) _).put
    (outputY output) _).find? output = some found.label
  rw [Table.findPutOther _ _ _ _ notY, Table.findPutOther _ _ _ _ notX, Table.findPutSame]

theorem senseLeaves {place : Workplace device} (labels : place.devices.Labelled) (stepId : String)
    (session : Session device) (notes : StepNotes) (target : Target) {sensing : Sensing}
    {output : String} (isOutput : sensing.output = some output) (noClick : sensing.click = none) :
    Leaves output (sense place stepId session notes target sensing) := by
  have cleared := clearedOutput session output
  rw [sense, isOutput]
  generalize clearOutputs session (some output) = ready at cleared ⊢
  have polled := pollEnded place ⟨stepId, ⟨target, sensing.region, sensing.threshold⟩,
    sensing.timeout.toNat, ready.context.now⟩ (sensing.timeout.toNat + 1) 0 ready
  generalize poll place _ _ _ ready = polling at polled ⊢
  obtain ⟨after, found | failure | _⟩ := polling
  · obtain ⟨state, isFound⟩ := polled.seen found rfl
    dsimp only
    rw [useMatch, noClick, isOutput]
    exact .ofDone (labels state _ found isFound) (boundOutput after found output) _
  · refine .ofFailed ?_ _ _
    rw [polled.bindings]
    exact cleared
  · exact .ofBroken after _

theorem actLeaves {place : Workplace device} (labels : place.devices.Labelled) (stepId : String)
    (session : Session device) {action : Action} {sensing : Sensing} {output : String}
    (isSensing : sensing? action = some sensing) (isOutput : sensing.output = some output)
    (noClick : sensing.click = none) : Leaves output (act place stepId session action) := by
  cases action with
  | waitImage template own =>
      cases isSensing
      exact senseLeaves labels stepId session _ _ isOutput noClick
  | searchText query exactly own =>
      cases isSensing
      exact senseLeaves labels stepId session _ _ isOutput noClick
  | _ => cases isSensing

/-! ### What a match binds -/

/-- These variables tell where a match is and what it is called. -/
structure MatchBound (bindings : Bindings) (output : Option String) (found : Match Float) :
    Prop where
  text : bindings.find? "matched_text" = some found.label
  x : bindings.find? "matched_x" = some (coordinateText found.center.x)
  y : bindings.find? "matched_y" = some (coordinateText found.center.y)
  output : ∀ name, output = some name → bindings.find? name = some found.label ∧
    bindings.find? (outputX name) = some (coordinateText found.center.x) ∧
    bindings.find? (outputY name) = some (coordinateText found.center.y)

/-- These variables have no value. -/
def Unbound (bindings : Bindings) (output : Option String) : Prop :=
  ∀ name ∈ outputNames output, bindings.find? name = none

theorem bindAllBindings (session : Session device) (named : List (String × String)) :
    (named.foldl (fun session (name, value) => session.bind name value) session).bindings =
      session.bindings.putAll named := by
  induction named generalizing session with
  | nil => rfl
  | cons head rest inductionHypothesis => exact inductionHypothesis (session.bind head.1 head.2)

theorem findPutAllOther (bindings : Bindings) {named : List (String × String)} {name : String}
    (absent : ∀ value, (name, value) ∉ named) :
    (bindings.putAll named).find? name = bindings.find? name := by
  induction named generalizing bindings with
  | nil => rfl
  | cons head rest inductionHypothesis =>
      have other : name ≠ head.1 := fun same => absent head.2 (same ▸ List.mem_cons_self)
      rw [Table.putAll, List.foldl_cons]
      exact (inductionHypothesis _ fun value member =>
        absent value (List.mem_cons_of_mem _ member)).trans (Table.findPutOther _ _ _ _ other)

/-- A name to which only one value is given has this value. -/
theorem findPutAll (bindings : Bindings) {named : List (String × String)} {name value : String}
    (inside : (name, value) ∈ named) (only : ∀ other, (name, other) ∈ named → other = value) :
    (bindings.putAll named).find? name = some value := by
  induction named generalizing bindings with
  | nil => cases inside
  | cons head rest inductionHypothesis =>
      have onlyLater : ∀ other, (name, other) ∈ rest → other = value := fun other member =>
        only other (List.mem_cons_of_mem _ member)
      rw [Table.putAll, List.foldl_cons]
      by_cases later : (name, value) ∈ rest
      · exact inductionHypothesis _ later onlyLater
      · have isHead : (name, value) = head := (List.mem_cons.mp inside).resolve_right later
        have absent : ∀ other, (name, other) ∉ rest := fun other member =>
          later (onlyLater other member ▸ member)
        rw [← isHead]
        exact (findPutAllOther _ absent).trans (Table.findPutSame ..)

theorem useMatchBindings (place : Workplace device) (session : Session device)
    (notes : StepNotes) (sensing : Sensing) (found : Match Float) :
    (useMatch place session notes sensing found).session.bindings =
      session.bindings.putAll (matchBindings found sensing.output) := by
  rw [← bindAllBindings, useMatch]
  cases sensing.click with
  | none => rfl
  | some click =>
      dsimp only
      split
      · rw [inputSession]
        rfl
      · rfl

theorem putAllBound (bindings : Bindings) {named : List (String × String)} {name : String}
    (inside : name ∈ named.map Prod.fst) : (bindings.putAll named).find? name ≠ none := by
  induction named generalizing bindings with
  | nil => cases inside
  | cons head rest inductionHypothesis =>
      by_cases later : name ∈ rest.map Prod.fst
      · exact inductionHypothesis _ later
      · rw [List.map_cons, List.mem_cons] at inside
        have absent : ∀ value, (name, value) ∉ rest := fun value member =>
          later (List.mem_map_of_mem member)
        have isHead : name = head.1 := inside.resolve_right later
        have same : (bindings.putAll (head :: rest)).find? name = some head.2 := by
          rw [isHead] at absent ⊢
          exact (findPutAllOther _ absent).trans (Table.findPutSame ..)
        rw [same]
        exact nofun

theorem outputXOther (output : String) {text : String} (other : text.toList.getLast? ≠ some 'x') :
    outputX output ≠ text := by
  rintro rfl
  exact other (by simp [outputX])

theorem outputYOther (output : String) {text : String} (other : text.toList.getLast? ≠ some 'y') :
    outputY output ≠ text := by
  rintro rfl
  exact other (by simp [outputY])

/-- The output variables keep clear of what every match binds, unless one of them is the same. -/
theorem matchBound (bindings : Bindings) (found : Match Float) {output : Option String}
    (apart : ∀ name, output = some name →
      name ∉ ["matched_x", "matched_y", "matched_confidence"]) :
    MatchBound (bindings.putAll (matchBindings found output)) output found := by
  cases output with
  | none =>
      constructor
      · exact findPutAll _ (by simp [matchBindings]) (by simp [matchBindings])
      · exact findPutAll _ (by simp [matchBindings]) (by simp [matchBindings])
      · exact findPutAll _ (by simp [matchBindings]) (by simp [matchBindings])
      · exact nofun
  | some output =>
      obtain ⟨notX, notY, notConfidence⟩ : output ≠ "matched_x" ∧ output ≠ "matched_y" ∧
          output ≠ "matched_confidence" := by simpa using apart output rfl
      have ownX : output ≠ outputX output := outputOther output (by decide)
      have ownY : output ≠ outputY output := outputOther output (by decide)
      have others : outputX output ≠ outputY output := outputXOther output (by simp [outputY])
      have textX : outputX output ≠ "matched_text" := outputXOther output (by decide)
      have textY : outputY output ≠ "matched_text" := outputYOther output (by decide)
      have xOfY : outputY output ≠ "matched_x" := outputYOther output (by decide)
      have yOfX : outputX output ≠ "matched_y" := outputXOther output (by decide)
      have confidenceX : outputX output ≠ "matched_confidence" := outputXOther output (by decide)
      have confidenceY : outputY output ≠ "matched_confidence" := outputYOther output (by decide)
      have only {name value : String} (inside : (name, value) ∈ matchBindings found (some output)) :
          (bindings.putAll (matchBindings found (some output))).find? name = some value := by
        refine findPutAll _ inside fun other member => ?_
        simp only [matchBindings, List.cons_append, List.nil_append, List.mem_cons,
          Prod.mk.injEq, List.not_mem_nil, or_false] at inside member
        grind
      refine ⟨only ?_, only ?_, only ?_, fun name isName => ?_⟩
      case refine_4 =>
        cases isName
        refine ⟨only ?_, only ?_, only ?_⟩ <;> simp [matchBindings]
      all_goals simp [matchBindings]

/-! ### An attempt that has not found anything -/

theorem clearedOutputs (session : Session device) (output : Option String) :
    Unbound (clearOutputs session output).bindings output := by
  cases output with
  | none => exact nofun
  | some output =>
      have others : outputX output ≠ outputY output := outputXOther output (by simp [outputY])
      have bindings : (clearOutputs session (some output)).bindings =
        ((session.bindings.erase output).erase (outputX output)).erase (outputY output) := rfl
      intro name member
      rcases List.mem_cons.mp member with rfl | member
      · exact clearedOutput session name
      · rw [bindings]
        rcases List.mem_cons.mp member with rfl | member
        · rw [Table.findEraseOther _ _ _ others, Table.findEraseSame]
        · rw [List.mem_singleton.mp member, Table.findEraseSame]

theorem inputSeen (place : Workplace device) (session : Session device) (notes : StepNotes)
    (action : InputAction) (failure : StepFailure)
    (fails : (input place session notes action).ending = .failed failure) : ¬Unseen failure := by
  rw [input] at fails
  generalize session.input place action = doing at fails
  obtain ⟨after, _ | fault | _⟩ := doing
  · cases fails
  · cases fails
    intro unseen
    cases unseen
  · cases fails

/-- A match has been seen, whatever comes of the click on it. -/
theorem useMatchSeen (place : Workplace device) (session : Session device) (notes : StepNotes)
    (sensing : Sensing) (found : Match Float) (failure : StepFailure)
    (fails : (useMatch place session notes sensing found).ending = .failed failure) :
    ¬Unseen failure := by
  rw [useMatch] at fails
  cases isClick : sensing.click with
  | none =>
      rw [isClick] at fails
      cases fails
  | some click =>
      rw [isClick] at fails
      dsimp only at fails
      split at fails
      · exact inputSeen place _ _ _ failure fails
      · cases fails
        intro unseen
        cases unseen

/-- Without a match only the output variables have been cleared. -/
theorem unseenBindings {place : Workplace device} {stepId : String} {session : Session device}
    {notes : StepNotes} {target : Target} {sensing : Sensing} {failure : StepFailure}
    (fails : (sense place stepId session notes target sensing).ending = .failed failure)
    (unseen : Unseen failure) :
    (sense place stepId session notes target sensing).session.bindings =
      (clearOutputs session sensing.output).bindings := by
  rw [sense] at fails ⊢
  generalize clearOutputs session sensing.output = ready at fails ⊢
  have polled := pollEnded place ⟨stepId, ⟨target, sensing.region, sensing.threshold⟩,
    sensing.timeout.toNat, ready.context.now⟩ (sensing.timeout.toNat + 1) 0 ready
  generalize poll place _ _ _ ready = polling at polled fails ⊢
  obtain ⟨after, found | missed | _⟩ := polling
  · exact absurd unseen (useMatchSeen place after notes sensing found failure fails)
  · exact polled.bindings
  · cases fails

end Leaf

end DeskScript
