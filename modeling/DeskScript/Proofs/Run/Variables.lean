/-
This file accounts for the variables of a run: which of them its report tells, what a step leaves in
them that looks for something, and which of them keep what they have at first.
-/

import DeskScript.Proofs.Run.DisabledSteps
import DeskScript.Proofs.Run.Findings
import DeskScript.Proofs.Run.SearchWindow
import DeskScript.Run.Interpreter

namespace DeskScript

variable {device : Type} {place : Workplace device}

namespace Interpreter

/-! ### What a step leaves that looks for something -/

/--
An attempt looks for its target until the look at an index shows a match, which no earlier look does.
These looks are the first calls of the attempt.
-/
structure Finds (place : Workplace device) (stepId : String) (session : Session device)
    (action : Action) (sensing : Sensing) (target : Target) (last : Nat) (found : Match Float) :
    Prop where
  asks : (Leaf.request session.bindings action).1 = .ok (.search target sensing)
  keepsTime : (Leaf.searchLooking place stepId session target sensing).KeepsTime last
  shown : (Leaf.searchLooking place stepId session target sensing).answer last = .found found
  looked : session.calls.toList ++
      Leaf.looks (Leaf.searchLooking place stepId session target sensing)
        ⟨target, sensing.region, sensing.threshold⟩ (last + 1) <+:
    (Leaf.act place stepId session action).session.calls.toList

theorem actionKeepsCalls (place : Workplace device) (names : List String) :
    Leaf.ActionKeeps place names
      fun before after => before.calls.toList <+: after.calls.toList where
  refl _ := List.prefix_rfl
  trans := List.IsPrefix.trans
  look session look := ⟨_, (session.lookProceeds look).calls.symm⟩
  sleep _ _ := List.prefix_rfl
  input session action := ⟨_, (session.inputProceeds action).calls.symm⟩
  bind _ _ _ _ := List.prefix_rfl
  unbind _ _ _ := List.prefix_rfl

/-- An attempt that is done has found something, and this is what it binds. -/
theorem actFinds {stepId : String} {session : Session device} {action : Action}
    {sensing : Sensing} (isSensing : Leaf.sensing? action = some sensing)
    (done : (Leaf.act place stepId session action).ending = .done) :
    ∃ target last found, Finds place stepId session action sensing target last found ∧
      ∃ before : Bindings, (Leaf.act place stepId session action).session.bindings =
        before.putAll (Leaf.matchBindings found sensing.output) := by
  obtain ⟨target, asks, sensed⟩ := Leaf.actSearches place stepId session isSensing
  rw [Leaf.senseSearches] at sensed
  generalize isResult : Leaf.search place stepId session target sensing = result at sensed
  obtain ⟨after, found | failure | _⟩ := result
  · have uninterrupted :
        ¬ (Leaf.search place stepId session target sensing).2.Interrupted := by
      rw [isResult]
      exact nofun
    obtain ⟨last, keepsTime, finished, ended⟩ := Leaf.searchKeepsTime uninterrupted
    rw [isResult] at finished ended
    obtain ⟨seen, shown, isSeen⟩ | ⟨-, missed⟩ := ended
    · cases isSeen
      have used : after.calls.toList <+:
          (Leaf.act place stepId session action).session.calls.toList :=
        sensed ▸ Leaf.useMatchKeeps (actionKeepsCalls place _) after _ found
          (List.Subset.refl (Leaf.matchedNames ++ Leaf.outputNames sensing.output))
      rw [finished.calls] at used
      refine ⟨target, last, found, ⟨congrArg Prod.fst asks, keepsTime, shown, used⟩,
        after.bindings, ?_⟩
      rw [sensed]
      exact Leaf.useMatchBindings place after _ sensing found
    · cases missed
  · rw [sensed] at done
    cases done
  · rw [sensed] at done
    cases done

/--
This is what the entry of a step tells about the variables if the step looks for something. It is
all about the last attempt: if that has not seen what it looked for, the output variables have no
value, and otherwise they tell the match that its last look has shown.
-/
structure SensingTold (place : Workplace device) (session : Session device) (depth : Nat)
    (header : StepHeader) (action : Action) (last : Nat) (sensing : Sensing)
    (entry : TraceEntry) : Prop where
  missed : ∀ failure,
    (tried place session depth header action last).ending = .failed failure →
    Leaf.Unseen failure → Leaf.Unbound entry.bindings sensing.output
  found : entry.outcome = .success →
    (∀ name, sensing.output = some name →
      name ∉ ["matched_x", "matched_y", "matched_confidence"]) →
    ∃ target index found,
      Finds place header.id (attemptStart place session depth header action last) action sensing
        target index found ∧
      Leaf.MatchBound entry.bindings sensing.output found

theorem LeafExecution.sensingTold {session after : Session device} {depth last : Nat}
    {header : StepHeader} {action : Action} {entry : TraceEntry} {halt : Option Halt}
    (executed : LeafExecution place session depth header action last entry after halt)
    {sensing : Sensing} (isSensing : Leaf.sensing? action = some sensing) :
    SensingTold place session depth header action last sensing entry := by
  have bindings : entry.bindings =
      (tried place session depth header action last).session.bindings := by
    rw [executed.bindings, executed.recorded]
  have ends := executed.ends
  rw [triedActs] at bindings ends
  refine ⟨fun failure fails unseen => ?_, fun success apart => ?_⟩
  · obtain ⟨target, -, sensed⟩ := Leaf.actSearches place header.id
      (attemptStart place session depth header action last) isSensing
    rw [triedActs, sensed] at fails
    rw [bindings, sensed, Leaf.unseenBindings fails unseen]
    exact Leaf.clearedOutputs _ sensing.output
  · rw [success] at ends
    obtain ⟨target, index, found, finds, before, bound⟩ := actFinds isSensing ends.done
    refine ⟨target, index, found, finds, ?_⟩
    rw [bindings, bound]
    exact Leaf.matchBound before found apart

/-! ### The last entry tells the variables -/

/-- These are the variables as the last entry tells them, or as they are at first. -/
def lastBindings (bindings : Bindings) (trace : List TraceEntry) : Bindings :=
  (trace.getLast?.map TraceEntry.bindings).getD bindings

/-- While no loop is open, the variables are those of the last entry. -/
def UpToDate (bindings : Bindings) (moment : Moment device) : Prop :=
  openSteps moment.tasks = [] →
    moment.session.bindings = lastBindings bindings moment.session.trace.toList

section

variable {bindings : Bindings} {before after : Moment device}

theorem lastBindingsPush {session : Session device} {trace : Array TraceEntry} {entry : TraceEntry}
    (pushed : session.trace = trace.push entry) (told : entry.bindings = session.bindings) :
    session.bindings = lastBindings bindings session.trace.toList := by
  rw [pushed, Array.toList_push, lastBindings, List.getLast?_concat]
  exact told.symm

/-- A loop that is closed is recorded with the variables. -/
theorem closePushes (place : Workplace device) (loop : OpenLoop) (session : Session device)
    (limited : Bool) (halt : Option Halt) (works : halt ≠ some .brokeDown) :
    ∃ entry : TraceEntry, entry.bindings = session.bindings ∧
      (loop.close place session limited halt).bindings = session.bindings ∧
      (loop.close place session limited halt).trace = session.trace.push entry := by
  obtain ⟨outcome, error, -, recorded⟩ := closeRecords place loop session limited halt works
  rw [recorded]
  exact ⟨_, rfl, rfl, rfl⟩

theorem closeUpToDate (loop : OpenLoop) (session : Session device) (limited : Bool)
    (halt : Option Halt) (works : halt ≠ some .brokeDown) :
    (loop.close place session limited halt).bindings =
      lastBindings bindings (loop.close place session limited halt).trace.toList := by
  obtain ⟨entry, told, same, pushed⟩ := closePushes place loop session limited halt works
  exact lastBindingsPush pushed (told.trans same.symm)

theorem UpToDate.move (moves : Move place before after) (works : after.halt ≠ some .brokeDown)
    (upToDate : UpToDate bindings before) : UpToDate bindings after := by
  cases moves with
  | idle => exact upToDate
  | dropped session reason task tasks noLoop =>
      rwa [UpToDate, openStepsOther noLoop] at upToDate
  | unwound session reason loop tasks =>
      exact fun _ => closeUpToDate loop session false (some reason) works
  | exhausted => exact upToDate
  | passed => exact upToDate
  | stopped session stepId abort task tasks stops noLoop =>
      rwa [UpToDate, openStepsOther noLoop] at upToDate
  | tooDeep => exact upToDate
  | skipped => exact fun _ => lastBindingsPush rfl rfl
  | leaf session depth header action rest tasks begins =>
      obtain ⟨last, entry, executed⟩ := leafExecuted place session depth header action works
      exact fun _ => lastBindingsPush executed.trace executed.bindings
  | branch => exact fun _ => lastBindingsPush rfl rfl
  | loop => exact nofun
  | loopStopped => exact nofun
  | iterated => exact nofun
  | ended session loop later tasks => exact fun _ => closeUpToDate later session false none works
  | limited session loop later tasks => exact fun _ => closeUpToDate later _ true none works

end

/-! ### Variables that are left alone -/

/-- Neither a match nor any step of a script may bind this name. -/
structure Free (script : Script) (name : String) : Prop where
  unmatched : name ∉ Leaf.matchedNames
  unbound : ∀ depth step, (depth, step) ∈ script.visit → step.mayBind name = false

/-- Now and in all entries a name has the value that it has at first, or none. -/
structure Keeps (bindings : Bindings) (name : String) (session : Session device) : Prop where
  now : session.bindings.find? name = bindings.find? name
  entries : ∀ entry ∈ session.trace.toList, entry.bindings.find? name = bindings.find? name

/-- An action keeps the values of all names that it does not bind. -/
theorem actionKeepsName {names : List String} {name : String} (other : name ∉ names) :
    Leaf.ActionKeeps place names
      fun before after => after.bindings.find? name = before.bindings.find? name where
  refl _ := rfl
  trans first second := second.trans first
  look session look := congrArg (·.find? name) (session.lookKeeps place look).1
  sleep _ _ := rfl
  input _ _ := rfl
  bind _ _ _ inside := Table.findPutOther _ _ _ _ fun same => other (same ▸ inside)
  unbind _ _ inside := Table.findEraseOther _ _ _ fun same => other (same ▸ inside)

theorem notBound {header : StepHeader} {action : Action} {name : String}
    (unmatched : name ∉ Leaf.matchedNames)
    (unbound : (Step.leaf header action).mayBind name = false) : name ∉ Leaf.boundNames action := by
  have outputs (sensing : Sensing) (unset : Step.mayBind.outputsOf name sensing = false) :
      name ∉ Leaf.matchedNames ++ Leaf.outputNames sensing.output := by
    rw [List.mem_append, not_or]
    refine ⟨unmatched, ?_⟩
    rw [Step.mayBind.outputsOf] at unset
    cases isOutput : sensing.output with
    | none => exact List.not_mem_nil
    | some output =>
        rw [isOutput] at unset
        simpa [Leaf.outputNames, and_assoc] using unset
  cases action with
  | waitImage template sensing => exact outputs sensing unbound
  | searchText query exactly sensing => exact outputs sensing unbound
  | _ => exact List.not_mem_nil

theorem triedKeeps {session : Session device} {depth : Nat} {header : StepHeader} {action : Action}
    {name : String} (unmatched : name ∉ Leaf.matchedNames)
    (unbound : (Step.leaf header action).mayBind name = false) (index : Nat) :
    (tried place session depth header action index).session.bindings.find? name =
      session.bindings.find? name :=
  Leaf.furtherAttemptKeeps (actionKeepsName (notBound unmatched unbound)) header.id index
    (startStep depth (.leaf header action) session)

namespace Keeps

variable {bindings : Bindings} {name : String} {session after : Session device}

theorem push {entry : TraceEntry} (keeps : Keeps bindings name session)
    (same : after.bindings.find? name = session.bindings.find? name)
    (pushed : after.trace = session.trace.push entry) (told : entry.bindings = after.bindings) :
    Keeps bindings name after := by
  have now : after.bindings.find? name = bindings.find? name := same.trans keeps.now
  refine ⟨now, fun other member => ?_⟩
  rw [pushed, Array.toList_push, List.mem_append] at member
  rcases member with earlier | last
  · exact keeps.entries other earlier
  · rw [List.mem_singleton.mp last, told]
    exact now

theorem close (keeps : Keeps bindings name session) (loop : OpenLoop) (limited : Bool)
    (halt : Option Halt) (works : halt ≠ some .brokeDown) :
    Keeps bindings name (loop.close place session limited halt) := by
  obtain ⟨entry, told, same, pushed⟩ := closePushes place loop session limited halt works
  exact keeps.push (by rw [same]) pushed (told.trans same.symm)

theorem bindIndex (keeps : Keeps bindings name session) {loop : OpenLoop}
    (unbound : loop.step.mayBind name = false) : Keeps bindings name (loop.bindIndex session) := by
  rw [OpenLoop.bindIndex]
  cases isIndex : loop.rule.indexVariable with
  | none => exact keeps
  | some index =>
      have other : name ≠ index := by
        rintro rfl
        exact of_decide_eq_false unbound isIndex
      exact ⟨(Table.findPutOther _ _ _ _ other).trans keeps.now, keeps.entries⟩

/-- Only a leaf step and the iterations of a loop may give a value to a name. -/
theorem move {before after : Moment device} (keeps : Keeps bindings name before.session)
    (moves : Move place before after) (works : after.halt ≠ some .brokeDown)
    (unmatched : name ∉ Leaf.matchedNames)
    (steps : ∀ depth step rest tasks, before.halt = none →
      before.tasks = .steps depth (step :: rest) :: tasks → step.mayBind name = false)
    (loops : ∀ loop : OpenLoop, .loop loop ∈ before.tasks → loop.step.mayBind name = false) :
    Keeps bindings name after.session := by
  cases moves with
  | unwound session reason loop tasks => exact keeps.close loop false (some reason) works
  | skipped => exact keeps.push rfl rfl rfl
  | leaf session depth header action rest tasks begins =>
      obtain ⟨last, entry, executed⟩ := leafExecuted place session depth header action works
      refine keeps.push ?_ executed.trace executed.bindings
      have unbound := steps depth (.leaf header action) rest tasks rfl rfl
      have bindings := congrArg Session.bindings executed.recorded
      exact (congrArg (·.find? name) bindings).trans (triedKeeps unmatched unbound last)
  | branch => exact keeps.push rfl rfl rfl
  | loop => exact ⟨keeps.now, keeps.entries⟩
  | iterated session loop later tasks same sameDepth =>
      have unbound := loops loop List.mem_cons_self
      rw [← same] at unbound
      exact keeps.bindIndex unbound
  | ended session loop later tasks => exact keeps.close later false none works
  | limited session loop later tasks =>
      have warned : Keeps bindings name (session.warn ⟨loop.header.id, loop.rule.limit⟩) :=
        ⟨keeps.now, keeps.entries⟩
      exact warned.close later true none works
  | _ => exact keeps

end Keeps

section

variable {script : Script} {context : RunContext} {bindings : Bindings} {state : device}
  {final : Session device} {found : RunReport} {name : String}

/-- At every moment of a run a name that no step may bind has the value that it has at first. -/
theorem Free.kept (free : Free script name) {moment : Moment device}
    (leads : Leads place (.start script (Session.start context bindings state)) moment)
    (works : moment.halt ≠ some .brokeDown) : Keeps bindings name moment.session := by
  induction leads with
  | refl => exact ⟨rfl, fun entry member => absurd member List.not_mem_nil⟩
  | @tail middle later earlier next inductionHypothesis =>
      have moves : Move place middle later := next ▸ moveOfNext middle
      have keeps := inductionHypothesis fun broken => works (moves.halted broken)
      refine keeps.move moves works free.unmatched ?_ fun loop member => ?_
      · intro depth step rest tasks going isNext
        obtain ⟨session, halt, others⟩ := middle
        cases going
        cases isNext
        exact free.unbound depth step (atStepVisited earlier)
      · obtain ⟨depth, visited⟩ := (openLoops earlier loop member).visited
        exact free.unbound depth loop.step visited

/--
The variables of a report are those of its last entry, or the first ones if the trace is empty. The
entry of a step that looks for something tells what its last attempt has found, or that its output
variables have no value. A name that neither a match nor a step may bind has its first value all the
time.
-/
structure VariablesReported (place : Workplace device) (script : Script) (start : Moment device)
    (bindings : Bindings) (found : RunReport) : Prop where
  last : found.bindings = lastBindings bindings found.trace
  sensed : ∀ (leaf : LeafRun place start) (sensing : Sensing),
    Leaf.sensing? leaf.action = some sensing → ∃ last entry after halt later,
      leaf.Executed last entry after halt ∧
      found.trace = leaf.session.trace.toList ++ entry :: later ∧
      SensingTold place leaf.session leaf.depth leaf.header leaf.action last sensing entry
  kept : ∀ name, Free script name →
    (∀ moment, Leads place start moment →
      moment.session.bindings.find? name = bindings.find? name) ∧
    (∀ (leaf : LeafRun place start) (index : Nat),
      (tried place leaf.session leaf.depth leaf.header leaf.action
        index).session.bindings.find? name = bindings.find? name) ∧
    (∀ entry ∈ found.trace, entry.bindings.find? name = bindings.find? name) ∧
    found.bindings.find? name = bindings.find? name

/-- The variables of every run with a report are accounted for. -/
theorem runVariables (place : Workplace device) (script : Script) (context : RunContext)
    (bindings : Bindings) (state : device) (final : Session device) (found : RunReport)
    (ended : run place script (Session.start context bindings state) = (final, some found)) :
    VariablesReported place script (.start script (Session.start context bindings state)) bindings
      found := by
  obtain ⟨after, halt, leads, isOutcome, reported⟩ := runEnded script _ final found ended
  have works := worksOfOutcome isOutcome
  have isTrace : found.trace = after.trace.toList :=
    congrArg (fun reporting => reporting.2.trace) reported.symm
  have isBindings : found.bindings = after.bindings :=
    congrArg (fun reporting => reporting.2.bindings) reported.symm
  refine ⟨?_, fun leaf sensing isSensing => ?_, fun name free => ?_⟩
  · have upToDate : UpToDate bindings ⟨after, halt, []⟩ :=
      leads.keepsWorking works (fun _ => rfl) UpToDate.move
    rw [isBindings, isTrace]
    exact upToDate rfl
  · obtain ⟨works, -⟩ := momentReported ended (leaf.leads.tail rfl)
    obtain ⟨last, entry, after, halt, executed⟩ := leaf.executed works
    obtain ⟨⟨later, trace⟩, -⟩ := executed.traced ended
    exact ⟨last, entry, after, halt, later, executed, trace, executed.sensingTold isSensing⟩
  · have keeps := free.kept leads works
    have always : ∀ moment,
        Leads place (.start script (Session.start context bindings state)) moment →
        moment.session.bindings.find? name = bindings.find? name := fun moment reached =>
      (free.kept reached (momentReported ended reached).1).now
    refine ⟨always, fun leaf index => ?_, ?_, ?_⟩
    · have unbound := free.unbound leaf.depth _ (atStepVisited leaf.leads)
      exact (triedKeeps free.unmatched unbound index).trans (always _ leaf.leads)
    · rw [isTrace]
      exact keeps.entries
    · rw [isBindings]
      exact keeps.now

end

end Interpreter

/-! ### A run that finds something -/

/-- These devices find everything in one place. -/
def Devices.finding : Devices Unit :=
  { Devices.idle with look := fun state _ => (state, .found ⟨"here", 1, ⟨0, 0, 10, 20⟩⟩) }

def Workplace.finding : Workplace Unit := ⟨.finding, .standard, .epoch⟩

namespace Interpreter

/-- In this script a step looks for a text and keeps where it is. -/
def lookForText : Script :=
  { Script.new "script" "look" .epoch with
    steps := [.leaf (Step.newHeader "look") (.searchText "text" false
      { Step.newSensing Step.textThreshold 5 with output := some "place" })] }

theorem runVariablesLookForText :
    ∃ final found, run .finding lookForText (Session.start (.start "run" none 0)
        (.ofList [("place", "there"), ("kept", "yes")]) ()) = (final, some found) ∧
      found.bindings.find? "place_x" = some "5" ∧ found.bindings.find? "kept" = some "yes" ∧
      VariablesReported .finding lookForText
        (.start lookForText (Session.start (.start "run" none 0)
          (.ofList [("place", "there"), ("kept", "yes")]) ()))
        (.ofList [("place", "there"), ("kept", "yes")]) found := by
  have ended : ((run .finding lookForText (Session.start (.start "run" none 0)
      (.ofList [("place", "there"), ("kept", "yes")]) ())).2.any fun found =>
        found.bindings.find? "place_x" = some "5" ∧
          found.bindings.find? "kept" = some "yes") = true := by decide +kernel
  obtain ⟨final, found, isRun, told⟩ := reportFound ended
  obtain ⟨isPlace, isKept⟩ := of_decide_eq_true told
  exact ⟨final, found, isRun, isPlace, isKept,
    runVariables .finding lookForText _ _ _ final found isRun⟩

end Interpreter

end DeskScript
