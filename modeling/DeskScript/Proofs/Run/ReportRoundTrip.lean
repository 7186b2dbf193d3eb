/-
This file shows that the report of a run is read back as it was written, with all entries of its
trace. Its times are taken to be read back from their texts, as all known points in time are.
-/

import DeskScript.Proofs.Document.SaveLoad
import DeskScript.Run.Trace

namespace DeskScript

open Shape

/-! ### Single values -/

theorem Shape.sizeOfNat (value : UInt64) : size (Json.nat value.toNat).canonical = .ok value := by
  have bound := value.toNat_lt
  rw [size, canonicalNat, withinWhole 0 (2 ^ 64) _ _ (by omega) (by omega)]
  simp [Except.map]

theorem Shape.timestampOfText {time : Time.Timestamp}
    (readable : Time.readRelaxed time.text = .ok time) :
    timestamp (Json.string time.text).canonical = .ok time := by
  rw [canonicalString, timestamp, readable]

/-! ### Outcomes -/

theorem AbortReason.ofTag (origin : Origin) (reason : AbortReason) :
    AbortReason.ofJson origin (Json.string reason.tag).canonical = .ok reason :=
  variantOfName origin _ _ _ (by cases reason <;> rfl)

theorem BranchTaken.ofTag (taken : BranchTaken) :
    BranchTaken.ofJson (Json.string taken.tag).canonical = .ok taken :=
  variantOfName .setAside _ _ _ (by cases taken <;> rfl)

namespace StepOutcome

theorem ofToJson (outcome : StepOutcome) : ofJson outcome.toJson.canonical = .ok outcome := by
  have known := @taggedReads StepOutcome "StepOutcome" "kind"
  cases outcome with
  | success => exact known "success" [] (by simp) readers _ rfl .success fun _ _ => rfl
  | skip => exact known "skip" [] (by simp) readers _ rfl .skip fun _ _ => rfl
  | timeout => exact known "timeout" [] (by simp) readers _ rfl .timeout fun _ _ => rfl
  | error => exact known "error" [] (by simp) readers _ rfl .error fun _ _ => rfl
  | aborted => exact known "aborted" [] (by simp) readers _ rfl .aborted fun _ _ => rfl
  | branch taken =>
      refine known "branch" [("taken", .string taken.tag)] (by simp) readers _ rfl (.branch taken)
        fun content shows => ?_
      have shows := shows "struct variant StepOutcome::Branch" ["taken"] ["taken"] (by simp)
      have way := shows.required "taken" BranchTaken.ofJson _ taken (by simp) rfl taken.ofTag
      have settled := shows.settled [_] way.settled
      simp only [branchOfJson, Fields.of, bind, Except.bind, settled, way.read]
      rfl
  | loop iterations limited =>
      refine known "loop" [("iterations", .nat iterations.toNat), ("limited", .bool limited)]
        (by simp) readers _ rfl (.loop iterations limited) fun content shows => ?_
      have shows := shows "struct variant StepOutcome::Loop" ["iterations", "limited"]
        ["iterations", "limited"] (by simp)
      have count := shows.required "iterations" uint32 _ iterations (by simp) rfl
        (uint32OfNat iterations)
      have isLimited := shows.required "limited" flag _ limited (by simp) rfl rfl
      have settled := shows.settled [_, _] ⟨count.settled, isLimited.settled⟩
      simp only [loopOfJson, Fields.of, bind, Except.bind, settled, count.read, isLimited.read]
      rfl

end StepOutcome

/-- The identity of a step may be left out, and is read as absent then. -/
theorem Shape.Fields.Shows.stepId {fields : Fields} {key : String} {item : Json}
    {names : List String} {stepId : Option String}
    (shows : fields.Shows ((key, item) :: optionalMember "step_id" (stepId.map .string)) names)
    (inside : "step_id" ∈ names) (other : "step_id" ≠ key) :
    (fields.nullable "step_id" text).Holds stepId :=
  shows.nullable "step_id" text .string stepId inside
    (by simp [memberCons, memberOptional, other]) (fun _ equal => by cases equal) textOfString

namespace RunOutcome

theorem ofToJson (outcome : RunOutcome) : ofJson outcome.toJson.canonical = .ok outcome := by
  have known := @taggedReads RunOutcome "RunOutcome" "status"
  cases outcome with
  | completed => exact known "completed" [] (by simp) readers _ rfl .completed fun _ _ => rfl
  | aborted reason stepId =>
      refine known "aborted" (("reason", .string reason.tag) ::
        optionalMember "step_id" (stepId.map .string))
        (((keysOfOptional "step_id" _).cons_cons _).cons_cons _ |>.nodup (by simp)) readers _ rfl
        (.aborted reason stepId) fun content shows => ?_
      have shows := shows "struct variant RunOutcome::Aborted" ["reason", "step_id"]
        ["reason", "step_id"] (by simp)
      have cause := shows.required "reason" (AbortReason.ofJson .setAside) _ reason (by simp) rfl
        (reason.ofTag .setAside)
      have step := shows.stepId (by simp) (by simp)
      have settled := shows.settled [_, _] ⟨cause.settled, step.settled⟩
      simp only [abortedOfJson, Fields.of, bind, Except.bind, settled, cause.read, step.read]
      rfl
  | failed error stepId =>
      refine known "failed" (("error", .string error) ::
        optionalMember "step_id" (stepId.map .string))
        (((keysOfOptional "step_id" _).cons_cons _).cons_cons _ |>.nodup (by simp)) readers _ rfl
        (.failed error stepId) fun content shows => ?_
      have shows := shows "struct variant RunOutcome::Failed" ["error", "step_id"]
        ["error", "step_id"] (by simp)
      have fault := shows.required "error" Shape.text _ error (by simp) rfl (textOfString error)
      have step := shows.stepId (by simp) (by simp)
      have settled := shows.settled [_, _] ⟨fault.settled, step.settled⟩
      simp only [failedOfJson, Fields.of, bind, Except.bind, settled, fault.read, step.read]
      rfl

end RunOutcome

/-! ### Entries -/

namespace TraceEntry

/-- These are the members of a written entry. -/
def members (entry : TraceEntry) : List (String × Json) :=
  [("step_id", .string entry.stepId), ("step_type", .string entry.stepType.tag),
      ("depth", .nat entry.depth.toNat), ("outcome", entry.outcome.toJson)] ++
    optionalMember "matched_text" (entry.matchedText.map .string) ++
    [("variables", .ofTexts entry.bindings)] ++
    (if entry.unresolved.isEmpty then [] else [("unresolved", .texts entry.unresolved)]) ++
    optionalMember "error" (entry.error.map .string) ++
    [("attempts", .nat entry.attempts.toNat), ("started_at", .string entry.startedAt.text),
      ("finished_at", .string entry.finishedAt.text)]

theorem toJsonMembers (entry : TraceEntry) : entry.toJson = .object entry.members := rfl

theorem keysOfMembers (entry : TraceEntry) : (entry.members.map Prod.fst).Sublist fieldNames := by
  simp only [members, List.map_append]
  exact (((((List.Sublist.refl _).append (keysOfOptional "matched_text" _)).append
    (List.Sublist.refl _)).append (keysOfUnless "unresolved" _ _)).append
      (keysOfOptional "error" _)).append (List.Sublist.refl _)

theorem keysNodup (entry : TraceEntry) : (entry.members.map Prod.fst).Nodup :=
  entry.keysOfMembers.nodup (by simp [fieldNames])

/-- Both times of an entry are read back from their texts. -/
structure HasReadableTimes (entry : TraceEntry) : Prop where
  started : Time.readRelaxed entry.startedAt.text = .ok entry.startedAt
  finished : Time.readRelaxed entry.finishedAt.text = .ok entry.finishedAt

/-- All known points in time are readable, as those of every clock are. -/
theorem readableTimes {entry : TraceEntry} (started : entry.startedAt.IsKnown)
    (finished : entry.finishedAt.IsKnown) : entry.HasReadableTimes :=
  ⟨Time.readText _ started, Time.readText _ finished⟩

theorem ofToJson (entry : TraceEntry) (times : entry.HasReadableTimes) :
    ofJson entry.toJson.canonical = .ok entry := by
  obtain ⟨fields, isRecord, shows⟩ := Fields.ofCanonical "struct TraceEntry" fieldNames fieldNames
    .document entry.members entry.keysNodup
  have stepId := shows.required "step_id" Shape.text _ entry.stepId (by simp [fieldNames]) rfl
    (textOfString entry.stepId)
  have stepType := shows.required "step_type" stepTypeOfJson _ entry.stepType
    (by simp [fieldNames]) rfl (variantOfName .document _ _ _ entry.stepType.ofTagTag)
  have depth := shows.required "depth" size _ entry.depth (by simp [fieldNames]) rfl
    (sizeOfNat entry.depth)
  have outcome := shows.required "outcome" StepOutcome.ofJson _ entry.outcome
    (by simp [fieldNames]) rfl entry.outcome.ofToJson
  have matchedText := shows.nullable "matched_text" Shape.text .string entry.matchedText
    (by simp [fieldNames])
    (by simp [members, memberAppend, memberCons, memberOptional, memberUnless, memberNil])
    (fun _ equal => by cases equal) textOfString
  have bindings := shows.required "variables" (Shape.table Shape.text) _ entry.bindings
    (by simp [fieldNames])
    (by simp [members, memberAppend, memberCons, memberOptional])
    (tableOfTexts entry.bindings)
  have unresolved := shows.unlessUsual "unresolved" (Shape.list Shape.text) [] _ entry.unresolved
    entry.unresolved.isEmpty (by simp [fieldNames])
    (by simp [members, memberAppend, memberCons, memberOptional, memberUnless, memberNil])
    List.isEmpty_iff.mp fun _ => listOfTexts entry.unresolved
  have error := shows.nullable "error" Shape.text .string entry.error (by simp [fieldNames])
    (by simp [members, memberAppend, memberCons, memberOptional, memberUnless, memberNil])
    (fun _ equal => by cases equal) textOfString
  have attempts := shows.required "attempts" uint32 _ entry.attempts (by simp [fieldNames])
    (by simp [members, memberAppend, memberCons, memberOptional, memberUnless])
    (uint32OfNat entry.attempts)
  have startedAt := shows.required "started_at" Shape.timestamp _ entry.startedAt
    (by simp [fieldNames])
    (by simp [members, memberAppend, memberCons, memberOptional, memberUnless])
    (timestampOfText times.started)
  have finishedAt := shows.required "finished_at" Shape.timestamp _ entry.finishedAt
    (by simp [fieldNames])
    (by simp [members, memberAppend, memberCons, memberOptional, memberUnless])
    (timestampOfText times.finished)
  have settled := shows.settled [_, _, _, _, _, _, _, _, _, _, _]
    ⟨stepId.settled, stepType.settled, depth.settled, outcome.settled, matchedText.settled,
      bindings.settled, unresolved.settled, error.settled, attempts.settled, startedAt.settled,
      finishedAt.settled⟩
  rw [ofJson, toJsonMembers, isRecord]
  simp only [bind, Except.bind, settled, stepId.read, stepType.read, depth.read, outcome.read,
    matchedText.read, bindings.read, unresolved.read, error.read, attempts.read, startedAt.read,
    finishedAt.read]
  rfl

end TraceEntry

theorem LoopWarning.ofToJson (warning : LoopWarning) :
    LoopWarning.ofJson warning.toJson.canonical = .ok warning := by
  obtain ⟨fields, isRecord, shows⟩ := Fields.ofCanonical "struct LoopLimitExceeded"
    ["step_id", "max_iterations"] ["step_id", "max_iterations"] .document
    [("step_id", .string warning.stepId), ("max_iterations", .nat warning.limit.toNat)] (by simp)
  have stepId := shows.required "step_id" text _ warning.stepId (by simp) rfl
    (textOfString warning.stepId)
  have limit := shows.required "max_iterations" uint32 _ warning.limit (by simp) rfl
    (uint32OfNat warning.limit)
  have settled := shows.settled [_, _] ⟨stepId.settled, limit.settled⟩
  rw [LoopWarning.ofJson, LoopWarning.toJson, isRecord]
  simp only [bind, Except.bind, settled, stepId.read, limit.read]
  rfl

/-! ### Reports -/

namespace RunReport

/-- These are the members of a written report. -/
def members (report : RunReport) : List (String × Json) :=
  [("run_id", .string report.runId), ("macro_id", .string report.scriptId),
      ("macro_name", .string report.scriptName), ("outcome", report.outcome.toJson),
      ("trace", .array (report.trace.map TraceEntry.toJson))] ++
    (if report.warnings.isEmpty then []
      else [("warnings", .array (report.warnings.map LoopWarning.toJson))]) ++
    [("variables", .ofTexts report.bindings), ("started_at", .string report.startedAt.text),
      ("finished_at", .string report.finishedAt.text)]

theorem toJsonMembers (report : RunReport) : report.toJson = .object report.members := rfl

theorem keysOfMembers (report : RunReport) :
    (report.members.map Prod.fst).Sublist fieldNames := by
  simp only [members, List.map_append]
  exact ((List.Sublist.refl _).append (keysOfUnless "warnings" _ _)).append (List.Sublist.refl _)

theorem keysNodup (report : RunReport) : (report.members.map Prod.fst).Nodup :=
  report.keysOfMembers.nodup (by simp [fieldNames])

/-- All times of a report are read back from their texts. -/
structure HasReadableTimes (report : RunReport) : Prop where
  started : Time.readRelaxed report.startedAt.text = .ok report.startedAt
  finished : Time.readRelaxed report.finishedAt.text = .ok report.finishedAt
  entries : ∀ entry ∈ report.trace, entry.HasReadableTimes

theorem ofToJson (report : RunReport) (times : report.HasReadableTimes) :
    ofJson report.toJson.canonical = .ok report := by
  obtain ⟨fields, isRecord, shows⟩ := Fields.ofCanonical "struct RunReport" fieldNames fieldNames
    .document report.members report.keysNodup
  have runId := shows.required "run_id" text _ report.runId (by simp [fieldNames]) rfl
    (textOfString report.runId)
  have scriptId := shows.required "macro_id" text _ report.scriptId (by simp [fieldNames]) rfl
    (textOfString report.scriptId)
  have scriptName := shows.required "macro_name" text _ report.scriptName (by simp [fieldNames])
    rfl (textOfString report.scriptName)
  have outcome := shows.required "outcome" RunOutcome.ofJson _ report.outcome
    (by simp [fieldNames]) rfl report.outcome.ofToJson
  have trace := shows.required "trace" (Shape.list TraceEntry.ofJson) _ report.trace
    (by simp [fieldNames]) rfl (listOfItems TraceEntry.ofJson TraceEntry.toJson report.trace
      fun entry inside => entry.ofToJson (times.entries entry inside))
  have warnings := shows.unlessUsual "warnings" (Shape.list LoopWarning.ofJson) [] _
    report.warnings report.warnings.isEmpty (by simp [fieldNames])
    (by simp [members, memberAppend, memberCons, memberUnless, memberNil])
    List.isEmpty_iff.mp fun _ => listOfItems LoopWarning.ofJson LoopWarning.toJson report.warnings
      fun warning _ => warning.ofToJson
  have bindings := shows.required "variables" (Shape.table text) _ report.bindings
    (by simp [fieldNames]) (by simp [members, memberAppend, memberCons, memberUnless])
    (tableOfTexts report.bindings)
  have startedAt := shows.required "started_at" Shape.timestamp _ report.startedAt
    (by simp [fieldNames]) (by simp [members, memberAppend, memberCons, memberUnless])
    (timestampOfText times.started)
  have finishedAt := shows.required "finished_at" Shape.timestamp _ report.finishedAt
    (by simp [fieldNames]) (by simp [members, memberAppend, memberCons, memberUnless])
    (timestampOfText times.finished)
  have settled := shows.settled [_, _, _, _, _, _, _, _, _]
    ⟨runId.settled, scriptId.settled, scriptName.settled, outcome.settled, trace.settled,
      warnings.settled, bindings.settled, startedAt.settled, finishedAt.settled⟩
  rw [ofJson, toJsonMembers, isRecord]
  simp only [bind, Except.bind, settled, runId.read, scriptId.read, scriptName.read, outcome.read,
    trace.read, warnings.read, bindings.read, startedAt.read, finishedAt.read]
  rfl

end RunReport

/-! ### Texts of reports -/

namespace Json

theorem nestingItemsLE (limit : Nat) (items : List Json) :
    nestingOfItems items ≤ limit ↔ ∀ item ∈ items, item.nesting ≤ limit := by
  induction items with
  | nil => simp [nestingOfItems]
  | cons item rest inductionHypothesis =>
      rw [nestingOfItems, max_le_iff, List.forall_mem_cons, inductionHypothesis]

theorem nestingMembersLE (limit : Nat) (members : List (String × Json)) :
    nestingOfMembers members ≤ limit ↔ ∀ member ∈ members, member.2.nesting ≤ limit := by
  induction members with
  | nil => simp [nestingOfMembers]
  | cons member rest inductionHypothesis =>
      rw [nestingOfMembers, max_le_iff, List.forall_mem_cons, inductionHypothesis]

theorem storableOfTexts (table : Table String) : (ofTexts table).IsStorable := by
  refine (haveStorable _).mpr fun member inside => ?_
  obtain ⟨entry, -, rfl⟩ := List.mem_map.mp inside
  trivial

theorem nestingOfTexts (table : Table String) : (ofTexts table).nesting ≤ 1 := by
  refine Nat.succ_le_succ ((nestingMembersLE 0 _).mpr fun member inside => ?_)
  obtain ⟨entry, -, rfl⟩ := List.mem_map.mp inside
  exact le_rfl

theorem nestingTexts (values : List String) : (texts values).nesting ≤ 1 := by
  refine Nat.succ_le_succ ((nestingItemsLE 0 _).mpr fun item inside => ?_)
  obtain ⟨value, -, rfl⟩ := List.mem_map.mp inside
  exact le_rfl

end Json

open Json

theorem StepOutcome.storable (outcome : StepOutcome) : outcome.toJson.IsStorable := by
  cases outcome with
  | loop iterations limited => exact ⟨trivial, storableUInt32 _, trivial, trivial⟩
  | branch taken => exact ⟨trivial, trivial, trivial⟩
  | _ => exact ⟨trivial, trivial⟩

theorem StepOutcome.nesting (outcome : StepOutcome) : outcome.toJson.nesting ≤ 1 := by
  cases outcome <;> exact le_rfl

theorem RunOutcome.storable (outcome : RunOutcome) : outcome.toJson.IsStorable := by
  cases outcome with
  | completed => exact ⟨trivial, trivial⟩
  | aborted reason stepId =>
      exact (haveStorableAppend _ _).mpr ⟨⟨trivial, trivial, trivial⟩, storableText "step_id" _⟩
  | failed error stepId =>
      exact (haveStorableAppend _ _).mpr ⟨⟨trivial, trivial, trivial⟩, storableText "step_id" _⟩

theorem RunOutcome.nesting (outcome : RunOutcome) : outcome.toJson.nesting ≤ 1 := by
  cases outcome with
  | completed => exact le_rfl
  | aborted reason stepId => cases stepId <;> exact le_rfl
  | failed error stepId => cases stepId <;> exact le_rfl

theorem TraceEntry.storable (entry : TraceEntry) : entry.toJson.IsStorable := by
  rw [toJsonMembers, storableObject]
  simp only [members, haveStorableAppend]
  refine ⟨⟨⟨⟨⟨⟨trivial, trivial, storableUInt64 _, entry.outcome.storable, trivial⟩,
    storableText "matched_text" _⟩, storableOfTexts _, trivial⟩, ?_⟩, storableText "error" _⟩,
    storableUInt32 _, trivial, trivial, trivial⟩
  split
  · trivial
  · exact ⟨storableTexts _, trivial⟩

theorem nestingText (key : String) (value : Option String) :
    ∀ member ∈ optionalMember key (value.map .string), member.2.nesting ≤ 1 := by
  cases value with
  | none => exact nofun
  | some text => exact List.forall_mem_singleton.mpr (Nat.zero_le 1)

theorem TraceEntry.nesting (entry : TraceEntry) : entry.toJson.nesting ≤ 2 := by
  refine Nat.succ_le_succ ((nestingMembersLE 1 entry.members).mpr ?_)
  have outcome := entry.outcome.nesting
  have bindings := nestingOfTexts entry.bindings
  have unresolved : ∀ member ∈ if entry.unresolved.isEmpty then []
      else [("unresolved", Json.texts entry.unresolved)], member.2.nesting ≤ 1 := by
    split
    · exact nofun
    · exact List.forall_mem_singleton.mpr (nestingTexts _)
  simp only [members, List.forall_mem_append]
  exact ⟨⟨⟨⟨⟨by simp [Json.nesting, Json.nat, outcome], nestingText "matched_text" _⟩,
    by simp [bindings]⟩, unresolved⟩, nestingText "error" _⟩, by simp [Json.nesting, Json.nat]⟩

theorem LoopWarning.storable (warning : LoopWarning) : warning.toJson.IsStorable :=
  ⟨trivial, storableUInt32 _, trivial⟩

namespace RunReport

theorem storable (report : RunReport) : report.toJson.IsStorable := by
  have trace : AreStorable (report.trace.map TraceEntry.toJson) :=
    (areStorable _).mpr (List.forall_mem_map.mpr fun entry _ => entry.storable)
  have warnings : AreStorable (report.warnings.map LoopWarning.toJson) :=
    (areStorable _).mpr (List.forall_mem_map.mpr fun warning _ => warning.storable)
  rw [toJsonMembers, storableObject]
  simp only [members, haveStorableAppend]
  refine ⟨⟨⟨trivial, trivial, trivial, report.outcome.storable, trace, trivial⟩, ?_⟩,
    storableOfTexts _, trivial, trivial, trivial⟩
  split
  · trivial
  · exact ⟨warnings, trivial⟩

/-- However long its trace is, a report nests no deeper than four arrays and objects. -/
theorem nesting (report : RunReport) : report.toJson.nesting ≤ 4 := by
  refine Nat.succ_le_succ ((nestingMembersLE 3 report.members).mpr ?_)
  have outcome := report.outcome.nesting
  have bindings := nestingOfTexts report.bindings
  have trace : nestingOfItems (report.trace.map TraceEntry.toJson) ≤ 2 :=
    (nestingItemsLE 2 _).mpr (List.forall_mem_map.mpr fun entry _ => entry.nesting)
  have warnings : ∀ member ∈ if report.warnings.isEmpty then []
      else [("warnings", Json.array (report.warnings.map LoopWarning.toJson))],
      member.2.nesting ≤ 3 := by
    split
    · exact nofun
    · exact List.forall_mem_singleton.mpr (Nat.succ_le_succ ((nestingItemsLE 2 _).mpr
        (List.forall_mem_map.mpr fun _ _ => Nat.le_succ 1)))
  simp only [members, List.forall_mem_append]
  exact ⟨⟨by simp [Json.nesting, Nat.lt_succ_of_le trace, outcome.trans], warnings⟩,
    by simp [Json.nesting, bindings.trans]⟩

/--
The JSON value of a report is read as the report, and so is the value that is read from its text,
whatever the run did and however long its trace is.
-/
theorem reportReadBack (report : RunReport) (times : report.HasReadableTimes) :
    ofJson report.toJson.canonical = .ok report ∧
      ∃ value, Json.read? report.toJson.pretty = some value ∧
        ofJson value.canonical = .ok report := by
  have isRead := report.ofToJson times
  have fits : report.toJson.nesting ≤ Json.nestingLimit := report.nesting.trans (by decide)
  refine ⟨isRead, report.toJson, ?_, isRead⟩
  rw [Document.readPretty _ report.storable, if_pos fits]

/-- This is half past eleven on a day of 2026, and a part of a second. -/
def lateMorning : Time.Timestamp := ⟨1789558200, 120000⟩

/-- A loop came to its limit, the way behind it was not taken, and a click failed before the end. -/
def stoppedReport : RunReport where
  runId := "run"
  scriptId := "script"
  scriptName := "door \"A\""
  outcome := .aborted .runTimeout (some "click")
  trace :=
    [⟨"knock", .loop, 0, .loop 3 true, none, Table.ofList [("count", "3")], [], none, 1, .epoch,
        lateMorning⟩,
      ⟨"open", .ifCondition, 1, .branch .whenFalse, some "locked", .empty, ["door", "key"], none, 1,
        lateMorning, lateMorning⟩,
      ⟨"click", .mouseClick, 2, .aborted, none, .empty, [], some "no door", 4, lateMorning,
        lateMorning⟩]
  warnings := [⟨"knock", 3⟩]
  bindings := Table.ofList [("count", "3")]
  startedAt := .epoch
  finishedAt := lateMorning

theorem lateMorningKnown : lateMorning.IsKnown := ⟨by decide, by decide, by decide⟩

theorem reportReadBackStopped : stoppedReport.HasReadableTimes ∧
    ofJson stoppedReport.toJson.canonical = .ok stoppedReport ∧
      ∃ value, Json.read? stoppedReport.toJson.pretty = some value ∧
        ofJson value.canonical = .ok stoppedReport := by
  have late := lateMorningKnown
  have epoch := Document.epochKnown
  have times : stoppedReport.HasReadableTimes := by
    refine ⟨Time.readText _ epoch, Time.readText _ late, fun entry inside => ?_⟩
    simp only [stoppedReport, List.mem_cons, List.not_mem_nil, or_false] at inside
    rcases inside with rfl | rfl | rfl
    · exact TraceEntry.readableTimes epoch late
    · exact TraceEntry.readableTimes late late
    · exact TraceEntry.readableTimes late late
  exact ⟨times, reportReadBack stoppedReport times⟩

end RunReport

end DeskScript
