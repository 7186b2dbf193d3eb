/-
This file shows that a template depends on the variables in its placeholders only, and compares two
runs side by side. Their sessions are alike when they differ in variables only to which the script
does not refer.
-/

import DeskScript.Condition
import DeskScript.Proofs.Placeholder
import DeskScript.Proofs.Step.Forest
import DeskScript.Run.Device
import DeskScript.Run.Session
import DeskScript.Script.Basic

namespace DeskScript

/-! ### Bindings that agree -/

/-- Two tables of bindings agree on some names when they give them the same values. -/
def Bindings.Agree (names : List String) (first second : Bindings) : Prop :=
  ∀ name ∈ names, first.find? name = second.find? name

namespace Bindings.Agree

variable {names : List String} {first second : Bindings}

theorem put (agree : Agree names first second) (name value : String) :
    Agree names (first.put name value) (second.put name value) := by
  intro other inside
  by_cases same : other = name
  · rw [same, Table.findPutSame, Table.findPutSame]
  · rw [Table.findPutOther _ _ _ _ same, Table.findPutOther _ _ _ _ same, agree other inside]

theorem erase (agree : Agree names first second) (name : String) :
    Agree names (first.erase name) (second.erase name) := by
  intro other inside
  by_cases same : other = name
  · rw [same, Table.findEraseSame, Table.findEraseSame]
  · rw [Table.findEraseOther _ _ _ same, Table.findEraseOther _ _ _ same, agree other inside]

end Bindings.Agree

/-! ### Resolutions -/

namespace Template

/-- A template mentions some names only when every placeholder in it has one of these names. -/
def Mentions (names : List String) (template : String) : Prop :=
  ∀ name ∈ placeholders template, name ∈ names

variable {names : List String} {template : String} {first second : Bindings}

theorem partTextAgree (agree : Bindings.Agree names first second) (part : TemplatePart)
    (named : ∀ name, TemplatePart.name? part = some name → name ∈ names) :
    partText first part = partText second part := by
  cases part with
  | literal character => rfl
  | placeholder written => rw [partText, partText, agree (nameOf written) (named _ rfl)]

/-- Bindings that agree on the names in a template make the same text of it. -/
theorem resolveAgree (mentions : Mentions names template)
    (agree : Bindings.Agree names first second) :
    resolve template first = resolve template second := by
  have each : ∀ part ∈ parts template.toList, ∀ name, TemplatePart.name? part = some name → name ∈ names :=
    fun part inside name named => mentions name ((memPlaceholders template name).mpr
      (List.mem_filterMap.mpr ⟨part, inside, named⟩))
  have texts : (parts template.toList).flatMap (partText first) =
      (parts template.toList).flatMap (partText second) := by
    rw [List.flatMap_def, List.flatMap_def, List.map_congr_left fun part inside =>
      partTextAgree agree part (each part inside)]
  have unbound : ((parts template.toList).filterMap TemplatePart.name?).filter
      (fun name => (first.find? name).isNone) =
      ((parts template.toList).filterMap TemplatePart.name?).filter
        (fun name => (second.find? name).isNone) := by
    refine List.filter_congr fun name inside => ?_
    rw [agree name (mentions name ((memPlaceholders template name).mpr inside))]
  rw [resolve, resolve]
  simp only [texts, unbound]

/-- Only names in a template can be unresolved. -/
theorem unresolvedMentioned (mentions : Mentions names template) (bindings : Bindings)
    (name : String) (inside : name ∈ (resolve template bindings).unresolved) : name ∈ names := by
  rw [resolve, memAddNames] at inside
  rcases inside with old | found
  · exact absurd old List.not_mem_nil
  · exact mentions name ((memPlaceholders template name).mpr (List.mem_filter.mp found).1)

end Template

/-! ### Conditions -/

namespace Condition

variable {names : List String} {condition : Condition} {first second : Bindings}

theorem rightAgree (mentions : Template.Mentions names condition.right)
    (agree : Bindings.Agree names first second) :
    condition.rightResolution first = condition.rightResolution second := by
  rw [rightResolution, rightResolution, Template.resolveAgree mentions agree]

/-- Bindings that agree on the names in a condition decide it in the same way. -/
theorem evaluateAgree
    (mentions : ∀ template ∈ Step.conditionTemplates condition, Template.Mentions names template)
    (agree : Bindings.Agree names first second) :
    condition.evaluate first = condition.evaluate second := by
  have left := mentions condition.left (by simp [Step.conditionTemplates])
  have right := mentions condition.right (by simp [Step.conditionTemplates])
  rw [evaluate, evaluate, Template.resolveAgree left agree, rightAgree right agree]

theorem unresolvedMentioned
    (mentions : ∀ template ∈ Step.conditionTemplates condition, Template.Mentions names template)
    (bindings : Bindings) (name : String)
    (inside : name ∈ (condition.evaluate bindings).unresolved) : name ∈ names := by
  have left := mentions condition.left (by simp [Step.conditionTemplates])
  have right := mentions condition.right (by simp [Step.conditionTemplates])
  rw [evaluate, Template.memAddNames] at inside
  rcases inside with ofLeft | ofRight
  · exact Template.unresolvedMentioned left bindings name ofLeft
  · rw [rightResolution] at ofRight
    split at ofRight
    · exact absurd ofRight List.not_mem_nil
    · exact Template.unresolvedMentioned right bindings name ofRight

end Condition

/-! ### Notes -/

namespace StepNotes

variable {names : List String} {template : String} {first second : Bindings}

/-- All names that have been noted are among the given ones. -/
def Named (names : List String) (notes : StepNotes) : Prop :=
  ∀ name ∈ notes.unresolved, name ∈ names

theorem emptyNamed : Named names empty := fun _ inside => absurd inside List.not_mem_nil

theorem resolveAgree (mentions : Template.Mentions names template)
    (agree : Bindings.Agree names first second) (notes : StepNotes) :
    notes.resolve first template = notes.resolve second template := by
  rw [resolve, resolve, Template.resolveAgree mentions agree]

theorem resolveNamed (mentions : Template.Mentions names template) (bindings : Bindings)
    (notes : StepNotes) (named : notes.Named names) :
    (notes.resolve bindings template).2.Named names := by
  intro name inside
  rw [resolve, Template.memAddNames] at inside
  rcases inside with old | new
  · exact named name old
  · exact Template.unresolvedMentioned mentions bindings name new

end StepNotes

/-! ### Scripts -/

/-- A step mentions some names only when its templates do. -/
def Step.Mentions (names : List String) (step : Step) : Prop :=
  ∀ template ∈ step.templates, Template.Mentions names template

namespace Script

theorem memTemplateNames (templates names : List String) (name : String) :
    name ∈ templates.foldl (fun names template =>
      Template.addNames names (Template.placeholders template)) names ↔
      name ∈ names ∨ ∃ template ∈ templates, name ∈ Template.placeholders template := by
  induction templates generalizing names with
  | nil => simp
  | cons template rest inductionHypothesis =>
      rw [List.foldl_cons, inductionHypothesis, Template.memAddNames, or_assoc]
      simp

theorem memStepNames (visited : List (Nat × Step)) (names : List String) (name : String) :
    name ∈ visited.foldl (fun names (_, step) =>
      step.templates.foldl (fun names template =>
        Template.addNames names (Template.placeholders template)) names) names ↔
      name ∈ names ∨ ∃ entry ∈ visited, ∃ template ∈ entry.2.templates,
        name ∈ Template.placeholders template := by
  induction visited generalizing names with
  | nil => simp
  | cons entry rest inductionHypothesis =>
      rw [List.foldl_cons, inductionHypothesis, memTemplateNames, or_assoc]
      simp

/-- The names that a script refers to are the names in the templates of its steps. -/
theorem memReferencedVariables (script : Script) (name : String) :
    name ∈ script.referencedVariables ↔ ∃ step ∈ Step.forest script.steps,
      ∃ template ∈ step.templates, name ∈ Template.placeholders template := by
  rw [referencedVariables, memStepNames]
  constructor
  · rintro (old | ⟨entry, visited, mentioned⟩)
    · exact absurd old List.not_mem_nil
    · exact ⟨entry.2, List.mem_map_of_mem visited, mentioned⟩
  · rintro ⟨step, inside, mentioned⟩
    obtain ⟨entry, visited, rfl⟩ := List.mem_map.mp inside
    exact .inr ⟨entry, visited, mentioned⟩

theorem mentionsReferenced (script : Script) (step : Step)
    (inside : step ∈ Step.forest script.steps) : step.Mentions script.referencedVariables :=
  fun template given name found =>
    (script.memReferencedVariables name).mpr ⟨step, inside, template, given, found⟩

end Script

variable {device : Type}

/-! ### Sessions that are alike -/

/-- This is an entry without the variables at its end. -/
def TraceEntry.unbound (entry : TraceEntry) : TraceEntry := { entry with bindings := .empty }

def RunNews.unbound : RunNews → RunNews
  | .stepFinished entry => .stepFinished entry.unbound
  | news => news

def RunEvent.unbound (event : RunEvent) : RunEvent := { event with news := event.news.unbound }

/--
Two sessions are alike when they differ in variables only, and not in those with one of the given
names. Names that were not bound have been looked for under these names only.
-/
structure Session.Alike (names : List String) (first second : Session device) : Prop where
  context : first.context = second.context
  device : first.device = second.device
  calls : first.calls = second.calls
  warnings : first.warnings = second.warnings
  trace : first.trace.map TraceEntry.unbound = second.trace.map TraceEntry.unbound
  events : first.events.map RunEvent.unbound = second.events.map RunEvent.unbound
  bindings : Bindings.Agree names first.bindings second.bindings
  named : ∀ entry ∈ first.trace, ∀ name ∈ entry.unresolved, name ∈ names

/-- Two parts of a run are alike when they end in sessions that are alike with the same result. -/
def EndAlike {result : Type} (names : List String) (first second : Session device × result) : Prop :=
  Session.Alike names first.1 second.1 ∧ first.2 = second.2

theorem EndAlike.parts {result : Type} {names : List String}
    {first second : Session device × result} (alike : EndAlike names first second) :
    ∃ firstAfter secondAfter found, first = (firstAfter, found) ∧ second = (secondAfter, found) ∧
      Session.Alike names firstAfter secondAfter :=
  ⟨first.1, second.1, first.2, rfl, by rw [alike.2], alike.1⟩

namespace Session.Alike

variable {names : List String} {first second : Session device}

theorem bind (alike : Alike names first second) (name value : String) :
    Alike names (first.bind name value) (second.bind name value) :=
  { alike with bindings := alike.bindings.put name value }

theorem unbind (alike : Alike names first second) (name : String) :
    Alike names (first.unbind name) (second.unbind name) :=
  { alike with bindings := alike.bindings.erase name }

theorem withContext (alike : Alike names first second) (context : RunContext) :
    Alike names { first with context } { second with context } :=
  { alike with context := rfl }

theorem time (alike : Alike names first second) (place : Workplace device) :
    first.time place = second.time place := by
  rw [Session.time, Session.time, alike.context]

/-! ### Reporting -/

theorem publish (alike : Alike names first second) (firstNews secondNews : RunNews)
    (same : firstNews.unbound = secondNews.unbound) :
    Alike names (first.publish firstNews) (second.publish secondNews) :=
  { alike with
    events := by
      rw [Session.publish, Session.publish, Array.map_push, Array.map_push, alike.events,
        RunEvent.unbound, RunEvent.unbound, same, alike.context] }

/-- Entries that are recorded with the same notes differ in variables only. -/
theorem record (alike : Alike names first second) (place : Workplace device) (step : Step)
    (depth : Nat) (outcome : StepOutcome) (notes : StepNotes) (error : Option String)
    (attempts : UInt32) (startedAt : Time.Timestamp)
    (named : notes.Named names) :
    Alike names (first.record place step depth outcome notes error attempts startedAt)
      (second.record place step depth outcome notes error attempts startedAt) := by
  rw [Session.record, Session.record]
  generalize isFirst : (⟨step.id, step.stepType, UInt64.ofNat depth, outcome, notes.matchedText,
    first.bindings, notes.unresolved, error, attempts, startedAt, first.time place⟩ : TraceEntry) =
    firstEntry
  generalize isSecond : (⟨step.id, step.stepType, UInt64.ofNat depth, outcome, notes.matchedText,
    second.bindings, notes.unresolved, error, attempts, startedAt, second.time place⟩ : TraceEntry) =
    secondEntry
  have same : firstEntry.unbound = secondEntry.unbound := by
    rw [← isFirst, ← isSecond, TraceEntry.unbound, TraceEntry.unbound, alike.time place]
  have published := alike.publish (.stepFinished firstEntry) (.stepFinished secondEntry)
    (by rw [RunNews.unbound, RunNews.unbound, same])
  refine { published with trace := ?_, named := ?_ }
  · rw [Array.map_push, Array.map_push, alike.trace, same]
  · intro entry inside
    rcases Array.mem_push.mp inside with old | new
    · exact alike.named entry old
    · rw [new, ← isFirst]
      exact named

theorem warn (alike : Alike names first second) (warning : LoopWarning) :
    Alike names (first.warn warning) (second.warn warning) :=
  { alike.publish (.warning warning) (.warning warning) rfl with
    warnings := by rw [Session.warn, Session.warn, alike.warnings] }

/-! ### Stopping -/

theorem checkpoint (alike : Alike names first second) (stepId : String) :
    EndAlike names (first.checkpoint stepId) (second.checkpoint stepId) := by
  rw [Session.checkpoint, Session.checkpoint, alike.context]
  split
  · exact ⟨alike, rfl⟩
  · exact ⟨alike, rfl⟩

theorem sleep (alike : Alike names first second) (duration : Nat) :
    EndAlike names (first.sleep duration) (second.sleep duration) := by
  rw [Session.sleep, Session.sleep, alike.context]
  exact ⟨alike.withContext _, rfl⟩

theorem abort (alike : Alike names first second) (reason : AbortReason) (stepId : String) :
    first.abort reason stepId = second.abort reason stepId := by
  rw [Session.abort, Session.abort, alike.context]

/-! ### Devices -/

theorem use {answer : Type} (alike : Alike names first second)
    (act : device → device × answer) : EndAlike names (first.use act) (second.use act) := by
  have firstUse : first.use act = ({ first with device := (act first.device).1 },
    (act first.device).2) := rfl
  have secondUse : second.use act = ({ second with device := (act second.device).1 },
    (act second.device).2) := rfl
  rw [firstUse, secondUse, alike.device]
  exact ⟨{ alike with device := rfl }, rfl⟩

/-- A device is told the same by both runs. -/
theorem note (alike : Alike names first second) (place : Workplace device) (call : DeviceCall) :
    EndAlike names (first.note place call) (second.note place call) := by
  obtain ⟨firstAfter, secondAfter, timing, isFirst, isSecond, used⟩ :=
    (alike.use fun state => place.devices.note state call).parts
  rw [Session.note, Session.note, isFirst, isSecond]
  simp only
  rw [used.context, used.calls]
  exact ⟨{ used with context := rfl, calls := rfl }, rfl⟩

theorem input (alike : Alike names first second) (place : Workplace device)
    (action : InputAction) :
    EndAlike names (first.input place action) (second.input place action) := by
  obtain ⟨firstAfter, secondAfter, delay, isFirst, isSecond, noted⟩ :=
    (alike.note place (.input action)).parts
  rw [Session.input, Session.input, isFirst, isSecond]
  simp only
  rw [noted.context]
  exact (noted.withContext _).use _

/-- Both runs see the same on the screen. -/
theorem look (alike : Alike names first second) (place : Workplace device) (look : Look) :
    EndAlike names (first.look place look) (second.look place look) := by
  obtain ⟨firstAfter, secondAfter, delay, isFirst, isSecond, noted⟩ :=
    (alike.note place (.look look)).parts
  rw [Session.look, Session.look, isFirst, isSecond]
  simp only
  rw [noted.context]
  generalize secondAfter.context.work delay = worked
  obtain ⟨context, _ | reason⟩ := worked
  · obtain ⟨firstLast, secondLast, answer, isFirst, isSecond, used⟩ :=
      ((noted.withContext context).use fun state => place.devices.look state look).parts
    simp only
    rw [isFirst, isSecond]
    exact ⟨used, rfl⟩
  · exact ⟨noted.withContext context, rfl⟩

end Session.Alike

end DeskScript
