/-
This file shows which of the names that a script introduces can be read in a placeholder.
-/

import DeskScript.Proofs.Document.ProbePlaces
import DeskScript.Proofs.Script.Storable
import DeskScript.Run.Interpreter

namespace DeskScript

namespace Template

/-! ### Names in placeholders -/

theorem memTrimChars {character : Char} {characters : List Char}
    (inside : character ∈ Text.trimChars characters) : character ∈ characters := by
  rw [Text.trimChars, List.mem_reverse] at inside
  have ofReversed := (List.dropWhile_sublist _).subset inside
  rw [List.mem_reverse] at ofReversed
  exact (List.dropWhile_sublist _).subset ofReversed

/-- What is read as a name up to its closing brace holds no closing brace. -/
theorem nameOfUnclosed {written : List Char} (unclosed : '\x7d' ∉ written) :
    '\x7d' ∉ (nameOf written).toList := by
  intro inside
  rw [nameOf, String.toList_ofList] at inside
  exact unclosed (memTrimChars inside)

/-- A bound name that a placeholder can hold as it is gives the placeholder its value. -/
theorem resolveBound {name : String} (written : name ≠ "") (unclosed : '\x7d' ∉ name.toList)
    (trimmed : Text.trim name = name) {bindings : Bindings} {value : String}
    (bound : bindings.find? name = some value) :
    resolve (Upgrade.placeholder name) bindings = ⟨value, []⟩ := by
  have isName : nameOf name.toList = name := trimmed
  rw [resolve, partsPlaceholder written unclosed]
  simp [partText, TemplatePart.name?, isName, bound, addNames]

/-- A closing brace in a name ends the placeholder before the name does. -/
theorem resolveClosed {name : String} (closed : '\x7d' ∈ name.toList) :
    resolve (Upgrade.placeholder name) (Table.empty.put name "") ≠ ⟨"", []⟩ := by
  obtain ⟨before, after, split, unclosed⟩ := List.eq_append_cons_of_mem closed
  have characters : (Upgrade.placeholder name).toList =
      '$' :: '\x7b' :: (before ++ '\x7d' :: (after ++ ['\x7d'])) := by
    simp [Upgrade.placeholder, split]
  intro same
  cases before with
  | nil =>
      -- The text keeps its dollar sign, because no name stands before the brace.
      have text := congrArg (fun resolution => resolution.value.toList) same
      rw [resolve, characters, List.nil_append, partsNameless] at text
      simp [partText] at text
  | cons first rest =>
      have other : nameOf (first :: rest) ≠ name := by
        intro isName
        exact nameOfUnclosed unclosed (isName.symm ▸ closed)
      have reported : nameOf (first :: rest) ∈
          (resolve (Upgrade.placeholder name) (Table.empty.put name "")).unresolved := by
        rw [memUnresolved, characters, partsAt (List.cons_ne_nil _ _) unclosed,
          Table.findPutOther _ _ _ _ other]
        exact ⟨⟨.placeholder (first :: rest), List.mem_cons_self, rfl⟩, rfl⟩
      rw [same] at reported
      cases reported

/-- A placeholder does not read a name with blanks at its ends, but the name without them. -/
theorem resolveBlankEnd {name : String} (written : name ≠ "") (unclosed : '\x7d' ∉ name.toList)
    (blankEnd : Text.trim name ≠ name) :
    resolve (Upgrade.placeholder name) (Table.empty.put name "") ≠ ⟨"", []⟩ := by
  intro same
  have reported : Text.trim name ∈
      (resolve (Upgrade.placeholder name) (Table.empty.put name "")).unresolved := by
    rw [memUnresolved, partsPlaceholder written unclosed, Table.findPutOther _ _ _ _ blankEnd]
    exact ⟨⟨.placeholder name.toList, List.mem_cons_self, rfl⟩, rfl⟩
  rw [same] at reported
  cases reported

/-- A name can be read exactly when it holds no closing brace and no blanks at its ends. -/
theorem resolveBoundIff {name : String} (written : name ≠ "") :
    (∀ (bindings : Bindings) (value : String), bindings.find? name = some value →
        resolve (Upgrade.placeholder name) bindings = ⟨value, []⟩) ↔
      '\x7d' ∉ name.toList ∧ Text.trim name = name := by
  constructor
  · intro readable
    have same := readable (Table.empty.put name "") "" (Table.findPutSame _ _ _)
    have unclosed : '\x7d' ∉ name.toList := fun closed => resolveClosed closed same
    by_cases trimmed : Text.trim name = name
    · exact ⟨unclosed, trimmed⟩
    · exact absurd same (resolveBlankEnd written unclosed trimmed)
  · rintro ⟨unclosed, trimmed⟩ bindings value bound
    exact resolveBound written unclosed trimmed bound

end Template

/-! ### Names of valid scripts -/

theorem Text.writtenOfNotBlank {text : String} (notBlank : Text.isBlankText text = false) :
    text ≠ "" := by
  rintro rfl
  cases notBlank

/-- The check of a sensing step refuses a blank output variable. -/
theorem Sensing.outputNotBlank {sensing : Sensing} (sound : sensing.check = .ok ())
    {output : String} (given : sensing.output = some output) : Text.isBlankText output = false := by
  have afterThreshold := FieldCheck.second _ _ sound
  have afterTimeout := FieldCheck.second _ _ afterThreshold
  have afterRegion := FieldCheck.second _ _ afterTimeout
  rw [given] at afterRegion
  cases isBlank : Text.isBlankText output with
  | false => rfl
  | true =>
      simp only [isBlankName, Option.any_some, isBlank, FieldCheck.refuse] at afterRegion
      cases afterRegion

/-- The check of a loop refuses a blank index variable. -/
theorem LoopRule.indexNotBlank {rule : LoopRule} {bodyIsEmpty : Bool}
    (sound : rule.check bodyIsEmpty = .ok ()) {index : String}
    (given : rule.indexVariable = some index) : Text.isBlankText index = false := by
  have afterLimit := FieldCheck.second _ _ sound
  have afterMode := FieldCheck.second _ _ afterLimit
  have afterBody := FieldCheck.second _ _ afterMode
  rw [given] at afterBody
  cases isBlank : Text.isBlankText index with
  | false => rfl
  | true =>
      simp only [isBlankName, Option.any_some, isBlank, FieldCheck.refuse] at afterBody
      cases afterBody

namespace Step

theorem outputsWritten {sensing : Sensing} (sound : sensing.check = .ok ()) {name : String}
    (bound : mayBind.outputsOf name sensing = true) : name ≠ "" := by
  rw [mayBind.outputsOf, Option.any_eq_true] at bound
  obtain ⟨output, given, isName⟩ := bound
  simp only [Bool.or_eq_true, decide_eq_true_eq] at isName
  rcases isName with (rfl | rfl) | rfl
  · exact Text.writtenOfNotBlank (Sensing.outputNotBlank sound given)
  · simp [Leaf.outputX]
  · simp [Leaf.outputY]

/-- The names that a sound step may bind are not empty. -/
theorem mayBindWritten {step : Step} (sound : step.checkOwn = .ok ()) {name : String}
    (bound : step.mayBind name = true) : name ≠ "" := by
  have fields := fieldsSound step sound
  cases step with
  | leaf header action =>
      cases action with
      | waitImage template sensing => exact outputsWritten (FieldCheck.second _ _ fields) bound
      | searchText query whole sensing => exact outputsWritten (FieldCheck.second _ _ fields) bound
      | _ => cases bound
  | branch header condition whenTrue whenFalse => cases bound
  | loop header rule body =>
      exact Text.writtenOfNotBlank (LoopRule.indexNotBlank fields (of_decide_eq_true bound))

end Step

namespace Script

/-- A script introduces the names that it declares and those that its steps may bind. -/
def Introduces (script : Script) (name : String) : Prop :=
  name ∈ script.defaults.keys ∨ ∃ step ∈ Step.forest script.steps, step.mayBind name = true

theorem declaredSound {script : Script} (valid : script.validate = .ok ()) {name : String}
    (declared : name ∈ script.defaults.keys) : isVariableName name = true := by
  unfold validate at valid
  split at valid
  · cases valid
  split at valid
  · cases valid
  · rename_i allSound
    have sound := List.find?_eq_none.mp allSound name declared
    simpa using sound

theorem introducedWritten {script : Script} (valid : script.validate = .ok ()) {name : String}
    (introduced : script.Introduces name) : name ≠ "" := by
  rcases introduced with declared | ⟨step, inside, bound⟩
  · have sound := declaredSound valid declared
    simp only [isVariableName, Bool.and_eq_true, Bool.not_eq_true'] at sound
    exact Text.writtenOfNotBlank sound.1
  · exact Step.mayBindWritten (script.stepsSound valid step inside) bound

/--
A name that a valid script introduces can be read under every value exactly when it holds no
closing brace and no blanks at its ends.
-/
theorem introducedReadable (script : Script) (valid : script.validate = .ok ()) (name : String)
    (introduced : script.Introduces name) :
    (∀ (bindings : Bindings) (value : String), bindings.find? name = some value →
        Template.resolve (Upgrade.placeholder name) bindings = ⟨value, []⟩) ↔
      '\x7d' ∉ name.toList ∧ Text.trim name = name :=
  Template.resolveBoundIff (introducedWritten valid introduced)

/-- This script counts with a variable of the given name. -/
def countWith (index : String) : Script :=
  { Script.new "counter" "counter" .epoch with
    steps := [.loop (Step.newHeader "loop") ⟨.count 1, 1, some index⟩
      [Step.newType "type" (Upgrade.placeholder index)]] }

theorem introducedReadableRow : (countWith "row").validate = .ok () ∧
    (countWith "row").Introduces "row" ∧
    ∀ (bindings : Bindings) (value : String), bindings.find? "row" = some value →
      Template.resolve "$\x7brow\x7d" bindings = ⟨value, []⟩ := by
  have valid : (countWith "row").validate = .ok () := rfl
  have introduced : (countWith "row").Introduces "row" := .inr ⟨_, List.mem_cons_self, rfl⟩
  exact ⟨valid, introduced,
    (introducedReadable (countWith "row") valid "row" introduced).mpr (by decide)⟩

/-- An index variable with a closing brace is valid, but no placeholder reads it. -/
theorem bracedIndexUnread : ¬ ∀ script : Script, script.validate = .ok () →
    ∀ name, script.Introduces name → ∀ (bindings : Bindings) (value : String),
      bindings.find? name = some value →
        Template.resolve (Upgrade.placeholder name) bindings = ⟨value, []⟩ := by
  intro readable
  have same := readable (countWith "i\x7dj") rfl "i\x7dj"
    (.inr ⟨_, List.mem_cons_self, rfl⟩) (Table.empty.put "i\x7dj" "") "" (Table.findPutSame _ _ _)
  exact Template.resolveClosed (by decide) same

end Script

end DeskScript
