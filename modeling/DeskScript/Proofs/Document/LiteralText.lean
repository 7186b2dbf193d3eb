/-
This file shows what becomes of a text that a step of the first version typed as it stood. It is
typed as it stands in every run if it holds no placeholder, and only then under all variables.
-/

import DeskScript.Proofs.Document.LoadedPlaces
import DeskScript.Proofs.Run.Typing

namespace DeskScript

namespace Upgrade

/-! ### Reading -/

theorem ofTypeStep {old members : Members} {id : String}
    (isOwn : leaf id "keyboard_type" old = .ok members) : members = keyboardType old :=
  (Except.ok.inj isOwn).symm

theorem typeLeaf {old : Members} {step : Step} (loaded : LoadedFor old step)
    (isType : textOr old "step_type" "" = "keyboard_type") :
    ∃ origin source, Step.ofJson origin (Identity.identifyStep (.object (Json.canonicalMembers []
      (common old (textOr old "step_id" "") ++ keyboardType old))) source).1 = .ok step := by
  cases loaded with
  | leaf isOwn done =>
      rw [isType] at isOwn
      rw [ofTypeStep isOwn] at done
      exact ⟨_, _, done⟩
  | branch isBranch =>
      rw [isType] at isBranch
      exact absurd isBranch (by decide)

/-- A step that typed a text is loaded with the text to which that one was upgraded. -/
theorem typeLoaded {old : Members} {step : Step} {text : String} (loaded : LoadedFor old step)
    (isType : textOr old "step_type" "" = "keyboard_type")
    (isText : Json.member? (keyboardType old) "text" = some (.string text)) :
    ∃ header interval, step = .leaf header (.type text interval) := by
  obtain ⟨origin, source, done⟩ := typeLeaf loaded isType
  have own : HasKeys (keyboardType old) leafKeys :=
    show ["type", "text", "interval_ms"].Sublist leafKeys by decide
  have found := ((keysOfCommon old (textOr old "step_id" "")).append own).canonical (by decide)
  obtain ⟨final, isFinal, kept, -⟩ := Identity.objectIdentified (Json.canonicalMembers []
    (common old (textOr old "step_id" "") ++ keyboardType old)) source
  obtain ⟨_, isTag⟩ := kept "type" (by decide)
  obtain ⟨_, isFound⟩ := kept "text" (by decide)
  rw [found, memberBehindCommon old _ _ (by decide)] at isTag isFound
  rw [isText] at isFound
  rw [isFinal] at done
  have typed : Json.member? final "type" = some (.string StepType.keyboardType.tag) := isTag
  obtain ⟨header, -, isStep⟩ := Step.typedRead typed done
  obtain ⟨action, isAction, rfl⟩ := okOfMap isStep
  obtain ⟨_, -, isAction⟩ := okOfBind isAction
  obtain ⟨read, isRead, isAction⟩ := okOfBind isAction
  obtain ⟨interval, -, isAction⟩ := okOfBind isAction
  cases isAction
  rw [Shape.valueOfRequired isFound] at isRead
  cases isRead
  exact ⟨header, interval, rfl⟩

/-! ### Literal texts -/

/-- A step of the first version types a text in which nothing is to be replaced. -/
structure TypesLiterally (old : Members) (text : String) : Prop where
  isType : textOr old "step_type" "" = "keyboard_type"
  literal : Json.member? old "use_variables" = some (.bool false)
  text : Json.member? old "text" = some (.string text)

/-- A text in which nothing is to be replaced is not rewritten either. -/
theorem TypesLiterally.kept {old : Members} {text : String} (types : TypesLiterally old text) :
    Json.member? (keyboardType old) "text" = some (.string text) := by
  have isLiteral : flagOr old "use_variables" true = false := by
    rw [flagOr, types.literal]
    rfl
  have isText : textOr old "text" "" = text := by
    rw [textOr, types.text]
    rfl
  rw [keyboardType, isLiteral, isText]
  rfl

/--
A text that was typed literally is the text of the step in its place. In every run its placeholders
are replaced, and without placeholders it is typed exactly, with no name reported as unresolved.
-/
structure LiteralKept (script : Script) (text : String) (step : Step) : Prop where
  typed : ∃ header interval, step = .leaf header (.type text interval) ∧
    script.Types header text interval (Template.resolve text) ∧
    (Template.hasPlaceholder text = false →
      script.Types header text interval fun _ => ⟨text, []⟩)
  exactly : Template.hasPlaceholder text = false ↔
    ∀ bindings, Template.resolve text bindings = ⟨text, []⟩

theorem literalKept (script : Script) {old : Members} {step : Step} {text : String}
    (loaded : LoadedFor old step) (types : TypesLiterally old text) :
    LiteralKept script text step := by
  obtain ⟨header, interval, rfl⟩ := typeLoaded loaded types.isType types.kept
  have resolved := script.typesResolved header text interval
  refine ⟨⟨header, interval, rfl, resolved, ?_⟩, (Template.resolvesToItselfIff text).symm⟩
  intro plain
  have same : (fun _ => ⟨text, []⟩ : Bindings → Resolution) = Template.resolve text := by
    funext bindings
    exact (Template.resolvePlain plain bindings).symm
  rw [same]
  exact resolved

end Upgrade

namespace Document

variable {ids ids' : IdSource} {now : Time.Timestamp} {content : ByteArray} {script : Script}
  {body : Json}

/--
When a document of the first version is loaded, every text that was typed literally is the text of
the step in its place, and in every run it is typed exactly if it holds no placeholder.
-/
theorem literalTextKept (isOld : IsOld content body)
    (loaded : load ids now content = .ok (script, ids')) :
    Upgrade.InPlace (fun old step => ∀ text, Upgrade.TypesLiterally old text →
      Upgrade.LiteralKept script text step) (Upgrade.itemsOfBody body) script.steps := by
  apply (loadedInPlace isOld loaded).imp
  intro old step _ isLoaded text types
  exact Upgrade.literalKept script isLoaded types

/-- This step of the first version types a text as it stands. -/
def literalStep (text : String) : Upgrade.Members :=
  [("step_id", .string "note"), ("step_type", .string "keyboard_type"), ("text", .string text),
    ("use_variables", .bool false)]

def literalBody (text : String) : Json :=
  .object [("name", .string "note"), ("steps", .array [.object (literalStep text)])]

def literalDocument (text : String) : Json :=
  .object [("macro", literalBody text), ("schema_version", .string "1.0")]

theorem literalTyped (text : String) : Upgrade.TypesLiterally (literalStep text) text :=
  ⟨rfl, rfl, rfl⟩

theorem literalParsed (text : String) :
    parse (literalDocument text).pretty.toUTF8 = .ok (literalDocument text) := by
  have storable : (literalDocument text).IsStorable := by
    simp [literalDocument, literalBody, literalStep, Json.IsStorable, Json.AreStorable,
      Json.HaveStorable]
  exact parseObject _ _ storable (Nat.le_of_ble_eq_true rfl)

theorem literalIsOld (text : String) :
    IsOld (literalDocument text).pretty.toUTF8 (literalBody text) :=
  .ofParsed (literalParsed text) rfl rfl rfl

theorem literalTextKeptPrice : ∃ script ids',
    load countedIds .epoch (literalDocument "cost: $5").pretty.toUTF8 = .ok (script, ids') ∧
      Upgrade.InPlace (fun old step => ∀ text, Upgrade.TypesLiterally old text →
        Upgrade.LiteralKept script text step) [.object (literalStep "cost: $5")] script.steps ∧
      Upgrade.TypesLiterally (literalStep "cost: $5") "cost: $5" ∧
      Template.hasPlaceholder "cost: $5" = false := by
  have isOk : (load countedIds .epoch
      (literalDocument "cost: $5").pretty.toUTF8).toBool = true := by
    rw [load, literalParsed]
    decide +kernel
  obtain ⟨⟨script, ids'⟩, loaded⟩ := valueOfToBool isOk
  exact ⟨script, ids', loaded, literalTextKept (literalIsOld _) loaded, literalTyped _,
    by decide +kernel⟩

/-- A text that looks like a placeholder is not typed, although nothing was to be replaced. -/
theorem placeholderNotTyped : ∃ script ids' final found,
    load countedIds .epoch (literalDocument "$\x7buser\x7d").pretty.toUTF8 = .ok (script, ids') ∧
      Upgrade.itemsOfBody (literalBody "$\x7buser\x7d") =
        [.object (literalStep "$\x7buser\x7d")] ∧
      Upgrade.TypesLiterally (literalStep "$\x7buser\x7d") "$\x7buser\x7d" ∧
      Interpreter.run .idle script (Session.start (.start "run" none 0) .empty ()) =
        (final, some found) ∧
      final.calls.toList.map CallRecord.call = [.input (.type "" 0)] ∧
      found.trace.map TraceEntry.unresolved = [["user"]] := by
  have ended : ((load countedIds .epoch
      (literalDocument "$\x7buser\x7d").pretty.toUTF8).toOption.any fun result =>
        let ran := Interpreter.run .idle result.1 (Session.start (.start "run" none 0) .empty ())
        ran.1.calls.toList.map CallRecord.call = [.input (.type "" 0)] &&
          ran.2.any fun found => found.trace.map TraceEntry.unresolved = [["user"]]) = true := by
    rw [load, literalParsed]
    decide +kernel
  cases loaded : load countedIds .epoch (literalDocument "$\x7buser\x7d").pretty.toUTF8 with
  | error fault =>
      rw [loaded] at ended
      cases ended
  | ok result =>
      obtain ⟨script, ids'⟩ := result
      rw [loaded] at ended
      obtain ⟨called, ended⟩ := Bool.and_eq_true_iff.mp ended
      obtain ⟨final, found, isRun, isTrace⟩ := Interpreter.reportFound ended
      dsimp only at called
      rw [isRun] at called
      exact ⟨script, ids', final, found, rfl, rfl, literalTyped _, isRun,
        of_decide_eq_true called, of_decide_eq_true isTrace⟩

end Document

end DeskScript
