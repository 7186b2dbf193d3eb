/-
This file shows that a valid script holds only numbers that can be written in a document.
-/

import DeskScript.Document.Codec
import DeskScript.Proofs.Json.Reading
import DeskScript.Proofs.Script.Validity

namespace DeskScript

open Json

/-! ### Values -/

theorem Json.areStorable (items : List Json) :
    AreStorable items ↔ ∀ item ∈ items, item.IsStorable := by
  induction items with
  | nil => simp [AreStorable]
  | cons item rest inductionHypothesis => simp [AreStorable, inductionHypothesis]

theorem Json.haveStorable (members : List (String × Json)) :
    HaveStorable members ↔ ∀ member ∈ members, member.2.IsStorable := by
  induction members with
  | nil => simp [HaveStorable]
  | cons member rest inductionHypothesis => simp [HaveStorable, inductionHypothesis]

theorem Json.haveStorableAppend (first second : List (String × Json)) :
    HaveStorable (first ++ second) ↔ HaveStorable first ∧ HaveStorable second := by
  simp only [haveStorable, List.forall_mem_append]

theorem Json.storableObject (members : List (String × Json)) :
    (Json.object members).IsStorable ↔ HaveStorable members := Iff.rfl

theorem Json.storableTexts (values : List String) : (Json.texts values).IsStorable := by
  refine (areStorable _).mpr ?_
  intro item inside
  obtain ⟨value, -, rfl⟩ := List.mem_map.mp inside
  trivial

theorem storableUInt32 (value : UInt32) : (Json.nat value.toNat).IsStorable := by
  have bound := value.toNat_lt
  exact ⟨by simp, by simp; omega⟩

theorem storableUInt64 (value : UInt64) : (Json.nat value.toNat).IsStorable := by
  have bound := value.toNat_lt
  exact ⟨by simp, by simp; omega⟩

theorem storableInt32 (value : Int32) : (Json.whole value.toInt).IsStorable := by
  have least := value.le_toInt
  have below := value.toInt_lt
  exact ⟨by omega, by omega⟩

/-! ### Parts of steps -/

theorem storableText (key : String) (value : Option String) :
    HaveStorable (optionalMember key (value.map .string)) := by
  cases value with
  | none => trivial
  | some text => exact ⟨trivial, trivial⟩

theorem Coordinate.storable (coordinate : Coordinate) : coordinate.toJson.IsStorable := by
  cases coordinate with
  | fixed value => exact storableInt32 value
  | template text => trivial

theorem Rect.storable (rect : Rect) : rect.toJson.IsStorable :=
  ⟨storableInt32 _, storableInt32 _, storableUInt32 _, storableUInt32 _, trivial⟩

theorem MatchClick.storable (click : MatchClick) : click.toJson.IsStorable :=
  ⟨trivial, storableUInt32 _, ⟨storableInt32 _, storableInt32 _, trivial⟩, trivial⟩

theorem Condition.storable (condition : Condition) : condition.toJson.IsStorable := by
  refine (haveStorableAppend _ _).mpr ⟨⟨trivial, trivial, trivial⟩, ?_⟩
  split
  · trivial
  · exact ⟨trivial, trivial⟩

theorem StepHeader.storable (header : StepHeader) : HaveStorable header.members := by
  unfold members
  simp only [haveStorableAppend, List.cons_append, HaveStorable]
  refine ⟨trivial, ⟨⟨storableText "label" _, ?_⟩, ?_⟩, ?_⟩
  · split
    · trivial
    · exact ⟨trivial, trivial⟩
  · cases header.onError with
    | none => trivial
    | some handling => exact ⟨trivial, trivial⟩
  · split
    · trivial
    · exact ⟨storableUInt32 _, trivial⟩

/-- A threshold that passes its check is a number that can be written. -/
theorem Sensing.finiteThreshold (sensing : Sensing) (sound : sensing.check = .ok ()) :
    sensing.threshold.isFinite = true :=
  have probable := sensing.probable sound
  Decimal.finiteOfProbability sensing.threshold probable.1 probable.2

theorem Sensing.storable (sensing : Sensing) (own : List (String × Json))
    (ownStorable : HaveStorable own) (sound : sensing.check = .ok ()) :
    HaveStorable (sensing.members own) := by
  unfold members
  simp only [haveStorableAppend]
  refine ⟨⟨⟨⟨?_, sensing.finiteThreshold sound, storableUInt64 _, trivial⟩, ownStorable⟩,
    storableText "output_variable" _⟩, ?_⟩
  · cases sensing.region with
    | none => trivial
    | some region => exact ⟨region.storable, trivial⟩
  · cases sensing.click with
    | none => trivial
    | some click => exact ⟨click.storable, trivial⟩

theorem Action.storable (action : Action) (sound : action.check = .ok ()) :
    HaveStorable action.members := by
  cases action with
  | click x y button count => exact ⟨x.storable, y.storable, trivial, storableUInt32 _, trivial⟩
  | move x y duration => exact ⟨x.storable, y.storable, storableUInt64 _, trivial⟩
  | type text interval => exact ⟨trivial, storableUInt64 _, trivial⟩
  | hotkey keys => exact ⟨storableTexts keys, trivial⟩
  | wait duration => exact ⟨storableUInt64 _, trivial⟩
  | waitImage template sensing =>
      exact ⟨trivial, sensing.storable [] trivial (FieldCheck.second _ _ sound)⟩
  | searchText query exact_ sensing =>
      exact ⟨trivial, sensing.storable _ ⟨trivial, trivial⟩ (FieldCheck.second _ _ sound)⟩

theorem LoopRule.storable (rule : LoopRule) : HaveStorable rule.members := by
  unfold members
  refine (haveStorableAppend _ _).mpr ⟨?_, storableUInt32 _, storableText "index_variable" _⟩
  cases rule.mode with
  | count times => exact ⟨storableUInt32 _, trivial⟩
  | while_ condition => exact ⟨condition.storable, trivial⟩

namespace Step

/-! ### Steps -/

theorem storableHead (step : Step) : HaveStorable step.headMembers :=
  (haveStorableAppend _ _).mpr ⟨step.header.storable, trivial, trivial⟩

mutual

/-- A tree of sound steps is written with numbers that can be written. -/
theorem storable : ∀ step : Step, (∀ inner ∈ forest [step], inner.checkOwn = .ok ()) →
    step.toJson.IsStorable
  | .leaf header action, sound => by
      rw [forestLeaf, List.forall_mem_singleton] at sound
      exact (haveStorableAppend _ _).mpr ⟨storableHead _, action.storable (fieldsSound _ sound)⟩
  | .branch header condition whenTrue whenFalse, sound => by
      rw [forestBranch, List.forall_mem_cons, List.forall_mem_append] at sound
      exact (haveStorableAppend _ _).mpr ⟨storableHead _, condition.storable,
        storableAll whenTrue sound.2.1, storableAll whenFalse sound.2.2, trivial⟩
  | .loop header rule body, sound => by
      rw [forestLoop, List.forall_mem_cons] at sound
      refine (haveStorableAppend _ _).mpr ⟨(haveStorableAppend _ _).mpr ⟨storableHead _, rule.storable⟩,
        storableAll body sound.2, trivial⟩

theorem storableAll : ∀ steps : List Step, (∀ inner ∈ forest steps, inner.checkOwn = .ok ()) →
    AreStorable (toJsonAll steps)
  | [], _ => trivial
  | step :: rest, sound => by
      rw [forestCons, List.forall_mem_append] at sound
      exact ⟨storable step sound.1, storableAll rest sound.2⟩

end

end Step

namespace Script

/-! ### Scripts -/

/-- Metadata are held in canonical form, and their numbers are ones that a document can hold. -/
structure HasCleanMetadata (script : Script) : Prop where
  canonical : ∀ entry ∈ script.metadata.entries, entry.2.canonical = entry.2
  storable : HaveStorable script.metadata.entries

/-- A valid script is written with numbers that can be written when its metadata are. -/
theorem storable (script : Script) (valid : script.validate = .ok ())
    (metadata : HaveStorable script.metadata.entries) : script.toJson.IsStorable := by
  have steps := Step.storableAll script.steps (script.stepsSound valid)
  have defaults : (Json.ofTexts script.defaults).IsStorable := by
    refine (haveStorable _).mpr ?_
    intro member inside
    obtain ⟨entry, -, rfl⟩ := List.mem_map.mp inside
    trivial
  unfold toJson
  rw [storableObject]
  simp only [haveStorableAppend]
  refine ⟨⟨⟨⟨trivial, trivial, trivial⟩, ?_⟩, trivial, trivial, steps, defaults, trivial⟩, ?_⟩
  · split
    · trivial
    · exact ⟨trivial, trivial⟩
  · split
    · trivial
    · exact ⟨metadata, trivial⟩

end Script

theorem Document.storableEnvelope (script : Script) (valid : script.validate = .ok ())
    (metadata : HaveStorable script.metadata.entries) : (envelope script).IsStorable :=
  ⟨⟨by decide, by decide⟩, script.storable valid metadata, trivial⟩

end DeskScript
