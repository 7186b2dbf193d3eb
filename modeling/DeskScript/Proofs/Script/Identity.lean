/-
This file shows that written scripts keep their identities, since all their steps have one.
-/

import DeskScript.Proofs.Script.RoundTrip
import DeskScript.Script.Identity

namespace DeskScript

namespace Identity

/-! ### Values that keep their identities -/

/-- No identity is drawn for members whose steps all have one. -/
theorem identifyMembersFixed (members : List (String × Json)) (source : IdSource)
    (fixed : ∀ entry ∈ members, holdsSteps entry.1 = true →
      identifySteps entry.2 source = (entry.2, source)) :
    identifyMembers members source = (members, source) := by
  induction members with
  | nil => rw [identifyMembers]
  | cons head rest inductionHypothesis =>
      obtain ⟨key, found⟩ := head
      rw [List.forall_mem_cons] at fixed
      rw [identifyMembers]
      by_cases holds : holdsSteps key = true
      · simp only [if_pos holds, fixed.1 holds, inductionHypothesis fixed.2]
      · simp only [if_neg holds, inductionHypothesis fixed.2]

theorem identifyTopFixed (members : List (String × Json)) (source : IdSource)
    (fixed : ∀ entry ∈ members, entry.1 = "steps" →
      identifySteps entry.2 source = (entry.2, source)) :
    identifyTop members source = (members, source) := by
  induction members with
  | nil => rfl
  | cons head rest inductionHypothesis =>
      obtain ⟨key, found⟩ := head
      rw [List.forall_mem_cons] at fixed
      rw [identifyTop]
      by_cases holds : key = "steps"
      · simp only [if_pos holds, fixed.1 holds, inductionHypothesis fixed.2]
      · simp only [if_neg holds, inductionHypothesis fixed.2]

theorem identifyFixed (members : List (String × Json)) (source : IdSource)
    (present : (Json.member? members "id").isSome) : identify members source = (members, source) := by
  obtain ⟨found, isPresent⟩ := Option.isSome_iff_exists.mp present
  rw [identify, isPresent]

end Identity

namespace Step

open Identity

/-! ### Steps -/

/-- Steps are held by no member of a header. -/
theorem headHoldsNone (step : Step) (entry : String × Json) (inside : entry ∈ step.headMembers) :
    holdsSteps entry.1 = false := by
  have named : entry.1 ∈ StepHeader.names ++ ["type"] :=
    step.keysOfHead.subset (List.mem_map_of_mem inside)
  generalize entry.1 = key at named
  simp only [StepHeader.names, List.cons_append, List.nil_append, List.mem_cons, List.not_mem_nil,
    or_false] at named
  rcases named with same | same | same | same | same | same <;> rw [same] <;> rfl

theorem actionHoldsNone (action : Action) (entry : String × Json)
    (inside : entry ∈ action.members) : holdsSteps entry.1 = false := by
  have named : entry.1 ∈ action.stepType.ownNames :=
    action.keysOfMembers.subset (List.mem_map_of_mem inside)
  generalize entry.1 = key at named
  simp only [holdsSteps, Bool.or_eq_false_iff, decide_eq_false_iff_not]
  refine ⟨⟨?_, ?_⟩, ?_⟩ <;>
    · intro same
      rw [same] at named
      cases action <;> simp [Action.stepType, StepType.ownNames] at named

theorem ruleHoldsNone (rule : LoopRule) (entry : String × Json) (inside : entry ∈ rule.members) :
    holdsSteps entry.1 = false := by
  have named := rule.keysOfMembers.subset (List.mem_map_of_mem inside)
  generalize entry.1 = key at named
  simp only [List.mem_cons, List.not_mem_nil, or_false] at named
  rcases named with same | same | same | same <;> rw [same] <;> rfl

/-- A step that is written has an identity, so only the steps in it might change. -/
theorem identifyOfOwn (step : Step) (source : IdSource)
    (own : ∀ entry ∈ step.ownMembers, holdsSteps entry.1 = true →
      identifySteps entry.2.canonical source = (entry.2.canonical, source)) :
    identifyStep step.toJson.canonical source = (step.toJson.canonical, source) := by
  have fixed : ∀ entry ∈ Json.canonicalMembers [] step.members, holdsSteps entry.1 = true →
      identifySteps entry.2 source = (entry.2, source) := by
    intro entry inside holds
    rcases Json.ofMemCanonicalMembers [] step.members entry inside with old | ⟨item, given, same⟩
    · exact absurd old List.not_mem_nil
    · rcases List.mem_append.mp given with head | own_
      · rw [step.headHoldsNone _ head] at holds
        exact absurd holds Bool.false_ne_true
      · rw [same]
        exact own _ own_ holds
  have present : (Json.member? (Json.canonicalMembers [] step.members) "id").isSome := by
    rw [Json.memberCanonical _ _ step.keysNodup, step.headerMember "id" (by simp [StepHeader.names])]
    rfl
  rw [toJsonMembers, Json.canonical, identifyStep, identifyMembersFixed _ _ fixed]
  simp only [identifyFixed _ _ present]

mutual

theorem identifyToJson (source : IdSource) : ∀ step : Step,
    identifyStep step.toJson.canonical source = (step.toJson.canonical, source)
  | .leaf header action => identifyOfOwn (.leaf header action) source fun entry inside holds => by
      rw [actionHoldsNone action entry inside] at holds
      exact absurd holds Bool.false_ne_true
  | .branch header condition whenTrue whenFalse =>
      identifyOfOwn (.branch header condition whenTrue whenFalse) source
        fun entry inside holds => by
          rw [ownMembers, List.mem_cons, List.mem_cons, List.mem_singleton] at inside
          rcases inside with same | same | same
          · rw [same] at holds
            exact absurd holds Bool.false_ne_true
          · rw [same]
            exact identifyAllToJson source whenTrue
          · rw [same]
            exact identifyAllToJson source whenFalse
  | .loop header rule body => identifyOfOwn (.loop header rule body) source
      fun entry inside holds => by
        rcases List.mem_append.mp inside with ofRule | ofBody
        · rw [ruleHoldsNone rule entry ofRule] at holds
          exact absurd holds Bool.false_ne_true
        · rw [List.mem_singleton.mp ofBody]
          exact identifyAllToJson source body

theorem identifyAllToJson (source : IdSource) : ∀ steps : List Step,
    identifySteps (Json.array (toJsonAll steps)).canonical source =
      ((Json.array (toJsonAll steps)).canonical, source)
  | [] => rfl
  | step :: rest => by
      have first := identifyToJson source step
      have others := identifyAllToJson source rest
      rw [Json.canonical, identifySteps] at others ⊢
      rw [toJsonAll, Json.canonicalItems, identifyItems, first]
      rw [Prod.mk.injEq, Json.array.injEq] at others
      simp only [others.1, others.2]

end

end Step

namespace Script

open Identity

/-! ### Scripts -/

/-- A script that is written keeps its own identity and those of its steps. -/
theorem identifyToJson (script : Script) (source : IdSource) :
    identifyScript script.toJson.canonical source = (script.toJson.canonical, source) := by
  have fixed : ∀ entry ∈ Json.canonicalMembers [] script.members, entry.1 = "steps" →
      identifySteps entry.2 source = (entry.2, source) := by
    intro entry inside isSteps
    rcases Json.ofMemCanonicalMembers [] script.members entry inside with old | ⟨item, given, same⟩
    · exact absurd old List.not_mem_nil
    · have found : Json.member? script.members "steps" =
          some (.array (Step.toJsonAll script.steps)) := by
        simp [members, memberAppend, memberCons, memberUnless]
      have foundItem := lookUpOfMember script.members (entry.1, item) script.keysNodup given
      rw [isSteps, ← Json.member?, found, Option.some.injEq] at foundItem
      have isArray : item = .array (Step.toJsonAll script.steps) := foundItem.symm
      rw [same, isArray]
      exact Step.identifyAllToJson source script.steps
  have present : (Json.member? (Json.canonicalMembers [] script.members) "id").isSome := by
    rw [Json.memberCanonical _ _ script.keysNodup]
    rfl
  rw [toJsonMembers, Json.canonical, identifyScript, identifyTopFixed _ _ fixed]
  simp only [identifyFixed _ _ present]

end Script

end DeskScript
