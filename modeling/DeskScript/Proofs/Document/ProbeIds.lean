/-
This file says when the identities of probes are new. A probe has the identity of its condition with
an ending, even where the condition has none, and another step may have just this identity.
-/

import DeskScript.Proofs.Document.Outline
import DeskScript.Proofs.Script.DrawnIds

namespace DeskScript

namespace Outline

open Identity (writtenIds)

/-! ### Identities -/

mutual

/-- These are the identities of a step and of the steps on its ways. -/
def ids {α : Type} : Outline α → List String
  | .step id _ _ whenTrue whenFalse => id :: (idsAll whenTrue ++ idsAll whenFalse)

def idsAll {α : Type} : List (Outline α) → List String
  | [] => []
  | outline :: rest => ids outline ++ idsAll rest

end

theorem idsAppend {α : Type} (first second : List (Outline α)) :
    idsAll (first ++ second) = idsAll first ++ idsAll second := by
  induction first with
  | nil => rfl
  | cons outline rest inductionHypothesis =>
      rw [List.cons_append, idsAll, idsAll, inductionHypothesis, List.append_assoc]

mutual

/-- These are the identities of the steps that get a probe. -/
def probedIds : Outline (Option String) → List String
  | .step id _ mark whenTrue whenFalse =>
      (mark.map fun _ => id).toList ++ (probedIdsAll whenTrue ++ probedIdsAll whenFalse)

def probedIdsAll : List (Outline (Option String)) → List String
  | [] => []
  | outline :: rest => probedIds outline ++ probedIdsAll rest

end

mutual

theorem probedSublist : ∀ outline : Outline (Option String),
    (probedIds outline).Sublist (ids outline)
  | .step id type mark whenTrue whenFalse => by
      have own : ((mark.map fun _ => id).toList).Sublist [id] := by
        cases mark with
        | none => exact List.nil_sublist _
        | some probe => exact List.Sublist.refl _
      rw [probedIds, ids]
      exact own.append ((probedAllSublist whenTrue).append (probedAllSublist whenFalse))

theorem probedAllSublist : ∀ outlines : List (Outline (Option String)),
    (probedIdsAll outlines).Sublist (idsAll outlines)
  | [] => List.Sublist.refl _
  | outline :: rest => by
      rw [probedIdsAll, idsAll]
      exact (probedSublist outline).append (probedAllSublist rest)

end

/-! ### Probes -/

/-- This is the identity of a probe. -/
def probeId (id : String) : String := id ++ "-probe"

theorem probeIdInjective : Function.Injective probeId := by
  intro first second same
  rw [← String.toList_inj, probeId, probeId, String.toList_append, String.toList_append,
    List.append_left_inj, String.toList_inj] at same
  exact same

theorem probeIdWritten (id : String) : probeId id ≠ "" := by
  intro isEmpty
  rw [← String.toList_inj, probeId, String.toList_append] at isEmpty
  have ending := (List.append_eq_nil_iff.mp isEmpty).2
  exact absurd ending (by decide)

mutual

/-- When the probes are put in, their identities are added. -/
theorem idsProbed : ∀ outline : Outline (Option String),
    (idsAll (probed outline)).Perm ((probedIds outline).map probeId ++ ids outline)
  | .step id type mark whenTrue whenFalse => by
      have ofTrue := idsAllProbed whenTrue
      have ofFalse := idsAllProbed whenFalse
      have own : idsAll ((mark.map fun probe =>
          Outline.step (probeId id) probe true [] []).toList) =
            ((mark.map fun _ => id).toList).map probeId := by
        cases mark <;> rfl
      have probes : probed (.step id type mark whenTrue whenFalse) =
          (mark.map fun probe => Outline.step (probeId id) probe true [] []).toList ++
            [.step id type false (probedAll whenTrue) (probedAll whenFalse)] := probed.eq_1 ..
      rw [probes, idsAppend, own, probedIds, ids, List.map_append, List.append_assoc]
      apply List.Perm.append_left
      rw [idsAll, idsAll, ids, List.append_nil]
      have below := (ofTrue.append ofFalse).cons id
      refine below.trans ?_
      grind

theorem idsAllProbed : ∀ outlines : List (Outline (Option String)),
    (idsAll (probedAll outlines)).Perm ((probedIdsAll outlines).map probeId ++ idsAll outlines)
  | [] => List.Perm.refl _
  | outline :: rest => by
      have first := idsProbed outline
      have others := idsAllProbed rest
      rw [probedAll, idsAppend, probedIdsAll, idsAll, List.map_append]
      refine (first.append others).trans ?_
      grind

end

/-! ### Different identities -/

/--
Probes are apart when no more than one of the steps that get them is without an identity, and when
no step has the identity of a probe.
-/
structure ProbesApart (outlines : List (Outline (Option String))) : Prop where
  single : (probedIdsAll outlines).count "" ≤ 1
  unused : ∀ id ∈ probedIdsAll outlines, probeId id ∉ idsAll outlines

variable {outlines : List (Outline (Option String))}

/-- Steps without an identity are the only ones whose probes might have the same one. -/
theorem probedDistinct (distinct : (writtenIds (idsAll outlines)).Nodup) :
    (probedIdsAll outlines).Nodup ↔ (probedIdsAll outlines).count "" ≤ 1 := by
  rw [List.nodup_iff_count_le_one]
  constructor
  · exact fun single => single ""
  · intro single id
    by_cases isEmpty : id = ""
    · rw [isEmpty]
      exact single
    · calc (probedIdsAll outlines).count id ≤ (idsAll outlines).count id :=
            (probedAllSublist outlines).count_le id
        _ = (writtenIds (idsAll outlines)).count id :=
            (List.count_filter (by simpa using isEmpty)).symm
        _ ≤ 1 := List.nodup_iff_count_le_one.mp distinct id

/-- Where the written identities are different, they are so together with those of the probes. -/
theorem probedWritten (distinct : (writtenIds (idsAll outlines)).Nodup) :
    (writtenIds (idsAll (probedAll outlines))).Nodup ↔ ProbesApart outlines := by
  have probes : writtenIds ((probedIdsAll outlines).map probeId) =
      (probedIdsAll outlines).map probeId := by
    apply List.filter_eq_self.mpr
    intro probe inside
    obtain ⟨id, -, rfl⟩ := List.mem_map.mp inside
    simpa using probeIdWritten id
  have together : (writtenIds (idsAll (probedAll outlines))).Perm
      ((probedIdsAll outlines).map probeId ++ writtenIds (idsAll outlines)) := by
    rw [← probes, writtenIds, writtenIds, writtenIds, ← List.filter_append]
    exact (idsAllProbed outlines).filter _
  rw [together.nodup_iff, List.nodup_append', List.nodup_map_iff probeIdInjective,
    probedDistinct distinct]
  constructor
  · rintro ⟨single, -, apart⟩
    refine ⟨single, fun id inside isUsed => ?_⟩
    refine apart (List.mem_map_of_mem inside) (List.mem_filter.mpr ⟨isUsed, ?_⟩)
    simpa using probeIdWritten id
  · intro apart
    refine ⟨apart.single, distinct, fun probe isProbe isWritten => ?_⟩
    obtain ⟨id, inside, rfl⟩ := List.mem_map.mp isProbe
    exact apart.unused id inside (List.mem_filter.mp isWritten).1

end Outline

end DeskScript
