/-
This file shows which of several matches is chosen. It has the greatest confidence of those that
qualify, is nearest to the anchor among these, and comes first where others are as good.
-/

import DeskScript.Match.Basic
import DeskScript.Proofs.Decimal.Forms
import Mathlib

namespace DeskScript

namespace Point

/-! ### Distances -/

/-- This is the square of the distance between two positions, however large it is. -/
def exactDistance (first second : Point) : Int :=
  (first.x.toInt - second.x.toInt) ^ 2 + (first.y.toInt - second.y.toInt) ^ 2

/-- Both coordinates of a position are this close to those of another one. -/
structure Near (first second : Point) : Prop where
  across : |first.x.toInt - second.x.toInt| < 2 ^ 31
  down : |first.y.toInt - second.y.toInt| < 2 ^ 31

theorem differenceExact (first second : Int32) :
    (first.toInt64 - second.toInt64).toInt = first.toInt - second.toInt := by
  have least := first.le_toInt
  have below := first.toInt_lt
  have otherLeast := second.le_toInt
  have otherBelow := second.toInt_lt
  rw [Int64.toInt_sub, Int32.toInt_toInt64, Int32.toInt_toInt64]
  exact Int.bmod_eq_of_le (by omega) (by omega)

theorem squareExact {difference : Int64} (small : |difference.toInt| < 2 ^ 31) :
    (difference * difference).toInt = difference.toInt ^ 2 ∧ difference.toInt ^ 2 < 2 ^ 62 := by
  have bound : difference.toInt ^ 2 < 2 ^ 62 := by
    have squares := sq_lt_sq' (neg_lt_of_abs_lt small) (lt_of_abs_lt small)
    simpa using squares
  have least := sq_nonneg difference.toInt
  refine ⟨?_, bound⟩
  rw [Int64.toInt_mul, ← sq]
  exact Int.bmod_eq_of_le (by omega) (by omega)

/-- Near positions have a distance that does not overflow. -/
theorem distanceExact {first second : Point} (near : first.Near second) :
    (first.distanceSquared second).toInt = first.exactDistance second := by
  obtain ⟨across, acrossBound⟩ := squareExact (by rw [differenceExact]; exact near.across)
  obtain ⟨down, downBound⟩ := squareExact (by rw [differenceExact]; exact near.down)
  rw [differenceExact] at across acrossBound down downBound
  have acrossLeast := sq_nonneg (first.x.toInt - second.x.toInt)
  have downLeast := sq_nonneg (first.y.toInt - second.y.toInt)
  rw [distanceSquared, Int64.toInt_add, across, down]
  exact Int.bmod_eq_of_le (by omega) (by omega)

end Point

namespace Match

open Decimal

/-! ### First among the least -/

section

variable {item key : Type} [LinearOrder key] {rank : item → key}

/-- What is least in a list is less than all before it and at most as great as all behind it. -/
theorem argminSplit {items : List item} {least : item} :
    items.argmin rank = some least ↔ ∃ before after, items = before ++ least :: after ∧
      (∀ other ∈ before, rank least < rank other) ∧ ∀ other ∈ after, rank least ≤ rank other := by
  induction items with
  | nil =>
      refine iff_of_false nofun ?_
      rintro ⟨before, after, split, -⟩
      cases before <;> cases split
  | cons first rest inductionHypothesis =>
      have parts : (∃ before after, first :: rest = before ++ least :: after ∧
          (∀ other ∈ before, rank least < rank other) ∧ ∀ other ∈ after, rank least ≤ rank other) ↔
          (first = least ∧ ∀ other ∈ rest, rank least ≤ rank other) ∨
            (rank least < rank first ∧ rest.argmin rank = some least) := by
        rw [inductionHypothesis]
        constructor
        · rintro ⟨_ | ⟨head, before⟩, after, split, less, atMost⟩
          · cases split
            exact .inl ⟨rfl, atMost⟩
          · cases split
            obtain ⟨below, others⟩ := List.forall_mem_cons.mp less
            exact .inr ⟨below, before, after, rfl, others, atMost⟩
        · rintro (⟨rfl, atMost⟩ | ⟨below, before, after, rfl, others, atMost⟩)
          · exact ⟨[], rest, rfl, nofun, atMost⟩
          · exact ⟨first :: before, after, rfl, List.forall_mem_cons.mpr ⟨below, others⟩, atMost⟩
      rw [parts, List.argmin_cons]
      cases isLeast : rest.argmin rank with
      | none =>
          cases List.argmin_eq_none.mp isLeast
          simp
      | some found =>
          have atMost (other : item) (inside : other ∈ rest) : rank found ≤ rank other :=
            List.le_of_mem_argmin inside isLeast
          by_cases less : rank found < rank first
          · simp only [if_pos less]
            refine ⟨fun same => .inr ⟨Option.some.inj same ▸ less, same⟩, ?_⟩
            rintro (⟨rfl, below⟩ | ⟨-, same⟩)
            · exact absurd less (not_lt.mpr (below found (List.argmin_mem isLeast)))
            · exact same
          · simp only [if_neg less]
            constructor
            · rintro ⟨⟩
              exact .inl ⟨rfl, fun other inside => (not_lt.mp less).trans (atMost other inside)⟩
            · rintro (⟨rfl, -⟩ | ⟨below, same⟩)
              · rfl
              · cases same
                exact absurd below less

/-- The same is so of what is chosen from a list, whatever else is in the list. -/
theorem argminFiltered {chosen : item → Bool} {items : List item} {least : item} :
    (items.filter chosen).argmin rank = some least ↔
      ∃ before after, items = before ++ least :: after ∧ chosen least = true ∧
        (∀ other ∈ before, chosen other = true → rank least < rank other) ∧
        ∀ other ∈ after, chosen other = true → rank least ≤ rank other := by
  rw [argminSplit]
  constructor
  · rintro ⟨before, after, split, less, atMost⟩
    obtain ⟨first, second, rfl, rfl, ofSecond⟩ := List.filter_eq_append_iff.mp split
    obtain ⟨skipped, third, rfl, unchosen, isChosen, rfl⟩ := List.filter_eq_cons_iff.mp ofSecond
    refine ⟨first ++ skipped, third, by rw [List.append_assoc], isChosen, ?_, ?_⟩
    · intro other inside otherChosen
      rcases List.mem_append.mp inside with inFirst | inSkipped
      · exact less other (List.mem_filter.mpr ⟨inFirst, otherChosen⟩)
      · exact absurd otherChosen (unchosen other inSkipped)
    · exact fun other inside otherChosen =>
        atMost other (List.mem_filter.mpr ⟨inside, otherChosen⟩)
  · rintro ⟨before, after, rfl, isChosen, less, atMost⟩
    refine ⟨before.filter chosen, after.filter chosen, ?_, ?_, ?_⟩
    · rw [List.filter_append, List.filter_cons_of_pos isChosen]
    · intro other inside
      obtain ⟨inBefore, otherChosen⟩ := List.mem_filter.mp inside
      exact less other inBefore otherChosen
    · intro other inside
      obtain ⟨inAfter, otherChosen⟩ := List.mem_filter.mp inside
      exact atMost other inAfter otherChosen

end

/-! ### Ranks -/

/-- Where keys tell which confidence is greater and which match is nearer, they tell the better. -/
theorem betterThanLex {scalar key distance : Type} [Scalar scalar] [LinearOrder key]
    [LinearOrder distance] {anchor : Point} {first second : Match scalar} {firstKey secondKey : key}
    {firstDistance secondDistance : distance}
    (greater : Scalar.exceeds first.confidence second.confidence = true ↔ secondKey < firstKey)
    (less : Scalar.exceeds second.confidence first.confidence = true ↔ firstKey < secondKey)
    (nearer : first.center.distanceSquared anchor < second.center.distanceSquared anchor ↔
      firstDistance < secondDistance) : first.betterThan anchor second = true ↔
    toLex (OrderDual.toDual firstKey, firstDistance) <
      toLex (OrderDual.toDual secondKey, secondDistance) := by
  have ranks : toLex (OrderDual.toDual firstKey, firstDistance) <
      toLex (OrderDual.toDual secondKey, secondDistance) ↔
        secondKey < firstKey ∨ firstKey = secondKey ∧ firstDistance < secondDistance :=
    Prod.Lex.toLex_lt_toLex
  rw [ranks, betterThan]
  rcases lt_trichotomy firstKey secondKey with below | same | above
  · rw [if_neg (mt greater.mp below.not_gt), if_pos (less.mpr below)]
    exact iff_of_false Bool.false_ne_true (by simp [below.not_gt, below.ne])
  · rw [if_neg (mt greater.mp same.not_gt), if_neg (mt less.mp same.not_lt), decide_eq_true_iff,
      nearer]
    simp [same]
  · rw [if_pos (greater.mpr above)]
    exact iff_of_true rfl (.inl above)

/-- A match of greater confidence has a lower rank, and so has the nearer one of equal ones. -/
def rank (anchor : Point) (found : Match Float) : OrderKeyᵒᵈ ×ₗ Int :=
  toLex (OrderDual.toDual (keyOf found.confidence), found.center.exactDistance anchor)

/-- The confidence is a number, and the distance does not overflow. -/
structure Comparable (anchor : Point) (found : Match Float) : Prop where
  isNumber : found.confidence.isNaN = false
  near : found.center.Near anchor

/-- Two matches have equal confidence and are equally far from the anchor. -/
structure Tied (anchor : Point) (first second : Match Float) : Prop where
  most : first.confidence ≤ second.confidence
  least : second.confidence ≤ first.confidence
  distance : first.center.exactDistance anchor = second.center.exactDistance anchor

variable {anchor : Point} {first second : Match Float}

theorem confidenceLE (isFirst : first.Comparable anchor) (isSecond : second.Comparable anchor) :
    first.confidence ≤ second.confidence ↔ keyOf first.confidence ≤ keyOf second.confidence := by
  rw [floatLE, and_iff_right isFirst.isNumber, and_iff_right isSecond.isNumber]

theorem rankLT (isFirst : first.Comparable anchor) (isSecond : second.Comparable anchor) :
    first.betterThan anchor second = true ↔ first.rank anchor < second.rank anchor := by
  have greater : Scalar.exceeds first.confidence second.confidence = true ↔
      keyOf second.confidence < keyOf first.confidence := by
    rw [Scalar.exceeds, Bool.not_eq_true', decide_eq_false_iff_not, ← not_le]
    exact not_congr (confidenceLE isFirst isSecond)
  have less : Scalar.exceeds second.confidence first.confidence = true ↔
      keyOf first.confidence < keyOf second.confidence := by
    rw [Scalar.exceeds, Bool.not_eq_true', decide_eq_false_iff_not, ← not_le]
    exact not_congr (confidenceLE isSecond isFirst)
  have nearer : first.center.distanceSquared anchor < second.center.distanceSquared anchor ↔
      first.center.exactDistance anchor < second.center.exactDistance anchor := by
    rw [Int64.lt_iff_toInt_lt, Point.distanceExact isFirst.near, Point.distanceExact isSecond.near]
  exact betterThanLex greater less nearer

/-- The rank of a match is low if no confidence is greater and no equal one is nearer. -/
theorem rankLE (isFirst : first.Comparable anchor) (isSecond : second.Comparable anchor) :
    first.rank anchor ≤ second.rank anchor ↔ second.confidence ≤ first.confidence ∧
      (first.confidence ≤ second.confidence →
        first.center.exactDistance anchor ≤ second.center.exactDistance anchor) := by
  rw [confidenceLE isFirst isSecond, confidenceLE isSecond isFirst]
  refine Prod.Lex.toLex_le_toLex'.trans (and_congr_right fun atMost => ?_)
  exact ⟨fun nearer atLeast => nearer (le_antisymm atMost atLeast),
    fun nearer same => nearer (le_of_eq same)⟩

theorem rankTied (isFirst : first.Comparable anchor) (isSecond : second.Comparable anchor) :
    first.rank anchor = second.rank anchor ↔ Tied anchor first second := by
  constructor
  · intro same
    obtain ⟨most, nearer⟩ := (rankLE isFirst isSecond).mp same.le
    obtain ⟨least, further⟩ := (rankLE isSecond isFirst).mp same.ge
    exact ⟨least, most, le_antisymm (nearer least) (further most)⟩
  · intro tied
    exact le_antisymm ((rankLE isFirst isSecond).mpr ⟨tied.least, fun _ => tied.distance.le⟩)
      ((rankLE isSecond isFirst).mpr ⟨tied.most, fun _ => tied.distance.ge⟩)

/-! ### Choosing -/

/-- Where a lower rank makes a match better, the first match of least rank is left. -/
theorem foldLeast {scalar key : Type} [Scalar scalar] [LinearOrder key] {rank : Match scalar → key}
    (candidates : List (Match scalar)) (ranked : ∀ first ∈ candidates, ∀ second ∈ candidates,
      (first.betterThan anchor second = true ↔ rank first < rank second)) :
    candidates.foldl (bestOf anchor) none = candidates.argmin rank := by
  -- The fold compares every candidate with the best one before it, so the last one comes off first.
  induction candidates using List.reverseRecOn with
  | nil => rfl
  | append_singleton earlier candidate inductionHypothesis =>
      have ofEarlier := inductionHypothesis fun first isFirst second isSecond =>
        ranked first (List.mem_append_left _ isFirst) second (List.mem_append_left _ isSecond)
      rw [List.foldl_append, ofEarlier, List.argmin_concat]
      cases isBest : earlier.argmin rank with
      | none => rfl
      | some best =>
          have better := ranked candidate (by simp) best
            (List.mem_append_left _ (List.argmin_mem isBest))
          simp only [List.foldl_cons, List.foldl_nil, bestOf, better]

/-- What is left of comparable matches is the first one of least rank. -/
theorem foldArgmin (candidates : List (Match Float))
    (comparable : ∀ candidate ∈ candidates, candidate.Comparable anchor) :
    candidates.foldl (bestOf anchor) none = candidates.argmin (rank anchor) :=
  foldLeast candidates fun first isFirst second isSecond =>
    rankLT (comparable first isFirst) (comparable second isSecond)

/-- This match is the first of the best ones among those that qualify. -/
structure IsBest (threshold : Float) (anchor : Point) (candidates : List (Match Float))
    (best : Match Float) : Prop where
  qualifies : threshold ≤ best.confidence
  greatest : ∀ candidate ∈ candidates, threshold ≤ candidate.confidence →
    candidate.confidence ≤ best.confidence
  nearest : ∀ candidate ∈ candidates, threshold ≤ candidate.confidence →
    best.confidence ≤ candidate.confidence →
      best.center.exactDistance anchor ≤ candidate.center.exactDistance anchor
  first : ∃ before after, candidates = before ++ best :: after ∧
    ∀ candidate ∈ before, threshold ≤ candidate.confidence → ¬Tied anchor best candidate

theorem qualifiesIff {threshold : Float} {found : Match Float} :
    found.qualifies threshold = true ↔ threshold ≤ found.confidence :=
  decide_eq_true_iff

variable {threshold : Float} {candidates : List (Match Float)}

theorem comparableOfNear (near : ∀ candidate ∈ candidates, candidate.center.Near anchor)
    {candidate : Match Float} (inside : candidate ∈ candidates)
    (qualifies : threshold ≤ candidate.confidence) : candidate.Comparable anchor :=
  ⟨((floatLE _ _).mp qualifies).2.1, near candidate inside⟩

theorem bestIsArgmin (near : ∀ candidate ∈ candidates, candidate.center.Near anchor) :
    best? threshold anchor candidates =
      (candidates.filter (qualifies threshold)).argmin (rank anchor) := by
  refine foldArgmin _ fun candidate inside => ?_
  obtain ⟨inside, isQualified⟩ := List.mem_filter.mp inside
  exact comparableOfNear near inside (qualifiesIff.mp isQualified)

theorem bestNone (near : ∀ candidate ∈ candidates, candidate.center.Near anchor) :
    best? threshold anchor candidates = none ↔
      ∀ candidate ∈ candidates, ¬threshold ≤ candidate.confidence := by
  rw [bestIsArgmin near, List.argmin_eq_none, List.filter_eq_nil_iff]
  simp only [qualifiesIff]

theorem bestSome (near : ∀ candidate ∈ candidates, candidate.center.Near anchor)
    (best : Match Float) :
    best? threshold anchor candidates = some best ↔ IsBest threshold anchor candidates best := by
  rw [bestIsArgmin near, argminFiltered]
  simp only [qualifiesIff]
  constructor
  · rintro ⟨before, after, rfl, isQualified, less, atMost⟩
    have comparable := comparableOfNear near (by simp) isQualified
    have lowest : ∀ candidate ∈ before ++ best :: after, threshold ≤ candidate.confidence →
        best.rank anchor ≤ candidate.rank anchor := by
      intro candidate inside qualified
      rw [List.mem_append, List.mem_cons] at inside
      rcases inside with inBefore | rfl | inAfter
      · exact (less candidate inBefore qualified).le
      · exact le_rfl
      · exact atMost candidate inAfter qualified
    have ranked (candidate : Match Float) (inside : candidate ∈ before ++ best :: after)
        (qualified : threshold ≤ candidate.confidence) :=
      (rankLE comparable (comparableOfNear near inside qualified)).mp
        (lowest candidate inside qualified)
    refine ⟨isQualified, fun candidate inside qualified => (ranked candidate inside qualified).1,
      fun candidate inside qualified => (ranked candidate inside qualified).2, before, after, rfl,
      ?_⟩
    intro candidate inBefore qualified tied
    have other := comparableOfNear near (List.mem_append_left _ inBefore) qualified
    exact (less candidate inBefore qualified).ne ((rankTied comparable other).mpr tied)
  · intro isBest
    obtain ⟨before, after, rfl, untied⟩ := isBest.first
    have comparable := comparableOfNear near (by simp) isBest.qualifies
    have lowest : ∀ candidate ∈ before ++ best :: after, threshold ≤ candidate.confidence →
        best.rank anchor ≤ candidate.rank anchor := fun candidate inside qualified =>
      (rankLE comparable (comparableOfNear near inside qualified)).mpr
        ⟨isBest.greatest candidate inside qualified, isBest.nearest candidate inside qualified⟩
    refine ⟨before, after, rfl, isBest.qualifies, fun candidate inBefore qualified => ?_,
      fun candidate inAfter qualified => lowest candidate (by simp [inAfter]) qualified⟩
    have inside := List.mem_append_left (best :: after) inBefore
    have other := comparableOfNear near inside qualified
    exact lt_of_le_of_ne (lowest candidate inside qualified) fun same =>
      untied candidate inBefore qualified ((rankTied comparable other).mp same)

/-- The best matches of two lists with the same candidates are as good as each other. -/
theorem IsBest.tied {others : List (Match Float)} {best other : Match Float}
    (isBest : IsBest threshold anchor candidates best)
    (isOther : IsBest threshold anchor others other)
    (perm : candidates.Perm others) : Tied anchor best other := by
  have inOthers : best ∈ others := by
    obtain ⟨before, after, rfl, -⟩ := isBest.first
    exact perm.mem_iff.mp (by simp)
  have inCandidates : other ∈ candidates := by
    obtain ⟨before, after, rfl, -⟩ := isOther.first
    exact perm.mem_iff.mpr (by simp)
  have most := isOther.greatest best inOthers isBest.qualifies
  have least := isBest.greatest other inCandidates isOther.qualifies
  exact ⟨most, least, le_antisymm (isBest.nearest other inCandidates isOther.qualifies most)
    (isOther.nearest best inOthers isBest.qualifies least)⟩

/--
A candidate whose confidence is not a number never qualifies. No match is chosen exactly if no
candidate qualifies. Otherwise the first of the best candidates is chosen, and the order of the
candidates only matters for which of several equally good ones this is.
-/
theorem bestChosen (threshold : Float) (anchor : Point) (candidates : List (Match Float))
    (near : ∀ candidate ∈ candidates, candidate.center.Near anchor) :
    (best? threshold anchor candidates = none ↔
      ∀ candidate ∈ candidates, ¬threshold ≤ candidate.confidence) ∧
    (∀ found : Match Float, found.confidence.isNaN = true → ¬threshold ≤ found.confidence) ∧
    (∀ best, best? threshold anchor candidates = some best ↔
      IsBest threshold anchor candidates best) ∧
    ∀ others, candidates.Perm others →
      best? threshold anchor candidates = none ∧ best? threshold anchor others = none ∨
        ∃ best other, best? threshold anchor candidates = some best ∧
          best? threshold anchor others = some other ∧ Tied anchor best other := by
  refine ⟨bestNone near, fun found isNaN qualified => ?_, bestSome near, fun others perm => ?_⟩
  · rw [((floatLE _ _).mp qualified).2.1] at isNaN
    cases isNaN
  · have nearOthers : ∀ candidate ∈ others, candidate.center.Near anchor :=
      fun candidate inside => near candidate (perm.mem_iff.mpr inside)
    cases isBest : best? threshold anchor candidates with
    | none =>
        refine .inl ⟨rfl, (bestNone nearOthers).mpr fun candidate inside => ?_⟩
        exact (bestNone near).mp isBest candidate (perm.mem_iff.mpr inside)
    | some best =>
        have ofBest := (bestSome near best).mp isBest
        cases isOther : best? threshold anchor others with
        | none =>
            obtain ⟨before, after, rfl, -⟩ := ofBest.first
            exact absurd ofBest.qualifies
              ((bestNone nearOthers).mp isOther best (perm.mem_iff.mp (by simp)))
        | some other =>
            exact .inr ⟨best, other, rfl, rfl,
              ofBest.tied ((bestSome nearOthers other).mp isOther) perm⟩

/-- Two of these are found with the same confidence, and another one with none. -/
def doors : List (Match Float) :=
  [⟨"far", 0.9, ⟨0, 0, 20, 10⟩⟩, ⟨"none", 0 / 0, ⟨390, 295, 20, 10⟩⟩,
    ⟨"near", 0.9, ⟨390, 295, 20, 10⟩⟩, ⟨"unlike", 0.4, ⟨390, 295, 20, 10⟩⟩]

theorem bestChosenDoors :
    (∀ door ∈ doors, door.center.Near ⟨400, 300⟩) ∧
      ∃ best, best? 0.5 ⟨400, 300⟩ doors = some best ∧ best.label = "near" ∧
        IsBest 0.5 ⟨400, 300⟩ doors best := by
  have near : ∀ door ∈ doors, door.center.Near ⟨400, 300⟩ := by
    simp only [doors, List.forall_mem_cons, List.not_mem_nil, false_imp_iff, implies_true, and_true]
    exact ⟨⟨by decide, by decide⟩, ⟨by decide, by decide⟩, ⟨by decide, by decide⟩,
      ⟨by decide, by decide⟩⟩
  have isBest : best? 0.5 ⟨400, 300⟩ doors = some ⟨"near", 0.9, ⟨390, 295, 20, 10⟩⟩ := by rfl
  exact ⟨near, _, isBest, rfl, ((bestChosen 0.5 ⟨400, 300⟩ doors near).2.2.1 _).mp isBest⟩

end Match

end DeskScript
