/-
This file shows what becomes of the hits that are not kept. Every one of them gives way to a kept
hit that is as good and overlaps it, or to as many hits as were asked for that all are as good. The
best hit is always kept, so that a search at all places finds the best place if any is good enough.
-/

import Mathlib
import DeskScript.Proofs.Picture.SoundSearch

namespace DeskScript.Picture

namespace Hit

/-! ### Dropped hits -/

section

variable {scalar : Type} [Scalar scalar] (width height limit : Nat)

/--
A hit is outdone if a kept hit that goes before it overlaps it, or if there are enough hits and all
of them go before it.
-/
def Outdone (before : Hit scalar → Hit scalar → Prop) (kept : List (Hit scalar))
    (hit : Hit scalar) : Prop :=
  (∃ other ∈ kept, before other hit ∧ other.overlaps width height hit = true) ∨
    limit ≤ kept.length ∧ ∀ other ∈ kept, before other hit

theorem enoughStay {kept : List (Hit scalar)} (enough : limit ≤ kept.length)
    (hits : List (Hit scalar)) : hits.foldl (keep width height limit) kept = kept := by
  induction hits with
  | nil => rfl
  | cons hit rest inductionHypothesis =>
      rw [List.foldl_cons, keep, if_pos (by simp [enough]), inductionHypothesis]

/-- Every hit is either kept or outdone by hits that go before it. -/
theorem droppedOutdone {before : Hit scalar → Hit scalar → Prop} (kept : List (Hit scalar))
    {hits : List (Hit scalar)} (sorted : hits.Pairwise before)
    (earlier : ∀ other ∈ kept, ∀ hit ∈ hits, before other hit) :
    ∃ dropped, (kept ++ hits).Perm (hits.foldl (keep width height limit) kept ++ dropped) ∧
      ∀ hit ∈ dropped,
        Outdone width height limit before (hits.foldl (keep width height limit) kept) hit := by
  induction hits generalizing kept with
  | nil => exact ⟨[], .refl _, nofun⟩
  | cons hit rest inductionHypothesis =>
      obtain ⟨first, others⟩ := List.pairwise_cons.mp sorted
      rw [List.foldl_cons, keep]
      split
      · next refused =>
          obtain ⟨dropped, perm, outdone⟩ := inductionHypothesis kept others fun other isKept
            later isLater => earlier other isKept later (List.mem_cons_of_mem hit isLater)
          have before (other : Hit scalar) (isKept : other ∈ kept) : before other hit :=
            earlier other isKept hit List.mem_cons_self
          refine ⟨hit :: dropped, ?_, List.forall_mem_cons.mpr ⟨?_, outdone⟩⟩
          · exact (List.perm_middle.trans (perm.cons hit)).trans List.perm_middle.symm
          · rw [Bool.or_eq_true, decide_eq_true_iff, List.any_eq_true] at refused
            rcases refused with enough | ⟨other, isKept, overlap⟩
            · rw [enoughStay width height limit enough]
              exact .inr ⟨enough, before⟩
            · obtain ⟨added, same, -⟩ := keptAppend width height limit kept rest
              rw [same]
              exact .inl ⟨other, List.mem_append_left _ isKept, before other isKept, overlap⟩
      · have later : ∀ other ∈ kept ++ [hit], ∀ last ∈ rest, before other last := by
          intro other isKept last isLast
          rcases List.mem_append.mp isKept with isOld | isNew
          · exact earlier other isOld last (List.mem_cons_of_mem hit isLast)
          · rw [List.mem_singleton.mp isNew]
            exact first last isLast
        obtain ⟨dropped, perm, outdone⟩ := inductionHypothesis (kept ++ [hit]) others later
        exact ⟨dropped, by simpa using perm, outdone⟩

end

/-! ### Best hits -/

variable {width height limit : Nat} {hits : List (Hit ℝ)}

/-- Some hit is kept if there is any, and the first one that is kept has the greatest score. -/
theorem bestFirst (width height : Nat) (some : 1 ≤ limit) (found : hits ≠ []) :
    ∃ first rest, apart width height limit hits = first :: rest ∧
      ∀ hit ∈ hits, hit.score ≤ first.score := by
  have sorted := sortedByScore hits
  have perm := List.mergeSort_perm hits fun first second => decide (second.score ≤ first.score)
  rw [apart]
  generalize hits.mergeSort _ = inOrder at sorted perm
  cases inOrder with
  | nil => exact absurd perm.nil_eq.symm found
  | cons first rest =>
      have room : keep width height limit [] first = [first] := by simp [keep]; omega
      obtain ⟨added, same, -⟩ := keptAppend width height limit [first] rest
      refine ⟨first, added, by rw [List.foldl_cons, room, same]; rfl, fun hit isHit => ?_⟩
      rcases List.mem_cons.mp (perm.mem_iff.mpr isHit) with rfl | isLater
      · exact le_rfl
      · exact List.rel_of_pairwise_cons sorted isLater

theorem apartNil (width height : Nat) (some : 1 ≤ limit) :
    apart width height limit hits = [] ↔ hits = [] := by
  refine ⟨fun nothing => ?_, fun none => by simp [none, apart]⟩
  by_contra found
  obtain ⟨first, rest, same, -⟩ := bestFirst width height some found
  exact List.cons_ne_nil first rest (same.symm.trans nothing)

/--
No more hits than asked for are kept. A hit that is dropped has more than half of the pixels of a
kept hit that is as good, or there are as many kept hits as asked for that all are as good.
-/
structure Suppressed (width height limit : Nat) (hits kept : List (Hit ℝ)) : Prop where
  limited : kept.length ≤ limit
  dropped : ∃ dropped, hits.Perm (kept ++ dropped) ∧ ∀ hit ∈ dropped,
    (∃ other ∈ kept, hit.score ≤ other.score ∧
      width * height < 2 * (other.pixels width height ∩ hit.pixels width height).card) ∨
    kept.length = limit ∧ ∀ other ∈ kept, hit.score ≤ other.score
  best : 1 ≤ limit → hits ≠ [] → ∃ first rest, kept = first :: rest ∧
    ∀ hit ∈ hits, hit.score ≤ first.score

theorem apartSuppressed (across : width < 2 ^ 32) (down : height < 2 ^ 32)
    (inRange : ∀ hit ∈ hits, hit.InRange) :
    Suppressed width height limit hits (apart width height limit hits) := by
  have limited := apartLimited width height limit hits
  obtain ⟨dropped, perm, outdone⟩ :=
    droppedOutdone width height limit [] (sortedByScore hits) nofun
  have parts : hits.Perm (apart width height limit hits ++ dropped) :=
    (List.mergeSort_perm hits _).symm.trans perm
  refine ⟨limited, ⟨dropped, parts, fun hit isDropped => ?_⟩,
    bestFirst width height⟩
  rcases outdone hit isDropped with ⟨other, isKept, better, overlap⟩ | ⟨enough, better⟩
  · refine .inl ⟨other, isKept, better, ?_⟩
    exact (overlapsIff across down (inRange _ (memOfApart isKept))
      (inRange _ (parts.mem_iff.mpr (List.mem_append_right _ isDropped)))).mp overlap
  · exact .inr ⟨limited.antisymm enough, better⟩

end Hit

/-! ### Searches at all places -/

/-- A picture is placed at a position where it lies inside the scene. An empty one has no place. -/
structure Placed (scene picture : Picture) (x y : Nat) : Prop where
  wide : 0 < picture.width
  high : 0 < picture.height
  insideX : x + picture.width ≤ scene.width
  insideY : y + picture.height ≤ scene.height

namespace Search

theorem memHitsAt {scalar : Type} [Scalar scalar] {correlation : Correlation scalar}
    {threshold : scalar} {places : List (Nat × Nat)} {hit : Hit scalar} :
    hit ∈ hitsAt correlation threshold places ↔ (hit.x, hit.y) ∈ places ∧
      hit.score = correlation.score hit.x hit.y ∧ threshold ≤ hit.score := by
  rw [hitsAt, List.mem_filterMap]
  constructor
  · rintro ⟨⟨x, y⟩, isPlace, found⟩
    dsimp only at found
    split at found
    · next enough =>
        cases found
        exact ⟨isPlace, rfl, enough⟩
    · cases found
  · rintro ⟨isPlace, score, enough⟩
    refine ⟨_, isPlace, ?_⟩
    dsimp only
    rw [← score, if_pos enough]

section

variable {scalar : Type} [Scalar scalar] (filter : Type) [Scalar filter] (search : Search scalar)
  (scene picture : Picture) (threshold : scalar)

/-- Nothing is found of a picture that has no place in the scene. -/
theorem hitsOfUnplaced (unplaced : ∀ x y, ¬Placed scene picture x y) :
    search.hits filter scene picture threshold = [] := by
  rw [hits, if_pos]
  by_contra fits
  push Not at fits
  obtain ⟨wide, high, fitsX, fitsY⟩ := fits
  exact unplaced 0 0 ⟨Nat.pos_of_ne_zero wide, Nat.pos_of_ne_zero high, by omega, by omega⟩

/-- These are the hits at all places of a scene. -/
def allHits : List (Hit scalar) :=
  hitsAt (.of scene picture) threshold
    (positions 0 (scene.width - picture.width) 0 (scene.height - picture.height))

variable {scene picture threshold}

theorem hitsOfPlaced {x y : Nat} (placed : Placed scene picture x y)
    (exhaustive : search.factor picture.width picture.height = 1) :
    search.hits filter scene picture threshold =
      Hit.apart picture.width picture.height search.maxHits (allHits scene picture threshold) := by
  obtain ⟨wide, high, insideX, insideY⟩ := placed
  rw [hits, if_neg (by omega)]
  simp only [if_pos exhaustive]
  rfl

/-- A search at all places of a scene finds these hits. -/
theorem memAllHits {hit : Hit scalar} {x y : Nat} (placed : Placed scene picture x y) :
    hit ∈ allHits scene picture threshold ↔ Placed scene picture hit.x hit.y ∧
      hit.score = (Correlation.of scene picture).score hit.x hit.y ∧ threshold ≤ hit.score := by
  obtain ⟨wide, high, insideX, insideY⟩ := placed
  rw [allHits, memHitsAt, memPositions]
  refine and_congr_left' ⟨fun inside => ⟨wide, high, by omega, by omega⟩, ?_⟩
  rintro ⟨-, -, hitX, hitY⟩
  omega

end

variable {scene picture : Picture} {threshold : ℝ}

/-- This hit is at a place of the picture, and no place has a higher score. -/
structure BestPlace (scene picture : Picture) (hit : Hit ℝ) : Prop where
  placed : Placed scene picture hit.x hit.y
  score : hit.score = (Correlation.of scene picture).score hit.x hit.y
  greatest : ∀ x y, Placed scene picture x y →
    (Correlation.of scene picture : Correlation ℝ).score x y ≤ hit.score

/-- The first of the hits at all places is at a best place. -/
theorem keptBest {limit : Nat} {first : Hit ℝ} {rest : List (Hit ℝ)} {column row : Nat}
    (place : Placed scene picture column row)
    (found : Hit.apart picture.width picture.height limit (allHits scene picture threshold) =
      first :: rest) : BestPlace scene picture first := by
  have isKept : first ∈ Hit.apart picture.width picture.height limit
      (allHits scene picture threshold) := found ▸ List.mem_cons_self
  obtain ⟨placed, score, enough⟩ := (memAllHits place).mp (Hit.memOfApart isKept)
  refine ⟨placed, score, fun x y other => ?_⟩
  have some : 1 ≤ limit := (List.length_pos_of_mem isKept).trans_le (Hit.apartLimited _ _ _ _)
  rcases le_or_gt threshold ((Correlation.of scene picture : Correlation ℝ).score x y) with
    good | low
  · have isHit : ⟨x, y, (Correlation.of scene picture).score x y⟩ ∈
        allHits scene picture threshold := (memAllHits place).mpr ⟨other, rfl, good⟩
    obtain ⟨best, others, same, greatest⟩ :=
      Hit.bestFirst picture.width picture.height some (List.ne_nil_of_mem isHit)
    rw [found] at same
    cases same
    exact greatest _ isHit
  · exact low.le.trans enough

variable (filter : Type) [Scalar filter] {search : Search ℝ}

theorem emptyIff (exhaustive : search.factor picture.width picture.height = 1)
    (some : 1 ≤ search.maxHits) : search.hits filter scene picture threshold = [] ↔
      ∀ x y, Placed scene picture x y →
        (Correlation.of scene picture : Correlation ℝ).score x y < threshold := by
  constructor
  · intro nothing x y placed
    by_contra enough
    rw [not_lt] at enough
    rw [hitsOfPlaced filter search placed exhaustive, Hit.apartNil _ _ some] at nothing
    have isHit : ⟨x, y, (Correlation.of scene picture).score x y⟩ ∈
        allHits scene picture threshold := (memAllHits placed).mpr ⟨placed, rfl, enough⟩
    exact List.ne_nil_of_mem isHit nothing
  · intro low
    by_cases unplaced : ∀ x y, ¬Placed scene picture x y
    · exact hitsOfUnplaced filter search scene picture threshold unplaced
    · push Not at unplaced
      obtain ⟨x, y, placed⟩ := unplaced
      rw [hitsOfPlaced filter search placed exhaustive, Hit.apartNil _ _ some,
        List.eq_nil_iff_forall_not_mem]
      intro hit isHit
      obtain ⟨place, score, enough⟩ := (memAllHits placed).mp isHit
      rw [score] at enough
      exact (low _ _ place).not_ge enough

theorem firstBest (exhaustive : search.factor picture.width picture.height = 1) {first : Hit ℝ}
    {rest : List (Hit ℝ)} (found : search.hits filter scene picture threshold = first :: rest) :
    BestPlace scene picture first := by
  have unplaced : ¬∀ x y, ¬Placed scene picture x y := fun unplaced =>
    List.cons_ne_nil first rest
      (found.symm.trans (hitsOfUnplaced filter search scene picture threshold unplaced))
  push Not at unplaced
  obtain ⟨column, row, place⟩ := unplaced
  rw [hitsOfPlaced filter search place exhaustive] at found
  exact keptBest place found

/--
Hits that are not kept are outdone by kept ones, and the first kept hit is the best of all. A search
at all places finds nothing exactly if no place has a score of at least the threshold, and otherwise
first finds a place with the highest score of all.
-/
theorem bestHitsKept {width height : Nat} (across : width < 2 ^ 32) (down : height < 2 ^ 32)
    (limit : Nat) {hits : List (Hit ℝ)} (inRange : ∀ hit ∈ hits, hit.InRange)
    (search : Search ℝ) (scene picture : Picture) (threshold : ℝ) :
    Hit.Suppressed width height limit hits (Hit.apart width height limit hits) ∧
    (search.factor picture.width picture.height = 1 → 1 ≤ search.maxHits →
      (search.hits filter scene picture threshold = [] ↔ ∀ x y, Placed scene picture x y →
        (Correlation.of scene picture : Correlation ℝ).score x y < threshold) ∧
      ∀ first rest, search.hits filter scene picture threshold = first :: rest →
        BestPlace scene picture first) :=
  ⟨Hit.apartSuppressed across down inRange, fun exhaustive some =>
    ⟨emptyIff filter exhaustive some, fun _ _ found => firstBest filter exhaustive found⟩⟩

/-- Of two hits beside each other the better one is kept, and a spot is found in itself. -/
theorem bestHitsKeptBeside :
    let beside : List (Hit ℝ) := [⟨0, 0, 1 / 2⟩, ⟨1, 0, 3 / 4⟩]
    (∀ hit ∈ beside, hit.InRange) ∧
      Hit.Suppressed 4 4 1 beside (Hit.apart 4 4 1 beside) ∧
      (standard : Search ℝ).factor spot.width spot.height = 1 ∧
      1 ≤ (standard : Search ℝ).maxHits ∧ BestPlace spot spot ⟨0, 0, 1⟩ := by
  intro beside
  have inRange : ∀ hit ∈ beside, hit.InRange := by
    simp only [beside, List.forall_mem_cons, List.not_mem_nil, false_imp_iff, implies_true,
      and_true]
    exact ⟨⟨by norm_num, by norm_num⟩, ⟨by norm_num, by norm_num⟩⟩
  have some : 1 ≤ (standard : Search ℝ).maxHits := by decide
  obtain ⟨suppressed, atAllPlaces⟩ := bestHitsKept ℝ (by norm_num : 4 < 2 ^ 32)
    (by norm_num : 4 < 2 ^ 32) 1 inRange standard spot spot (9 / 10)
  have factor : (standard : Search ℝ).factor spot.width spot.height = 1 :=
    standardOne (.inl (by decide))
  exact ⟨inRange, suppressed, factor, some, (atAllPlaces factor some).2 _ [] spotHits⟩

end Search

end DeskScript.Picture
