/-
This file shows in which order the matches on a screen are read. What is clearly lower comes later,
matches of one height come from left to right, and matches in this order keep it.
-/

import DeskScript.Proofs.Match.CoordinateRange
import Mathlib

namespace DeskScript.Match

/-! ### Stable sorting -/

section

variable {item key : Type} [DecidableEq key] {keyOf : item → key} {atMost : item → item → Bool}

/-- Sorting keeps the order of items that are as great as each other. -/
theorem mergeSortFilter (trans : ∀ a b c, atMost a b = true → atMost b c = true → atMost a c = true)
    (total : ∀ a b, (atMost a b || atMost b a) = true) {chosen : item → Bool}
    (alike : ∀ a b, chosen a = true → chosen b = true → atMost a b = true) (items : List item) :
    (items.mergeSort atMost).filter chosen = items.filter chosen := by
  have inOrder : (items.filter chosen).Pairwise fun a b => atMost a b = true :=
    List.pairwise_filter.mpr (List.pairwise_of_forall fun a b => alike a b)
  have kept := (List.sublist_mergeSort trans total inOrder List.filter_sublist).filter chosen
  rw [List.filter_filter, List.filter_congr fun _ _ => Bool.and_self _] at kept
  exact (kept.eq_of_length ((List.mergeSort_perm items atMost).filter chosen).length_eq.symm).symm

theorem memByClass {first second : List item}
    (classes : ∀ value, first.filter (keyOf · = value) = second.filter (keyOf · = value))
    (member : item) : member ∈ first ↔ member ∈ second := by
  have inClass : member ∈ first.filter (keyOf · = keyOf member) ↔
      member ∈ second.filter (keyOf · = keyOf member) := by rw [classes]
  simpa using inClass

/-- Sorted lists are equal if they have the same items of every key in the same order. -/
theorem sortedByClass (total : ∀ a b, (atMost a b || atMost b a) = true)
    (equalKeys : ∀ a b, atMost a b = true → atMost b a = true → keyOf a = keyOf b)
    {first second : List item} (isSorted : first.Pairwise fun a b => atMost a b = true)
    (otherSorted : second.Pairwise fun a b => atMost a b = true)
    (classes : ∀ value, first.filter (keyOf · = value) = second.filter (keyOf · = value)) :
    first = second := by
  induction first generalizing second with
  | nil =>
      refine (List.eq_nil_iff_forall_not_mem.mpr fun member inside => ?_).symm
      exact List.not_mem_nil ((memByClass classes member).mpr inside)
  | cons head rest inductionHypothesis =>
      cases second with
      | nil => exact absurd ((memByClass classes head).mp List.mem_cons_self) List.not_mem_nil
      | cons other others =>
          -- Both heads are least, so that they have one key and are the first items of it.
          have least {a b : item} {behind : List item}
              (ordered : (a :: behind).Pairwise fun a b => atMost a b = true)
              (inside : b ∈ a :: behind) : atMost a b = true := by
            rcases List.mem_cons.mp inside with rfl | isBehind
            · exact (Bool.or_self _).symm.trans (total b b)
            · exact List.rel_of_pairwise_cons ordered isBehind
          have sameKey : keyOf head = keyOf other :=
            equalKeys head other
              (least isSorted ((memByClass classes other).mpr List.mem_cons_self))
              (least otherSorted ((memByClass classes head).mp List.mem_cons_self))
          have ofClass := classes (keyOf head)
          simp only [List.filter_cons, sameKey, decide_true, if_true] at ofClass
          cases (List.cons.inj ofClass).1
          refine congrArg (head :: ·) (inductionHypothesis isSorted.of_cons otherSorted.of_cons ?_)
          intro value
          have both := classes value
          by_cases isHead : keyOf head = value
          · simp only [List.filter_cons, isHead, decide_true, if_true] at both
            exact (List.cons.inj both).2
          · simpa only [List.filter_cons, isHead, decide_false, Bool.false_eq_true, if_false]
              using both

end

variable {scalar : Type} {first second third : Match scalar}

/-! ### Above and left -/

theorem isAboveIff : isAbove first second = true ↔
    first.center.y.toInt < second.center.y.toInt ∨
      first.center.y.toInt = second.center.y.toInt ∧
        first.center.x.toInt ≤ second.center.x.toInt := by
  rw [isAbove, Bool.or_eq_true, Bool.and_eq_true, decide_eq_true_iff, decide_eq_true_iff,
    decide_eq_true_iff, Int32.lt_iff_toInt_lt, ← Int32.toInt_inj, Int32.le_iff_toInt_le]

theorem isLeftIff : isLeft first second = true ↔
    first.center.x.toInt ≤ second.center.x.toInt := by
  rw [isLeft, decide_eq_true_iff, Int32.le_iff_toInt_le]

theorem isAboveTrans (first second third : Match scalar) (above : isAbove first second = true)
    (further : isAbove second third = true) : isAbove first third = true := by
  rw [isAboveIff] at *
  omega

theorem isAboveTotal (first second : Match scalar) :
    (isAbove first second || isAbove second first) = true := by
  rw [Bool.or_eq_true, isAboveIff, isAboveIff]
  omega

theorem isLeftTrans (first second third : Match scalar) (left : isLeft first second = true)
    (further : isLeft second third = true) : isLeft first third = true := by
  rw [isLeftIff] at *
  omega

theorem isLeftTotal (first second : Match scalar) :
    (isLeft first second || isLeft second first) = true := by
  rw [Bool.or_eq_true, isLeftIff, isLeftIff]
  omega

theorem sameCenter (above : isAbove first second = true) (below : isAbove second first = true) :
    first.center = second.center := by
  rw [isAboveIff] at above below
  obtain ⟨x, y⟩ : first.center.x.toInt = second.center.x.toInt ∧
      first.center.y.toInt = second.center.y.toInt := by omega
  exact congrArg₂ Point.mk (Int32.toInt_inj.mp x) (Int32.toInt_inj.mp y)

/-- Matches with one center keep their order when matches are sorted from top to bottom. -/
theorem sortedAtCenter (found : List (Match scalar)) (place : Point) :
    (found.mergeSort isAbove).filter (·.center = place) = found.filter (·.center = place) := by
  refine mergeSortFilter isAboveTrans isAboveTotal (fun a b isFirst isSecond => ?_) found
  have same : a.center = b.center :=
    (of_decide_eq_true isFirst).trans (of_decide_eq_true isSecond).symm
  exact isAboveIff.mpr (.inr ⟨congrArg (·.y.toInt) same, (congrArg (·.x.toInt) same).le⟩)

theorem lineAtCenter (line : List (Match scalar)) (place : Point) :
    (line.mergeSort isLeft).filter (·.center = place) = line.filter (·.center = place) := by
  refine mergeSortFilter isLeftTrans isLeftTotal (fun a b isFirst isSecond => ?_) line
  have same : a.center = b.center :=
    (of_decide_eq_true isFirst).trans (of_decide_eq_true isSecond).symm
  exact isLeftIff.mpr (congrArg (·.x.toInt) same).le

/-! ### Lines -/

theorem splitLineShares (first : Match scalar) (rest : List (Match scalar)) :
    ∀ found ∈ (splitLine first rest).1, sharesLine first found = true := by
  induction rest with
  | nil => exact List.forall_mem_nil _
  | cons found rest inductionHypothesis =>
      by_cases shares : sharesLine first found = true
      · rw [splitLine, if_pos shares]
        exact List.forall_mem_cons.mpr ⟨shares, inductionHypothesis⟩
      · rw [splitLine, if_neg shares]
        exact List.forall_mem_nil _

/-- A match is read before one that is clearly lower and before one at its height to the right. -/
def ReadBefore (first second : Match scalar) : Prop :=
  max (second.bounds.height.toNat / 2 : Nat) 1 < drop first second ∨
    drop first second = 0 ∧ first.center.x < second.center.x

/-- What is higher up is not to be read later. -/
theorem notReadBefore (above : isAbove first second = true) : ¬ReadBefore second first := by
  rw [isAboveIff] at above
  rw [ReadBefore, drop, Int32.lt_iff_toInt_lt]
  omega

/-- Two matches of a line are not clearly lower than each other. -/
theorem notLower (inLine : isAbove first second = true ∨ second = first)
    (shares : sharesLine first third = true ∨ third = first)
    (small : |drop first third| < 2 ^ 31) :
    drop second third ≤ max (third.bounds.height.toNat / 2 : Nat) 1 := by
  have below : drop second third ≤ drop first third := by
    rcases inLine with above | rfl
    · rw [isAboveIff] at above
      rw [drop, drop]
      omega
    · exact le_rfl
  rcases shares with shares | rfl
  · have within := (le_abs_self _).trans ((sharesLineIff small).mp shares)
    omega
  · rw [drop, drop] at *
    omega

/-- Matches that are sorted from top to bottom are put into lines in which they can be read. -/
theorem linesRead {sorted : List (Match scalar)}
    (isSorted : sorted.Pairwise fun first second => isAbove first second = true)
    (close : ∀ first ∈ sorted, ∀ second ∈ sorted, |drop first second| < 2 ^ 31) :
    ((lines sorted).flatMap fun line => line.mergeSort isLeft).Pairwise
      fun earlier later => ¬ReadBefore later earlier := by
  fun_induction lines sorted with
  | case1 => exact .nil
  | case2 first rest inductionHypothesis =>
      have split := splitLineAppend first rest
      have shares := splitLineShares first rest
      generalize (splitLine first rest).1 = line at split shares ⊢
      generalize (splitLine first rest).2 = others at split inductionHypothesis ⊢
      subst split
      rw [← List.cons_append] at isSorted
      obtain ⟨lineSorted, othersSorted, across⟩ := List.pairwise_append.mp isSorted
      have inLine : ∀ found ∈ first :: line, isAbove first found = true ∨ found = first := by
        intro found inside
        rcases List.mem_cons.mp inside with same | behind
        · exact .inr same
        · exact .inl (List.rel_of_pairwise_cons lineSorted behind)
      have shared : ∀ found ∈ first :: line, sharesLine first found = true ∨ found = first := by
        intro found inside
        rcases List.mem_cons.mp inside with same | behind
        · exact .inr same
        · exact .inl (shares found behind)
      rw [List.flatMap_cons, List.pairwise_append]
      refine ⟨?_, inductionHypothesis othersSorted fun a inside b other =>
        close a (by simp [inside]) b (by simp [other]), ?_⟩
      · refine (List.pairwise_mergeSort isLeftTrans isLeftTotal _).imp_of_mem ?_
        intro earlier later isEarlier isLater left
        rw [List.mem_mergeSort] at isEarlier isLater
        rintro (lower | ⟨level, right⟩)
        · have small : |drop first earlier| < 2 ^ 31 :=
            close first List.mem_cons_self earlier (List.mem_append_left others isEarlier)
          have atMost := notLower (inLine later isLater) (shared earlier isEarlier) small
          exact absurd lower atMost.not_gt
        · rw [isLeftIff] at left
          rw [Int32.lt_iff_toInt_lt] at right
          omega
      · intro earlier isEarlier later isLater
        rw [List.mem_mergeSort] at isEarlier
        obtain ⟨further, isFurther, inFurther⟩ := List.mem_flatMap.mp isLater
        rw [List.mem_mergeSort] at inFurther
        have behind : later ∈ (lines others).flatten :=
          List.mem_flatten.mpr ⟨further, isFurther, inFurther⟩
        rw [linesFlatten] at behind
        exact notReadBefore (across earlier isEarlier later behind)

/-! ### The whole order -/

theorem scanOrderPerm (found : List (Match scalar)) : (scanOrder found).Perm found := by
  have inLines : (scanOrder found).Perm (lines (found.mergeSort isAbove)).flatten := by
    rw [scanOrder, List.flatMap_def]
    refine List.Perm.flatten_congr (List.forall₂_map_left_iff.mpr (List.forall₂_same.mpr ?_))
    exact fun line _ => List.mergeSort_perm line _
  rw [linesFlatten] at inLines
  exact inLines.trans (List.mergeSort_perm found isAbove)

theorem scanOrderAtCenter (found : List (Match scalar)) (place : Point) :
    (scanOrder found).filter (·.center = place) = found.filter (·.center = place) := by
  rw [scanOrder, List.filter_flatMap]
  simp only [lineAtCenter]
  rw [List.flatMap_def, ← List.filter_flatten, linesFlatten, sortedAtCenter]

/-- Matches that are in order already are sorted from top to bottom as they were before. -/
theorem sortedAgain (found : List (Match scalar)) :
    (scanOrder found).mergeSort isAbove = found.mergeSort isAbove := by
  refine sortedByClass isAboveTotal (fun _ _ => sameCenter)
    (List.pairwise_mergeSort isAboveTrans isAboveTotal _)
    (List.pairwise_mergeSort isAboveTrans isAboveTotal _) fun place => ?_
  rw [sortedAtCenter, scanOrderAtCenter, sortedAtCenter]

/-- Matches with centers of their own are sorted in one way only. -/
theorem sortedAlike {found others : List (Match scalar)} (apart : (found.map center).Nodup)
    (perm : found.Perm others) : others.mergeSort isAbove = found.mergeSort isAbove := by
  refine List.Perm.eq_of_pairwise (fun a b inOthers inFound above below => ?_)
    (List.pairwise_mergeSort isAboveTrans isAboveTotal _)
    (List.pairwise_mergeSort isAboveTrans isAboveTotal _)
    ((List.mergeSort_perm others isAbove).trans
      (perm.symm.trans (List.mergeSort_perm found isAbove).symm))
  rw [List.mem_mergeSort] at inOthers inFound
  exact List.inj_on_of_nodup_map apart (perm.mem_iff.mpr inOthers) inFound (sameCenter above below)

/--
The scan order has the same matches. What is to be read before another match stands in front of it.
Matches in scan order stay in order, and if no two centers are the same then the order in which the
matches were found does not matter.
-/
theorem scanOrderReads (found : List (Match scalar))
    (close : ∀ first ∈ found, ∀ second ∈ found, |drop first second| < 2 ^ 31) :
    (scanOrder found).Perm found ∧
    (∀ i j : Fin (scanOrder found).length,
      ReadBefore (scanOrder found)[i] (scanOrder found)[j] → i < j) ∧
    scanOrder (scanOrder found) = scanOrder found ∧
    ((found.map center).Nodup → ∀ others, found.Perm others →
      scanOrder others = scanOrder found) := by
  refine ⟨scanOrderPerm found, fun i j before => ?_, ?_, fun apart others perm => ?_⟩
  · have read := linesRead (List.pairwise_mergeSort isAboveTrans isAboveTotal found)
      fun a isFirst b isSecond =>
        close a (List.mem_mergeSort.mp isFirst) b (List.mem_mergeSort.mp isSecond)
    rcases lt_trichotomy i j with less | rfl | greater
    · exact less
    · exact absurd before (notReadBefore (isAboveIff.mpr (.inr ⟨rfl, le_rfl⟩)))
    · exact absurd before (List.pairwise_iff_getElem.mp read j i j.isLt i.isLt greater)
  · rw [scanOrder, sortedAgain, ← scanOrder]
  · rw [scanOrder, sortedAlike apart perm, ← scanOrder]

/-- These words are found in two lines, which are not quite level. -/
def word : Fin 4 → Match Float
  | 0 => ⟨"the", 0.9, ⟨5, 10, 20, 10⟩⟩
  | 1 => ⟨"quick", 0.9, ⟨200, 9, 20, 10⟩⟩
  | 2 => ⟨"lazy", 0.9, ⟨10, 50, 20, 10⟩⟩
  | 3 => ⟨"dog", 0.9, ⟨300, 52, 20, 10⟩⟩

theorem scanOrderReadsWords :
    (∀ first ∈ [word 3, word 1, word 2, word 0], ∀ second ∈ [word 3, word 1, word 2, word 0],
      |drop first second| < 2 ^ 31) ∧
    ([word 3, word 1, word 2, word 0].map center).Nodup ∧
    ReadBefore (word 1) (word 3) ∧
    scanOrder [word 3, word 1, word 2, word 0] = [word 0, word 1, word 2, word 3] ∧
    scanOrder [word 0, word 1, word 2, word 3] = [word 0, word 1, word 2, word 3] := by
  have close : ∀ first ∈ [word 3, word 1, word 2, word 0],
      ∀ second ∈ [word 3, word 1, word 2, word 0], |drop first second| < 2 ^ 31 := by decide
  have sorted : [word 3, word 1, word 2, word 0].mergeSort isAbove =
      [word 1, word 0, word 2, word 3] := by
    have steps : isAbove (word 3) (word 1) = false ∧ isAbove (word 2) (word 0) = false ∧
        isAbove (word 1) (word 0) = true ∧ isAbove (word 3) (word 0) = false ∧
        isAbove (word 3) (word 2) = false := by decide
    simp [List.mergeSort, steps]
  have cut : lines [word 1, word 0, word 2, word 3] = [[word 1, word 0], [word 2, word 3]] := by
    have steps : sharesLine (word 1) (word 0) = true ∧ sharesLine (word 1) (word 2) = false ∧
        sharesLine (word 2) (word 3) = true := by decide
    simp [lines, splitLine, steps]
  have read : scanOrder [word 3, word 1, word 2, word 0] = [word 0, word 1, word 2, word 3] := by
    have steps : isLeft (word 1) (word 0) = false ∧ isLeft (word 2) (word 3) = true := by decide
    rw [scanOrder, sorted, cut]
    simp [List.mergeSort, steps]
  have again := (scanOrderReads _ close).2.2.1
  rw [read] at again
  exact ⟨close, by decide, .inl (by decide), read, again⟩

end DeskScript.Match
