/-
This file shows that a path stands for one location, whatever a tree of files holds, and that
different locations have different keys.
-/

import DeskScript.File.Tree
import DeskScript.Proofs.Result
import Mathlib.Data.List.Basic

namespace DeskScript

/-! ### Names -/

/-- A name names something in a directory. It holds no slash and is more than a point or two. -/
structure IsName (name : String) : Prop where
  written : name ≠ ""
  noPoint : name ≠ "."
  noPoints : name ≠ ".."
  noSlash : '/' ∉ name.toList

theorem IsName.relative {name : String} (isName : IsName name) : name.toList.head? ≠ some '/' :=
  fun first => isName.noSlash (List.mem_of_mem_head? first)

namespace Path

/-! ### Segments -/

theorem segmentsAtSlash (front back : List Char) :
    segments (String.ofList (front ++ '/' :: back)) =
      segments (String.ofList front) ++ segments (String.ofList back) := by
  simp only [segments, String.toList_ofList, List.splitOn_append_cons_self, List.map_append]

theorem segmentsNoSlash {text : String} (noSlash : '/' ∉ text.toList) : segments text = [text] := by
  rw [segments, List.splitOn_eq_singleton noSlash, List.map_singleton, String.ofList_toList]

theorem splitWithoutSlash (characters : List Char) :
    ∀ part ∈ characters.splitOn '/', '/' ∉ part := by
  induction characters with
  | nil => simp
  | cons first rest inductionHypothesis =>
      rw [List.splitOn_cons_eq_if_modifyHead]
      by_cases isSlash : first = '/'
      · simpa [isSlash] using inductionHypothesis
      · rw [if_neg (by simpa using isSlash)]
        cases split : rest.splitOn '/' with
        | nil => exact absurd split (List.splitOn_ne_nil _ _)
        | cons head tail =>
            rw [split] at inductionHypothesis
            have inHead := inductionHypothesis head List.mem_cons_self
            refine List.forall_mem_cons.mpr ⟨?_, fun part member =>
              inductionHypothesis part (List.mem_cons_of_mem _ member)⟩
            simpa [List.mem_cons, Ne.symm isSlash] using inHead

theorem segmentWithoutSlash {text part : String} (member : part ∈ segments text) :
    '/' ∉ part.toList := by
  obtain ⟨characters, inside, rfl⟩ := List.mem_map.mp member
  rw [String.toList_ofList]
  exact splitWithoutSlash text.toList characters inside

end Path

namespace FileTree

/-! ### Resolution -/

theorem resolvedAppend (location : Location) (front back : List String) :
    resolved location (front ++ back) = resolved (resolved location front) back := by
  induction front generalizing location with
  | nil => rfl
  | cons name rest inductionHypothesis =>
      simp only [List.cons_append, resolved, inductionHypothesis]
      split
      · rfl
      · split <;> rfl

theorem resolvedName (location : Location) {name : String} (isName : IsName name) :
    resolved location [name] = location ++ [name] := by
  rw [resolved, if_neg (not_or.mpr ⟨isName.written, isName.noPoint⟩), if_neg isName.noPoints,
    resolved]

theorem resolvedIdle (location : Location) {name : String} (idle : name = "" ∨ name = ".") :
    resolved location [name] = location := by
  rw [resolved, if_pos idle, resolved]

/-- A proper location consists of names. -/
def Proper (location : Location) : Prop := ∀ name ∈ location, IsName name

theorem Proper.append {location : Location} {name : String} (proper : Proper location)
    (isName : IsName name) : Proper (location ++ [name]) := by
  intro part member
  rcases List.mem_append.mp member with inside | last
  · exact proper part inside
  · rw [List.mem_singleton.mp last]
    exact isName

theorem resolvedProper {location : Location} (proper : Proper location) {names : List String}
    (noSlash : ∀ name ∈ names, '/' ∉ name.toList) : Proper (resolved location names) := by
  induction names generalizing location with
  | nil => exact proper
  | cons name rest inductionHypothesis =>
      have further := fun part member => noSlash part (List.mem_cons_of_mem name member)
      rw [resolved]
      split
      · exact inductionHypothesis proper further
      · rename_i noPoint
        split
        · exact inductionHypothesis (fun part member => proper part (List.dropLast_subset _ member))
            further
        · rename_i noPoints
          exact inductionHypothesis (proper.append ⟨(not_or.mp noPoint).1, (not_or.mp noPoint).2,
            noPoints, noSlash name List.mem_cons_self⟩) further

variable {tree : FileTree}

/-- From a proper working directory every path leads to a proper location. -/
theorem locationProper (proper : Proper tree.workingDirectory) (path : Path) :
    Proper (tree.location path) := by
  refine resolvedProper ?_ fun name member => Path.segmentWithoutSlash member
  rw [start]
  split
  · exact fun name member => absurd member List.not_mem_nil
  · exact proper

/-- Looking names up fails, or it leads where the names lead by themselves. -/
theorem walkResolved {location found : Location} {names : List String}
    (walked : tree.walk location names = .ok found) : found = resolved location names := by
  induction names generalizing location with
  | nil => exact (Except.ok.inj walked).symm
  | cons name rest inductionHypothesis =>
      rw [walk] at walked
      obtain ⟨_, -, walked⟩ := okOfBind walked
      rw [resolved]
      by_cases idle : name = "" ∨ name = "."
      · rw [if_pos idle] at walked ⊢
        exact inductionHypothesis walked
      rw [if_neg idle] at walked ⊢
      by_cases isUp : name = ".."
      · rw [if_pos isUp] at walked ⊢
        exact inductionHypothesis walked
      rw [if_neg isUp] at walked ⊢
      split at walked
      · cases walked
      · exact inductionHypothesis walked

theorem locateLocation {path : Path} {found : Location} (located : tree.locate path = .ok found) :
    found = tree.location path := by
  rw [locate] at located
  split at located
  · cases located
  split at located
  · cases located
  split at located
  · cases located
  · exact walkResolved located

/-! ### Keys -/

/-- The names of a proper location can be read from its key. -/
theorem segmentsKey {location : Location} (proper : Proper location) (below : location ≠ []) :
    Path.segments (key location) = location := by
  have noSlash : ∀ part ∈ location.map String.toList, '/' ∉ part := by
    intro part member
    obtain ⟨name, inside, rfl⟩ := List.mem_map.mp member
    exact (proper name inside).noSlash
  have characters : (key location).toList = ['/'].intercalate (location.map String.toList) :=
    String.toList_intercalate
  rw [Path.segments, characters, List.splitOn_intercalate '/' noSlash (by simpa using below),
    List.map_map]
  simp [Function.comp_def]

theorem keyInjective {first second : Location} (isFirst : Proper first) (isSecond : Proper second)
    (same : key first = key second) : first = second := by
  have top {location : Location} (proper : Proper location) (isTop : key location = key []) :
      location = [] := by
    by_contra below
    -- The key of the top is empty, and it would be cut into one empty name.
    have empty : location = [""] := by
      rw [← segmentsKey proper below, isTop]
      rfl
    exact (proper "" (by rw [empty]; exact List.mem_singleton_self "")).written rfl
  by_cases belowFirst : first = []
  · rw [belowFirst] at same ⊢
    exact (top isSecond same.symm).symm
  by_cases belowSecond : second = []
  · rw [belowSecond] at same
    exact absurd (top isFirst same) belowFirst
  · rw [← segmentsKey isFirst belowFirst, same, segmentsKey isSecond belowSecond]

end FileTree

end DeskScript
