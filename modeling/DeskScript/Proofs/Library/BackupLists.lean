/-
This file says what the list of the backups of a file is: their names in alphabetical order, which
is the order of time.
-/

import DeskScript.Proofs.Library.Effects
import DeskScript.Proofs.Time.Stamp
import Mathlib.Data.List.Sort

namespace DeskScript

/-! ### Keys in a table -/

namespace Table

variable {value : Type}

theorem lookUpOfKey {key : String} {entries : List (String × value)}
    (member : key ∈ entries.map Prod.fst) : ∃ item, lookUp? key entries = some item := by
  induction entries with
  | nil => cases member
  | cons head rest inductionHypothesis =>
      by_cases same : key = head.1
      · exact ⟨head.2, by rw [lookUp?, if_pos same]⟩
      · rw [lookUp?, if_neg same]
        exact inductionHypothesis ((List.mem_cons.mp member).resolve_left same)

theorem keysRise (table : Table value) : table.keys.Pairwise (· < ·) :=
  List.pairwise_map.mpr table.ordered

end Table

/-! ### Names in a directory -/

namespace FileTree

variable {tree : FileTree} {directory : Location}

/-- The names that are read from a key have this key. -/
theorem keySegments (entryKey : String) : key (Path.segments entryKey) = entryKey := by
  have characters : (key (Path.segments entryKey)).toList =
      ['/'].intercalate ((Path.segments entryKey).map String.toList) :=
    String.toList_intercalate
  rw [← String.toList_inj, characters, Path.segments, List.map_map]
  simp [Function.comp_def, List.intercalate_splitOn]

/-- What a directory lists for a key is the last name of the key. -/
theorem keyOfChild {entryKey name : String} (isChild : childName? directory entryKey = some name) :
    entryKey = key (directory ++ [name]) := by
  rw [childName?] at isChild
  split at isChild
  · rename_i same
    rw [← same, List.dropLast_append_getLast? name isChild, keySegments]
  · cases isChild

/-- The keys of what is in one directory begin alike. -/
theorem keyFront (directory : Location) :
    ∃ front, ∀ name : String, (key (directory ++ [name])).toList = front ++ name.toList := by
  induction directory with
  | nil =>
      refine ⟨[], fun name => ?_⟩
      simp [key]
  | cons first rest inductionHypothesis =>
      obtain ⟨front, isFront⟩ := inductionHypothesis
      refine ⟨first.toList ++ ['/'] ++ front, fun name => ?_⟩
      have characters (location : Location) :
          (key location).toList = ['/'].intercalate (location.map String.toList) :=
        String.toList_intercalate
      have nonempty : (rest ++ [name]).map String.toList ≠ [] := by simp
      rw [List.append_assoc, ← isFront, characters, characters, List.cons_append, List.map_cons,
        List.intercalate_cons_of_ne_nil nonempty, List.append_assoc]

theorem nameBeforeOfKey {first second : String}
    (before : key (directory ++ [first]) < key (directory ++ [second])) : first < second := by
  obtain ⟨front, isFront⟩ := keyFront directory
  rw [String.lt_iff, isFront, isFront] at before
  rw [String.lt_iff]
  by_contra notBefore
  rcases List.le_iff_lt_or_eq.mp (List.not_lt.mp notBefore) with after | same
  · exact List.lt_irrefl _ (List.lt_trans before (List.append_left_lt after))
  · rw [same] at before
    exact List.lt_irrefl _ before

/-- A directory lists every name once, in alphabetical order. -/
theorem childrenRise (tree : FileTree) (directory : Location) :
    (tree.entries.keys.filterMap (childName? directory)).Pairwise (· < ·) := by
  refine tree.entries.keysRise.filterMap _ fun first second before name isName other isOther => ?_
  rw [keyOfChild isName, keyOfChild isOther] at before
  exact nameBeforeOfKey before

theorem childIff {name : String} (proper : Proper (directory ++ [name])) :
    name ∈ tree.entries.keys.filterMap (childName? directory) ↔
      tree.entry? (directory ++ [name]) ≠ none := by
  have below : directory ++ [name] ≠ [] :=
    List.append_ne_nil_of_right_ne_nil _ (List.cons_ne_nil _ _)
  rw [List.mem_filterMap, entryBelow tree below]
  constructor
  · rintro ⟨entryKey, member, isChild⟩ vacant
    obtain ⟨item, found⟩ := Table.lookUpOfKey member
    rw [keyOfChild isChild] at found
    cases vacant.symm.trans found
  · intro present
    obtain ⟨entry, found⟩ := Option.ne_none_iff_exists'.mp present
    exact ⟨_, Table.keyOfFound found, childOfKey proper⟩

end FileTree

/-! ### Backups in a list -/

namespace Library

open FileTree

variable {library : Library} {tree : FileTree} {path : Path}

/-- The names of later backups of a file come later. -/
theorem backupNameRises (path : Path) {first second : Time.Timestamp} (isFirst : first.FitsStamp)
    (isSecond : second.FitsStamp) (before : first.MicrosecondsBefore second) :
    backupName path first < backupName path second := by
  rw [String.lt_iff, backupNameCharacters, backupNameCharacters]
  refine List.append_left_lt (rowsBefore _ _ ?_ ?_)
  · exact String.lt_iff.mp (Time.stampRises isFirst isSecond before)
  · rw [Time.stampLength isFirst, Time.stampLength isSecond]

/-- A list of names that are there, rising and without any others is the list of backups. -/
theorem backupsListed {names : List String} (proper : Proper tree.workingDirectory)
    (opened : names ≠ [] → tree.status library.backupDirectory = .ok .directory)
    (noFile : tree.content? (tree.location library.backupDirectory) = none)
    (rising : names.Pairwise (· < ·))
    (isListed : ∀ name : String, name ∈ names ↔ IsName name ∧
      (backupPrefix path).toList <+: name.toList ∧
        tree.entry? (tree.location library.backupDirectory ++ [name]) ≠ none) :
    library.backupsOf tree path = .ok (names.map library.backupDirectory.join) := by
  rw [backupsOf, exists_]
  cases isStatus : tree.status library.backupDirectory with
  | error fault =>
      by_cases empty : names = []
      · rw [empty]
        rfl
      · rw [opened empty] at isStatus
        cases isStatus
  | ok entry =>
      obtain ⟨located, isEntry⟩ := statusParts isStatus
      cases entry with
      | file content =>
          rw [contentOfFile isEntry] at noFile
          cases noFile
      | directory =>
          have children : tree.children library.backupDirectory = .ok (tree.entries.keys.filterMap
              (childName? (tree.location library.backupDirectory))) := by
            rw [children, isStatus, located]
            rfl
          have same : (tree.entries.keys.filterMap
              (childName? (tree.location library.backupDirectory))).filter
                (startsWith (backupPrefix path)) = names := by
            refine List.Pairwise.eq_of_mem_iff ((childrenRise tree _).filter _) rising fun name => ?_
            rw [List.mem_filter, startsWithIff, isListed]
            constructor
            · rintro ⟨isChild, starts⟩
              obtain ⟨entryKey, -, isKey⟩ := List.mem_filterMap.mp isChild
              have isName := isNameOfStart starts (childNoSlash isKey)
              exact ⟨isName, starts, (childIff ((locationProper proper _).append isName)).mp isChild⟩
            · rintro ⟨isName, starts, present⟩
              exact ⟨(childIff ((locationProper proper _).append isName)).mpr present, starts⟩
          rw [children, ← same]
          rfl

end Library

end DeskScript
