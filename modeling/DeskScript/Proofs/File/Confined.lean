/-
This file says what the operations on a tree of files do, and which files they leave as they are.
-/

import DeskScript.Proofs.File.Location

namespace DeskScript

/-- A path that does not mean a directory has no slash at its end. -/
theorem Path.withoutLastSlashesPlain {path : Path} (plain : ¬path.meansDirectory = true) :
    path.withoutLastSlashes = path := by
  have last : path.text.toList.reverse.head? ≠ some '/' := by
    rw [List.head?_reverse]
    simpa [meansDirectory] using plain
  have kept : path.text.toList.reverse.dropWhile (· = '/') = path.text.toList.reverse := by
    cases isReversed : path.text.toList.reverse with
    | nil => rfl
    | cons first rest =>
        rw [isReversed] at last
        rw [List.dropWhile_cons, if_neg (by simpa using last)]
  rw [withoutLastSlashes, kept]
  split
  · rename_i empty
    have relative : path.isAbsolute = false := by
      rw [isAbsolute, List.reverse_eq_nil_iff.mp empty]
      rfl
    rw [relative]
    rfl
  · rw [List.reverse_reverse, String.ofList_toList]

namespace FileTree

variable {tree after : FileTree}

/-! ### Entries -/

/-- This is what a file holds. -/
def content? (tree : FileTree) (location : Location) : Option ByteArray :=
  match tree.entry? location with
  | some (.file content) => some content
  | _ => none

theorem contentOfFile {location : Location} {content : ByteArray}
    (isFile : tree.entry? location = some (.file content)) :
    tree.content? location = some content := by
  rw [content?, isFile]

theorem fileOfContent {location : Location} {content : ByteArray}
    (isContent : tree.content? location = some content) :
    tree.entry? location = some (.file content) := by
  rw [content?] at isContent
  split at isContent
  · rename_i isFile
    rw [isFile, Option.some.inj isContent]
  · cases isContent

theorem entryTop (tree : FileTree) : tree.entry? [] = some .directory := rfl

theorem entryBelow (tree : FileTree) {location : Location} (below : location ≠ []) :
    tree.entry? location = tree.entries.find? (key location) := by
  unfold entry?
  rw [if_neg (by simpa using below)]

theorem entryPutSame (tree : FileTree) {location : Location} (below : location ≠ [])
    (entry : FileEntry) : FileTree.entry? (tree.put location entry) location = some entry := by
  rw [entryBelow _ below, put, Table.findPutSame]

theorem entryPutOther (tree : FileTree) {location other : Location} (isProper : Proper location)
    (isOther : Proper other) (different : other ≠ location) (entry : FileEntry) :
    FileTree.entry? (tree.put location entry) other = tree.entry? other := by
  by_cases top : other = []
  · rw [top, entryTop, entryTop]
  · have differentKeys : key other ≠ key location := fun same =>
      different (keyInjective isOther isProper same)
    rw [entryBelow _ top, entryBelow _ top, put, Table.findPutOther _ _ _ _ differentKeys]

theorem entryEraseOther (tree : FileTree) {location other : Location} (isProper : Proper location)
    (isOther : Proper other) (different : other ≠ location) :
    FileTree.entry? (tree.erase location) other = tree.entry? other := by
  by_cases top : other = []
  · rw [top, entryTop, entryTop]
  · have differentKeys : key other ≠ key location := fun same =>
      different (keyInjective isOther isProper same)
    rw [entryBelow _ top, entryBelow _ top, erase, Table.findEraseOther _ _ _ differentKeys]

/-! ### Changes -/

/-- Files at other locations than the given ones stay as they are. -/
structure Confined (locations : Location → Prop) (before after : FileTree) : Prop where
  workingDirectory : after.workingDirectory = before.workingDirectory
  kept : ∀ location, Proper location → ¬locations location →
    after.content? location = before.content? location

/-- No file changes, but there may be new directories. -/
abbrev SameFiles : FileTree → FileTree → Prop := Confined fun _ => False

namespace Confined

variable {locations others : Location → Prop} {before middle : FileTree}

theorem refl (tree : FileTree) : Confined locations tree tree := ⟨rfl, fun _ _ _ => rfl⟩

theorem trans (first : Confined locations before middle)
    (second : Confined locations middle after) : Confined locations before after where
  workingDirectory := second.workingDirectory.trans first.workingDirectory
  kept location proper outside :=
    (second.kept location proper outside).trans (first.kept location proper outside)

theorem weaken (confined : Confined locations before after)
    (included : ∀ location, locations location → others location) :
    Confined others before after where
  workingDirectory := confined.workingDirectory
  kept location proper outside :=
    confined.kept location proper fun inside => outside (included location inside)

theorem location (confined : Confined locations before after) (path : Path) :
    after.location path = before.location path := by
  rw [FileTree.location, FileTree.location, start, start, confined.workingDirectory]

theorem proper (confined : Confined locations before after)
    (isProper : Proper before.workingDirectory) : Proper after.workingDirectory := by
  rw [confined.workingDirectory]
  exact isProper

end Confined

theorem putConfined (tree : FileTree) {location : Location} (isProper : Proper location)
    (entry : FileEntry) : Confined (· = location) tree (tree.put location entry) where
  workingDirectory := rfl
  kept other isOther different := by
    rw [content?, content?, entryPutOther tree isProper isOther different]

theorem eraseConfined (tree : FileTree) {location : Location} (isProper : Proper location) :
    Confined (· = location) tree (tree.erase location) where
  workingDirectory := rfl
  kept other isOther different := by
    rw [content?, content?, entryEraseOther tree isProper isOther different]

/-- A directory that is made where nothing was is no file. -/
theorem putDirectorySame (tree : FileTree) {location : Location} (isProper : Proper location)
    (vacant : tree.entry? location = none) : SameFiles tree (tree.put location .directory) where
  workingDirectory := rfl
  kept other isOther _ := by
    by_cases same : other = location
    · have below : location ≠ [] := fun top => by
        rw [top, entryTop] at vacant
        cases vacant
      rw [same, content?, content?, entryPutSame tree below, vacant]
    · rw [content?, content?, entryPutOther tree isProper isOther same]

/-! ### Reading -/

theorem statusDone {path : Path} {entry : FileEntry} (done : tree.status path = .ok entry) :
    tree.entry? (tree.location path) = some entry := by
  obtain ⟨location, located, done⟩ := okOfBind done
  rw [← locateLocation located]
  split at done
  · rename_i found
    rw [found, Except.ok.inj done]
  · cases done

theorem childrenDone {path : Path} {names : List String} (done : tree.children path = .ok names) :
    names = tree.entries.keys.filterMap (childName? (tree.location path)) := by
  obtain ⟨entry, -, done⟩ := okOfBind done
  split at done
  · cases done
  · obtain ⟨location, located, done⟩ := okOfBind done
    rw [← locateLocation located]
    exact (Except.ok.inj done).symm

theorem copyDone {origin target : Path} (done : tree.copy origin target = .ok after) :
    ∃ content, tree.content? (tree.location origin) = some content ∧
      tree.write target content = .ok after := by
  obtain ⟨entry, isEntry, done⟩ := okOfBind done
  split at done
  · cases done
  · exact ⟨_, contentOfFile (statusDone isEntry), done⟩

end FileTree

end DeskScript
