/-
This file shows which backups of a file stay as they are while other files of the library are saved
and deleted. Backups are told apart by the stems of their files alone.
-/

import DeskScript.Proofs.Library.FailedSaves

namespace DeskScript.Library

open FileTree

variable {library : Library} {tree : FileTree} {path owner : Path}

/-! ### Changes of files -/

/-- A library saves a script to a path, or it deletes the file at a path. -/
inductive Change where
  | save (now : Time.Timestamp) (script : Script) (path : Path)
  | delete (now : Time.Timestamp) (path : Path) (keepBackup : Bool)

def Change.target : Change → Path
  | .save _ _ path => path
  | .delete _ path _ => path

/-- This is the tree after a change, which may have failed. -/
def changed (library : Library) (tree : FileTree) : Change → FileTree
  | .save now script path => (library.saveTo tree now script path).1
  | .delete now path keepBackup => (library.delete tree now path keepBackup).1

theorem changedConfined (library : Library) (tree : FileTree) (change : Change)
    (proper : Proper tree.workingDirectory) :
    Confined (IsPlaceOf library tree change.target) tree (library.changed tree change) := by
  cases change with
  | save now script path => exact saveToConfined library tree now script path proper
  | delete now path keepBackup => exact deleteConfined library tree now path keepBackup proper

/-- A place of a file is still one after changes elsewhere. -/
theorem IsPlaceOf.moved {locations : Location → Prop} {before after : FileTree}
    {location : Location} (confined : Confined locations before after)
    (place : IsPlaceOf library after path location) :
    IsPlaceOf library before path location := by
  rw [IsPlaceOf, confined.location, confined.location] at place
  exact place.imp_right (Or.imp_right fun backup => backup.moved confined)

theorem allChangedConfined (library : Library) (tree : FileTree) (changes : List Change)
    (proper : Proper tree.workingDirectory) :
    Confined (fun location => ∃ change ∈ changes, IsPlaceOf library tree change.target location)
      tree (changes.foldl library.changed tree) := by
  induction changes generalizing tree with
  | nil => exact .refl tree
  | cons change others inductionHypothesis =>
      have once := changedConfined library tree change proper
      refine (once.weaken fun location place => ⟨change, List.mem_cons_self, place⟩).trans
        ((inductionHypothesis _ (once.proper proper)).weaken ?_)
      rintro location ⟨other, member, place⟩
      exact ⟨other, List.mem_cons_of_mem _ member, place.moved once⟩

/-! ### Names of other files -/

/-- The backups of a file are never taken for those of a file at another path. -/
structure NameApart (path owner : Path) : Prop where
  start : ¬(backupPrefix path).toList <+: (backupPrefix owner).toList
  extension : ¬backupMark <:+: backupExtension owner

theorem NameApart.noStart (apart : NameApart path owner) (made : Time.Timestamp) :
    ¬(backupPrefix path).toList <+: (backupName owner made).toList := by
  intro starts
  rcases startOfBackupName starts with start | extension
  · exact apart.start start
  · exact apart.extension extension

theorem NameApart.notListed (apart : NameApart path owner) (made : Time.Timestamp)
    {listed : List Path} (done : library.backupsOf tree path = .ok listed) :
    library.backupPath owner made ∉ listed := by
  intro member
  obtain ⟨name, isName, starts, same⟩ := backupsOfDone done _ member
  have sameName : backupName owner made = name :=
    Path.joinInjective (backupNameIsName owner made).relative isName.relative same
  exact apart.noStart made (sameName ▸ starts)

/-- A backup is listed for every path whose backups start like it. -/
theorem presentListed {made : Time.Timestamp} {listed : List Path}
    (proper : Proper tree.workingDirectory)
    (starts : (backupPrefix path).toList <+: (backupName owner made).toList)
    (isDirectory : tree.exists_ library.backupDirectory = true)
    (present : (tree.content? (tree.location (library.backupPath owner made))).isSome = true)
    (done : library.backupsOf tree path = .ok listed) :
    library.backupPath owner made ∈ listed := by
  rw [backupsOf, isDirectory] at done
  obtain ⟨names, children, done⟩ := okOfBind done
  rw [← Except.ok.inj done, childrenDone (okOfMapError children)]
  refine List.mem_map.mpr ⟨backupName owner made, List.mem_filter.mpr ⟨?_, ?_⟩, rfl⟩
  · rw [backupPathLocation] at present
    obtain ⟨content, isContent⟩ := Option.isSome_iff_exists.mp present
    have isEntry := fileOfContent isContent
    rw [entryBelow tree (List.append_ne_nil_of_right_ne_nil _ (List.cons_ne_nil _ _))] at isEntry
    exact List.mem_filterMap.mpr ⟨_, Table.keyOfFound isEntry,
      childOfKey ((locationProper proper _).append (backupNameIsName owner made))⟩
  · exact (startsWithIff _ _).mpr starts

/-! ### Backups that are kept -/

/-- A file is outside the directory of backups and is named so that its backups are its own. -/
structure Apart (library : Library) (tree : FileTree) (path owner : Path) : Prop where
  name : NameApart path owner
  outside : ∀ name, tree.location path ≠ tree.location library.backupDirectory ++ [name]

theorem Apart.noPlace (apart : Apart library tree path owner) (made : Time.Timestamp) :
    ¬IsPlaceOf library tree path (tree.location (library.backupPath owner made)) := by
  rw [backupPathLocation]
  rintro (same | same | ⟨name, -, starts, same⟩)
  · exact apart.outside _ same.symm
  · rcases tree.locationExtension path (by decide : "tmp" ≠ "") (by decide : '/' ∉ "tmp".toList)
      with kept | ⟨directory, last, other, -, -, isPath, isTemporary⟩
    · rw [ScriptFile.temporary, kept] at same
      exact apart.outside _ same.symm
    · rw [ScriptFile.temporary, isTemporary] at same
      have sameDirectory := (List.append_inj' same rfl).1
      exact apart.outside last (by rw [isPath, sameDirectory])
  · have sameName : backupName owner made = name :=
      List.singleton_inj.mp (List.append_cancel_left same)
    exact apart.name.noStart made (sameName ▸ starts)

/--
While files are saved and deleted that are apart from a file, the backups of this file stay as they
are, and none of them is listed for one of the others. Every file whose backups start like those of
this file lists them all.
-/
theorem backupsKept (library : Library) (before : FileTree) (owner : Path) (made : Time.Timestamp)
    (proper : Proper before.workingDirectory) :
    (∀ changes : List Change, (∀ change ∈ changes, Apart library before change.target owner) →
      (changes.foldl library.changed before).content?
          (before.location (library.backupPath owner made)) =
        before.content? (before.location (library.backupPath owner made)) ∧
      ∀ change ∈ changes, ∀ listed,
        library.backupsOf (changes.foldl library.changed before) change.target = .ok listed →
          library.backupPath owner made ∉ listed) ∧
    ∀ path listed, (backupPrefix path).toList <+: (backupPrefix owner).toList →
      before.exists_ library.backupDirectory = true →
      (before.content? (before.location (library.backupPath owner made))).isSome = true →
      library.backupsOf before path = .ok listed → library.backupPath owner made ∈ listed := by
  constructor
  · intro changes apart
    constructor
    · refine (allChangedConfined library before changes proper).kept _ (locationProper proper _) ?_
      rintro ⟨change, member, place⟩
      exact (apart change member).noPlace made place
    · intro change member listed done
      exact (apart change member).name.notListed made done
  · intro path listed starts isDirectory present done
    exact presentListed proper (starts.trans (backupNameStarts owner made)) isDirectory present done

/-- These two files differ in their extensions only. -/
def yamlNotes : Path := ⟨"lib/notes.yaml"⟩

/-- This is the tree after two files were saved and the one in YAML was saved again. -/
def bothSaved : FileTree :=
  [.save .epoch (Script.new "first" "first" .epoch) yamlNotes,
    .save .epoch (Script.new "other" "other" .epoch) notesPath,
    .save ⟨1, 0⟩ (Script.new "second" "second" .epoch) yamlNotes].foldl smallLibrary.changed .empty

/-- The stem of this file is the beginning of the stem of the others. -/
def shortNotes : Path := ⟨"lib/note.json"⟩

theorem shortNotesApart (tree : FileTree) (workingDirectory : tree.workingDirectory = []) :
    Apart smallLibrary tree shortNotes yamlNotes where
  name := ⟨by decide +kernel, by decide +kernel⟩
  outside name same := by
    have place : tree.location shortNotes = ["lib", "note.json"] := by
      rw [location, start, workingDirectory, ite_self]
      decide +kernel
    have long := congrArg List.length same
    rw [backupDirectoryLocation, place] at long
    have root : tree.location smallLibrary.root = ["lib"] := by
      rw [location, start, workingDirectory, ite_self]
      decide +kernel
    rw [root] at long
    exact absurd long (by simp)

theorem backupsKeptShort :
    Proper bothSaved.workingDirectory ∧
    ([.save ⟨2, 0⟩ (Script.new "new" "new" .epoch) shortNotes, .delete ⟨3, 0⟩ shortNotes true].foldl
        smallLibrary.changed bothSaved).content?
          (bothSaved.location (smallLibrary.backupPath yamlNotes ⟨1, 0⟩)) =
      bothSaved.content? (bothSaved.location (smallLibrary.backupPath yamlNotes ⟨1, 0⟩)) := by
  have confined : Confined _ .empty bothSaved := allChangedConfined smallLibrary .empty _ nofun
  have proper : Proper bothSaved.workingDirectory := confined.proper nofun
  have apart := shortNotesApart bothSaved confined.workingDirectory
  have kept := backupsKept smallLibrary bothSaved yamlNotes ⟨1, 0⟩ proper
  refine ⟨proper, (kept.1 _ ?_).1⟩
  simpa [Change.target] using apart

/-- A save to one file removes the backup of another file and lists its own backup for it. -/
theorem backupOfOtherRemoved :
    let after :=
      smallLibrary.changed bothSaved (.save ⟨2, 0⟩ (Script.new "new" "new" .epoch) notesPath)
    yamlNotes ≠ notesPath ∧
    (bothSaved.content? ["lib", "backups", backupName yamlNotes ⟨1, 0⟩]).isSome = true ∧
    (after.content? ["lib", "backups", backupName yamlNotes ⟨1, 0⟩]).isNone = true ∧
    (smallLibrary.backupsOf after yamlNotes).toOption =
      some [smallLibrary.backupPath notesPath ⟨2, 0⟩] := by
  decide +kernel

end DeskScript.Library
