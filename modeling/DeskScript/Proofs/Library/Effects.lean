/-
This file says which files a library changes when it backs up, saves and deletes.
-/

import DeskScript.Proofs.Library.BackupNames
import DeskScript.Proofs.Library.WrittenFiles

namespace DeskScript

/-- What a directory lists are segments of keys. -/
theorem FileTree.childNoSlash {directory : Location} {key name : String}
    (isChild : childName? directory key = some name) : '/' ∉ name.toList := by
  rw [childName?] at isChild
  split at isChild
  · exact Path.segmentWithoutSlash (List.mem_of_getLast? isChild)
  · cases isChild

/-- A file below a directory is listed there. -/
theorem FileTree.childOfKey {directory : Location} {name : String}
    (proper : Proper (directory ++ [name])) :
    childName? directory (key (directory ++ [name])) = some name := by
  rw [childName?, segmentsKey proper (List.append_ne_nil_of_right_ne_nil _ (List.cons_ne_nil _ _))]
  simp

namespace Library

open FileTree

variable {library : Library} {tree before after : FileTree} {path : Path}

/-! ### Places of backups -/

theorem backupDirectoryLocation (library : Library) (tree : FileTree) :
    tree.location library.backupDirectory = tree.location library.root ++ ["backups"] :=
  tree.locationJoin library.root ⟨by decide, by decide, by decide, by decide⟩

theorem backupPathLocation (library : Library) (tree : FileTree) (path : Path)
    (now : Time.Timestamp) :
    tree.location (library.backupPath path now) =
      tree.location library.backupDirectory ++ [backupName path now] :=
  tree.locationJoin library.backupDirectory (backupNameIsName path now)

/-- These locations are taken for backups of a file. -/
def IsBackupPlace (library : Library) (tree : FileTree) (path : Path) (location : Location) :
    Prop :=
  ∃ name : String, IsName name ∧ (backupPrefix path).toList <+: name.toList ∧
    location = tree.location library.backupDirectory ++ [name]

theorem backupPathPlace (library : Library) (tree : FileTree) (path : Path) (now : Time.Timestamp) :
    IsBackupPlace library tree path (tree.location (library.backupPath path now)) :=
  ⟨backupName path now, backupNameIsName path now, backupNameStarts path now,
    backupPathLocation library tree path now⟩

theorem IsBackupPlace.moved {locations : Location → Prop} {location : Location}
    (confined : Confined locations before after)
    (place : IsBackupPlace library after path location) :
    IsBackupPlace library before path location := by
  obtain ⟨name, isName, starts, isPlace⟩ := place
  exact ⟨name, isName, starts, by rw [isPlace, confined.location]⟩

/-! ### Lists of backups -/

/-- What is listed as a backup is a name in the directory of backups that starts like one. -/
theorem backupsOfDone {listed : List Path} (done : library.backupsOf tree path = .ok listed) :
    ∀ backup ∈ listed, ∃ name : String, IsName name ∧
      (backupPrefix path).toList <+: name.toList ∧ backup = library.backupDirectory.join name := by
  intro backup member
  rw [backupsOf] at done
  split at done
  · rw [← Except.ok.inj done] at member
    exact absurd member List.not_mem_nil
  · obtain ⟨names, children, done⟩ := okOfBind done
    rw [← Except.ok.inj done] at member
    obtain ⟨name, inside, rfl⟩ := List.mem_map.mp member
    obtain ⟨isChild, starts⟩ := List.mem_filter.mp inside
    rw [startsWithIff] at starts
    rw [childrenDone (okOfMapError children)] at isChild
    obtain ⟨key, -, isChild⟩ := List.mem_filterMap.mp isChild
    exact ⟨name, isNameOfStart starts (childNoSlash isChild), starts, rfl⟩

/-! ### Effects on files -/

/-- Removing files changes no others, also where it fails. -/
theorem removedEffect {locations : Location → Prop} (tree : FileTree) (backups : List Path)
    (proper : Proper tree.workingDirectory)
    (inside : ∀ backup ∈ backups, locations (tree.location backup)) :
    Effect locations Nowhere tree (backups.foldl removeIfPossible tree) := by
  induction backups generalizing tree with
  | nil => exact .refl tree
  | cons backup rest inductionHypothesis =>
      have first : Effect locations Nowhere tree (removeIfPossible tree backup) := by
        rw [removeIfPossible]
        split
        · rename_i removed
          refine (removeEffect proper removed).weaken (fun location same => ?_) fun _ => id
          rw [same]
          exact inside backup List.mem_cons_self
        · exact .refl tree
      refine first.trans (inductionHypothesis _ (first.proper proper) fun other member => ?_)
      rw [first.location]
      exact inside other (List.mem_cons_of_mem _ member)

theorem pruneEffect {listed : List Path} (proper : Proper tree.workingDirectory)
    (done : library.backupsOf tree path = .ok listed) :
    Effect (IsBackupPlace library tree path) Nowhere tree (library.prune tree listed) := by
  refine removedEffect tree _ proper fun backup member => ?_
  obtain ⟨name, isName, starts, rfl⟩ := backupsOfDone done backup (List.mem_of_mem_take member)
  exact ⟨name, isName, starts, tree.locationJoin _ isName⟩

/-- A backup changes only backups of its file and makes their directory, also if it fails. -/
theorem backupEffect (library : Library) (tree : FileTree) (now : Time.Timestamp) (path : Path)
    (proper : Proper tree.workingDirectory) :
    Effect (IsBackupPlace library tree path) (OnWay tree library.backupDirectory) tree
      (library.backup tree now path).1 := by
  have made : Effect (IsBackupPlace library tree path) (OnWay tree library.backupDirectory) tree
      (tree.makeDirectories library.backupDirectory).1 :=
    (makeDirectoriesEffect tree library.backupDirectory proper).weaken (fun _ => False.elim)
      fun _ => id
  rw [backup]
  split
  · rename_i isMade
    rwa [isMade] at made
  rename_i room isMade
  rw [isMade] at made
  dsimp only
  split
  · exact made
  rename_i copied isCopied
  have toCopied : Effect (IsBackupPlace library tree path) (OnWay tree library.backupDirectory)
      tree copied := by
    refine made.trans ((copyEffect (made.proper proper) isCopied).weaken (fun location same => ?_)
      fun _ => False.elim)
    rw [same]
    exact (backupPathPlace library room path now).moved made.toConfined
  split
  · exact toCopied
  · rename_i isListed
    exact toCopied.trans ((pruneEffect (toCopied.proper proper) isListed).weaken
      (fun location place => place.moved toCopied.toConfined) fun _ => False.elim)

theorem backupConfined (library : Library) (tree : FileTree) (now : Time.Timestamp) (path : Path)
    (proper : Proper tree.workingDirectory) :
    Confined (IsBackupPlace library tree path) tree (library.backup tree now path).1 :=
  (backupEffect library tree now path proper).toConfined

theorem backupIfPresentEffect (library : Library) (tree : FileTree) (now : Time.Timestamp)
    (path : Path) (proper : Proper tree.workingDirectory) :
    Effect (IsBackupPlace library tree path) (OnWay tree library.backupDirectory) tree
      (library.backupIfPresent tree now path).1 := by
  rw [backupIfPresent]
  split
  · exact backupEffect library tree now path proper
  · exact .refl tree

theorem backupIfPresentConfined (library : Library) (tree : FileTree) (now : Time.Timestamp)
    (path : Path) (proper : Proper tree.workingDirectory) :
    Confined (IsBackupPlace library tree path) tree (library.backupIfPresent tree now path).1 :=
  (backupIfPresentEffect library tree now path proper).toConfined

/-- These are the places of a file, of the file that is written first, and of its backups. -/
def IsPlaceOf (library : Library) (tree : FileTree) (path : Path) (location : Location) : Prop :=
  location = tree.location path ∨ location = tree.location (ScriptFile.temporary path) ∨
    IsBackupPlace library tree path location

theorem saveToConfined (library : Library) (tree : FileTree) (now : Time.Timestamp)
    (script : Script) (path : Path) (proper : Proper tree.workingDirectory) :
    Confined (IsPlaceOf library tree path) tree (library.saveTo tree now script path).1 := by
  have backedUp : Confined (IsPlaceOf library tree path) tree
      (library.backupIfPresent tree now path).1 :=
    (backupIfPresentConfined library tree now path proper).weaken fun _ place => .inr (.inr place)
  rw [saveTo]
  split
  · rename_i isBackedUp
    rwa [isBackedUp] at backedUp
  · rename_i middle isBackedUp
    rw [isBackedUp] at backedUp
    have written := (ScriptFile.scriptEffect middle script path (backedUp.proper proper)).toConfined
    rw [backedUp.location, backedUp.location] at written
    exact backedUp.trans (written.weaken fun _ place => place.symm.imp_right .inl)

theorem saveToParts {script : Script} {now : Time.Timestamp}
    (done : library.saveTo tree now script path = (after, .ok ())) :
    ∃ middle, library.backupIfPresent tree now path = (middle, .ok ()) ∧
      ScriptFile.write middle script path = (after, .ok ()) := by
  rw [saveTo] at done
  split at done
  · cases congrArg Prod.snd done
  · rename_i middle isBackedUp
    exact ⟨middle, isBackedUp, done⟩

theorem saveTree (library : Library) (tree : FileTree) (now : Time.Timestamp) (script : Script) :
    (library.save tree now script).1 =
      (library.saveTo tree now script (library.pathFor script .json)).1 := by
  rw [save]

theorem deleteConfined (library : Library) (tree : FileTree) (now : Time.Timestamp) (path : Path)
    (keepBackup : Bool) (proper : Proper tree.workingDirectory) :
    Confined (IsPlaceOf library tree path) tree (library.delete tree now path keepBackup).1 := by
  have backedUp : Confined (IsPlaceOf library tree path) tree
      (if keepBackup then library.backup tree now path else (tree, .ok ())).1 := by
    split
    · exact (backupConfined library tree now path proper).weaken fun _ place => .inr (.inr place)
    · exact .refl tree
  rw [delete]
  split
  · exact .refl tree
  split
  · rename_i isBackedUp
    rwa [isBackedUp] at backedUp
  · rename_i middle isBackedUp
    rw [isBackedUp] at backedUp
    split
    · rename_i isRemoved
      have removed := (removeEffect (backedUp.proper proper) isRemoved).toConfined
      rw [backedUp.location] at removed
      exact backedUp.trans (removed.weaken fun _ => .inl)
    · exact backedUp

/-- What is deleted is backed up before it is removed. -/
theorem deleteParts {now : Time.Timestamp} {wasThere : Bool}
    (done : library.delete tree now path true = (after, .ok wasThere)) :
    (tree.exists_ path = false ∧ tree = after) ∨
      ∃ middle, library.backupIfPresent tree now path = (middle, .ok ()) ∧
        middle.remove path = .ok after := by
  rw [delete] at done
  split at done
  · rename_i absent
    exact .inl ⟨by simpa using absent, congrArg Prod.fst done⟩
  rename_i present
  split at done
  · cases congrArg Prod.snd done
  rename_i middle isBackedUp
  have backedUp : library.backupIfPresent tree now path = (middle, .ok ()) := by
    rw [backupIfPresent, if_pos (by simpa using present)]
    exact isBackedUp
  split at done
  · rename_i isRemoved
    obtain rfl : _ = after := congrArg Prod.fst done
    exact .inr ⟨middle, backedUp, isRemoved⟩
  · cases congrArg Prod.snd done

end Library

end DeskScript
