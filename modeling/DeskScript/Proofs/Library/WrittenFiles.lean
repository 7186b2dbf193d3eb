/-
This file says which files change when a script is written to a file. The new content is written to
another file first, and what that file held before is lost.
-/

import DeskScript.Library.Basic
import DeskScript.Proofs.File.Entries

namespace DeskScript.ScriptFile

open FileTree

variable {tree after : FileTree} {script : Script} {path : Path}

/-! ### Steps of writing -/

theorem makeRoomEffect (tree : FileTree) (path : Path) (proper : Proper tree.workingDirectory) :
    Effect Nowhere (OnWay tree path) tree (makeRoom tree path).1 := by
  rw [makeRoom]
  split
  · exact .refl tree
  · rename_i parent isParent
    exact (makeDirectoriesEffect tree parent proper).weaken (fun _ => id) fun _ =>
      OnWay.ofParent (Option.filter_eq_some_iff.mp isParent).1

/-- Writing changes the file and the one that is written first, also if it fails. -/
theorem scriptEffect (tree : FileTree) (script : Script) (path : Path)
    (proper : Proper tree.workingDirectory) :
    Effect (fun location => location = tree.location (temporary path) ∨
      location = tree.location path) (OnWay tree path) tree (write tree script path).1 := by
  have room : Effect (fun location => location = tree.location (temporary path) ∨
      location = tree.location path) (OnWay tree path) tree (makeRoom tree path).1 :=
    (makeRoomEffect tree path proper).weaken (fun _ => False.elim) fun _ => id
  rw [write]
  split
  · exact .refl tree
  split
  · rename_i isMade
    rwa [isMade] at room
  rename_i made isMade
  rw [isMade] at room
  split
  · exact room
  rename_i middle isWritten
  have toWritten := room.trans ((writeEffect (room.proper proper) isWritten).weaken
    (fun _ same => .inl (same.trans (room.location _))) fun _ => False.elim)
  split
  · exact toWritten
  rename_i isRenamed
  have renamed := renameEffect (toWritten.proper proper) isRenamed
  rw [toWritten.location, toWritten.location] at renamed
  exact toWritten.trans (renamed.weaken (fun _ => id) fun _ => False.elim)

/-- A file that has been written and renamed holds its content under the new name only. -/
theorem writtenRenamed {made written : FileTree} {origin target : Path} {content : ByteArray}
    (proper : Proper made.workingDirectory) (isWritten : made.write origin content = .ok written)
    (isRenamed : written.rename origin target = .ok after) :
    after.locate target = .ok (made.location target) ∧
      after.entry? (made.location target) = some (.file content) ∧
      (made.location origin ≠ made.location target →
        after.entry? (made.location origin) = none) := by
  have toWritten := writeEffect proper isWritten
  have toRenamed := renameEffect (toWritten.proper proper) isRenamed
  obtain ⟨moved, isMoved, noDirectory, located, isAfter⟩ := renameParts isRenamed
  simp only [toWritten.location] at located noDirectory isMoved isAfter
  have belowOrigin : made.location origin ≠ [] := belowOfFile isMoved
  have belowTarget : made.location target ≠ [] := by
    intro top
    rw [top, entryTop] at noDirectory
    exact noDirectory rfl
  -- What is renamed is what has just been written.
  have same : moved = content := by
    rw [(writeParts isWritten).2.2, entryPutSame made belowOrigin] at isMoved
    exact (FileEntry.file.inj (Option.some.inj isMoved)).symm
  rw [same] at isAfter
  refine ⟨toRenamed.locate (toWritten.proper proper) located, ?_, fun different => ?_⟩
  · rw [isAfter, entryPutSame _ belowTarget]
  · rw [isAfter, entryPutOther _ (locationProper proper target) (locationProper proper origin)
      different, entryEraseSame _ belowOrigin]

/-! ### Written scripts -/

/-- This is what a tree of files is like after a script was written to a file. -/
structure Written (tree after : FileTree) (script : Script) (path : Path) (text : String) : Prop where
  saved : Document.save script (formatOf path) = .ok text
  effect : Effect (fun location => location = tree.location (temporary path) ∨
    location = tree.location path) (OnWay tree path) tree after
  located : after.locate path = .ok (tree.location path)
  isFile : after.entry? (tree.location path) = some (.file text.toUTF8)
  gone : tree.location (temporary path) ≠ tree.location path →
    after.entry? (tree.location (temporary path)) = none
  noDirectory : tree.entry? (tree.location (temporary path)) ≠ some .directory

theorem written (proper : Proper tree.workingDirectory)
    (done : write tree script path = (after, .ok ())) :
    ∃ text, Written tree after script path text := by
  have effect := scriptEffect tree script path proper
  rw [done] at effect
  rw [write] at done
  split at done
  · cases congrArg Prod.snd done
  rename_i text saved
  split at done
  · cases congrArg Prod.snd done
  rename_i made isMade
  have room := makeRoomEffect tree path proper
  rw [isMade] at room
  split at done
  · cases congrArg Prod.snd done
  rename_i middle isWritten
  split at done
  · cases congrArg Prod.snd done
  rename_i isRenamed
  obtain rfl : _ = after := congrArg Prod.fst done
  obtain ⟨located, isFile, gone⟩ := writtenRenamed (room.proper proper) isWritten isRenamed
  have noDirectory := (writeParts isWritten).2.1
  simp only [room.location] at located isFile gone noDirectory
  refine ⟨text, saved, effect, located, isFile, gone, fun isDirectory => ?_⟩
  exact noDirectory (room.directories _ (locationProper proper _) isDirectory)

namespace Written

variable {text : String}

theorem read (written : Written tree after script path text) :
    after.read path = .ok text.toUTF8 :=
  readOfFile written.located written.isFile

/-- At other locations files stay as they are, but for the one that is written first. -/
theorem contents (written : Written tree after script path text) {location : Location}
    (isProper : Proper location) (other : location ≠ tree.location path) :
    after.content? location =
      if location = tree.location (temporary path) then none else tree.content? location := by
  split
  · rename_i same
    rw [same] at other ⊢
    rw [content?, written.gone other]
  · rename_i notTemporary
    exact written.effect.kept location isProper (not_or.mpr ⟨notTemporary, other⟩)

end Written

/--
A script that is written to a file is found there. The file that is written first and then renamed
is gone, also if there was a file of that name before. Otherwise files stay as they are, and new
directories are on the way to the file. So a write changes its own file only exactly if no other
file has the name of the one that is written first.
-/
theorem writtenAlone (tree after : FileTree) (script : Script) (path : Path)
    (proper : Proper tree.workingDirectory) (done : write tree script path = (after, .ok ())) :
    (∃ text, Document.save script (formatOf path) = .ok text ∧
      after.read path = .ok text.toUTF8) ∧
    (∀ location, Proper location → location ≠ tree.location path →
      after.content? location =
        if location = tree.location (temporary path) then none else tree.content? location) ∧
    Effect (fun location => location = tree.location (temporary path) ∨
      location = tree.location path) (OnWay tree path) tree after ∧
    (Confined (· = tree.location path) tree after ↔
      tree.location (temporary path) = tree.location path ∨
        tree.content? (tree.location (temporary path)) = none) := by
  obtain ⟨text, written⟩ := written proper done
  refine ⟨⟨text, written.saved, written.read⟩, fun _ => written.contents, written.effect, ?_, ?_⟩
  · intro confined
    by_cases same : tree.location (temporary path) = tree.location path
    · exact .inl same
    · right
      rw [← confined.kept _ (locationProper proper _) same, content?, written.gone same]
  · intro nothingLost
    refine ⟨written.effect.workingDirectory, fun location isProper other => ?_⟩
    rw [written.contents isProper other]
    split
    · rename_i isTemporary
      rw [isTemporary] at other ⊢
      exact (nothingLost.resolve_left other).symm
    · rfl

def reportPath : Path := ⟨"out/notes.json"⟩

def greeting : Script := Script.new "greeter" "greeter" .epoch

/-- In this tree there is a file beside the one that a script is written to. -/
def besideTree (name : String) : FileTree where
  entries := .ofList [("out", .directory), (key ["out", name], .file "mine".toUTF8)]
  workingDirectory := []

theorem writtenAloneBeside :
    ∃ after, write (besideTree "notes.bak") greeting reportPath = (after, .ok ()) ∧
      Confined (· = ["out", "notes.json"]) (besideTree "notes.bak") after := by
  have checked : (write (besideTree "notes.bak") greeting reportPath).2.toBool = true ∧
      (besideTree "notes.bak").location reportPath = ["out", "notes.json"] ∧
      (besideTree "notes.bak").content?
        ((besideTree "notes.bak").location (temporary reportPath)) = none := by
    decide +kernel
  obtain ⟨isOk, isPlace, vacant⟩ := checked
  rcases isResult : write (besideTree "notes.bak") greeting reportPath with ⟨after, outcome⟩
  rw [isResult] at isOk
  obtain rfl : outcome = .ok () := okOfToBool isOk
  obtain ⟨-, -, -, alone⟩ := writtenAlone (besideTree "notes.bak") after greeting reportPath nofun
    isResult
  rw [isPlace] at alone
  exact ⟨after, rfl, alone.mpr (.inr vacant)⟩

/-- A file beside the written one is lost. -/
theorem besideLost :
    (write (besideTree "notes.tmp") greeting reportPath).2.toBool = true ∧
    (besideTree "notes.tmp").location reportPath ≠ ["out", "notes.tmp"] ∧
    (besideTree "notes.tmp").content? ["out", "notes.tmp"] = some "mine".toUTF8 ∧
    (write (besideTree "notes.tmp") greeting reportPath).1.content? ["out", "notes.tmp"] = none := by
  decide +kernel

end DeskScript.ScriptFile
