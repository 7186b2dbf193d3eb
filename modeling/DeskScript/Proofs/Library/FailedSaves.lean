/-
This file shows what a library is like after saves of scripts that cannot be written as documents.
The file is not written, but what was there is backed up first, and older backups make room for it.
-/

import DeskScript.Proofs.Library.SavePlaces

namespace DeskScript

/-! ### Reasons of failures -/

/-- An operation fails because of the files and not because of what is to be written. -/
def LibraryFault.IsOfFiles (fault : LibraryFault) : Prop := ∃ path cause, fault = .files path cause

namespace Library

open FileTree

variable {library : Library} {tree before middle after : FileTree} {path : Path}
  {now : Time.Timestamp}

theorem atFault {result : Type} {outcome : Except FileFault result} {fault : LibraryFault}
    (failed : FileTree.at_ path outcome = .error fault) : fault.IsOfFiles := by
  cases outcome with
  | error cause => exact ⟨path, cause, (Except.error.inj failed).symm⟩
  | ok value => cases failed

theorem backupsOfFault {fault : LibraryFault}
    (failed : library.backupsOf tree path = .error fault) : fault.IsOfFiles := by
  rw [backupsOf] at failed
  split at failed
  · cases failed
  · rcases errorOfBind failed with failed | ⟨names, -, failed⟩
    · exact atFault failed
    · cases failed

theorem backupFault {fault : LibraryFault}
    (failed : library.backup tree now path = (after, .error fault)) : fault.IsOfFiles := by
  rw [backup] at failed
  split at failed
  · exact ⟨_, _, (Except.error.inj (congrArg Prod.snd failed)).symm⟩
  dsimp only at failed
  split at failed
  · exact ⟨_, _, (Except.error.inj (congrArg Prod.snd failed)).symm⟩
  split at failed
  · rename_i isListed
    rw [← Except.error.inj (congrArg Prod.snd failed)]
    exact backupsOfFault isListed
  · cases congrArg Prod.snd failed

theorem makeRoomFault {fault : LibraryFault}
    (failed : ScriptFile.makeRoom tree path = (after, .error fault)) : fault.IsOfFiles := by
  rw [ScriptFile.makeRoom] at failed
  split at failed
  · cases failed
  · exact atFault (congrArg Prod.snd failed)

/-- A script that cannot be written as a document is refused before any file is written. -/
theorem writeRefused {script : Script} {place : Path} {fault : DocumentFault}
    (failed : ScriptFile.write tree script path = (after, .error (.document place fault))) :
    after = tree := by
  rw [ScriptFile.write] at failed
  split at failed
  · exact (congrArg Prod.fst failed).symm
  split at failed
  · rename_i isRoom
    obtain ⟨_, _, isOfFiles⟩ := makeRoomFault isRoom
    rw [isOfFiles] at failed
    cases congrArg Prod.snd failed
  split at failed
  · cases congrArg Prod.snd failed
  split at failed
  · cases congrArg Prod.snd failed
  · cases congrArg Prod.snd failed

/-! ### Failed saves -/

/-- A save to a path fails because the script cannot be written as a document. -/
inductive FailedSave (library : Library) (path : Path) (before after : FileTree) : Prop where
  | there {now : Time.Timestamp} {script : Script} {place : Path} {fault : DocumentFault}
      (failed : library.saveTo before now script path = (after, .error (.document place fault)))
  | named {now : Time.Timestamp} {script : Script} {place : Path} {fault : DocumentFault}
      (isPath : library.pathFor script .json = path)
      (failed : library.save before now script = (after, .error (.document place fault)))

/-- Saves to some paths fail one after the other. -/
inductive FailedSaves (library : Library) : List Path → FileTree → FileTree → Prop where
  | none (tree : FileTree) : FailedSaves library [] tree tree
  | save {path : Path} {paths : List Path} {before middle after : FileTree}
      (first : FailedSave library path before middle)
      (others : FailedSaves library paths middle after) :
      FailedSaves library (path :: paths) before after

/-- To save a script that is not valid fails once the backup is made. -/
theorem failedSaveOfInvalid {script : Script} {fault : StepFault}
    (isBackup : library.backupIfPresent before now path = (after, .ok ()))
    (invalid : script.validate = .error fault) : FailedSave library path before after := by
  have unsaved : Document.save script (ScriptFile.formatOf path) = .error (.invalid fault) := by
    rw [Document.save, invalid]
  have refused : library.saveTo before now script path =
      (after, .error (.document path (.invalid fault))) := by
    rw [saveTo, isBackup]
    dsimp only
    rw [ScriptFile.write, unsaved]
  exact .there refused

/-- A failed save has made the backup of what was at its path, and nothing else. -/
theorem FailedSave.backedUp (failed : FailedSave library path before after) :
    ∃ now, library.backupIfPresent before now path = (after, .ok ()) := by
  have saved {now : Time.Timestamp} {script : Script} {place : Path} {fault : DocumentFault}
      (failed : library.saveTo before now script path = (after, .error (.document place fault))) :
      library.backupIfPresent before now path = (after, .ok ()) := by
    rw [saveTo] at failed
    split at failed
    · rename_i isBackup
      rw [backupIfPresent] at isBackup
      split at isBackup
      · obtain ⟨_, _, isOfFiles⟩ := backupFault isBackup
        rw [isOfFiles] at failed
        cases congrArg Prod.snd failed
      · cases congrArg Prod.snd isBackup
    · rename_i isBackup
      rw [isBackup, writeRefused failed]
  cases failed with
  | @there now script place fault failed => exact ⟨now, saved failed⟩
  | @named now script place fault isPath failed =>
      rw [save, isPath] at failed
      refine ⟨now, ?_⟩
      rcases isSaved : library.saveTo before now script path with ⟨tree, outcome⟩
      rw [isSaved] at failed
      cases outcome with
      | ok done => cases congrArg Prod.snd failed
      | error reason =>
          have sameTree : tree = after := congrArg Prod.fst failed
          have sameReason : reason = .document place fault :=
            Except.error.inj (congrArg Prod.snd failed)
          rw [sameTree, sameReason] at isSaved
          exact saved isSaved

theorem FailedSave.confined (failed : FailedSave library path before after)
    (proper : Proper before.workingDirectory) :
    Confined (IsBackupPlace library before path) before after := by
  obtain ⟨now, isBackup⟩ := failed.backedUp
  have confined := backupIfPresentConfined library before now path proper
  rwa [isBackup] at confined

theorem FailedSave.same (failed : FailedSave library path before after)
    (vacant : before.exists_ path = false) : after = before := by
  obtain ⟨now, isBackup⟩ := failed.backedUp
  rw [backupIfPresent, vacant] at isBackup
  exact (congrArg Prod.fst isBackup).symm

/--
After any saves of scripts that cannot be written, all files are as they were but for backups of
what was at the paths of the saves. Where nothing was at these paths, the whole tree is as it was.
-/
theorem failedSavesKeep {paths : List Path} (saves : FailedSaves library paths before after) :
    (Proper before.workingDirectory →
      Confined (fun location => ∃ path ∈ paths, IsBackupPlace library before path location)
        before after) ∧
    ((∀ path ∈ paths, before.exists_ path = false) → after = before) := by
  induction saves with
  | none tree => exact ⟨fun _ => .refl tree, fun _ => rfl⟩
  | save first others inductionHypothesis =>
      constructor
      · intro proper
        have once := first.confined proper
        refine (once.weaken fun location place => ⟨_, List.mem_cons_self, place⟩).trans
          ((inductionHypothesis.1 (once.proper proper)).weaken ?_)
        rintro location ⟨path, member, place⟩
        exact ⟨path, List.mem_cons_of_mem _ member, place.moved once⟩
      · intro vacant
        have once := first.same (vacant _ List.mem_cons_self)
        rw [once] at inductionHypothesis
        exact inductionHypothesis.2 fun path member => vacant path (List.mem_cons_of_mem _ member)

/-! ### A backup that makes room -/

def notesPath : Path := ⟨"lib/notes.json"⟩

def freePath : Path := ⟨"lib/free.json"⟩

/-- This is the tree after a script was saved to a path and, a second later, another one. -/
def twiceSaved : FileTree :=
  let once := (smallLibrary.saveTo .empty .epoch (Script.new "first" "first" .epoch) notesPath).1
  (smallLibrary.saveTo once ⟨1, 0⟩ (Script.new "second" "second" .epoch) notesPath).1

/-- A script without a name is not valid. -/
def namelessScript : Script := Script.new "third" "" .epoch

theorem failedSavesKeepNameless :
    ∃ after, FailedSaves smallLibrary [freePath, freePath] twiceSaved after ∧
      after = twiceSaved := by
  have vacant : twiceSaved.exists_ freePath = false := by decide +kernel
  have noBackup :
      smallLibrary.backupIfPresent twiceSaved ⟨2, 0⟩ freePath = (twiceSaved, .ok ()) := by
    rw [backupIfPresent, vacant]
    rfl
  have invalid : namelessScript.validate = .error .emptyName := by rfl
  have first : FailedSave smallLibrary freePath twiceSaved twiceSaved :=
    failedSaveOfInvalid noBackup invalid
  have saves : FailedSaves smallLibrary [freePath, freePath] twiceSaved twiceSaved :=
    .save first (.save first (.none twiceSaved))
  have kept := failedSavesKeep saves
  exact ⟨twiceSaved, saves, kept.2 (by simpa using vacant)⟩

/-- The only backup of a file makes room for another one when a save fails. -/
theorem failedSaveEvicts :
    ∃ after, FailedSave smallLibrary notesPath twiceSaved after ∧
      (twiceSaved.content? ["lib", "backups", backupName notesPath ⟨1, 0⟩]).isSome = true ∧
      (after.content? ["lib", "backups", backupName notesPath ⟨1, 0⟩]).isNone = true := by
  have checked : (smallLibrary.backupIfPresent twiceSaved ⟨2, 0⟩ notesPath).2.toBool = true ∧
      (twiceSaved.content? ["lib", "backups", backupName notesPath ⟨1, 0⟩]).isSome = true ∧
      ((smallLibrary.backupIfPresent twiceSaved ⟨2, 0⟩ notesPath).1.content?
        ["lib", "backups", backupName notesPath ⟨1, 0⟩]).isNone = true := by decide +kernel
  have invalid : namelessScript.validate = .error .emptyName := by rfl
  rcases isResult : smallLibrary.backupIfPresent twiceSaved ⟨2, 0⟩ notesPath with ⟨after, outcome⟩
  rw [isResult] at checked
  obtain rfl : outcome = .ok () := okOfToBool checked.1
  exact ⟨after, failedSaveOfInvalid isResult invalid, checked.2⟩

end Library

end DeskScript
