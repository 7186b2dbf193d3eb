/-
This file tells which scripts of a library have files of their own. A file is named for what is left
of the name of its script and for the start of its identity, and other scripts can have the same.
-/

import DeskScript.Proofs.Document.SaveLoad
import DeskScript.Proofs.Library.SavePlaces
import DeskScript.Proofs.Library.WrittenFiles

namespace DeskScript.Library

open FileTree

variable {library : Library} {tree after : FileTree} {first second script : Script}
  {path : Path} {now : Time.Timestamp}

/-! ### Names of files -/

/-- This is the name of the file of a script without its extension. -/
def storedName (script : Script) : List Char :=
  script.name.toList.map nameCharacter ++ '_' :: shortId script.id

theorem fileNameStored (script : Script) (format : DocumentFormat) :
    (fileName script format).toList = storedName script ++ '.' :: format.extension.toList := by
  rw [fileNameCharacters, storedName]

theorem pathForIff (library : Library) (first second : Script) (format : DocumentFormat) :
    library.pathFor first format = library.pathFor second format ↔
      storedName first = storedName second := by
  constructor
  · intro same
    have sameName := Path.joinInjective (fileNameRelative first format)
      (fileNameRelative second format) same
    have characters := congrArg String.toList sameName
    rw [fileNameStored, fileNameStored] at characters
    exact List.append_cancel_right characters
  · intro same
    have sameName : fileName first format = fileName second format := by
      rw [← String.toList_inj, fileNameStored, fileNameStored, same]
    rw [pathFor, pathFor, sameName]

theorem pathForSplit (format : DocumentFormat) :
    Path.splitName (fileName script format).toList =
      (storedName script, some format.extension.toList) := by
  have written : storedName script ≠ [] :=
    List.append_ne_nil_of_right_ne_nil _ (List.cons_ne_nil _ _)
  rw [fileNameStored]
  exact Path.splitNameOf written (by cases format <;> decide)

section Plain

variable (plain : '/' ∉ shortId script.id)

include plain

theorem pathForName (library : Library) (format : DocumentFormat) :
    (library.pathFor script format).fileName? = some (fileName script format) :=
  Path.fileNameOfJoin library.root (fileNameIsName script format plain)

/-- A file is read in the format for which it is named. -/
theorem formatOfPathFor (library : Library) (format : DocumentFormat) :
    ScriptFile.formatOf (library.pathFor script format) = format := by
  rw [ScriptFile.formatOf, Path.extension?, pathForName plain, Option.bind_some,
    pathForSplit, Option.map_some, String.ofList_toList]
  cases format <;> decide

theorem pathForLocation (library : Library) (tree : FileTree) (format : DocumentFormat) :
    tree.location (library.pathFor script format) =
      tree.location library.root ++ [fileName script format] :=
  tree.locationJoin library.root (fileNameIsName script format plain)

theorem temporaryLocation (library : Library) (tree : FileTree) (format : DocumentFormat) :
    ∃ other : String, other.toList = storedName script ++ '.' :: "tmp".toList ∧
      tree.location (ScriptFile.temporary (library.pathFor script format)) =
        tree.location library.root ++ [other] := by
  obtain ⟨directory, other, -, -, isOther, isPath, isTemporary⟩ :=
    tree.locationStem (pathForName plain library format) (by decide : "tmp" ≠ "")
      (by decide : '/' ∉ "tmp".toList)
  rw [pathForSplit] at isOther
  rw [pathForLocation plain] at isPath
  refine ⟨other, isOther, ?_⟩
  rw [ScriptFile.temporary, isTemporary, (List.append_inj' isPath rfl).1]

end Plain

/-! ### Files of other scripts -/

/-- The files of two scripts are right in the root, and their names differ. -/
structure StoredApart (first second : Script) : Prop where
  names : storedName first ≠ storedName second
  firstPlain : '/' ∉ shortId first.id
  secondPlain : '/' ∉ shortId second.id

/-- A script does not have its file where another one is saved. -/
theorem StoredApart.noPlace (apart : StoredApart first second) (library : Library)
    (tree : FileTree) (format : DocumentFormat) :
    ¬IsPlaceOf library tree (library.pathFor second .json)
      (tree.location (library.pathFor first format)) := by
  rw [pathForLocation apart.firstPlain]
  rintro (same | same | ⟨name, -, -, same⟩)
  · rw [pathForLocation apart.secondPlain] at same
    have sameName := List.singleton_inj.mp (List.append_cancel_left same)
    have characters := congrArg (Path.splitName ∘ String.toList) sameName
    simp only [Function.comp_apply, pathForSplit] at characters
    exact apart.names (congrArg Prod.fst characters)
  · -- The file that is written first has none of the extensions of documents.
    obtain ⟨other, isOther, isTemporary⟩ :=
      temporaryLocation apart.secondPlain library tree .json
    rw [isTemporary] at same
    have sameName := List.singleton_inj.mp (List.append_cancel_left same)
    have last := congrArg List.getLast? (congrArg String.toList sameName)
    rw [isOther, fileNameStored, List.getLast?_append, List.getLast?_append] at last
    cases format <;> simp [DocumentFormat.extension] at last
  · have long := congrArg List.length same
    rw [backupDirectoryLocation] at long
    simp at long

/-- A script is written to the file that is named for it. -/
theorem savedParts (done : library.save tree now script = (after, .ok path)) :
    path = library.pathFor script .json ∧
      ∃ middle, library.backupIfPresent tree now path = (middle, .ok ()) ∧
        ScriptFile.write middle script path = (after, .ok ()) := by
  rw [save] at done
  rcases isSaved : library.saveTo tree now script (library.pathFor script .json) with
    ⟨saved, outcome⟩
  rw [isSaved] at done
  obtain ⟨_, rfl, isPath⟩ := okOfMap (congrArg Prod.snd done)
  obtain rfl : saved = after := congrArg Prod.fst done
  rw [← isPath]
  exact ⟨rfl, saveToParts isSaved⟩

theorem savedProper (proper : Proper tree.workingDirectory)
    (done : library.save tree now script = (after, .ok path)) : Proper after.workingDirectory := by
  have confined :=
    saveToConfined library tree now script (library.pathFor script .json) proper
  rw [← saveTree, done] at confined
  exact confined.proper proper

/-- What is saved of a script is loaded as the same script. -/
structure Reloads (script : Script) : Prop where
  valid : script.validate = .ok ()
  created : script.createdAt.IsKnown
  updated : script.updatedAt.IsKnown
  metadata : script.HasCleanMetadata
  nested : (Document.envelope script).nesting ≤ 127

theorem Reloads.read (reloads : Reloads script)
    (isRead : tree.read path = .ok (Document.print .json (Document.envelope script)).toUTF8)
    (ids : IdSource) (now : Time.Timestamp) :
    ScriptFile.read tree ids now path = .ok (script, ids) := by
  have loaded := Document.loadPrinted script .json ids now reloads.valid reloads.created
    reloads.updated reloads.metadata nofun reloads.nested
  rw [ScriptFile.read, isRead]
  dsimp only
  rw [loaded]
  rfl

/-- A script that has been saved is found in its file. -/
theorem readSaved (valid : script.validate = .ok ()) (plain : '/' ∉ shortId script.id)
    (proper : Proper tree.workingDirectory)
    (done : library.save tree now script = (after, .ok path)) :
    after.read path = .ok (Document.print .json (Document.envelope script)).toUTF8 := by
  obtain ⟨rfl, middle, isBackedUp, isWritten⟩ := savedParts done
  have backedUp := backupIfPresentConfined library tree now (library.pathFor script .json) proper
  rw [isBackedUp] at backedUp
  obtain ⟨text, written⟩ := ScriptFile.written (backedUp.proper proper) isWritten
  have saved := written.saved
  rw [formatOfPathFor plain, Document.saveValid script .json valid] at saved
  rw [written.read, ← Except.ok.inj saved]

/-- What is read from the file of a script is still read when another script has been saved. -/
theorem StoredApart.readKept {content : ByteArray} (apart : StoredApart first second)
    (proper : Proper tree.workingDirectory)
    (isRead : tree.read (library.pathFor first .json) = .ok content)
    (done : library.save tree now second = (after, .ok path)) :
    after.read (library.pathFor first .json) = .ok content := by
  obtain ⟨rfl, middle, isBackedUp, isWritten⟩ := savedParts done
  obtain ⟨notFile, notTemporary, notBackup⟩ :
      tree.location (library.pathFor first .json) ≠ tree.location (library.pathFor second .json) ∧
      tree.location (library.pathFor first .json) ≠
        tree.location (ScriptFile.temporary (library.pathFor second .json)) ∧
      ¬IsBackupPlace library tree (library.pathFor second .json)
        (tree.location (library.pathFor first .json)) := by
    have noPlace := apart.noPlace library tree .json
    rwa [IsPlaceOf, not_or, not_or] at noPlace
  have backedUp := backupIfPresentEffect library tree now (library.pathFor second .json) proper
  rw [isBackedUp] at backedUp
  obtain ⟨text, written⟩ := ScriptFile.written (backedUp.proper proper) isWritten
  refine written.effect.read (backedUp.proper proper) ?_ (backedUp.read proper notBackup isRead)
  rw [backedUp.location, backedUp.location, backedUp.location]
  exact not_or.mpr ⟨notTemporary, notFile⟩

/--
Two scripts have the same file exactly if their files have the same names. If the names differ and
hold no slash, then a script that is saved leaves the files of the other one as they are, and both
are loaded from their files after they have been saved.
-/
theorem storedSideBySide (library : Library) (first second : Script) :
    (∀ format, library.pathFor first format = library.pathFor second format ↔
      storedName first = storedName second) ∧
    (StoredApart first second → ∀ start : FileTree, Proper start.workingDirectory →
      (∀ now format, FileTree.content? (library.save start now second).1
          (start.location (library.pathFor first format)) =
        start.content? (start.location (library.pathFor first format))) ∧
      (Reloads first → Reloads second →
        ∀ firstTime secondTime middle after firstPath secondPath,
          library.save start firstTime first = (middle, .ok firstPath) →
          library.save middle secondTime second = (after, .ok secondPath) →
          ∀ ids now, ScriptFile.read after ids now firstPath = .ok (first, ids) ∧
            ScriptFile.read after ids now secondPath = .ok (second, ids))) := by
  refine ⟨pathForIff library first second, fun apart start proper => ⟨fun now format => ?_, ?_⟩⟩
  · rw [saveTree]
    exact (saveToConfined library start now second _ proper).kept _ (locationProper proper _)
      (apart.noPlace library start format)
  · intro isFirst isSecond firstTime secondTime middle after firstPath secondPath firstDone
      secondDone ids now
    have properMiddle := savedProper proper firstDone
    have firstRead := readSaved isFirst.valid apart.firstPlain proper firstDone
    rw [(savedParts firstDone).1] at firstRead ⊢
    exact ⟨isFirst.read (apart.readKept properMiddle firstRead secondDone) ids now,
      isSecond.read (readSaved isSecond.valid apart.secondPlain properMiddle secondDone) ids now⟩

/-- Two saves one after the other are done if both answer with a path. -/
theorem savedInTurn {later : Time.Timestamp}
    (isOnce : (library.save tree now first).2.toBool = true)
    (isTwice : (library.save (library.save tree now first).1 later second).2.toBool = true) :
    ∃ middle after firstPath secondPath,
      library.save tree now first = (middle, .ok firstPath) ∧
      library.save middle later second = (after, .ok secondPath) := by
  rcases firstDone : library.save tree now first with ⟨middle, once⟩
  rw [firstDone] at isOnce isTwice
  rcases secondDone : library.save middle later second with ⟨after, twice⟩
  rw [secondDone] at isTwice
  obtain ⟨firstPath, rfl⟩ := valueOfToBool isOnce
  obtain ⟨secondPath, rfl⟩ := valueOfToBool isTwice
  exact ⟨middle, after, firstPath, secondPath, rfl, secondDone⟩

def firstScript : Script := Script.new "12345678-1" "daily" .epoch

def otherScript : Script := Script.new "12345679-1" "daily" .epoch

theorem dailyApart : StoredApart firstScript otherScript :=
  ⟨by decide +kernel, by decide +kernel, by decide +kernel⟩

theorem storedSideBySideDaily :
    ∃ middle after firstPath secondPath,
      smallLibrary.save .empty .epoch firstScript = (middle, .ok firstPath) ∧
      smallLibrary.save middle ⟨1, 0⟩ otherScript = (after, .ok secondPath) ∧
      ScriptFile.read after Document.countedIds .epoch firstPath =
        .ok (firstScript, Document.countedIds) ∧
      ScriptFile.read after Document.countedIds .epoch secondPath =
        .ok (otherScript, Document.countedIds) := by
  have isFirst : Reloads firstScript :=
    ⟨by rfl, Document.epochKnown, Document.epochKnown, ⟨nofun, trivial⟩, by decide +kernel⟩
  have isOther : Reloads otherScript :=
    ⟨by rfl, Document.epochKnown, Document.epochKnown, ⟨nofun, trivial⟩, by decide +kernel⟩
  obtain ⟨middle, after, firstPath, secondPath, isOnce, isTwice⟩ : ∃ middle after firstPath
      secondPath, smallLibrary.save .empty .epoch firstScript = (middle, .ok firstPath) ∧
        smallLibrary.save middle ⟨1, 0⟩ otherScript = (after, .ok secondPath) :=
    savedInTurn (by decide +kernel) (by decide +kernel)
  have sideBySide := (storedSideBySide smallLibrary firstScript otherScript).2 dailyApart .empty nofun
  obtain ⟨firstRead, otherRead⟩ := sideBySide.2 isFirst isOther .epoch ⟨1, 0⟩ middle after firstPath
    secondPath isOnce isTwice Document.countedIds .epoch
  exact ⟨middle, after, firstPath, secondPath, isOnce, isTwice, firstRead, otherRead⟩

/-- The start of its identity does not tell this script from the first one. -/
def twinScript : Script := Script.new "12345678-2" "daily" .epoch

/-- A valid script replaces another one with another identity. -/
theorem storedOverOther :
    firstScript.validate = .ok () ∧ twinScript.validate = .ok () ∧ firstScript.id ≠ twinScript.id ∧
    ∃ middle after path,
      smallLibrary.save .empty .epoch firstScript = (middle, .ok path) ∧
      smallLibrary.save middle ⟨1, 0⟩ twinScript = (after, .ok path) ∧
      ScriptFile.read after Document.countedIds .epoch path =
        .ok (twinScript, Document.countedIds) := by
  have reloads : Reloads twinScript :=
    ⟨by rfl, Document.epochKnown, Document.epochKnown, ⟨nofun, trivial⟩, by decide +kernel⟩
  refine ⟨by rfl, reloads.valid, by decide, ?_⟩
  obtain ⟨middle, after, firstPath, path, isOnce, isTwice⟩ : ∃ middle after firstPath path,
      smallLibrary.save .empty .epoch firstScript = (middle, .ok firstPath) ∧
        smallLibrary.save middle ⟨1, 0⟩ twinScript = (after, .ok path) :=
    savedInTurn (by decide +kernel) (by decide +kernel)
  have samePath : smallLibrary.pathFor firstScript .json = smallLibrary.pathFor twinScript .json :=
    (pathForIff smallLibrary firstScript twinScript .json).mpr (by decide +kernel)
  obtain rfl : firstPath = path :=
    ((savedParts isOnce).1.trans samePath).trans (savedParts isTwice).1.symm
  have proper : Proper FileTree.empty.workingDirectory := nofun
  have isRead := readSaved reloads.valid (by decide +kernel) (savedProper proper isOnce) isTwice
  exact ⟨middle, after, firstPath, isOnce, isTwice, reloads.read isRead Document.countedIds .epoch⟩

end DeskScript.Library
