/-
This file shows where the scripts of a library are saved. The name of a script cannot lead out of
the library, but the start of its identity can.
-/

import DeskScript.Proofs.Library.Effects

namespace DeskScript

namespace Library

open FileTree

/-! ### Names of script files -/

theorem nameCharacterNoSlash (character : Char) : nameCharacter character ≠ '/' := by
  rw [nameCharacter]
  split
  · rename_i isKept
    rintro rfl
    exact absurd isKept (by decide +kernel)
  · decide

theorem fileNameCharacters (script : Script) (format : DocumentFormat) :
    (fileName script format).toList =
      script.name.toList.map nameCharacter ++ '_' :: shortId script.id ++
        '.' :: format.extension.toList := by
  simp [fileName]

theorem fileNameSlash (script : Script) (format : DocumentFormat) :
    '/' ∈ (fileName script format).toList ↔ '/' ∈ shortId script.id := by
  have inName : '/' ∉ script.name.toList.map nameCharacter := fun member => by
    obtain ⟨character, -, isSlash⟩ := List.mem_map.mp member
    exact nameCharacterNoSlash character isSlash
  have inExtension : '/' ∉ format.extension.toList := by cases format <;> decide
  rw [fileNameCharacters]
  simp [inName, inExtension]

theorem fileNameRelative (script : Script) (format : DocumentFormat) :
    (fileName script format).toList.head? ≠ some '/' := by
  rw [fileNameCharacters]
  cases script.name.toList with
  | nil => simp
  | cons first rest => simpa using nameCharacterNoSlash first

theorem fileNameIsName (script : Script) (format : DocumentFormat)
    (noSlash : '/' ∉ shortId script.id) : IsName (fileName script format) := by
  have long : 6 ≤ (fileName script format).toList.length := by
    rw [fileNameCharacters]
    cases format <;> simp [DocumentFormat.extension] <;> omega
  refine ⟨?_, ?_, ?_, mt (fileNameSlash script format).mp noSlash⟩
  all_goals
    intro same
    rw [same] at long
    exact absurd long (by decide)

/-! ### Places of script files -/

/-- These are the places right in the root of a library and in its directory of backups. -/
def IsInside (library : Library) (tree : FileTree) (location : Location) : Prop :=
  ∃ name, IsName name ∧ (location = tree.location library.root ++ [name] ∨
    location = tree.location library.root ++ ["backups", name])

/-- A file right in the root and the files that belong to it are inside the library. -/
theorem placesInside {library : Library} {tree : FileTree} {name : String} (isName : IsName name)
    {location : Location} (place : IsPlaceOf library tree (library.root.join name) location) :
    IsInside library tree location := by
  have isFile := tree.locationJoin library.root isName
  obtain same | same | ⟨backup, isBackup, -, same⟩ :
    _ ∨ _ ∨ IsBackupPlace library tree _ location := place
  · exact ⟨name, isName, .inl (same.trans isFile)⟩
  · have sibling := tree.locationExtension (library.root.join name) (by decide : "tmp" ≠ "")
      (by decide : '/' ∉ "tmp".toList)
    rcases sibling with kept | ⟨directory, last, other, -, isOther, isPath, isTemporary⟩
    · exact ⟨name, isName, .inl (by rw [same, ScriptFile.temporary, kept, isFile])⟩
    · have sameDirectory : tree.location library.root = directory :=
        (List.append_inj' (isFile.symm.trans isPath) rfl).1
      exact ⟨other, isOther, .inl (by rw [same, ScriptFile.temporary, isTemporary, sameDirectory])⟩
  · refine ⟨backup, isBackup, .inr ?_⟩
    rw [same, backupDirectoryLocation, List.append_assoc, List.singleton_append]

/-- A script has its file right in the root exactly if the start of its identity holds no slash. -/
theorem pathInsideIff (library : Library) (script : Script) (format : DocumentFormat) :
    (∃ name, IsName name ∧ library.pathFor script format = library.root.join name) ↔
      '/' ∉ shortId script.id := by
  refine ⟨?_, fun noSlash => ⟨_, fileNameIsName script format noSlash, rfl⟩⟩
  rintro ⟨name, isName, isPath⟩ isSlash
  have same := Path.joinInjective (fileNameRelative script format) isName.relative isPath
  exact isName.noSlash (same ▸ (fileNameSlash script format).mpr isSlash)

/--
A script has its file right in the root of the library exactly if the start of its identity holds
no slash. To save such a script changes files of the library only.
-/
theorem savedInside (library : Library) (script : Script) :
    (∀ format, (∃ name, IsName name ∧ library.pathFor script format = library.root.join name) ↔
      '/' ∉ shortId script.id) ∧
    ('/' ∉ shortId script.id → ∀ (tree : FileTree) (now : Time.Timestamp),
      Proper tree.workingDirectory →
        Confined (IsInside library tree) tree (library.save tree now script).1) := by
  refine ⟨fun format => pathInsideIff library script format, fun noSlash tree now proper => ?_⟩
  rw [saveTree]
  exact (saveToConfined library tree now script _ proper).weaken fun _ =>
    placesInside (fileNameIsName script .json noSlash)

/-- This library keeps one backup of every file. -/
def smallLibrary : Library := ⟨⟨"lib"⟩, 1⟩

/-- This identity has the form that identities get by default. -/
def ordinaryScript : Script :=
  Script.new "0f8b3c2d-5c1e-4a57-9f0e-2b7d1c9a4e61" "Daily/../report" .epoch

theorem savedInsideOrdinary :
    (∃ name, IsName name ∧
        smallLibrary.pathFor ordinaryScript .yaml = smallLibrary.root.join name) ∧
      Confined (IsInside smallLibrary .empty) .empty
        (smallLibrary.save .empty .epoch ordinaryScript).1 := by
  have noSlash : '/' ∉ shortId ordinaryScript.id := by decide +kernel
  obtain ⟨placed, confined⟩ := savedInside smallLibrary ordinaryScript
  exact ⟨(placed .yaml).mpr noSlash, confined noSlash .empty .epoch nofun⟩

/-- The start of this identity leads out of a directory. -/
def strayScript : Script := Script.new "/../../x" "n" .epoch

/-- A valid script is saved outside the library. -/
theorem savedOutside :
    strayScript.validate = .ok () ∧
    (¬∃ name, IsName name ∧ smallLibrary.pathFor strayScript .json = smallLibrary.root.join name) ∧
    ((smallLibrary.save .empty .epoch strayScript).1.content? ["x.json"]).isSome = true ∧
    ¬IsInside smallLibrary .empty ["x.json"] := by
  refine ⟨by rfl, fun placed => ?_, by decide +kernel, ?_⟩
  · have noSlash := (pathInsideIff smallLibrary strayScript .json).mp placed
    exact absurd noSlash (by decide +kernel)
  · have root : FileTree.empty.location smallLibrary.root = ["lib"] := by decide +kernel
    rintro ⟨name, -, same | same⟩
    all_goals
      rw [root] at same
      exact absurd (List.cons.inj same).1 (by decide)

end Library

end DeskScript
