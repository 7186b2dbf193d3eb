/-
This file says which backups of a file are stored when another one is made. The oldest ones make
room for it.
-/

import DeskScript.Proofs.Library.BackupLists
import Mathlib.Data.List.DropRight

namespace DeskScript

namespace Library

open FileTree

variable {library : Library} {tree after : FileTree} {path : Path}
  {log : List (Time.Timestamp × ByteArray)}

/-! ### Places of backups -/

theorem backupPlaceIff {name : String} {now : Time.Timestamp} :
    tree.location library.backupDirectory ++ [name] = tree.location (library.backupPath path now) ↔
      name = backupName path now := by
  rw [backupPathLocation, List.append_cancel_left_eq, List.singleton_inj]

theorem samePlaceIff {first second : Time.Timestamp} :
    tree.location (library.backupPath path first) = tree.location (library.backupPath path second) ↔
      backupName path first = backupName path second := by
  rw [backupPathLocation, backupPlaceIff]

theorem directoryNoPlace {library : Library} {tree : FileTree} {path : Path} :
    ¬IsBackupPlace library tree path (tree.location library.backupDirectory) := by
  rintro ⟨name, -, -, same⟩
  have length := congrArg List.length same
  rw [List.length_append, List.length_singleton] at length
  omega

theorem directoryApart (library : Library) (tree : FileTree) (path : Path) (now : Time.Timestamp) :
    tree.location library.backupDirectory ≠ tree.location (library.backupPath path now) := by
  intro same
  have place := backupPathPlace library tree path now
  rw [← same] at place
  exact directoryNoPlace place

/-! ### Stored backups -/

/-- These are all backups of a file, with their times and contents, from the oldest to the newest. -/
structure Stored (library : Library) (tree : FileTree) (path : Path)
    (log : List (Time.Timestamp × ByteArray)) : Prop where
  fits : ∀ entry ∈ log, entry.1.FitsStamp
  rising : log.Pairwise fun first second => first.1.MicrosecondsBefore second.1
  there : ∀ entry ∈ log, tree.read (library.backupPath path entry.1) = .ok entry.2
  only : ∀ name : String, IsName name → (backupPrefix path).toList <+: name.toList →
    tree.entry? (tree.location library.backupDirectory ++ [name]) ≠ none →
      ∃ entry ∈ log, name = backupName path entry.1
  opened : log ≠ [] → tree.status library.backupDirectory = .ok .directory
  noFile : tree.content? (tree.location library.backupDirectory) = none

namespace Stored

theorem names (stored : Stored library tree path log) :
    (log.map fun entry => backupName path entry.1).Pairwise (· < ·) := by
  rw [List.pairwise_map]
  refine stored.rising.imp_of_mem fun isFirst isSecond before => ?_
  exact backupNameRises path (stored.fits _ isFirst) (stored.fits _ isSecond) before

/-- The backups are listed from the oldest to the newest. -/
theorem listed (stored : Stored library tree path log) (proper : Proper tree.workingDirectory) :
    library.backupsOf tree path = .ok (log.map fun entry => library.backupPath path entry.1) := by
  have names : library.backupsOf tree path =
      .ok ((log.map fun entry => backupName path entry.1).map library.backupDirectory.join) := by
    refine backupsListed proper (fun nonempty => stored.opened ?_) stored.noFile stored.names
      fun name => ⟨fun member => ?_, fun ⟨isName, starts, present⟩ => ?_⟩
    · exact fun empty => nonempty (by rw [empty, List.map_nil])
    · obtain ⟨entry, inLog, rfl⟩ := List.mem_map.mp member
      obtain ⟨-, isFile⟩ := readParts (stored.there entry inLog)
      rw [backupPathLocation] at isFile
      refine ⟨backupNameIsName path _, backupNameStarts path _, ?_⟩
      rw [isFile]
      simp
    · obtain ⟨entry, inLog, same⟩ := stored.only name isName starts present
      exact List.mem_map.mpr ⟨entry, inLog, same.symm⟩
  rw [names]
  simp only [List.map_map, Function.comp_def, backupPath]

/-- Backups stay stored while nothing changes at their places. -/
theorem kept {written made : Location → Prop} (stored : Stored library tree path log)
    (proper : Proper tree.workingDirectory) (effect : Effect written made tree after)
    (unwritten : ∀ location, IsBackupPlace library tree path location → ¬written location)
    (unmade : ∀ location, IsBackupPlace library tree path location → ¬made location)
    (noFile : after.content? (tree.location library.backupDirectory) = none) :
    Stored library after path log where
  fits := stored.fits
  rising := stored.rising
  there entry inLog := by
    have place := backupPathPlace library tree path entry.1
    exact effect.read proper (unwritten _ place) (stored.there entry inLog)
  only name isName starts present := by
    have place : IsBackupPlace library tree path
        (tree.location library.backupDirectory ++ [name]) := ⟨name, isName, starts, rfl⟩
    rw [effect.location, effect.elsewhere _ ((locationProper proper _).append isName)
      (unwritten _ place) (unmade _ place)] at present
    exact stored.only name isName starts present
  opened nonempty := effect.directory proper (stored.opened nonempty)
  noFile := by rw [effect.location, noFile]

/-- Another backup is stored when it is written. -/
theorem added {now : Time.Timestamp} {content : ByteArray} (stored : Stored library tree path log)
    (proper : Proper tree.workingDirectory) (fits : now.FitsStamp)
    (later : ∀ entry ∈ log, entry.1.MicrosecondsBefore now)
    (opened : tree.status library.backupDirectory = .ok .directory)
    (done : tree.write (library.backupPath path now) content = .ok after) :
    Stored library after path (log ++ [(now, content)]) := by
  have effect := writeEffect proper done
  obtain ⟨located, noDirectory, isAfter⟩ := writeParts done
  refine ⟨?_, ?_, ?_, ?_, fun _ => effect.directory proper opened, ?_⟩
  · intro entry member
    rcases List.mem_append.mp member with old | new
    · exact stored.fits entry old
    · rw [List.mem_singleton.mp new]
      exact fits
  · refine List.pairwise_append.mpr ⟨stored.rising, List.pairwise_singleton _ _, ?_⟩
    intro entry old other new
    rw [List.mem_singleton.mp new]
    exact later entry old
  · intro entry member
    rcases List.mem_append.mp member with old | new
    · -- The new backup has a later name than this one.
      refine effect.read proper (fun same => ?_) (stored.there entry old)
      have rises := backupNameRises path (stored.fits entry old) fits (later entry old)
      rw [samePlaceIff.mp same] at rises
      exact Std.lt_irrefl rises
    · rw [List.mem_singleton.mp new]
      refine readOfFile (effect.locate proper located) ?_
      have below : tree.location (library.backupPath path now) ≠ [] := by
        rw [backupPathLocation]
        exact List.append_ne_nil_of_right_ne_nil _ (List.cons_ne_nil _ _)
      rw [isAfter, entryPutSame tree below]
  · intro name isName starts present
    by_cases same : name = backupName path now
    · exact ⟨_, List.mem_append_right _ List.mem_cons_self, same⟩
    · have elsewhere := effect.elsewhere _ ((locationProper proper _).append isName)
        (mt backupPlaceIff.mp same) id
      rw [effect.location, elsewhere] at present
      obtain ⟨entry, old, isOld⟩ := stored.only name isName starts present
      exact ⟨entry, List.mem_append_left _ old, isOld⟩
  · have apart := directoryApart library tree path now
    rw [effect.location, effect.kept _ (locationProper proper _) apart, stored.noFile]

/-- When the oldest backup is removed, the others are still stored. -/
theorem removedFirst {first : Time.Timestamp × ByteArray}
    (stored : Stored library tree path (first :: log)) (proper : Proper tree.workingDirectory) :
    Effect (· = tree.location (library.backupPath path first.1)) Nowhere tree
        (removeIfPossible tree (library.backupPath path first.1)) ∧
      Stored library (removeIfPossible tree (library.backupPath path first.1)) path log := by
  obtain ⟨located, isFile⟩ := readParts (stored.there first List.mem_cons_self)
  have removed := removeFile located isFile
  have isAfter : removeIfPossible tree (library.backupPath path first.1) =
      tree.erase (tree.location (library.backupPath path first.1)) := by
    rw [removeIfPossible, removed]
  have effect := removeEffect proper removed
  rw [isAfter]
  have other {entry : Time.Timestamp × ByteArray} (inLog : entry ∈ log) :
      tree.location (library.backupPath path entry.1) ≠
        tree.location (library.backupPath path first.1) := by
    intro same
    have rises := (List.pairwise_cons.mp stored.names).1 _ (List.mem_map_of_mem inLog)
    rw [samePlaceIff.mp same] at rises
    exact Std.lt_irrefl rises
  refine ⟨effect, fun entry inLog => stored.fits entry (List.mem_cons_of_mem _ inLog),
    stored.rising.of_cons, fun entry inLog => ?_, fun name isName starts present => ?_,
    fun _ => effect.directory proper (stored.opened (List.cons_ne_nil _ _)), ?_⟩
  · exact effect.read proper (other inLog) (stored.there entry (List.mem_cons_of_mem _ inLog))
  · rw [effect.location] at present
    by_cases same : tree.location library.backupDirectory ++ [name] =
        tree.location (library.backupPath path first.1)
    · rw [same, entryEraseSame tree (belowOfFile isFile)] at present
      exact absurd rfl present
    · rw [effect.elsewhere _ ((locationProper proper _).append isName) same id] at present
      obtain ⟨entry, member, isEntry⟩ := stored.only name isName starts present
      rcases List.mem_cons.mp member with rfl | inLog
      · exact absurd (backupPlaceIff.mpr isEntry) same
      · exact ⟨entry, inLog, isEntry⟩
  · have apart := directoryApart library tree path first.1
    rw [effect.location, effect.kept _ (locationProper proper _) apart, stored.noFile]

theorem removedFirsts {dropped : List (Time.Timestamp × ByteArray)}
    (stored : Stored library tree path (dropped ++ log)) (proper : Proper tree.workingDirectory) :
    Stored library ((dropped.map fun entry => library.backupPath path entry.1).foldl
      removeIfPossible tree) path log := by
  induction dropped generalizing tree with
  | nil => exact stored
  | cons first rest inductionHypothesis =>
      obtain ⟨effect, others⟩ := stored.removedFirst proper
      rw [List.map_cons, List.foldl_cons]
      exact inductionHypothesis others (effect.proper proper)

/-- Of the stored backups the newest stay, as many as the library keeps. -/
theorem pruned (stored : Stored library tree path log) (proper : Proper tree.workingDirectory) :
    Stored library (library.prune tree (log.map fun entry => library.backupPath path entry.1)) path
      (log.rtake library.backupLimit) := by
  rw [prune, List.length_map, ← List.map_take]
  refine removedFirsts ?_ proper
  rw [List.rtake, List.take_append_drop]
  exact stored

end Stored

/-! ### Making a backup -/

theorem backupDirectoryOpened (proper : Proper tree.workingDirectory)
    (done : tree.makeDirectories library.backupDirectory = (after, .ok ())) :
    after.status library.backupDirectory = .ok .directory := by
  obtain ⟨front, -, isPath⟩ := Path.joinParts library.root (by decide : "backups".toList.head? ≠ some '/')
  have plain : ¬library.backupDirectory.meansDirectory = true := by
    rw [backupDirectory, isPath, Path.meansDirectory, String.toList_ofList, List.getLast?_append]
    simp
  have written : library.backupDirectory.text ≠ "" := by
    rw [backupDirectory, isPath]
    intro empty
    simpa using congrArg String.toList empty
  exact makeParentsThere plain written proper done

/-- A backup holds what is in the file, and the newest backups stay. -/
theorem Stored.backedUp {now : Time.Timestamp} (stored : Stored library tree path log)
    (proper : Proper tree.workingDirectory)
    (unmade : ∀ location, IsBackupPlace library tree path location →
      ¬OnWay tree library.backupDirectory location)
    (fits : now.FitsStamp) (later : ∀ entry ∈ log, entry.1.MicrosecondsBefore now)
    (present : tree.exists_ path = true) (done : library.backup tree now path = (after, .ok ())) :
    ∃ content, tree.read path = .ok content ∧
      Stored library after path ((log ++ [(now, content)]).rtake library.backupLimit) := by
  have room := makeDirectoriesEffect tree library.backupDirectory proper
  rw [backup] at done
  split at done
  · cases congrArg Prod.snd done
  rename_i made isMade
  rw [isMade] at room
  have isOpened := backupDirectoryOpened proper isMade
  have noFile : made.content? (tree.location library.backupDirectory) = none := by
    rw [room.kept _ (locationProper proper _) id, stored.noFile]
  have inRoom := stored.kept proper room (fun _ _ => id) unmade noFile
  dsimp only at done
  split at done
  · cases congrArg Prod.snd done
  rename_i copied isCopied
  obtain ⟨content, isContent, isWritten⟩ := copyDone isCopied
  -- What is copied was there before the directory was made.
  rw [room.location, room.kept _ (locationProper proper path) id] at isContent
  have isRead : tree.read path = .ok content := by
    rw [exists_] at present
    cases isStatus : tree.status path with
    | error fault =>
        rw [isStatus] at present
        cases present
    | ok entry => exact readOfFile (statusParts isStatus).1 (fileOfContent isContent)
  have isAdded := inRoom.added (room.proper proper) fits later isOpened isWritten
  have toCopied := (writeEffect (room.proper proper) isWritten).proper (room.proper proper)
  rw [isAdded.listed toCopied] at done
  obtain rfl : _ = after := congrArg Prod.fst done
  exact ⟨content, isRead, isAdded.pruned toCopied⟩

end Library

end DeskScript
