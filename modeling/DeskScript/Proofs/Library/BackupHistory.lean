/-
This file follows the backups of one file while it is saved and deleted. They hold what was in the
file before the last revisions, as many as the library keeps.
-/

import DeskScript.Proofs.Library.FailedSaves
import DeskScript.Proofs.Library.StoredBackups
import DeskScript.Proofs.Library.WrittenFiles

namespace DeskScript

/-- A list keeps its last elements when it is cut before another element is added. -/
theorem rtakeConcat {α : Type} (items : List α) (item : α) (count : Nat) :
    (items.rtake count ++ [item]).rtake count = (items ++ [item]).rtake count := by
  cases count with
  | zero => rw [List.rtake_zero, List.rtake_zero]
  | succ count =>
      rw [List.rtake_concat_succ, List.rtake_concat_succ]
      simp [List.rtake_eq_reverse_take_reverse, List.take_take]

namespace Library

open FileTree

variable {library : Library} {tree middle after : FileTree} {path : Path} {now : Time.Timestamp}
  {log : List (Time.Timestamp × ByteArray)}

/-! ### Revisions -/

/-- A file is saved, or it is deleted and a backup of it is kept. -/
inductive Revision where
  | save (now : Time.Timestamp) (script : Script)
  | delete (now : Time.Timestamp)

def Revision.time : Revision → Time.Timestamp
  | .save now _ => now
  | .delete now => now

/-- This is the tree after a revision of a file. -/
def revised (library : Library) (path : Path) (tree : FileTree) :
    Revision → Except LibraryFault FileTree
  | .save now script =>
      let (after, outcome) := library.saveTo tree now script path
      outcome.map fun () => after
  | .delete now =>
      let (after, outcome) := library.delete tree now path true
      outcome.map fun _ => after

/--
A history tells what a file holds, and what it held before each revision that replaced or deleted
it, from the oldest to the newest.
-/
structure History where
  content : Option ByteArray
  earlier : List ByteArray

def History.next (path : Path) (history : History) (revision : Revision) : History where
  content :=
    match revision with
    | .save _ script =>
        (Document.save script (ScriptFile.formatOf path)).toOption.map String.toUTF8
    | .delete _ => none
  earlier := history.earlier ++ history.content.toList

/-! ### Ways to a file and to its backups -/

/-- Neither the way to a file nor the way to its backups leads through what is taken for one. -/
structure OwnWay (library : Library) (tree : FileTree) (path : Path) : Prop where
  file : ∀ location, IsBackupPlace library tree path location → ¬OnWay tree path location
  backups : ∀ location, IsBackupPlace library tree path location →
    ¬OnWay tree library.backupDirectory location
  apart : tree.location path ≠ tree.location library.backupDirectory

theorem OwnWay.moved {locations : Location → Prop} (own : OwnWay library tree path)
    (confined : Confined locations tree after) : OwnWay library after path where
  file location place onWay := own.file location (place.moved confined) (onWay.moved confined)
  backups location place onWay :=
    own.backups location (place.moved confined) (onWay.moved confined)
  apart := by
    rw [confined.location, confined.location]
    exact own.apart

theorem OwnWay.noPlace (own : OwnWay library tree path) :
    ¬IsBackupPlace library tree path (tree.location path) :=
  fun place => own.file _ place ⟨path, .itself path, rfl⟩

/-- The file that is written first is not taken for a backup. -/
theorem OwnWay.temporaryNoPlace (own : OwnWay library tree path) :
    ¬IsBackupPlace library tree path (tree.location (ScriptFile.temporary path)) := by
  cases isFile : path.fileName? with
  | none =>
      have same : ScriptFile.temporary path = path := by
        rw [ScriptFile.temporary, Path.withExtension, isFile]
      rw [same]
      exact own.noPlace
  | some name =>
      obtain ⟨directory, other, -, -, isOther, -, isTemporary⟩ :=
        tree.locationStem isFile (by decide : "tmp" ≠ "") (by decide : '/' ∉ "tmp".toList)
      rintro ⟨backup, -, starts, same⟩
      rw [ScriptFile.temporary, isTemporary] at same
      have sameName := List.singleton_inj.mp (List.append_inj' same rfl).2
      have isStem : backupStem path = (Path.splitName name.toList).1 := by
        rw [backupStem, Path.stem?, isFile]
        simp
      -- A point follows the stem here, and not the mark of a backup.
      rw [← sameName, isOther, backupPrefixCharacters, isStem,
        List.prefix_append_right_inj] at starts
      exact absurd (List.cons_prefix_cons.mp starts).1 (by decide)

/-! ### What a revision preserves -/

theorem readAbsent (absent : tree.exists_ path = false) : (tree.read path).toOption = none := by
  rw [exists_] at absent
  rw [FileTree.read]
  cases isStatus : tree.status path with
  | error fault => rfl
  | ok entry =>
      rw [isStatus] at absent
      cases absent

theorem existsOfRead {content : ByteArray} (isRead : tree.read path = .ok content) :
    tree.exists_ path = true := by
  obtain ⟨located, isFile⟩ := readParts isRead
  rw [exists_, statusOfEntry located isFile]
  rfl

theorem removedAbsent (done : tree.remove path = .ok after) : after.exists_ path = false := by
  obtain ⟨⟨content, isFile⟩, isAfter⟩ := removeParts done
  rw [exists_]
  cases isStatus : after.status path with
  | error fault => rfl
  | ok entry =>
      -- The path still leads where the file was.
      have same : after.location path = tree.location path := by
        rw [isAfter]
        rfl
      have isEntry := statusDone isStatus
      rw [same, isAfter, entryEraseSame tree (belowOfFile isFile)] at isEntry
      cases isEntry

/-- A file has a history, and the newest of its earlier contents are stored as backups. -/
structure Keeps (library : Library) (path : Path) (tree : FileTree) (history : History)
    (log : List (Time.Timestamp × ByteArray)) : Prop where
  proper : Proper tree.workingDirectory
  own : OwnWay library tree path
  stored : Stored library tree path log
  earlier : log.map Prod.snd = history.earlier.rtake library.backupLimit
  content : (tree.read path).toOption = history.content

/-- Before a revision its file is backed up. -/
theorem Keeps.backedUp {history : History} (keeps : Keeps library path tree history log)
    (fits : now.FitsStamp) (later : ∀ entry ∈ log, entry.1.MicrosecondsBefore now)
    (done : library.backupIfPresent tree now path = (after, .ok ())) :
    ∃ newLog, Keeps library path after ⟨history.content, history.earlier ++ history.content.toList⟩
        newLog ∧ ∀ entry ∈ newLog, entry ∈ log ∨ entry.1 = now := by
  rw [backupIfPresent] at done
  split at done
  · rename_i present
    have effect := backupEffect library tree now path keeps.proper
    rw [done] at effect
    obtain ⟨content, isRead, stored⟩ := keeps.stored.backedUp keeps.proper keeps.own.backups fits
      later present done
    have isContent : history.content = some content := by
      rw [← keeps.content, isRead]
      rfl
    have stillRead : after.read path = .ok content :=
      effect.read keeps.proper keeps.own.noPlace isRead
    refine ⟨_, ⟨effect.proper keeps.proper, keeps.own.moved effect.toConfined, stored, ?_, ?_⟩,
      fun entry member => ?_⟩
    · have newest : ((log ++ [(now, content)]).rtake library.backupLimit).map Prod.snd =
          (log.map Prod.snd ++ [content]).rtake library.backupLimit := by
        simp [List.rtake, List.map_drop]
      rw [newest, keeps.earlier, rtakeConcat, isContent]
      rfl
    · rw [stillRead, isContent]
      rfl
    · rcases List.mem_append.mp (List.mem_of_mem_drop member) with old | new
      · exact .inl old
      · exact .inr (by rw [List.mem_singleton.mp new])
  · rename_i absent
    obtain rfl : _ = after := congrArg Prod.fst done
    have isContent : history.content = none := by
      rw [← keeps.content]
      exact readAbsent (by simpa using absent)
    refine ⟨log, ⟨keeps.proper, keeps.own, keeps.stored, ?_, keeps.content⟩, fun _ => .inl⟩
    rw [isContent, Option.toList_none, List.append_nil, keeps.earlier]

/-- A file that is saved holds the script, and its history gets what it held before. -/
theorem Keeps.saved {history : History} {script : Script}
    (keeps : Keeps library path tree history log) (fits : now.FitsStamp)
    (later : ∀ entry ∈ log, entry.1.MicrosecondsBefore now)
    (done : library.saveTo tree now script path = (after, .ok ())) :
    ∃ newLog, Keeps library path after (history.next path (.save now script)) newLog ∧
      (∀ entry ∈ newLog, entry ∈ log ∨ entry.1 = now) ∧
      after.exists_ path = (history.next path (.save now script)).content.isSome := by
  obtain ⟨middle, isBackedUp, isWritten⟩ := saveToParts done
  obtain ⟨newLog, kept, times⟩ := keeps.backedUp fits later isBackedUp
  obtain ⟨text, written⟩ := ScriptFile.written kept.proper isWritten
  have isContent : (history.next path (.save now script)).content = some text.toUTF8 := by
    rw [History.next, written.saved]
    rfl
  have noFile : after.content? (middle.location library.backupDirectory) = none := by
    rw [written.contents (locationProper kept.proper _) kept.own.apart.symm,
      kept.stored.noFile, ite_self]
  refine ⟨newLog, ⟨written.effect.proper kept.proper, kept.own.moved written.effect.toConfined,
    kept.stored.kept kept.proper written.effect ?_ kept.own.file noFile, kept.earlier, ?_⟩,
    times, ?_⟩
  · rintro location place (same | same)
    · exact kept.own.temporaryNoPlace (same ▸ place)
    · exact kept.own.noPlace (same ▸ place)
  · rw [written.read, isContent]
    rfl
  · rw [existsOfRead written.read, isContent]
    rfl

/-- A file that is deleted is gone, and its history gets what it held before. -/
theorem Keeps.deleted {history : History} {wasThere : Bool}
    (keeps : Keeps library path tree history log) (fits : now.FitsStamp)
    (later : ∀ entry ∈ log, entry.1.MicrosecondsBefore now)
    (done : library.delete tree now path true = (after, .ok wasThere)) :
    ∃ newLog, Keeps library path after (history.next path (.delete now)) newLog ∧
      (∀ entry ∈ newLog, entry ∈ log ∨ entry.1 = now) ∧ after.exists_ path = false := by
  rcases deleteParts done with ⟨absent, rfl⟩ | ⟨middle, isBackedUp, isRemoved⟩
  · have isContent : history.content = none := by
      rw [← keeps.content, readAbsent absent]
    refine ⟨log, ⟨keeps.proper, keeps.own, keeps.stored, ?_, readAbsent absent⟩,
      fun _ => .inl, absent⟩
    rw [History.next, isContent, Option.toList_none, List.append_nil, keeps.earlier]
  · obtain ⟨newLog, kept, times⟩ := keeps.backedUp fits later isBackedUp
    have effect := removeEffect kept.proper isRemoved
    have gone := removedAbsent isRemoved
    have noFile := (effect.kept _ (locationProper kept.proper _) kept.own.apart.symm).trans
      kept.stored.noFile
    refine ⟨newLog, ⟨effect.proper kept.proper, kept.own.moved effect.toConfined,
      kept.stored.kept kept.proper effect ?_ (fun _ _ => id) noFile, kept.earlier,
      readAbsent gone⟩, times, gone⟩
    rintro location place rfl
    exact kept.own.noPlace place

/-- A revision of a file adds what was in it to its history. -/
theorem Keeps.revised {history : History} {revision : Revision}
    (keeps : Keeps library path tree history log) (fits : revision.time.FitsStamp)
    (later : ∀ entry ∈ log, entry.1.MicrosecondsBefore revision.time)
    (done : library.revised path tree revision = .ok after) :
    ∃ newLog, Keeps library path after (history.next path revision) newLog ∧
      (∀ entry ∈ newLog, entry ∈ log ∨ entry.1 = revision.time) ∧
      after.exists_ path = (history.next path revision).content.isSome := by
  cases revision with
  | save now script =>
      rw [Library.revised] at done
      rcases isSaved : library.saveTo tree now script path with ⟨saved, outcome⟩
      rw [isSaved] at done
      obtain ⟨_, rfl, rfl⟩ := okOfMap done
      exact keeps.saved fits later isSaved
  | delete now =>
      rw [Library.revised] at done
      rcases isDeleted : library.delete tree now path true with ⟨deleted, outcome⟩
      rw [isDeleted] at done
      obtain ⟨_, rfl, rfl⟩ := okOfMap done
      exact keeps.deleted fits later isDeleted

/-! ### Histories -/

/-- This is the history of a file of which there are no backups yet. -/
def History.start (tree : FileTree) (path : Path) : History := ⟨(tree.read path).toOption, []⟩

theorem Stored.none (noFile : tree.content? (tree.location library.backupDirectory) = none)
    (noBackup : ∀ location, IsBackupPlace library tree path location →
      tree.entry? location = none) : Stored library tree path [] where
  fits := nofun
  rising := .nil
  there := nofun
  only name isName starts present := absurd (noBackup _ ⟨name, isName, starts, rfl⟩) present
  opened nonempty := absurd rfl nonempty
  noFile := noFile

/-- The history of a file goes on with every revision. -/
theorem keepsAlong {before : FileTree} {start : History} (revisions : List Revision)
    (keeps : Keeps library path before start [])
    (fits : ∀ revision ∈ revisions, revision.time.FitsStamp)
    (rising : revisions.Pairwise fun first second => first.time.MicrosecondsBefore second.time)
    (done : revisions.foldlM (library.revised path) before = .ok after) :
    ∃ log, Keeps library path after (revisions.foldl (History.next path) start) log ∧
      (∀ entry ∈ log, ∃ revision ∈ revisions, entry.1 = revision.time) ∧
      (revisions ≠ [] → after.exists_ path =
        (revisions.foldl (History.next path) start).content.isSome) := by
  induction revisions using List.reverseRecOn generalizing after with
  | nil =>
      obtain rfl : before = after := Except.ok.inj done
      exact ⟨[], keeps, nofun, fun nonempty => absurd rfl nonempty⟩
  | append_singleton earlier last inductionHypothesis =>
      rw [List.foldlM_append] at done
      obtain ⟨middle, isMiddle, done⟩ := okOfBind done
      rw [List.foldlM_cons] at done
      obtain ⟨_, isAfter, isSame⟩ := okOfBind done
      obtain rfl : _ = after := Except.ok.inj isSame
      obtain ⟨isEarlier, -, before⟩ := List.pairwise_append.mp rising
      obtain ⟨log, kept, times, -⟩ := inductionHypothesis
        (fun revision member => fits revision (List.mem_append_left _ member)) isEarlier isMiddle
      have later : ∀ entry ∈ log, entry.1.MicrosecondsBefore last.time := by
        intro entry member
        obtain ⟨revision, isRevision, same⟩ := times entry member
        rw [same]
        exact before revision isRevision last List.mem_cons_self
      have fitsLast := fits last (List.mem_append_right _ List.mem_cons_self)
      obtain ⟨newLog, newKept, newTimes, isThere⟩ := kept.revised fitsLast later isAfter
      rw [List.foldl_append, List.foldl_cons, List.foldl_nil]
      refine ⟨newLog, newKept, fun entry member => ?_, fun _ => isThere⟩
      rcases newTimes entry member with old | new
      · obtain ⟨revision, isRevision, same⟩ := times entry old
        exact ⟨revision, List.mem_append_left _ isRevision, same⟩
      · exact ⟨last, List.mem_append_right _ List.mem_cons_self, new⟩

/--
After any number of revisions at rising times the backups of a file are what it held before the last
revisions that replaced or deleted it, as many as the library keeps, from the oldest to the newest.
The file holds what was saved last, and it is not there after it was deleted.
-/
theorem historyKept (library : Library) (path : Path) (before after : FileTree)
    (revisions : List Revision) (proper : Proper before.workingDirectory)
    (own : OwnWay library before path)
    (noFile : before.content? (before.location library.backupDirectory) = none)
    (noBackup : ∀ location, IsBackupPlace library before path location →
      before.entry? location = none)
    (fits : ∀ revision ∈ revisions, revision.time.FitsStamp)
    (rising : revisions.Pairwise fun first second => first.time.MicrosecondsBefore second.time)
    (done : revisions.foldlM (library.revised path) before = .ok after) :
    (∃ listed, library.backupsOf after path = .ok listed ∧
      listed.map after.read = ((revisions.foldl (History.next path)
        (.start before path)).earlier.rtake library.backupLimit).map .ok) ∧
    (after.read path).toOption =
      (revisions.foldl (History.next path) (.start before path)).content ∧
    (revisions ≠ [] → after.exists_ path =
      (revisions.foldl (History.next path) (.start before path)).content.isSome) := by
  have start : Keeps library path before (.start before path) [] :=
    ⟨proper, own, .none noFile noBackup, (List.rtake_nil _).symm, rfl⟩
  obtain ⟨log, kept, -, isThere⟩ := keepsAlong revisions start fits rising done
  refine ⟨⟨_, kept.stored.listed kept.proper, ?_⟩, kept.content, isThere⟩
  rw [← kept.earlier, List.map_map, List.map_map]
  exact List.map_congr_left fun entry member => kept.stored.there entry member

/-- A script is saved twice, deleted, and saved once more. -/
def notesRevisions : List Revision :=
  [.save .epoch (Script.new "first" "first" .epoch),
    .save ⟨1, 0⟩ (Script.new "second" "second" .epoch), .delete ⟨1, 1000⟩,
    .save ⟨2, 0⟩ (Script.new "third" "third" .epoch)]

theorem notesOwnWay : OwnWay smallLibrary .empty notesPath := by
  have isRoot : (Path.mk "lib").parent? = some ⟨""⟩ := by decide +kernel
  have isTop : (Path.mk "").parent? = none := by decide +kernel
  have fileParent : notesPath.parent? = some ⟨"lib"⟩ := by decide +kernel
  have backupParent : smallLibrary.backupDirectory.parent? = some ⟨"lib"⟩ := by decide +kernel
  -- A backup lies deeper than everything on the way.
  have long {location : Location}
      (place : IsBackupPlace smallLibrary .empty notesPath location) : location.length = 3 := by
    obtain ⟨name, -, -, rfl⟩ := place
    rw [List.length_append, List.length_singleton]
    decide +kernel
  have short {around : Path} (through : (Path.mk "lib").LeadsThrough around) :
      (FileTree.location .empty around).length ≤ 1 := by
    rw [Path.leadsThroughBelow isRoot, Path.leadsThroughTop isTop] at through
    rcases through with rfl | rfl <;> decide +kernel
  refine ⟨?_, ?_, by decide +kernel⟩
  · rintro location place ⟨around, through, rfl⟩
    rw [Path.leadsThroughBelow fileParent] at through
    have isLong := long place
    rcases through with rfl | further
    · exact absurd isLong (by decide +kernel)
    · have isShort := short further
      omega
  · rintro location place ⟨around, through, rfl⟩
    rw [Path.leadsThroughBelow backupParent] at through
    have isLong := long place
    rcases through with rfl | further
    · exact absurd isLong (by decide +kernel)
    · have isShort := short further
      omega

theorem historyKeptNotes :
    ∃ after, notesRevisions.foldlM (smallLibrary.revised notesPath) .empty = .ok after ∧
      ∃ listed, smallLibrary.backupsOf after notesPath = .ok listed ∧
        listed.map after.read = ((notesRevisions.foldl (History.next notesPath)
          (.start .empty notesPath)).earlier.rtake 1).map .ok := by
  have isOk : (notesRevisions.foldlM (smallLibrary.revised notesPath) .empty).toBool = true := by
    decide +kernel
  obtain ⟨after, done⟩ := valueOfToBool isOk
  have vacant (location : Location)
      (place : IsBackupPlace smallLibrary .empty notesPath location) :
      FileTree.entry? .empty location = none := by
    obtain ⟨name, -, -, rfl⟩ := place
    rfl
  have kept := historyKept smallLibrary notesPath .empty after notesRevisions nofun notesOwnWay
    (by decide +kernel) vacant (by decide +kernel) (by decide +kernel) done
  exact ⟨after, done, kept.1⟩

/-- This path leads through a name in the directory of backups that starts like its own backups. -/
def strayPath : Path := ⟨"lib/backups/a_backup_/a.json"⟩

/-- The root of this library leads through such a name, too. -/
def strayLibrary : Library := ⟨⟨"backups/a_backup_/../.."⟩, 1⟩

/-- In this tree there is one file and no backup of it. -/
def soleFile : FileTree where
  entries := .ofList [("a", .file "content".toUTF8)]
  workingDirectory := []

/--
A file that stands for the directory of backups cannot be listed. A directory that is made on the
way is listed as a backup.
-/
theorem historyNotListed :
    let script := Script.new "first" "first" .epoch
    let alone := smallLibrary.saveTo .empty .epoch script smallLibrary.backupDirectory
    let beside := smallLibrary.saveTo alone.1 .epoch script notesPath
    let within := smallLibrary.saveTo .empty .epoch script strayPath
    let deleted := strayLibrary.delete soleFile .epoch ⟨"a"⟩ true
    (alone.2.toBool = true ∧
      (smallLibrary.backupsOf alone.1 smallLibrary.backupDirectory).toBool = false) ∧
    (beside.2.toBool = true ∧ (smallLibrary.backupsOf beside.1 notesPath).toBool = false) ∧
    (within.2.toBool = true ∧
      (smallLibrary.backupsOf within.1 strayPath).toOption.map List.length = some 1) ∧
    deleted.2.toOption = some true ∧
      (strayLibrary.backupsOf deleted.1 ⟨"a"⟩).toOption.map List.length = some 2 := by
  decide +kernel

end Library

end DeskScript
