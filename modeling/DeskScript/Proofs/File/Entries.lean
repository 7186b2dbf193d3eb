/-
This file follows the operations on a tree of files entry by entry. Directories stay, so that a path
which has been looked up is found again later on.
-/

import DeskScript.Proofs.File.Confined
import DeskScript.Proofs.File.Siblings
import Mathlib.Data.List.TakeWhile

namespace DeskScript

/-- A path leads through itself and through what its parent leads through. -/
inductive Path.LeadsThrough : Path → Path → Prop where
  | itself (path : Path) : LeadsThrough path path
  | parent {path parent around : Path} (isParent : path.parent? = some parent)
      (further : LeadsThrough parent around) : LeadsThrough path around

theorem Path.leadsThroughTop {path around : Path} (isTop : path.parent? = none) :
    path.LeadsThrough around ↔ around = path := by
  constructor
  · intro through
    cases through with
    | itself => rfl
    | parent isParent =>
        rw [isTop] at isParent
        cases isParent
  · rintro rfl
    exact .itself _

theorem Path.leadsThroughBelow {path parent around : Path} (isParent : path.parent? = some parent) :
    path.LeadsThrough around ↔ around = path ∨ parent.LeadsThrough around := by
  constructor
  · intro through
    cases through with
    | itself => exact .inl rfl
    | parent isOther further =>
        rw [isParent] at isOther
        rw [Option.some.inj isOther]
        exact .inr further
  · rintro (rfl | further)
    · exact .itself _
    · exact .parent isParent further

namespace FileTree

variable {tree after : FileTree}

theorem entryEraseSame (tree : FileTree) {location : Location} (below : location ≠ []) :
    FileTree.entry? (tree.erase location) location = none := by
  rw [entryBelow _ below, erase, Table.findEraseSame]

/-- Only a location below the top can hold a file. -/
theorem belowOfFile {location : Location} {content : ByteArray}
    (isFile : tree.entry? location = some (.file content)) : location ≠ [] := by
  rintro rfl
  rw [entryTop] at isFile
  cases isFile

/-! ### Reading -/

theorem statusOfEntry {path : Path} {location : Location} {entry : FileEntry}
    (located : tree.locate path = .ok location) (isEntry : tree.entry? location = some entry) :
    tree.status path = .ok entry := by
  rw [status, located]
  simp only [bind, Except.bind, isEntry]
  rfl

theorem readOfFile {path : Path} {location : Location} {content : ByteArray}
    (located : tree.locate path = .ok location)
    (isFile : tree.entry? location = some (.file content)) : tree.read path = .ok content := by
  rw [read, statusOfEntry located isFile]
  rfl

theorem statusParts {path : Path} {entry : FileEntry} (found : tree.status path = .ok entry) :
    tree.locate path = .ok (tree.location path) ∧
      tree.entry? (tree.location path) = some entry := by
  obtain ⟨location, located, -⟩ := okOfBind found
  exact ⟨locateLocation located ▸ located, statusDone found⟩

theorem readParts {path : Path} {content : ByteArray} (isRead : tree.read path = .ok content) :
    tree.locate path = .ok (tree.location path) ∧
      tree.entry? (tree.location path) = some (.file content) := by
  obtain ⟨entry, found, isRead⟩ := okOfBind isRead
  split at isRead
  · rw [← Except.ok.inj isRead]
    exact statusParts found
  · cases isRead

/-! ### Effects -/

/-- Files change at some locations, directories are made at others, and no directory goes. -/
structure Effect (written made : Location → Prop) (before after : FileTree) : Prop
    extends Confined written before after where
  directories : ∀ location, Proper location → before.entry? location = some .directory →
    after.entry? location = some .directory
  elsewhere : ∀ location, Proper location → ¬written location → ¬made location →
    after.entry? location = before.entry? location

/-- This effect writes no file and makes no directory. -/
abbrev Nowhere : Location → Prop := fun _ => False

namespace Effect

variable {written made written' made' : Location → Prop} {before middle : FileTree}

theorem refl (tree : FileTree) : Effect written made tree tree where
  toConfined := .refl tree
  directories _ _ isDirectory := isDirectory
  elsewhere _ _ _ _ := rfl

theorem trans (first : Effect written made before middle)
    (second : Effect written made middle after) : Effect written made before after where
  toConfined := first.toConfined.trans second.toConfined
  directories location proper isDirectory :=
    second.directories location proper (first.directories location proper isDirectory)
  elsewhere location proper unwritten unmade :=
    (second.elsewhere location proper unwritten unmade).trans
      (first.elsewhere location proper unwritten unmade)

theorem weaken (effect : Effect written made before after)
    (moreWritten : ∀ location, written location → written' location)
    (moreMade : ∀ location, made location → made' location) :
    Effect written' made' before after where
  toConfined := effect.toConfined.weaken moreWritten
  directories := effect.directories
  elsewhere location proper unwritten unmade :=
    effect.elsewhere location proper (fun inside => unwritten (moreWritten location inside))
      fun inside => unmade (moreMade location inside)

/-- What could be entered still can be. -/
theorem enter (effect : Effect written made before after) {location : Location}
    (proper : Proper location) (entered : before.enter location = .ok ()) :
    after.enter location = .ok () := by
  rw [FileTree.enter] at entered ⊢
  split at entered
  · cases entered
  · cases entered
  · rename_i isDirectory
    rw [effect.directories location proper isDirectory]

theorem walk (effect : Effect written made before after) {location found : Location}
    {names : List String} (proper : Proper location) (noSlash : ∀ name ∈ names, '/' ∉ name.toList)
    (walked : before.walk location names = .ok found) : after.walk location names = .ok found := by
  induction names generalizing location with
  | nil => exact walked
  | cons name rest inductionHypothesis =>
      rw [List.forall_mem_cons] at noSlash
      rw [FileTree.walk] at walked ⊢
      obtain ⟨_, entered, walked⟩ := okOfBind walked
      rw [effect.enter proper entered]
      change (if name = "" ∨ name = "." then after.walk location rest
        else if name = ".." then after.walk location.dropLast rest
        else if nameLimit < name.utf8ByteSize then throw .nameTooLong
        else after.walk (location ++ [name]) rest) = .ok found
      by_cases idle : name = "" ∨ name = "."
      · rw [if_pos idle] at walked ⊢
        exact inductionHypothesis proper noSlash.2 walked
      rw [if_neg idle] at walked ⊢
      by_cases isUp : name = ".."
      · rw [if_pos isUp] at walked ⊢
        exact inductionHypothesis (fun part member => proper part (List.dropLast_subset _ member))
          noSlash.2 walked
      rw [if_neg isUp] at walked ⊢
      split at walked
      · cases walked
      · rename_i short
        rw [if_neg short]
        have isName : IsName name := ⟨(not_or.mp idle).1, (not_or.mp idle).2, isUp, noSlash.1⟩
        exact inductionHypothesis (proper.append isName) noSlash.2 walked

/-- A path that has been looked up is found again. -/
theorem locate (effect : Effect written made before after)
    (proper : Proper before.workingDirectory) {path : Path} {found : Location}
    (located : before.locate path = .ok found) : after.locate path = .ok found := by
  have properStart : Proper (before.start path) := by
    rw [start]
    split
    · exact fun name member => absurd member List.not_mem_nil
    · exact proper
  have sameStart : after.start path = before.start path := by
    rw [start, start, effect.workingDirectory]
  rw [FileTree.locate] at located ⊢
  split at located
  · cases located
  rename_i noZero
  split at located
  · cases located
  rename_i written
  split at located
  · cases located
  rename_i short
  rw [if_neg noZero, if_neg written, if_neg short, sameStart]
  exact effect.walk properStart (fun name member => Path.segmentWithoutSlash member) located

/-- A file elsewhere is still read as before. -/
theorem read (effect : Effect written made before after)
    (proper : Proper before.workingDirectory) {path : Path} {content : ByteArray}
    (unwritten : ¬written (before.location path)) (isRead : before.read path = .ok content) :
    after.read path = .ok content := by
  obtain ⟨located, isFile⟩ := readParts isRead
  refine readOfFile (effect.locate proper located) (fileOfContent ?_)
  rw [effect.kept _ (locationProper proper path) unwritten, contentOfFile isFile]

theorem directory (effect : Effect written made before after)
    (proper : Proper before.workingDirectory) {path : Path}
    (isDirectory : before.status path = .ok .directory) : after.status path = .ok .directory := by
  obtain ⟨located, isEntry⟩ := statusParts isDirectory
  exact statusOfEntry (effect.locate proper located)
    (effect.directories _ (locationProper proper path) isEntry)

end Effect

/-! ### Single changes -/

theorem putFileEffect (tree : FileTree) {location : Location} (isProper : Proper location)
    (content : ByteArray) (noDirectory : tree.entry? location ≠ some .directory) :
    Effect (· = location) Nowhere tree (tree.put location (.file content)) where
  toConfined := putConfined tree isProper _
  directories other isOther isDirectory := by
    have different : other ≠ location := by
      rintro rfl
      exact noDirectory isDirectory
    rw [entryPutOther tree isProper isOther different, isDirectory]
  elsewhere other isOther different _ := entryPutOther tree isProper isOther different _

theorem eraseFileEffect (tree : FileTree) {location : Location} (isProper : Proper location)
    (noDirectory : tree.entry? location ≠ some .directory) :
    Effect (· = location) Nowhere tree (tree.erase location) where
  toConfined := eraseConfined tree isProper
  directories other isOther isDirectory := by
    have different : other ≠ location := by
      rintro rfl
      exact noDirectory isDirectory
    rw [entryEraseOther tree isProper isOther different, isDirectory]
  elsewhere other isOther different _ := entryEraseOther tree isProper isOther different

theorem putDirectoryEffect (tree : FileTree) {location : Location} (isProper : Proper location)
    (vacant : tree.entry? location = none) :
    Effect Nowhere (· = location) tree (tree.put location .directory) where
  toConfined := putDirectorySame tree isProper vacant
  directories other isOther isDirectory := by
    have different : other ≠ location := by
      rintro rfl
      rw [vacant] at isDirectory
      cases isDirectory
    rw [entryPutOther tree isProper isOther different, isDirectory]
  elsewhere other isOther _ different := entryPutOther tree isProper isOther different _

/-! ### Slashes at the end -/

theorem locationSlashes (tree : FileTree) {reversed : List Char} (written : reversed ≠ [])
    (slashes : ∀ character ∈ reversed, character = '/') :
    tree.location ⟨String.ofList reversed.reverse⟩ = tree.location ⟨"/"⟩ := by
  induction reversed with
  | nil => exact absurd rfl written
  | cons first rest inductionHypothesis =>
      rw [List.forall_mem_cons] at slashes
      obtain ⟨rfl, slashes⟩ := slashes
      by_cases single : rest = []
      · rw [single]
        rfl
      · rw [List.reverse_cons, locationLastSlash tree (mt List.reverse_eq_nil_iff.mp single)]
        exact inductionHypothesis single slashes

/-- Slashes at the end of a path make no difference to where it leads. -/
theorem locationWithoutLastSlashes (tree : FileTree) (path : Path) :
    tree.location path.withoutLastSlashes = tree.location path := by
  have whole : path = ⟨String.ofList path.text.toList.reverse.reverse⟩ := by
    rw [List.reverse_reverse, String.ofList_toList]
  have dropped (reversed : List Char) (more : reversed.dropWhile (· = '/') ≠ []) :
      tree.location ⟨String.ofList (reversed.dropWhile (· = '/')).reverse⟩ =
        tree.location ⟨String.ofList reversed.reverse⟩ := by
    induction reversed with
    | nil => rfl
    | cons first rest inductionHypothesis =>
        rw [List.dropWhile_cons] at more ⊢
        by_cases isSlash : first = '/'
        · rw [if_pos (by simpa using isSlash)] at more ⊢
          have nonempty : rest.reverse ≠ [] := by
            intro empty
            rw [List.reverse_eq_nil_iff.mp empty] at more
            exact more rfl
          rw [inductionHypothesis more, isSlash, List.reverse_cons, locationLastSlash tree nonempty]
        · rw [if_neg (by simpa using isSlash)]
  rw [Path.withoutLastSlashes]
  split
  · rename_i none
    split
    · rename_i absolute
      have slashes : ∀ character ∈ path.text.toList.reverse, character = '/' := by
        simpa using List.dropWhile_eq_nil_iff.mp none
      have written : path.text.toList.reverse ≠ [] := by
        intro empty
        rw [Path.isAbsolute, List.reverse_eq_nil_iff.mp empty] at absolute
        simp at absolute
      rw [← locationSlashes tree written slashes, ← whole]
    · rfl
  · rename_i more
    rw [dropped _ more, ← whole]

/-! ### Operations on files -/

theorem writeParts {path : Path} {content : ByteArray}
    (done : tree.write path content = .ok after) :
    tree.locate path = .ok (tree.location path) ∧
      tree.entry? (tree.location path) ≠ some .directory ∧
      after = tree.put (tree.location path) (.file content) := by
  obtain ⟨location, located, done⟩ := okOfBind done
  split at done
  · cases done
  rename_i noDirectory
  split at done
  · cases done
  · rename_i plain
    rw [Path.withoutLastSlashesPlain plain] at located
    obtain rfl := locateLocation located
    exact ⟨located, noDirectory, (Except.ok.inj done).symm⟩

theorem removeParts {path : Path} (done : tree.remove path = .ok after) :
    (∃ content, tree.entry? (tree.location path) = some (.file content)) ∧
      after = tree.erase (tree.location path) := by
  obtain ⟨location, located, done⟩ := okOfBind done
  rw [← locateLocation located]
  split at done
  · cases done
  · cases done
  · rename_i isFile
    exact ⟨⟨_, isFile⟩, (Except.ok.inj done).symm⟩

theorem removeFile {path : Path} {location : Location} {content : ByteArray}
    (located : tree.locate path = .ok location)
    (isFile : tree.entry? location = some (.file content)) :
    tree.remove path = .ok (tree.erase location) := by
  rw [remove, located]
  simp only [bind, Except.bind, isFile]
  rfl

/-- What is renamed is a file, and it is looked up at its new path where no directory was. -/
theorem renameParts {origin target : Path} (done : tree.rename origin target = .ok after) :
    ∃ content, tree.entry? (tree.location origin) = some (.file content) ∧
      tree.entry? (tree.location target) ≠ some .directory ∧
      tree.locate target = .ok (tree.location target) ∧
      after = (tree.erase (tree.location origin)).put (tree.location target) (.file content) := by
  obtain ⟨first, isFirst, done⟩ := okOfBind done
  obtain ⟨goal, isGoal, done⟩ := okOfBind done
  split at done
  · cases done
  · cases done
  · rename_i isFile
    split at done
    · cases done
    rename_i plain
    rw [Path.withoutLastSlashesPlain plain] at isGoal
    have isTarget := locateLocation isGoal
    rw [isTarget] at isGoal done
    rw [← locateLocation isFirst]
    split at done
    · cases done
    · rename_i noDirectory
      exact ⟨_, isFile, isTarget ▸ noDirectory, isGoal, (Except.ok.inj done).symm⟩

theorem makeDirectoryParts {path : Path} (done : tree.makeDirectory path = .ok after) :
    tree.entry? (tree.location path) = none ∧
      after = tree.put (tree.location path) .directory := by
  obtain ⟨location, located, done⟩ := okOfBind done
  rw [locateLocation located, locationWithoutLastSlashes] at done
  split at done
  · cases done
  · rename_i vacant
    exact ⟨vacant, (Except.ok.inj done).symm⟩

section Effects

variable (proper : Proper tree.workingDirectory)

include proper

theorem writeEffect {path : Path} {content : ByteArray}
    (done : tree.write path content = .ok after) :
    Effect (· = tree.location path) Nowhere tree after := by
  obtain ⟨-, noDirectory, isAfter⟩ := writeParts done
  rw [isAfter]
  exact putFileEffect tree (locationProper proper path) _ noDirectory

theorem copyEffect {origin target : Path} (done : tree.copy origin target = .ok after) :
    Effect (· = tree.location target) Nowhere tree after := by
  obtain ⟨content, -, isWritten⟩ := copyDone done
  exact writeEffect proper isWritten

theorem removeEffect {path : Path} (done : tree.remove path = .ok after) :
    Effect (· = tree.location path) Nowhere tree after := by
  obtain ⟨⟨content, isFile⟩, isAfter⟩ := removeParts done
  rw [isAfter]
  refine eraseFileEffect tree (locationProper proper path) ?_
  rw [isFile]
  simp

theorem renameEffect {origin target : Path} (done : tree.rename origin target = .ok after) :
    Effect (fun location => location = tree.location origin ∨ location = tree.location target)
      Nowhere tree after := by
  obtain ⟨content, isFile, noDirectory, -, rfl⟩ := renameParts done
  have isOrigin := locationProper proper origin
  have isTarget := locationProper proper target
  have taken := eraseFileEffect tree isOrigin (by rw [isFile]; simp)
  have stillNone : FileTree.entry? (tree.erase (tree.location origin)) (tree.location target) ≠
      some .directory := by
    by_cases same : tree.location target = tree.location origin
    · rw [same, entryEraseSame tree (belowOfFile isFile)]
      simp
    · rwa [entryEraseOther tree isOrigin isTarget same]
  exact (taken.weaken (fun _ => .inl) fun _ => id).trans
    ((putFileEffect _ isTarget content stillNone).weaken (fun _ => .inr) fun _ => id)

/-! ### Operations on directories -/

theorem makeDirectoryEffect {path : Path} (done : tree.makeDirectory path = .ok after) :
    Effect Nowhere (· = tree.location path) tree after := by
  obtain ⟨vacant, isAfter⟩ := makeDirectoryParts done
  rw [isAfter]
  exact putDirectoryEffect tree (locationProper proper path) vacant

end Effects

/-- These are the locations of the paths that a path leads through. -/
def OnWay (tree : FileTree) (path : Path) (location : Location) : Prop :=
  ∃ around, path.LeadsThrough around ∧ location = tree.location around

theorem OnWay.ofParent {path parent : Path} {location : Location}
    (isParent : path.parent? = some parent) (onWay : OnWay tree parent location) :
    OnWay tree path location := by
  obtain ⟨around, through, same⟩ := onWay
  exact ⟨around, .parent isParent through, same⟩

theorem OnWay.moved {locations : Location → Prop} {before : FileTree} {path : Path}
    {location : Location} (confined : Confined locations before after)
    (onWay : OnWay after path location) : OnWay before path location := by
  obtain ⟨around, through, same⟩ := onWay
  exact ⟨around, through, by rw [same, confined.location]⟩

/-- Making a directory makes no others than those on its way. -/
theorem makeParentsEffect (depth : Nat) (tree : FileTree) (path : Path)
    (proper : Proper tree.workingDirectory) :
    Effect Nowhere (OnWay tree path) tree (makeParents depth tree path).1 := by
  induction depth generalizing tree path with
  | zero => exact .refl tree
  | succ depth inductionHypothesis =>
      have here {middle made : FileTree}
          (around : Effect Nowhere (OnWay tree path) tree middle)
          (isMade : middle.makeDirectory path = .ok made) :
          Effect Nowhere (OnWay tree path) tree made := by
        refine around.trans ((makeDirectoryEffect (around.proper proper) isMade).weaken
          (fun _ => id) fun location same => ?_)
        exact ⟨path, .itself path, by rw [same, around.location]⟩
      rw [makeParents]
      split
      · exact .refl tree
      split
      · rename_i made
        exact here (.refl tree) made
      · split
        · exact .refl tree
        · rename_i parent isParent
          have around : Effect Nowhere (OnWay tree path) tree (makeParents depth tree parent).1 :=
            (inductionHypothesis tree parent proper).weaken (fun _ => id) fun _ =>
              OnWay.ofParent isParent
          split
          · rename_i isAround
            rw [isAround] at around
            exact around
          · rename_i isAround
            rw [isAround] at around
            split
            · rename_i made
              exact here around made
            · exact around
      · exact .refl tree

/-- A directory is there when it was made, at least if its path has no slash at its end. -/
theorem makeDirectoryThere {path : Path} (plain : ¬path.meansDirectory = true)
    (proper : Proper tree.workingDirectory) (done : tree.makeDirectory path = .ok after) :
    after.status path = .ok .directory := by
  have effect := makeDirectoryEffect proper done
  obtain ⟨vacant, isAfter⟩ := makeDirectoryParts done
  obtain ⟨location, located, -⟩ := okOfBind done
  rw [Path.withoutLastSlashesPlain plain] at located
  have isLocation := locateLocation located
  have below : tree.location path ≠ [] := by
    intro top
    rw [top, entryTop] at vacant
    cases vacant
  refine statusOfEntry (effect.locate proper (isLocation ▸ located)) ?_
  rw [isAfter, entryPutSame tree below]

theorem directoryOfTest {path : Path} (isDirectory : tree.isDirectory path = true) :
    tree.status path = .ok .directory := by
  rw [FileTree.isDirectory] at isDirectory
  split at isDirectory
  · assumption
  · cases isDirectory

theorem makeParentsThere {depth : Nat} {path : Path} (plain : ¬path.meansDirectory = true)
    (written : path.text ≠ "") (proper : Proper tree.workingDirectory)
    (done : makeParents depth tree path = (after, .ok ())) :
    after.status path = .ok .directory := by
  cases depth with
  | zero => cases congrArg Prod.snd done
  | succ depth =>
      rw [makeParents, if_neg (by simpa using written)] at done
      split at done
      · rename_i isMade
        obtain rfl : _ = after := congrArg Prod.fst done
        exact makeDirectoryThere plain proper isMade
      · split at done
        · cases congrArg Prod.snd done
        rename_i parent _
        have around := (makeParentsEffect depth tree parent proper).proper proper
        split at done
        · cases congrArg Prod.snd done
        rename_i isAround
        rw [isAround] at around
        split at done
        · rename_i isMade
          obtain rfl : _ = after := congrArg Prod.fst done
          exact makeDirectoryThere plain around isMade
        · split at done
          · rename_i isDirectory
            obtain rfl : _ = after := congrArg Prod.fst done
            exact directoryOfTest isDirectory
          · cases congrArg Prod.snd done
      · split at done
        · rename_i isDirectory
          obtain rfl : _ = after := congrArg Prod.fst done
          exact directoryOfTest isDirectory
        · cases congrArg Prod.snd done

theorem makeDirectoriesEffect (tree : FileTree) (path : Path)
    (proper : Proper tree.workingDirectory) :
    Effect Nowhere (OnWay tree path) tree (tree.makeDirectories path).1 :=
  makeParentsEffect _ tree path proper

end FileTree

end DeskScript
