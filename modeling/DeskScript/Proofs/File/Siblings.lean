/-
This file shows where paths lead that are made from other paths. A path joined with a name leads
right below, and a path with another extension leads to a file in the same directory.
-/

import DeskScript.Proofs.File.Location

namespace DeskScript

/-! ### Names and their parts -/

namespace Path

/-- A name is its stem and, if it has an extension, a point and the extension. -/
theorem splitNameJoined (name : List Char) :
    (splitName name).1 ++ ((splitName name).2.map ('.' :: ·)).getD [] = name := by
  have whole := List.takeWhile_append_dropWhile (p := (· ≠ '.')) (l := name.reverse)
  have pointed := List.head?_dropWhile_not (· ≠ '.') name.reverse
  rw [splitName]
  cases dropped : name.reverse.dropWhile (· ≠ '.') with
  | nil => exact List.append_nil name
  | cons first stem =>
      cases stem with
      | nil => exact List.append_nil name
      | cons last rest =>
          rw [dropped] at whole pointed
          have isPoint : first = '.' := by simpa using pointed
          have reversed := congrArg List.reverse whole
          rw [isPoint] at reversed
          simpa using reversed

theorem stemWritten {name : List Char} (written : name ≠ []) : (splitName name).1 ≠ [] := by
  rw [splitName]
  split
  · exact written
  · exact written
  · rename_i first stem nonempty dropped
    exact fun empty => nonempty (List.reverse_eq_nil_iff.mp empty)

theorem stemInside {name : List Char} {character : Char} (member : character ∈ (splitName name).1) :
    character ∈ name := by
  rw [← splitNameJoined name]
  exact List.mem_append_left _ member

theorem extensionInside {name extension : List Char}
    (isExtension : (splitName name).2 = some extension) {character : Char}
    (member : character ∈ extension) : character ∈ name := by
  rw [← splitNameJoined name, isExtension]
  exact List.mem_append_right _ (List.mem_cons_of_mem _ member)

/-- A stem, a point and an extension make a name. -/
theorem isNameOfParts {stem extension : List Char} (written : stem ≠ []) (noSlash : '/' ∉ stem)
    (noSlashBehind : '/' ∉ extension) (more : extension ≠ []) :
    IsName (String.ofList (stem ++ '.' :: extension)) := by
  have long : 2 < (stem ++ '.' :: extension).length := by
    have stemLength := List.length_pos_of_ne_nil written
    have extensionLength := List.length_pos_of_ne_nil more
    rw [List.length_append, List.length_cons]
    omega
  -- The texts that are no names have at most two characters.
  have longer {text : String} (same : String.ofList (stem ++ '.' :: extension) = text) :
      2 < text.toList.length := by
    rw [← same, String.toList_ofList]
    exact long
  refine ⟨fun same => absurd (longer same) (by decide),
    fun same => absurd (longer same) (by decide), fun same => absurd (longer same) (by decide), ?_⟩
  rw [String.toList_ofList, List.mem_append, List.mem_cons, not_or, not_or]
  exact ⟨noSlash, by decide, noSlashBehind⟩

/-- Paths that are joined from one path and different relative parts are different. -/
theorem joinInjective {base : Path} {first second : String}
    (firstRelative : first.toList.head? ≠ some '/')
    (secondRelative : second.toList.head? ≠ some '/')
    (same : base.join first = base.join second) : first = second := by
  have joined {part : String} (relative : part.toList.head? ≠ some '/') :
      (base.join part).text = base.text ++
        (if base.text.isEmpty || base.text.toList.getLast? = some '/' then "" else "/") ++
          part := by
    rw [Path.join]
    by_cases empty : base.text = ""
    · simp [empty]
    · by_cases ends : base.text.toList.getLast? = some '/' <;> simp [relative, empty, ends]
  have texts := congrArg Path.text same
  rw [joined firstRelative, joined secondRelative] at texts
  have characters := congrArg String.toList texts
  simp only [String.toList_append] at characters
  exact String.toList_inj.mp (List.append_cancel_left characters)

/-! ### Names at the end of paths -/

theorem trimBackName {name : String} (isName : IsName name) (rest : List Char) :
    trimBack (name.toList.reverse ++ rest) = name.toList.reverse ++ rest := by
  have noSlash : '/' ∉ name.toList.reverse := by simpa using isName.noSlash
  cases isReversed : name.toList.reverse with
  | nil =>
      have empty := List.reverse_eq_nil_iff.mp isReversed
      exact absurd (String.toList_eq_nil_iff.mp empty) isName.written
  | cons first others =>
      rw [isReversed, List.mem_cons, not_or] at noSlash
      rw [List.cons_append]
      unfold trimBack
      split
      · rename_i isSlash
        exact absurd (List.cons.inj isSlash).1.symm noSlash.1
      · rename_i isSlash
        exact absurd (List.cons.inj isSlash).1.symm noSlash.1
      · -- A point before a slash would be the whole name.
        rename_i isPoint
        obtain ⟨isFirst, isNext⟩ := List.cons.inj isPoint
        cases others with
        | nil =>
            rw [isFirst] at isReversed
            have single : name = "." := by
              rw [← String.toList_inj, ← List.reverse_reverse name.toList, isReversed]
              rfl
            exact absurd single isName.noPoint
        | cons second further =>
            rw [List.mem_cons, not_or] at noSlash
            exact absurd (List.cons.inj isNext).1.symm noSlash.2.1
      · rfl

/-- A relative part stands behind nothing or behind a slash in a path that is joined with it. -/
theorem joinParts (base : Path) {part : String} (relative : part.toList.head? ≠ some '/') :
    ∃ front, (front = [] ∨ front.getLast? = some '/') ∧
      base.join part = ⟨String.ofList (front ++ part.toList)⟩ := by
  obtain ⟨text⟩ := base
  rw [join]
  by_cases empty : text = ""
  · refine ⟨[], .inl rfl, ?_⟩
    rw [if_pos (by simp [empty]), List.nil_append, String.ofList_toList]
  rw [if_neg (by simpa [relative] using empty)]
  split
  · rename_i ends
    refine ⟨text.toList, .inr ends, ?_⟩
    rw [String.ofList_append, String.ofList_toList, String.ofList_toList]
  · refine ⟨text.toList ++ ['/'], .inr List.getLast?_concat, ?_⟩
    rw [String.ofList_append, String.ofList_append, String.ofList_toList, String.ofList_toList]

/-- A path joined with a name has this file name. -/
theorem fileNameOfJoin (base : Path) {name : String} (isName : IsName name) :
    (base.join name).fileName? = some name := by
  obtain ⟨front, ends, isPath⟩ := joinParts base isName.relative
  have noSlash : ∀ character ∈ name.toList.reverse, character ≠ '/' := by
    intro character member same
    rw [List.mem_reverse, same] at member
    exact isName.noSlash member
  have last : (base.join name).lastPart = name.toList := by
    rw [isPath, lastPart, back, String.toList_ofList, List.reverse_append, trimBackName isName,
      List.takeWhile_append_of_pos (by simpa using noSlash)]
    rcases ends with rfl | ends
    · simp
    · obtain ⟨others, rfl⟩ := List.getLast?_eq_some_iff.mp ends
      simp
  have proper : ¬(name.toList = [] ∨ name.toList = ['.'] ∨ name.toList = ['.', '.']) := by
    rintro (empty | point | points)
    · exact isName.written (String.toList_inj.mp empty)
    · exact isName.noPoint (String.toList_inj.mp point)
    · exact isName.noPoints (String.toList_inj.mp points)
  rw [fileName?, last, if_neg proper, String.ofList_toList]

/-- The last point of a name divides it. -/
theorem splitNameOf {stem extension : List Char} (written : stem ≠ []) (noPoint : '.' ∉ extension) :
    splitName (stem ++ '.' :: extension) = (stem, some extension) := by
  have plain : ∀ character ∈ extension.reverse, character ≠ '.' := by
    intro character member same
    rw [List.mem_reverse, same] at member
    exact noPoint member
  have reversed : (stem ++ '.' :: extension).reverse = extension.reverse ++ '.' :: stem.reverse := by
    simp
  have taken : (stem ++ '.' :: extension).reverse.takeWhile (· ≠ '.') = extension.reverse := by
    rw [reversed, List.takeWhile_append_of_pos (by simpa using plain)]
    simp
  have dropped : (stem ++ '.' :: extension).reverse.dropWhile (· ≠ '.') = '.' :: stem.reverse := by
    rw [reversed, List.dropWhile_append_of_pos (by simpa using plain)]
    simp
  obtain ⟨last, others, isReversed⟩ := List.exists_cons_of_ne_nil (mt List.reverse_eq_nil_iff.mp written)
  rw [splitName, dropped, taken, isReversed]
  dsimp only
  rw [← isReversed, List.reverse_reverse, List.reverse_reverse]

end Path

/-! ### Below a directory -/

namespace FileTree

/-- Behind a slash a path goes on from where the part before it leads. -/
theorem locationBehindSlash (tree : FileTree) (front back : List Char) :
    tree.location ⟨String.ofList (front ++ '/' :: back)⟩ =
      resolved (tree.location ⟨String.ofList (front ++ ['/'])⟩)
        (Path.segments (String.ofList back)) := by
  have sameStart : tree.start ⟨String.ofList (front ++ '/' :: back)⟩ =
      tree.start ⟨String.ofList (front ++ ['/'])⟩ := by
    cases front <;> simp [start, Path.isAbsolute]
  have idle : Path.segments (String.ofList []) = [""] := rfl
  rw [location, location, sameStart, Path.segmentsAtSlash, Path.segmentsAtSlash, resolvedAppend,
    resolvedAppend, idle, resolvedIdle _ (.inl rfl)]

theorem locationLastSlash (tree : FileTree) {front : List Char} (written : front ≠ []) :
    tree.location ⟨String.ofList (front ++ ['/'])⟩ = tree.location ⟨String.ofList front⟩ := by
  have sameStart : tree.start ⟨String.ofList (front ++ ['/'])⟩ =
      tree.start ⟨String.ofList front⟩ := by
    cases front with
    | nil => exact absurd rfl written
    | cons first rest => simp [start, Path.isAbsolute]
  have idle : Path.segments (String.ofList []) = [""] := rfl
  rw [location, location, sameStart, Path.segmentsAtSlash, resolvedAppend, idle,
    resolvedIdle _ (.inl rfl)]

/-- A name behind nothing or behind a slash leads right below. -/
theorem locationName (tree : FileTree) {directory name : List Char}
    (ends : directory = [] ∨ directory.getLast? = some '/') (isName : IsName (String.ofList name)) :
    tree.location ⟨String.ofList (directory ++ name)⟩ =
      tree.location ⟨String.ofList directory⟩ ++ [String.ofList name] := by
  have single : Path.segments (String.ofList name) = [String.ofList name] :=
    Path.segmentsNoSlash isName.noSlash
  rcases ends with rfl | ends
  · have relative : (Path.mk (String.ofList name)).isAbsolute = false := by
      have noSlash := isName.noSlash
      cases name with
      | nil => rfl
      | cons first rest =>
          rw [String.toList_ofList, List.mem_cons, not_or] at noSlash
          simpa [Path.isAbsolute] using Ne.symm noSlash.1
    rw [List.nil_append, location, location, start, relative, single, resolvedName _ isName]
    rfl
  · obtain ⟨front, rfl⟩ := List.getLast?_eq_some_iff.mp ends
    rw [List.append_assoc, List.singleton_append, locationBehindSlash, single,
      resolvedName _ isName]

/-- A path joined with a name leads right below. -/
theorem locationJoin (tree : FileTree) (base : Path) {name : String} (isName : IsName name) :
    tree.location (base.join name) = tree.location base ++ [name] := by
  have noSlash := isName.relative
  have own : IsName (String.ofList name.toList) := by rwa [String.ofList_toList]
  obtain ⟨text⟩ := base
  have joined (directory : List Char) (ends : directory = [] ∨ directory.getLast? = some '/') :
      tree.location ⟨String.ofList (directory ++ name.toList)⟩ =
        tree.location ⟨String.ofList directory⟩ ++ [name] := by
    rw [locationName tree ends own, String.ofList_toList]
  rw [Path.join]
  by_cases empty : text = ""
  · rw [empty]
    simpa [noSlash] using joined [] (.inl rfl)
  · have written : text.toList ≠ [] := fun none => empty (String.toList_eq_nil_iff.mp none)
    rw [if_neg (by simpa [noSlash] using empty)]
    split
    · rename_i ends
      simpa [String.ofList_append] using joined text.toList (.inr ends)
    · have further := joined (text.toList ++ ['/']) (.inr List.getLast?_concat)
      rw [locationLastSlash tree written] at further
      simpa [String.ofList_append, String.append_assoc] using further

end FileTree

/-! ### Other extensions -/

namespace FileTree

/-- What does not count at the end of a path makes no difference to where it leads. -/
theorem locationTrimmed (tree : FileTree) (reversed : List Char) :
    tree.location ⟨String.ofList (Path.trimBack reversed).reverse⟩ =
      tree.location ⟨String.ofList reversed.reverse⟩ := by
  induction reversed using Path.trimBack.induct with
  | case1 => rfl
  | case2 rest more inductionHypothesis =>
      have written : rest.reverse ≠ [] := fun empty => more (List.reverse_eq_nil_iff.mp empty)
      rw [Path.trimBack, inductionHypothesis, List.reverse_cons, locationLastSlash tree written]
      exact more
  | case3 rest inductionHypothesis =>
      have idle : Path.segments (String.ofList ['.']) = ["."] := rfl
      have front : ('.' :: '/' :: rest).reverse = rest.reverse ++ ['/', '.'] := by simp
      rw [Path.trimBack, inductionHypothesis, front, locationBehindSlash, idle,
        resolvedIdle _ (.inr rfl), List.reverse_cons]
  | case4 other noRoot noSlash noPoint => rw [Path.trimBack] <;> assumption

end FileTree

namespace Path

/-- A path with a file name is the part of the path up to its last slash and the name. -/
structure EndsWith (path : Path) (directory : List Char) (name : String) : Prop where
  ends : directory = [] ∨ directory.getLast? = some '/'
  isName : IsName name
  back : path.back = name.toList.reverse ++ directory.reverse

theorem endsWithName {path : Path} {name : String} (isName : path.fileName? = some name) :
    ∃ directory, path.EndsWith directory name := by
  have whole := List.takeWhile_append_dropWhile (p := (· ≠ '/')) (l := path.back)
  have slash := List.head?_dropWhile_not (· ≠ '/') path.back
  have noSlash : ∀ character ∈ path.back.takeWhile (· ≠ '/'), character ≠ '/' :=
    fun character member => by
      simpa using List.all_eq_true.mp (List.all_takeWhile (p := (· ≠ '/'))) character member
  rw [fileName?, lastPart] at isName
  split at isName
  · cases isName
  rename_i proper
  cases isName
  rw [not_or, not_or] at proper
  refine ⟨(path.back.dropWhile (· ≠ '/')).reverse, ?_, ?_, ?_⟩
  · cases dropped : path.back.dropWhile (· ≠ '/') with
    | nil => exact .inl rfl
    | cons first rest =>
        rw [dropped] at slash
        have isSlash : first = '/' := by simpa using slash
        exact .inr (by simp [isSlash])
  · have characters {text : String}
        (same : String.ofList (path.back.takeWhile (· ≠ '/')).reverse = text) :
        (path.back.takeWhile (· ≠ '/')).reverse = text.toList := by
      rw [← same, String.toList_ofList]
    refine ⟨fun same => proper.1 (characters same), fun same => proper.2.1 (characters same),
      fun same => proper.2.2 (characters same), fun inside => ?_⟩
    rw [String.toList_ofList, List.mem_reverse] at inside
    exact noSlash _ inside rfl
  · rw [String.toList_ofList, List.reverse_reverse, List.reverse_reverse, whole]

end Path

namespace FileTree

/-- A path with a file name leads right below the part of the path before it. -/
theorem locationEnds (tree : FileTree) {path : Path} {directory : List Char} {name : String}
    (ends : path.EndsWith directory name) :
    tree.location path = tree.location ⟨String.ofList directory⟩ ++ [name] := by
  have own : IsName (String.ofList name.toList) := by
    rw [String.ofList_toList]
    exact ends.isName
  have whole : path = ⟨String.ofList path.text.toList.reverse.reverse⟩ := by
    rw [List.reverse_reverse, String.ofList_toList]
  rw [whole, ← locationTrimmed]
  have trimmed : Path.trimBack path.text.toList.reverse = path.back := rfl
  rw [trimmed, ends.back, List.reverse_append, List.reverse_reverse, List.reverse_reverse,
    locationName tree ends.ends own, String.ofList_toList]

/-- With another extension a path leads to a file in the same directory with the same stem. -/
theorem locationStem (tree : FileTree) {path : Path} {name extension : String}
    (isFile : path.fileName? = some name) (written : extension ≠ "")
    (noSlash : '/' ∉ extension.toList) :
    ∃ directory other, IsName name ∧ IsName other ∧
      other.toList = (Path.splitName name.toList).1 ++ '.' :: extension.toList ∧
      tree.location path = directory ++ [name] ∧
      tree.location (path.withExtension extension) = directory ++ [other] := by
  obtain ⟨directory, ends⟩ := Path.endsWithName isFile
  have nonempty : name.toList ≠ [] := fun empty =>
    ends.isName.written (String.toList_eq_nil_iff.mp empty)
  have isOther : IsName (String.ofList ((Path.splitName name.toList).1 ++
      '.' :: extension.toList)) :=
    Path.isNameOfParts (Path.stemWritten nonempty)
      (fun inside => ends.isName.noSlash (Path.stemInside inside)) noSlash
      (fun empty => written (String.toList_eq_nil_iff.mp empty))
  refine ⟨tree.location ⟨String.ofList directory⟩, _, ends.isName, isOther, String.toList_ofList,
    locationEnds tree ends, ?_⟩
  have front : (path.back.drop name.length).reverse = directory := by
    rw [ends.back, ← String.length_toList, ← List.length_reverse, List.drop_left,
      List.reverse_reverse]
  have text : String.ofList (directory ++ (Path.splitName name.toList).1) ++ "." ++ extension =
      String.ofList
        (directory ++ ((Path.splitName name.toList).1 ++ '.' :: extension.toList)) := by
    rw [← String.toList_inj]
    simp
  rw [Path.withExtension, isFile]
  dsimp only
  rw [front, text, locationName tree ends.ends isOther]

/-- With another extension a path leads to a file in the same directory. -/
theorem locationExtension (tree : FileTree) (path : Path) {extension : String}
    (written : extension ≠ "") (noSlash : '/' ∉ extension.toList) :
    path.withExtension extension = path ∨
      ∃ directory name other, IsName name ∧ IsName other ∧
        tree.location path = directory ++ [name] ∧
        tree.location (path.withExtension extension) = directory ++ [other] := by
  cases isFile : path.fileName? with
  | none =>
      left
      rw [Path.withExtension, isFile]
  | some name =>
      right
      obtain ⟨directory, other, isName, isOther, -, isPath, isSibling⟩ :=
        tree.locationStem isFile written noSlash
      exact ⟨directory, name, other, isName, isOther, isPath, isSibling⟩

end FileTree

end DeskScript
