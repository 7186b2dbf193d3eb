/-
This file is about the names of backups. They begin with the stem of their file, and this can be
the beginning of the names of the backups of another file as well.
-/

import DeskScript.Library.Basic
import DeskScript.Proofs.Decimal.Digits
import DeskScript.Proofs.File.Siblings

namespace DeskScript

/-! ### Parts of names -/

namespace Path

theorem fileNameNoSlash {path : Path} {name : String} (isName : path.fileName? = some name) :
    '/' ∉ name.toList := by
  obtain ⟨directory, ends⟩ := endsWithName isName
  exact ends.isName.noSlash

theorem stemNoSlash {path : Path} {stem : String} (isStem : path.stem? = some stem) :
    '/' ∉ stem.toList := by
  obtain ⟨name, isName, rfl⟩ := Option.map_eq_some_iff.mp isStem
  rw [String.toList_ofList]
  exact fun inside => fileNameNoSlash isName (stemInside inside)

theorem extensionNoSlash {path : Path} {extension : String}
    (isExtension : path.extension? = some extension) : '/' ∉ extension.toList := by
  obtain ⟨name, isName, isExtension⟩ := Option.bind_eq_some_iff.mp isExtension
  obtain ⟨characters, isSplit, rfl⟩ := Option.map_eq_some_iff.mp isExtension
  rw [String.toList_ofList]
  exact fun inside => fileNameNoSlash isName (extensionInside isSplit inside)

end Path

/-! ### Stamps -/

namespace Time

/-- These characters occur in the stamps of file names. -/
def IsStampCharacter (character : Char) : Prop :=
  Decimal.isDecimalDigit character = true ∨ character = '_' ∨ character = '-' ∨ character = '+'

instance : DecidablePred IsStampCharacter := fun _ =>
  inferInstanceAs (Decidable (_ ∨ _ ∨ _ ∨ _))

theorem stampCharacters (time : Timestamp) :
    ∀ character ∈ time.stamp.toList, IsStampCharacter character := by
  have padded (width value : Nat) :
      ∀ character ∈ Decimal.padZeros width (Decimal.natDigits value), IsStampCharacter character :=
    fun character member => .inl (Decimal.paddedAreDigits width value character member)
  have year (value : Int) : ∀ character ∈ yearDigits value, IsStampCharacter character := by
    intro character member
    rw [yearDigits] at member
    split at member
    · exact padded _ _ character member
    · rcases List.mem_cons.mp member with rfl | member
      · split
        · exact .inr (.inr (.inl rfl))
        · exact .inr (.inr (.inr rfl))
      · exact padded _ _ character member
  intro character member
  rw [Timestamp.stamp, String.toList_ofList] at member
  simp only [List.mem_append, List.mem_cons, twoDigits] at member
  rcases member with (((((inYear | inMonth) | inDay) | isMark | inHour) | inMinute) | inSecond) |
    isMark | inPart
  · exact year _ character inYear
  · exact padded _ _ character inMonth
  · exact padded _ _ character inDay
  · exact .inr (.inl isMark)
  · exact padded _ _ character inHour
  · exact padded _ _ character inMinute
  · exact padded _ _ character inSecond
  · exact .inr (.inl isMark)
  · exact padded _ _ character inPart

theorem stampWithout (time : Timestamp) {character : Char} (other : ¬IsStampCharacter character) :
    character ∉ time.stamp.toList :=
  fun inside => other (stampCharacters time character inside)

end Time

namespace Library

/-! ### Names of backups -/

theorem startsWithIff (start text : String) :
    startsWith start text = true ↔ start.toList <+: text.toList :=
  List.isPrefixOf_iff_prefix

/-- This text separates the stem of the file from the stamp. -/
def backupMark : List Char := ['_', 'b', 'a', 'c', 'k', 'u', 'p', '_']

/-- This is the stem by which the backups of a file are known. -/
def backupStem (path : Path) : List Char := (path.stem?.getD "macro").toList

/-- This is the extension that the backups of a file get. -/
def backupExtension (path : Path) : List Char := (path.extension?.getD "json").toList

theorem backupPrefixCharacters (path : Path) :
    (backupPrefix path).toList = backupStem path ++ backupMark := by
  simp [backupPrefix, backupStem, backupMark]

theorem backupNameCharacters (path : Path) (now : Time.Timestamp) :
    (backupName path now).toList =
      (backupPrefix path).toList ++ (now.stamp.toList ++ '.' :: backupExtension path) := by
  simp [backupName, backupExtension, String.toList_append]

theorem backupNameStarts (path : Path) (now : Time.Timestamp) :
    (backupPrefix path).toList <+: (backupName path now).toList :=
  ⟨_, (backupNameCharacters path now).symm⟩

theorem backupNameNoSlash (path : Path) (now : Time.Timestamp) :
    '/' ∉ (backupName path now).toList := by
  have inStem : '/' ∉ backupStem path := by
    rw [backupStem]
    cases isStem : path.stem? with
    | none => decide
    | some stem => exact Path.stemNoSlash isStem
  have inExtension : '/' ∉ backupExtension path := by
    rw [backupExtension]
    cases isExtension : path.extension? with
    | none => decide
    | some extension => exact Path.extensionNoSlash isExtension
  have inStamp : '/' ∉ now.stamp.toList := Time.stampWithout now (by decide)
  rw [backupNameCharacters, backupPrefixCharacters]
  simp only [List.mem_append, List.mem_cons, not_or]
  exact ⟨⟨inStem, by decide⟩, inStamp, by decide, inExtension⟩

/-- A name that starts like a backup is long enough to be no point. -/
theorem isNameOfStart {path : Path} {name : String}
    (starts : (backupPrefix path).toList <+: name.toList)
    (noSlash : '/' ∉ name.toList) : IsName name := by
  have long : 8 ≤ name.toList.length := by
    have covered := starts.length_le
    rw [backupPrefixCharacters, List.length_append] at covered
    exact (Nat.le_add_left 8 _).trans covered
  refine ⟨?_, ?_, ?_, noSlash⟩
  all_goals
    rintro rfl
    exact absurd long (by decide)

theorem backupNameIsName (path : Path) (now : Time.Timestamp) : IsName (backupName path now) :=
  isNameOfStart (backupNameStarts path now) (backupNameNoSlash path now)

/-! ### Names that are taken for those of another file -/

/-- The mark does not begin in a text without its second letter, unless on the last character. -/
theorem markBehind {front rest : List Char} (noLetter : 'b' ∉ front)
    (last : front.getLast? ≠ some '_') (inside : backupMark <:+: front ++ rest) :
    backupMark <:+: rest := by
  induction front with
  | nil => exact inside
  | cons first others inductionHypothesis =>
      rw [List.mem_cons, not_or] at noLetter
      rcases List.infix_cons_iff.mp inside with here | further
      · -- The mark would begin here, so its second letter would come next.
        obtain ⟨isFirst, next⟩ := List.cons_prefix_cons.mp here
        cases others with
        | nil => exact absurd (by rw [← isFirst]; rfl) last
        | cons second others =>
            have isSecond := (List.cons_prefix_cons.mp next).1
            exact absurd (by rw [isSecond]; exact List.mem_cons_self) noLetter.2
      · refine inductionHypothesis noLetter.2 (fun isLast => last ?_) further
        rw [List.getLast?_cons, isLast]
        rfl

/--
The name of a backup starts like the backups of another file only if the stems allow it or the
mark is in its extension.
-/
theorem startOfBackupName {path owner : Path} {now : Time.Timestamp}
    (starts : (backupPrefix path).toList <+: (backupName owner now).toList) :
    (backupPrefix path).toList <+: (backupPrefix owner).toList ∨
      backupMark <:+: backupExtension owner := by
  by_cases short : (backupPrefix path).length ≤ (backupPrefix owner).length
  · left
    exact List.prefix_of_prefix_length_le starts (backupNameStarts owner now)
      (by rwa [String.length_toList, String.length_toList])
  · right
    rw [backupNameCharacters, backupPrefixCharacters, backupPrefixCharacters,
      List.append_assoc] at starts
    have longer : (backupStem owner).length < (backupStem path).length := by
      rw [← String.length_toList, ← String.length_toList, backupPrefixCharacters,
        backupPrefixCharacters, List.length_append, List.length_append] at short
      omega
    -- The stem of the owner is left out at the start of both names.
    obtain ⟨beyond, isStem⟩ : backupStem owner <+: backupStem path :=
      List.prefix_of_prefix_length_le (List.prefix_append _ _)
        ((List.prefix_append _ _).trans starts) longer.le
    rw [← isStem, List.append_assoc, List.prefix_append_right_inj] at starts
    cases beyond with
    | nil =>
        rw [List.append_nil] at isStem
        exact absurd longer (by rw [isStem]; exact Nat.lt_irrefl _)
    | cons first others =>
        have inside : backupMark <:+: backupMark.tail ++
            (now.stamp.toList ++ '.' :: backupExtension owner) :=
          (List.suffix_append others backupMark).isInfix.trans
            (List.cons_prefix_cons.mp starts).2.isInfix
        have behindLetter : backupMark <:+: (backupMark.tail.tail ++ now.stamp.toList ++ ['.']) ++
            backupExtension owner := by
          rcases List.infix_cons_iff.mp inside with here | further
          · exact absurd (List.cons_prefix_cons.mp here).1 (by decide)
          · simpa [backupMark] using further
        refine markBehind ?_ ?_ behindLetter
        · have inStamp : 'b' ∉ now.stamp.toList := Time.stampWithout now (by decide)
          simp only [List.mem_append, not_or]
          exact ⟨⟨by decide, inStamp⟩, by decide⟩
        · rw [List.getLast?_concat]
          decide

end Library

end DeskScript
