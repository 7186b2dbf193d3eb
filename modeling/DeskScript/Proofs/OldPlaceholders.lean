/-
This file says where placeholders of the older form stand in a text and what becomes of them. When
they have been rewritten there are none left, and a template resolves as if they had been replaced
where they stood.
-/

import DeskScript.Proofs.Document.ProbePlaces
import DeskScript.Proofs.Substitution

namespace DeskScript

namespace Template

/-! ### The older form -/

/-- A placeholder of the older form is a name with blanks around it between double braces. -/
structure OldForm where
  before : List Char
  name : List Char
  after : List Char

namespace OldForm

def written (form : OldForm) : List Char :=
  '\x7b' :: '\x7b' :: (form.before ++ (form.name ++ (form.after ++ ['\x7d', '\x7d'])))

structure IsWritten (form : OldForm) : Prop where
  nonempty : form.name ≠ []
  named : ∀ character ∈ form.name, isOldNameCharacter character = true
  blankBefore : ∀ character ∈ form.before, Text.isBlank character = true
  blankAfter : ∀ character ∈ form.after, Text.isBlank character = true

end OldForm

def StartsOld (text : List Char) : Prop :=
  ∃ (form : OldForm) (rest : List Char), form.IsWritten ∧ text = form.written ++ rest

/-- Somewhere in a text a placeholder of the older form starts. -/
def HoldsOld (text : List Char) : Prop :=
  ∃ before rest, text = before ++ rest ∧ StartsOld rest

/-- Somewhere in a text there is the opening of a placeholder, whether or not it is closed. -/
def HoldsOpening (text : List Char) : Prop := ['$', '\x7b'] <:+: text

/--
A text is read from left to right. A placeholder of the older form is taken where one starts, and
every other character stands for itself.
-/
inductive OldReading : List Char → List TemplatePart → Prop where
  | last : OldReading [] []
  | literal {character : Char} {rest : List Char} {parts : List TemplatePart}
      (plain : ¬StartsOld (character :: rest)) (others : OldReading rest parts) :
      OldReading (character :: rest) (.literal character :: parts)
  | placeholder {form : OldForm} {rest : List Char} {parts : List TemplatePart}
      (isWritten : form.IsWritten) (others : OldReading rest parts) :
      OldReading (form.written ++ rest) (.placeholder form.name :: parts)

/-! ### Characters -/

theorem oldNameUnblank {character : Char} (named : isOldNameCharacter character = true) :
    Text.isBlank character = false := by
  simp only [isOldNameCharacter, Bool.or_eq_true, decide_eq_true_eq] at named
  obtain ((alphanum | rfl) | rfl) | rfl := named
  · exact Upgrade.alphanumUnblank alphanum
  · decide
  · decide
  · decide

/-- Where a test fails for the first time a text is cut in two. -/
theorem cutAt {test : Char → Bool} {front rest : List Char} {character : Char}
    (inside : ∀ character ∈ front, test character = true) (stops : test character = false) :
    (front ++ character :: rest).takeWhile test = front ∧
      (front ++ character :: rest).dropWhile test = character :: rest := by
  rw [List.takeWhile_append_of_pos inside, List.dropWhile_append_of_pos inside,
    List.takeWhile_cons_of_neg (by rw [stops]; decide),
    List.dropWhile_cons_of_neg (by rw [stops]; decide), List.append_nil]
  exact ⟨rfl, rfl⟩

/-! ### Reading a name -/

namespace OldForm

theorem IsWritten.name? {form : OldForm} (isWritten : form.IsWritten) :
    ∃ first others, form.name = first :: others ∧ isOldNameCharacter first = true := by
  obtain ⟨first, others, isName⟩ := List.exists_cons_of_ne_nil isWritten.nonempty
  exact ⟨first, others, isName, isWritten.named first (isName ▸ List.mem_cons_self)⟩

end OldForm

theorem readOldNameAt {form : OldForm} (isWritten : form.IsWritten) (rest : List Char) :
    readOldName (form.before ++ (form.name ++ (form.after ++ '\x7d' :: '\x7d' :: rest))) =
      some (form.name, rest) := by
  obtain ⟨first, others, isName, firstNamed⟩ := isWritten.name?
  have inner : (form.before ++ (form.name ++ (form.after ++ '\x7d' :: '\x7d' :: rest))).dropWhile
      Text.isBlank = form.name ++ (form.after ++ '\x7d' :: '\x7d' :: rest) := by
    rw [isName]
    exact (cutAt isWritten.blankBefore (oldNameUnblank firstNamed)).2
  have braces : (form.after ++ '\x7d' :: '\x7d' :: rest).dropWhile Text.isBlank =
      '\x7d' :: '\x7d' :: rest := (cutAt isWritten.blankAfter (by decide)).2
  have cut : (form.name ++ (form.after ++ '\x7d' :: '\x7d' :: rest)).takeWhile isOldNameCharacter =
        form.name ∧
      (form.name ++ (form.after ++ '\x7d' :: '\x7d' :: rest)).dropWhile isOldNameCharacter =
        form.after ++ '\x7d' :: '\x7d' :: rest := by
    cases isAfter : form.after with
    | nil => exact cutAt isWritten.named (by decide)
    | cons blank others =>
        have isBlank := isWritten.blankAfter blank (isAfter ▸ List.mem_cons_self)
        refine cutAt isWritten.named (Bool.eq_false_iff.mpr fun named => ?_)
        rw [oldNameUnblank named] at isBlank
        cases isBlank
  rw [readOldName, inner]
  simp only [cut.1, cut.2, braces]
  rw [isName]
  rfl

/-- What has been read is a placeholder of the older form without its opening braces. -/
theorem readOldNameWritten {text name rest : List Char}
    (found : readOldName text = some (name, rest)) :
    ∃ form : OldForm, form.IsWritten ∧ form.name = name ∧
      '\x7b' :: '\x7b' :: text = form.written ++ rest := by
  rw [readOldName] at found
  generalize isInner : text.dropWhile Text.isBlank = inner at found
  generalize isOthers : inner.dropWhile isOldNameCharacter = others at found
  generalize isBraces : others.dropWhile Text.isBlank = braces at found
  have wholeText := List.takeWhile_append_dropWhile (p := Text.isBlank) (l := text)
  have wholeInner := List.takeWhile_append_dropWhile (p := isOldNameCharacter) (l := inner)
  have wholeOthers := List.takeWhile_append_dropWhile (p := Text.isBlank) (l := others)
  have passes {test : Char → Bool} (characters : List Char) :
      ∀ character ∈ characters.takeWhile test, test character = true :=
    List.all_eq_true.mp List.all_takeWhile
  split at found
  · split at found
    · cases found
    · rename_i written
      cases found
      rw [isBraces] at wholeOthers
      rw [isOthers, ← wholeOthers] at wholeInner
      rw [isInner, ← wholeInner] at wholeText
      refine ⟨⟨text.takeWhile Text.isBlank, _, others.takeWhile Text.isBlank⟩,
        ⟨fun empty => written (List.isEmpty_iff.mpr empty), passes inner, passes text,
          passes others⟩, rfl, ?_⟩
      exact congrArg (fun inner => '\x7b' :: '\x7b' :: inner) (wholeText.symm.trans (by simp))
  · cases found

/-- A placeholder of the older form starts where a name can be read after two opening braces. -/
theorem startsOldIff (text : List Char) : StartsOld text ↔
    ∃ rest found, text = '\x7b' :: '\x7b' :: rest ∧ readOldName rest = some found := by
  constructor
  · rintro ⟨form, rest, isWritten, rfl⟩
    refine ⟨_, _, ?_, readOldNameAt isWritten rest⟩
    simp [OldForm.written]
  · rintro ⟨rest, ⟨name, after⟩, rfl, found⟩
    obtain ⟨form, isWritten, -, whole⟩ := readOldNameWritten found
    exact ⟨form, after, isWritten, whole⟩

/-- A placeholder of the older form can start in one way only. -/
theorem sameOldForm {first second : OldForm} {rest other : List Char} (one : first.IsWritten)
    (two : second.IsWritten) (same : first.written ++ rest = second.written ++ other) :
    first.name = second.name ∧ rest = other := by
  have inner : first.before ++ (first.name ++ (first.after ++ '\x7d' :: '\x7d' :: rest)) =
      second.before ++ (second.name ++ (second.after ++ '\x7d' :: '\x7d' :: other)) := by
    simpa [OldForm.written] using same
  have read := readOldNameAt one rest
  rw [inner, readOldNameAt two other, Option.some.injEq, Prod.mk.injEq] at read
  exact ⟨read.1.symm, read.2.symm⟩

/-! ### Reading from left to right -/

/-- A text has only one reading. -/
theorem OldReading.unique {text : List Char} {parts others : List TemplatePart}
    (one : OldReading text parts) (two : OldReading text others) : parts = others := by
  induction one generalizing others with
  | last =>
      generalize isText : ([] : List Char) = text at two
      cases two with
      | last => rfl
      | literal => cases isText
      | placeholder => cases isText
  | @literal character rest parts plain _ inductionHypothesis =>
      generalize isText : character :: rest = text at two
      cases two with
      | last => cases isText
      | literal _ others =>
          cases isText
          rw [inductionHypothesis others]
      | placeholder isWritten others => exact absurd ⟨_, _, isWritten, isText⟩ plain
  | @placeholder form rest parts isWritten _ inductionHypothesis =>
      generalize isText : form.written ++ rest = text at two
      cases two with
      | last => cases isText
      | literal plain others => exact absurd ⟨_, _, isWritten, isText.symm⟩ plain
      | placeholder isWritten' others =>
          obtain ⟨sameName, rfl⟩ := sameOldForm isWritten isWritten' isText
          rw [sameName, inductionHypothesis others]

/-- Every text can be read, and what is read is written in the newer form. -/
theorem oldReadingExists (text : List Char) : ∃ parts, OldReading text parts ∧
    upgradeChars text = parts.flatMap partWritten := by
  fun_induction upgradeChars text with
  | case1 => exact ⟨[], .last, rfl⟩
  | case2 rest name after found inductionHypothesis =>
      obtain ⟨parts, reading, upgraded⟩ := inductionHypothesis
      obtain ⟨form, isWritten, rfl, whole⟩ := readOldNameWritten found
      rw [whole, upgraded]
      exact ⟨_, .placeholder isWritten reading, by simp [partWritten]⟩
  | case3 rest found inductionHypothesis =>
      obtain ⟨parts, reading, upgraded⟩ := inductionHypothesis
      refine ⟨_, .literal (fun starts => ?_) reading, by rw [upgraded]; rfl⟩
      obtain ⟨tail, name, same, isName⟩ := (startsOldIff _).mp starts
      cases same
      rw [found] at isName
      cases isName
  | case4 character rest other inductionHypothesis =>
      obtain ⟨parts, reading, upgraded⟩ := inductionHypothesis
      refine ⟨_, .literal (fun starts => ?_) reading, by rw [upgraded]; rfl⟩
      obtain ⟨tail, name, same, -⟩ := (startsOldIff _).mp starts
      cases same
      exact other tail rfl rfl

/-! ### The rewritten text -/

/-- In front of the first dollar sign the rewritten text is the text itself. -/
theorem OldReading.frontKept {text : List Char} {parts : List TemplatePart}
    (reading : OldReading text parts) {front more : List Char} (plain : '$' ∉ front)
    (same : parts.flatMap partWritten = front ++ more) : ∃ others, text = front ++ others := by
  induction reading generalizing front with
  | last =>
      rw [List.flatMap_nil] at same
      rw [(List.append_eq_nil_iff.mp same.symm).1]
      exact ⟨[], rfl⟩
  | @literal character rest parts _ _ inductionHypothesis =>
      cases front with
      | nil => exact ⟨_, rfl⟩
      | cons first front =>
          rw [List.flatMap_cons, partWritten, List.cons_append, List.nil_append, List.cons_append,
            List.cons.injEq] at same
          obtain ⟨others, isRest⟩ := inductionHypothesis
            (fun member => plain (List.mem_cons_of_mem _ member)) same.2
          exact ⟨others, by rw [same.1, isRest, List.cons_append]⟩
  | placeholder =>
      cases front with
      | nil => exact ⟨_, rfl⟩
      | cons first front =>
          rw [List.flatMap_cons, partWritten, List.cons_append, List.cons_append] at same
          exact absurd ((List.cons.inj same).1 ▸ List.mem_cons_self) plain

theorem oldFormNoDollar {form : OldForm} (isWritten : form.IsWritten) : '$' ∉ form.written := by
  have absent {test : Char → Bool} {characters : List Char} (fails : test '$' = false)
      (inside : ∀ character ∈ characters, test character = true) : '$' ∉ characters := by
    intro member
    rw [inside _ member] at fails
    cases fails
  simp only [OldForm.written, List.mem_cons, List.mem_append, List.not_mem_nil, not_or]
  exact ⟨by decide, by decide, absent (by decide) isWritten.blankBefore,
    absent (by decide) isWritten.named, absent (by decide) isWritten.blankAfter, by decide,
    by decide, not_false⟩

theorem holdsOldCons (character : Char) (rest : List Char) :
    HoldsOld (character :: rest) ↔ StartsOld (character :: rest) ∨ HoldsOld rest := by
  constructor
  · rintro ⟨before, more, same, starts⟩
    cases before with
    | nil =>
        cases same
        exact .inl starts
    | cons first before =>
        cases same
        exact .inr ⟨before, more, rfl, starts⟩
  · rintro (starts | ⟨before, more, rfl, starts⟩)
    · exact ⟨[], _, rfl, starts⟩
    · exact ⟨character :: before, more, rfl, starts⟩

/-- Where there is no opening brace no placeholder of the older form starts. -/
theorem holdsOldBehind {front rest : List Char} (plain : '\x7b' ∉ front)
    (holds : HoldsOld (front ++ rest)) : HoldsOld rest := by
  induction front with
  | nil => exact holds
  | cons first front inductionHypothesis =>
      rw [List.mem_cons, not_or] at plain
      rw [List.cons_append, holdsOldCons] at holds
      refine inductionHypothesis plain.2 (holds.resolve_left fun starts => ?_)
      obtain ⟨tail, name, same, -⟩ := (startsOldIff _).mp starts
      exact plain.1 (List.cons.inj same).1.symm

/-- The braces of a rewritten placeholder belong to no placeholder of the older form. -/
theorem holdsOldBehindPart {form : OldForm} (isWritten : form.IsWritten) {rest : List Char}
    (holds : HoldsOld (partWritten (.placeholder form.name) ++ rest)) : HoldsOld rest := by
  obtain ⟨first, others, isName, firstNamed⟩ := isWritten.name?
  rw [partWritten, List.cons_append, List.cons_append, holdsOldCons, holdsOldCons] at holds
  have notDollar : ¬StartsOld ('$' :: '\x7b' :: (form.name ++ ['\x7d'] ++ rest)) := by
    intro starts
    obtain ⟨tail, name, same, -⟩ := (startsOldIff _).mp starts
    cases same
  have notBrace : ¬StartsOld ('\x7b' :: (form.name ++ ['\x7d'] ++ rest)) := by
    intro starts
    obtain ⟨tail, name, same, -⟩ := (startsOldIff _).mp starts
    rw [isName] at same
    cases same
    cases firstNamed
  refine holdsOldBehind ?_ ((holds.resolve_left notDollar).resolve_left notBrace)
  rw [List.mem_append, List.mem_singleton, not_or]
  refine ⟨fun member => ?_, by decide⟩
  have named := isWritten.named _ member
  cases named

/-- When all placeholders of the older form have been rewritten there are none left. -/
theorem OldReading.noneLeft {text : List Char} {parts : List TemplatePart}
    (reading : OldReading text parts) : ¬HoldsOld (parts.flatMap partWritten) := by
  induction reading with
  | last =>
      rintro ⟨before, rest, same, starts⟩
      obtain ⟨tail, name, isRest, -⟩ := (startsOldIff _).mp starts
      rw [isRest] at same
      simp at same
  | @literal character rest parts plain others inductionHypothesis =>
      rw [List.flatMap_cons, partWritten, List.cons_append, List.nil_append, holdsOldCons]
      rintro (⟨form, more, isWritten, same⟩ | holds)
      · -- No placeholder that has been rewritten is in this one, so it was there from the beginning.
        obtain ⟨kept, isText⟩ := (OldReading.literal plain others).frontKept
          (oldFormNoDollar isWritten) same
        exact plain ⟨form, kept, isWritten, isText⟩
      · exact inductionHypothesis holds
  | placeholder isWritten _ inductionHypothesis =>
      intro holds
      exact inductionHypothesis (holdsOldBehindPart isWritten holds)

/-- A text without placeholders of the older form stays as it is. -/
theorem upgradeNothing {text : List Char} (plain : ¬HoldsOld text) : upgradeChars text = text := by
  obtain ⟨parts, reading, upgraded⟩ := oldReadingExists text
  rw [upgraded]
  clear upgraded
  induction reading with
  | last => rfl
  | @literal character rest parts _ _ inductionHypothesis =>
      rw [holdsOldCons, not_or] at plain
      rw [List.flatMap_cons, inductionHypothesis plain.2]
      rfl
  | placeholder isWritten => exact absurd ⟨[], _, rfl, _, _, isWritten, rfl⟩ plain

/-! ### The rewritten template -/

/-- Where no placeholder was opened before, the rewritten text has just those of the older form. -/
theorem OldReading.parts {text : List Char} {parts : List TemplatePart}
    (reading : OldReading text parts) (unopened : ¬HoldsOpening text) :
    Template.parts (parts.flatMap partWritten) = parts := by
  induction reading with
  | last => rw [List.flatMap_nil, Template.parts]
  | @literal character rest parts _ others inductionHypothesis =>
      have further : ¬HoldsOpening rest := fun opened =>
        unopened (opened.trans (List.suffix_cons character rest).isInfix)
      rw [List.flatMap_cons, partWritten, List.cons_append, List.nil_append, partsHead,
        inductionHypothesis further]
      intro starts
      obtain ⟨tail, name, same, -⟩ := (startsIff _).mp starts
      rw [List.cons.injEq] at same
      have noDollar : '$' ∉ ['\x7b'] := by decide
      obtain ⟨more, isRest⟩ := others.frontKept noDollar same.2
      exact unopened ⟨[], more, by rw [same.1, isRest]; rfl⟩
  | @placeholder form rest parts isWritten _ inductionHypothesis =>
      have further : ¬HoldsOpening rest := fun opened =>
        unopened (opened.trans (List.suffix_append form.written rest).isInfix)
      have unclosed : '\x7d' ∉ form.name := by
        intro member
        have named := isWritten.named _ member
        cases named
      have found := partsAt isWritten.nonempty unclosed (parts.flatMap partWritten)
      rw [inductionHypothesis further] at found
      simpa [partWritten] using found

/-- A placeholder of the older form becomes the value of its name, or nothing. -/
def oldValue (bindings : Bindings) : TemplatePart → List Char
  | .literal character => [character]
  | .placeholder name =>
      match bindings.find? (String.ofList name) with
      | some value => value.toList
      | none => []

theorem nameOfOldForm {form : OldForm} (isWritten : form.IsWritten) :
    nameOf form.name = String.ofList form.name := by
  have plain : PlainName (String.ofList form.name) :=
    { written := fun empty => isWritten.nonempty (String.ofList_eq_empty_iff.mp empty)
      unclosed := by
        rw [String.toList_ofList]
        intro member
        have named := isWritten.named _ member
        cases named
      unblank := by
        rw [String.toList_ofList]
        exact fun character member => oldNameUnblank (isWritten.named character member) }
  have named := nameOfPlain plain
  rwa [String.toList_ofList] at named

theorem OldReading.values {text : List Char} {parts : List TemplatePart}
    (reading : OldReading text parts) (bindings : Bindings) :
    parts.flatMap (partText bindings) = parts.flatMap (oldValue bindings) := by
  induction reading with
  | last => rfl
  | literal _ _ inductionHypothesis =>
      rw [List.flatMap_cons, List.flatMap_cons, inductionHypothesis]
      rfl
  | placeholder isWritten _ inductionHypothesis =>
      rw [List.flatMap_cons, List.flatMap_cons, inductionHypothesis, partText, oldValue,
        nameOfOldForm isWritten]
      cases bindings.find? _ <;> rfl

/--
A text has one reading in the older form, and its placeholders are rewritten where they stand. A
template that is made of a text without openings puts the values of their names there.
-/
structure UpgradedAs (text : String) (parts : List TemplatePart) : Prop where
  only : ∀ others, OldReading text.toList others ↔ others = parts
  upgraded : upgrade text = String.ofList (parts.flatMap partWritten)
  noneLeft : ¬HoldsOld (upgrade text).toList
  again : upgrade (upgrade text) = upgrade text
  resolved : ¬HoldsOpening text.toList → ∀ bindings,
    (resolve (upgrade text) bindings).value = String.ofList (parts.flatMap (oldValue bindings))

/--
Every text has one reading from left to right in the older form. When it has been rewritten there is
no placeholder of this form left, and unless a placeholder was opened in the text before, it resolves
to the text with the values of the names in it.
-/
theorem oldPlaceholdersUpgraded (text : String) : ∃ parts, UpgradedAs text parts := by
  obtain ⟨parts, reading, upgraded⟩ := oldReadingExists text.toList
  have isUpgraded : upgrade text = String.ofList (parts.flatMap partWritten) := by
    rw [upgrade, upgraded]
  have noneLeft : ¬HoldsOld (upgrade text).toList := by
    rw [isUpgraded, String.toList_ofList]
    exact reading.noneLeft
  refine ⟨parts, ⟨fun others => ⟨fun other => other.unique reading, ?_⟩, isUpgraded, noneLeft, ?_,
    fun unopened bindings => ?_⟩⟩
  · rintro rfl
    exact reading
  · rw [upgrade, upgradeNothing noneLeft, String.ofList_toList]
  · rw [resolve, isUpgraded, String.toList_ofList, reading.parts unopened, reading.values]

-- Braces around a placeholder stay where they are, and a name in the newer form is left alone.
example : upgrade "\x7b\x7b\x7b row.id \x7d\x7d\x7d $\x7ba\x7d" =
    "\x7b$\x7brow.id\x7d\x7d $\x7ba\x7d" := by
  decide +kernel

end Template

end DeskScript
