/-
This file says how a template is read from left to right, as literal text with placeholders in it.
What a template resolves to and which names it holds are told by this reading alone.
-/

import DeskScript.Proofs.Placeholder

namespace DeskScript

namespace Template

/-! ### Reading from left to right -/

/-- A name in a placeholder is not empty and ends at the first closing brace. -/
structure IsWritten (name : List Char) : Prop where
  nonempty : name ≠ []
  unclosed : '\x7d' ∉ name

def StartsPlaceholder (text : List Char) : Prop :=
  ∃ written after, IsWritten written ∧ text = partWritten (.placeholder written) ++ after

/-- In a text no placeholder starts before the rest of it does. -/
def IsPlain (before rest : List Char) : Prop :=
  ∀ first later, before = first ++ later → later ≠ [] → ¬StartsPlaceholder (later ++ rest)

/-- The literal text between two placeholders is one piece of a template. -/
inductive Piece where
  | literal (text : List Char)
  | placeholder (written : List Char)

/-- Whatever stands before the leftmost placeholder is literal text, and so on after it. -/
inductive Reading : List Char → List Piece → Prop where
  | last {text : List Char} (plain : IsPlain text []) : Reading text [.literal text]
  | next {before written after : List Char} {pieces : List Piece} (isName : IsWritten written)
      (leftmost : IsPlain before (partWritten (.placeholder written) ++ after))
      (others : Reading after pieces) :
      Reading (before ++ (partWritten (.placeholder written) ++ after))
        (.literal before :: .placeholder written :: pieces)

theorem IsPlain.nil (rest : List Char) : IsPlain [] rest := by
  intro first later split written
  exact absurd (List.append_eq_nil_iff.mp split.symm).2 written

theorem IsPlain.cons {character : Char} {before rest : List Char} (plain : IsPlain before rest)
    (here : ¬StartsPlaceholder (character :: (before ++ rest))) :
    IsPlain (character :: before) rest := by
  intro first later split written
  cases first with
  | nil =>
      rw [List.nil_append] at split
      rw [← split]
      exact here
  | cons head first => exact plain first later (List.cons.inj split).2 written

theorem IsPlain.tail {character : Char} {before rest : List Char}
    (plain : IsPlain (character :: before) rest) : IsPlain before rest := by
  intro first later split written
  exact plain (character :: first) later (by rw [split]; rfl) written

theorem IsPlain.head {character : Char} {before rest : List Char}
    (plain : IsPlain (character :: before) rest) :
    ¬StartsPlaceholder (character :: (before ++ rest)) :=
  plain [] (character :: before) rfl (List.cons_ne_nil _ _)

/-- A placeholder can start in one way only, because its name ends at the first closing brace. -/
theorem sameWritten {first second rest other : List Char} (one : IsWritten first)
    (two : IsWritten second)
    (same : partWritten (.placeholder first) ++ rest =
      partWritten (.placeholder second) ++ other) : first = second ∧ rest = other := by
  have names : first ++ '\x7d' :: rest = second ++ '\x7d' :: other := by
    simpa [partWritten] using same
  have read := readNameAt one.nonempty one.unclosed rest
  rw [names, readNameAt two.nonempty two.unclosed other, Option.some.injEq, Prod.mk.injEq] at read
  exact ⟨read.1.symm, read.2.symm⟩

theorem readNameIsWritten {text name rest : List Char} (found : readName text = some (name, rest)) :
    IsWritten name := by
  unfold readName at found
  split at found
  · rename_i taken left
    cases found
    refine ⟨List.cons_ne_nil _ _, fun closed => ?_⟩
    rw [← taken] at closed
    have inside := List.all_eq_true.mp List.all_takeWhile _ closed
    exact of_decide_eq_true inside rfl
  · cases found

/-- A placeholder starts where a name can be read after the opening brace. -/
theorem startsIff (text : List Char) : StartsPlaceholder text ↔
    ∃ rest found, text = '$' :: '\x7b' :: rest ∧ readName rest = some found := by
  constructor
  · rintro ⟨written, after, isName, rfl⟩
    exact ⟨written ++ '\x7d' :: after, (written, after), by simp [partWritten],
      readNameAt isName.nonempty isName.unclosed after⟩
  · rintro ⟨rest, ⟨written, after⟩, rfl, found⟩
    refine ⟨written, after, readNameIsWritten found, ?_⟩
    rw [readNameWritten found]
    simp [partWritten]

/-- Of two leftmost placeholders in a text none starts before the other. -/
theorem sameBefore {before more rest other : List Char} (starts : StartsPlaceholder rest)
    (plain : IsPlain (before ++ more) other) (same : rest = more ++ other) : more = [] := by
  apply Decidable.byContradiction
  intro written
  rw [same] at starts
  exact plain before more rfl written starts

theorem Reading.unique {text : List Char} {pieces others : List Piece}
    (one : Reading text pieces) (two : Reading text others) : pieces = others := by
  induction one generalizing others with
  | last plain =>
      cases two with
      | last => rfl
      | @next before written after _ isName =>
          rw [← List.append_nil (before ++ _)] at plain
          have none := plain before _ (by rw [List.append_nil]) (by simp [partWritten])
          rw [List.append_nil] at none
          exact absurd ⟨written, after, isName, rfl⟩ none
  | @next before written after pieces isName leftmost _ inductionHypothesis =>
      generalize isText : before ++ (partWritten (.placeholder written) ++ after) = text at two
      cases two with
      | last plain =>
          rw [← isText] at plain
          have none := plain before _ rfl (by simp [partWritten])
          rw [List.append_nil] at none
          exact absurd ⟨written, after, isName, rfl⟩ none
      | @next before' written' after' others isName' leftmost' two =>
          have sameStart : before = before' := by
            rcases List.append_eq_append_iff.mp isText with ⟨more, rfl, rest⟩ | ⟨more, rfl, rest⟩
            · rw [sameBefore ⟨written, after, isName, rfl⟩ leftmost' rest, List.append_nil]
            · rw [sameBefore ⟨written', after', isName', rfl⟩ leftmost rest, List.append_nil]
          subst sameStart
          obtain ⟨rfl, rfl⟩ := sameWritten isName isName' (List.append_cancel_left isText)
          rw [inductionHypothesis two]

/-! ### The parts of a template -/

/-- A placeholder is one part of a template, and of a literal text every character is one. -/
def Piece.parts : Piece → List TemplatePart
  | .literal text => text.map .literal
  | .placeholder written => [.placeholder written]

/-- Where no placeholder starts the first character stands for itself. -/
theorem partsHead {character : Char} {rest : List Char}
    (plain : ¬StartsPlaceholder (character :: rest)) :
    parts (character :: rest) = .literal character :: parts rest := by
  rw [parts.eq_def]
  split
  · rename_i same
    cases same
  · rename_i tail same
    cases same
    split
    · rename_i name after found
      exact absurd ((startsIff _).mpr ⟨tail, (name, after), rfl, found⟩) plain
    · rfl
  · rename_i same
    cases same
    rfl

theorem partsPlain {before rest : List Char} (plain : IsPlain before rest) :
    parts (before ++ rest) = before.map .literal ++ parts rest := by
  induction before with
  | nil => rfl
  | cons character before inductionHypothesis =>
      rw [List.cons_append, partsHead plain.head, inductionHypothesis plain.tail]
      rfl

theorem Reading.parts {text : List Char} {pieces : List Piece} (reading : Reading text pieces) :
    Template.parts text = pieces.flatMap Piece.parts := by
  induction reading with
  | @last text plain =>
      have whole := partsPlain plain
      rw [List.append_nil] at whole
      rw [whole, Template.parts]
      simp [Piece.parts]
  | @next before written after pieces isName leftmost _ inductionHypothesis =>
      have placeholder : Template.parts (partWritten (.placeholder written) ++ after) =
          .placeholder written :: Template.parts after := by
        have found := partsAt isName.nonempty isName.unclosed after
        simpa [partWritten] using found
      rw [partsPlain leftmost, placeholder, inductionHypothesis]
      rfl

theorem Reading.cons {character : Char} {text : List Char} {pieces : List Piece}
    (reading : Reading text pieces) (here : ¬StartsPlaceholder (character :: text)) :
    ∃ others, Reading (character :: text) others := by
  cases reading with
  | last plain => exact ⟨_, .last (plain.cons (by rwa [List.append_nil]))⟩
  | next isName leftmost others => exact ⟨_, .next isName (leftmost.cons here) others⟩

/-- Every template can be read. -/
theorem readingExists (text : List Char) : ∃ pieces, Reading text pieces := by
  fun_induction Template.parts text with
  | case1 => exact ⟨_, .last (.nil [])⟩
  | case2 rest name after found inductionHypothesis =>
      obtain ⟨pieces, reading⟩ := inductionHypothesis
      have whole : '$' :: '\x7b' :: rest = [] ++ (partWritten (.placeholder name) ++ after) := by
        rw [readNameWritten found]
        simp [partWritten]
      rw [whole]
      exact ⟨_, .next (readNameIsWritten found) (.nil _) reading⟩
  | case3 rest found inductionHypothesis =>
      obtain ⟨pieces, reading⟩ := inductionHypothesis
      refine reading.cons fun starts => ?_
      obtain ⟨other, name, same, read⟩ := (startsIff _).mp starts
      cases same
      rw [found] at read
      cases read
  | case4 character rest other inductionHypothesis =>
      obtain ⟨pieces, reading⟩ := inductionHypothesis
      refine reading.cons fun starts => ?_
      obtain ⟨tail, name, same, -⟩ := (startsIff _).mp starts
      cases same
      exact other tail rfl rfl

/-! ### Names at their first appearance -/

theorem addNamesCons (names : List String) (name : String) (rest : List String) :
    addNames names (name :: rest) = addNames (addName names name) rest := rfl

/-- Names are added at their first appearance unless they were there before. -/
theorem addNamesFirst (names added : List String) :
    addNames names added =
      names ++ (added.filter fun name => !names.contains name).eraseDups := by
  induction added generalizing names with
  | nil => simp [addNames]
  | cons name rest inductionHypothesis =>
      rw [addNamesCons, inductionHypothesis, addName]
      cases present : names.contains name with
      | true => rw [if_pos rfl, List.filter_cons_of_neg (by rw [present]; decide)]
      | false =>
          rw [if_neg (by decide), List.filter_cons_of_pos (by rw [present]; decide),
            List.eraseDups_cons, List.filter_filter, List.append_assoc, List.singleton_append]
          congr 4
          funext other
          rw [List.contains_append, List.contains_cons, List.contains_nil]
          cases names.contains other <;> cases other == name <;> rfl

theorem addNameFilter (names : List String) (name : String) (test : String → Bool) :
    (addName names name).filter test =
      if test name then addName (names.filter test) name else names.filter test := by
  have kept : test name = true → (names.filter test).contains name = names.contains name := by
    intro passes
    rw [Bool.eq_iff_iff, List.contains_iff_mem, List.contains_iff_mem, List.mem_filter,
      and_iff_left passes]
  by_cases passes : test name = true
  · rw [if_pos passes, addName, addName, kept passes]
    split
    · rfl
    · rw [List.filter_append, List.filter_cons_of_pos passes, List.filter_nil]
  · rw [if_neg passes, addName]
    split
    · rfl
    · rw [List.filter_append, List.filter_cons_of_neg passes, List.filter_nil, List.append_nil]

/-- To add only some names is the same as to leave the others out afterwards. -/
theorem addNamesFilter (names added : List String) (test : String → Bool) :
    addNames (names.filter test) (added.filter test) = (addNames names added).filter test := by
  induction added generalizing names with
  | nil => rfl
  | cons name rest inductionHypothesis =>
      rw [addNamesCons, ← inductionHypothesis, addNameFilter]
      by_cases passes : test name = true
      · rw [List.filter_cons_of_pos passes, if_pos passes, addNamesCons]
      · rw [List.filter_cons_of_neg passes, if_neg passes]

/-- A template has a placeholder exactly when it has a name. -/
theorem hasPlaceholderNames (template : String) :
    hasPlaceholder template = true ↔ placeholders template ≠ [] := by
  have named (name : String) : name ∈ placeholders template ↔
      ∃ part ∈ parts template.toList, TemplatePart.name? part = some name := by
    rw [memPlaceholders, List.mem_filterMap]
  rw [hasPlaceholder, List.any_eq_true]
  constructor
  · rintro ⟨part, inside, isNamed⟩
    obtain ⟨name, isName⟩ := Option.isSome_iff_exists.mp isNamed
    exact List.ne_nil_of_mem ((named name).mpr ⟨part, inside, isName⟩)
  · intro written
    obtain ⟨name, member⟩ := List.exists_mem_of_ne_nil _ written
    obtain ⟨part, inside, isName⟩ := (named name).mp member
    exact ⟨part, inside, Option.isSome_iff_exists.mpr ⟨name, isName⟩⟩

/-! ### What a reading tells -/

namespace Piece

/-- A placeholder becomes the value of its name without blanks around it, or nothing. -/
def valueIn (bindings : Bindings) : Piece → List Char
  | .literal text => text
  | .placeholder written =>
      match bindings.find? (nameOf written) with
      | some value => value.toList
      | none => []

def name? : Piece → Option String
  | .literal _ => none
  | .placeholder written => some (nameOf written)

theorem partsValue (bindings : Bindings) (piece : Piece) :
    piece.parts.flatMap (partText bindings) = piece.valueIn bindings := by
  cases piece with
  | literal text => simp [parts, List.flatMap_map, partText, valueIn]
  | placeholder written =>
      rw [parts, List.flatMap_singleton, partText, valueIn]
      cases bindings.find? (nameOf written) <;> rfl

theorem partsNames (pieces : List Piece) :
    (pieces.flatMap parts).filterMap TemplatePart.name? = pieces.filterMap name? := by
  induction pieces with
  | nil => rfl
  | cons piece rest inductionHypothesis =>
      rw [List.flatMap_cons, List.filterMap_append, inductionHypothesis]
      cases piece with
      | literal text =>
          have none : (text.map TemplatePart.literal).filterMap TemplatePart.name? = [] := by
            simp [TemplatePart.name?]
          rw [parts, none]
          rfl
      | placeholder written => rfl

end Piece

/--
A template has one reading. Its values and names are those of the placeholders in this reading,
and names without a value are reported.
-/
structure ReadAs (template : String) (pieces : List Piece) : Prop where
  only : ∀ others, Reading template.toList others ↔ others = pieces
  value : ∀ bindings, (resolve template bindings).value =
    String.ofList (pieces.flatMap (Piece.valueIn bindings))
  names : placeholders template = (pieces.filterMap Piece.name?).eraseDups
  unresolved : ∀ bindings, (resolve template bindings).unresolved =
    (placeholders template).filter fun name => (bindings.find? name).isNone
  held : hasPlaceholder template = true ↔ placeholders template ≠ []

/--
Every template has one reading from left to right. Its values are put together from the pieces of
this reading, its names are those of the placeholders at their first appearance, and of these the
ones without a value are reported.
-/
theorem placeholdersReplaced (template : String) : ∃ pieces, ReadAs template pieces := by
  obtain ⟨pieces, reading⟩ := readingExists template.toList
  have texts (bindings : Bindings) : (parts template.toList).flatMap (partText bindings) =
      pieces.flatMap (Piece.valueIn bindings) := by
    rw [reading.parts, List.flatMap_assoc]
    simp only [Piece.partsValue]
  have names : (parts template.toList).filterMap TemplatePart.name? =
      pieces.filterMap Piece.name? := by
    rw [reading.parts, Piece.partsNames]
  refine ⟨pieces, ⟨fun others => ⟨fun other => other.unique reading, ?_⟩, fun bindings => ?_, ?_,
    fun bindings => ?_, ?_⟩⟩
  · rintro rfl
    exact reading
  · rw [resolve, texts]
  · rw [placeholders, names, addNamesFirst, List.nil_append, List.filter_eq_self.mpr]
    exact fun _ _ => rfl
  · exact addNamesFilter [] _ _
  · exact hasPlaceholderNames template

-- A dollar sign and an opening brace inside a name belong to the name.
example : placeholders "$\x7ba$\x7bb\x7d$$\x7b x \x7d$\x7b\x7d" = ["a$\x7bb", "x"] := by
  decide +kernel

end Template

end DeskScript
