/-
This file shows how a template is taken apart, and which templates stand for themselves.
-/

import DeskScript.Placeholder

namespace DeskScript

namespace Template

/-! ### Lists of names -/

theorem memAddName (names : List String) (name other : String) :
    other ∈ addName names name ↔ other ∈ names ∨ other = name := by
  rw [addName]
  split
  · rename_i present
    rw [List.contains_iff_mem] at present
    constructor
    · exact .inl
    · rintro (old | same)
      · exact old
      · exact same ▸ present
  · rw [List.mem_append, List.mem_singleton]

theorem memAddNames (names added : List String) (other : String) :
    other ∈ addNames names added ↔ other ∈ names ∨ other ∈ added := by
  induction added generalizing names with
  | nil => simp [addNames]
  | cons name rest inductionHypothesis =>
      rw [addNames, List.foldl_cons, ← addNames, inductionHypothesis, memAddName, List.mem_cons,
        or_assoc]

theorem addNamesDistinct {names : List String} (added : List String) (distinct : names.Nodup) :
    (addNames names added).Nodup := by
  induction added generalizing names with
  | nil => exact distinct
  | cons name rest inductionHypothesis =>
      apply inductionHypothesis
      rw [addName]
      split
      · exact distinct
      · rename_i absent
        rw [List.contains_iff_mem] at absent
        apply List.nodup_append.mpr
        refine ⟨distinct, by simp, ?_⟩
        intro other inside _ isName same
        rw [List.mem_singleton] at isName
        exact absent (isName ▸ same ▸ inside)

/-- Names that are all new are added as they are. -/
theorem addNamesNew {names added : List String} (distinct : (names ++ added).Nodup) :
    addNames names added = names ++ added := by
  induction added generalizing names with
  | nil => exact (List.append_nil names).symm
  | cons name rest inductionHypothesis =>
      have absent : name ∉ names := by
        intro inside
        exact (List.nodup_append.mp distinct).2.2 name inside name List.mem_cons_self rfl
      have isNew : addName names name = names ++ [name] := by
        rw [addName, if_neg (by rwa [List.contains_iff_mem])]
      have further : ((names ++ [name]) ++ rest).Nodup := by
        simpa using distinct
      rw [addNames, List.foldl_cons, isNew, ← addNames, inductionHypothesis further,
        List.append_assoc]
      rfl

theorem memPlaceholders (template name : String) :
    name ∈ placeholders template ↔ name ∈ (parts template.toList).filterMap TemplatePart.name? := by
  rw [placeholders, memAddNames]
  simp

/-- The names of a template that are not bound are the ones that it reports. -/
theorem memUnresolved (template name : String) (bindings : Bindings) :
    name ∈ (resolve template bindings).unresolved ↔
      (∃ part ∈ parts template.toList, TemplatePart.name? part = some name) ∧
        bindings.find? name = none := by
  rw [resolve, memAddNames, List.mem_filter, List.mem_filterMap, Option.isNone_iff_eq_none]
  simp

theorem unresolvedDistinct (template : String) (bindings : Bindings) :
    (resolve template bindings).unresolved.Nodup :=
  addNamesDistinct _ List.nodup_nil

/-! ### Parts of templates -/

/-- A name that is not empty ends at the first closing brace. -/
theorem readNameAt {name : List Char} (written : name ≠ []) (unclosed : '\x7d' ∉ name)
    (after : List Char) : readName (name ++ '\x7d' :: after) = some (name, after) := by
  have inside : ∀ character ∈ name, decide (character ≠ '\x7d') = true := by
    intro character member
    apply decide_eq_true
    intro same
    exact unclosed (same ▸ member)
  have taken : (name ++ '\x7d' :: after).takeWhile (· ≠ '\x7d') = name := by
    rw [List.takeWhile_append_of_pos inside]
    simp
  have left : (name ++ '\x7d' :: after).dropWhile (· ≠ '\x7d') = '\x7d' :: after := by
    rw [List.dropWhile_append_of_pos inside]
    rfl
  rw [readName, taken, left]
  cases name with
  | nil => exact absurd rfl written
  | cons first rest => rfl

theorem readNameWritten {text name rest : List Char} (found : readName text = some (name, rest)) :
    text = name ++ '\x7d' :: rest := by
  have whole := List.takeWhile_append_dropWhile
    (p := fun character => decide (character ≠ '\x7d')) (l := text)
  have closes := List.head?_dropWhile_not (fun character => decide (character ≠ '\x7d')) text
  unfold readName at found
  split at found
  · rename_i taken left
    cases found
    rw [left] at closes whole
    rw [taken] at whole
    have isBrace := Decidable.not_not.mp (of_decide_eq_false closes)
    rw [← whole, isBrace]
  · cases found

theorem partsAt {name : List Char} (written : name ≠ []) (unclosed : '\x7d' ∉ name)
    (after : List Char) :
    parts ('$' :: '\x7b' :: (name ++ '\x7d' :: after)) = .placeholder name :: parts after := by
  rw [parts]
  split
  · rename_i read
    rw [readNameAt written unclosed] at read
    cases read
    rfl
  · rename_i read
    rw [readNameAt written unclosed] at read
    cases read

/-- Braces without a name between them are no placeholder. -/
theorem partsNameless (after : List Char) :
    parts ('$' :: '\x7b' :: '\x7d' :: after) =
      .literal '$' :: parts ('\x7b' :: '\x7d' :: after) := by
  rw [parts]
  rfl

/-! ### Templates that stand for themselves -/

/-- This is how a part is written in a template. -/
def partWritten : TemplatePart → List Char
  | .literal character => [character]
  | .placeholder written => '$' :: '\x7b' :: (written ++ ['\x7d'])

theorem partsWritten (text : List Char) : (parts text).flatMap partWritten = text := by
  fun_induction parts text with
  | case1 => rfl
  | case2 rest name after found inductionHypothesis =>
      rw [List.flatMap_cons, inductionHypothesis, partWritten, readNameWritten found]
      simp
  | case3 rest found inductionHypothesis =>
      rw [List.flatMap_cons, inductionHypothesis]
      rfl
  | case4 character rest other inductionHypothesis =>
      rw [List.flatMap_cons, inductionHypothesis]
      rfl

theorem hasPlaceholderIff (template : String) : hasPlaceholder template = true ↔
    ∃ written, .placeholder written ∈ parts template.toList := by
  rw [hasPlaceholder, List.any_eq_true]
  constructor
  · rintro ⟨part, inside, named⟩
    cases part with
    | literal character => cases named
    | placeholder written => exact ⟨written, inside⟩
  · rintro ⟨written, inside⟩
    exact ⟨.placeholder written, inside, rfl⟩

/-- Without a placeholder a template is its own text, whatever the variables hold. -/
theorem resolvePlain {template : String} (plain : hasPlaceholder template = false)
    (bindings : Bindings) : resolve template bindings = ⟨template, []⟩ := by
  have literal : ∀ part ∈ parts template.toList, ∃ character, part = .literal character := by
    intro part inside
    cases part with
    | literal character => exact ⟨character, rfl⟩
    | placeholder written =>
        have marked := (hasPlaceholderIff template).mpr ⟨written, inside⟩
        rw [plain] at marked
        cases marked
  have texts : (parts template.toList).flatMap (partText bindings) = template.toList := by
    rw [List.flatMap_def, List.map_congr_left (g := partWritten), ← List.flatMap_def, partsWritten]
    intro part inside
    obtain ⟨character, rfl⟩ := literal part inside
    rfl
  have names : (parts template.toList).filterMap TemplatePart.name? = [] := by
    apply List.filterMap_eq_nil_iff.mpr
    intro part inside
    obtain ⟨character, rfl⟩ := literal part inside
    rfl
  simp only [resolve, texts, names, String.ofList_toList]
  rfl

/-- A template stands for itself under all bindings exactly when it holds no placeholder. -/
theorem resolvesToItselfIff (template : String) :
    (∀ bindings, resolve template bindings = ⟨template, []⟩) ↔ hasPlaceholder template = false := by
  constructor
  · intro itself
    rw [← Bool.not_eq_true, hasPlaceholderIff]
    rintro ⟨written, inside⟩
    have reported : nameOf written ∈ (resolve template .empty).unresolved := by
      rw [memUnresolved]
      exact ⟨⟨.placeholder written, inside, rfl⟩, rfl⟩
    rw [itself] at reported
    cases reported
  · exact resolvePlain

end Template

end DeskScript
