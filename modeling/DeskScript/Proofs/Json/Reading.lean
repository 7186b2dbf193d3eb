/-
This file shows that a text between quotes is read back character by character, and every JSON value
from the text that it is printed as.
-/

import DeskScript.Json.Printer
import DeskScript.Json.Reader
import DeskScript.Proofs.Json.Number

namespace DeskScript.Json

/-! ### Single characters -/

theorem hexDigitValue : ∀ value < 16, Decimal.digitValue? 16 (Text.hexDigit value) = some value := by
  decide

/-- The code of a control is written with four digits, of which the first two are zeros. -/
theorem readControlCode (code : Nat) (isControl : code < 0x20) (rest : List Char) :
    readCode ('0' :: '0' :: Text.hexDigit (code / 16) :: Text.hexDigit (code % 16) :: rest) =
      some (Char.ofNat code, rest) := by
  have high := hexDigitValue (code / 16) (by omega)
  have low := hexDigitValue (code % 16) (by omega)
  have zero : Decimal.digitValue? 16 '0' = some 0 := by decide
  have value : (0 * 16 + code / 16) * 16 + code % 16 = code := by omega
  have isHex : readHex ('0' :: '0' :: Text.hexDigit (code / 16) :: Text.hexDigit (code % 16) :: rest)
      = some (code, rest) := by
    simp [readHex, Decimal.digits?, Decimal.digitsAfter?, zero, high, low]
    omega
  have notFirst : ¬(0xD800 ≤ code ∧ code < 0xDC00) := by omega
  have notSecond : ¬(0xDC00 ≤ code ∧ code < 0xE000) := by omega
  simp only [readCode, isHex, bind, Option.bind, if_neg notFirst, if_neg notSecond]

/-- Every character is read back from its escaped form in one step. -/
theorem readEscapedChar (before rest : List Char) (fuel : Nat) (character : Char) :
    readTextAfter before (fuel + 1) (escapeChar character ++ rest) =
      readTextAfter (character :: before) fuel rest := by
  unfold escapeChar
  split
  · subst character; rfl
  split
  · subst character; rfl
  split
  · subst character; rfl
  split
  · subst character; rfl
  split
  · subst character; rfl
  split
  · subst character; rfl
  split
  · subst character; rfl
  split
  · rename_i isControl
    have code := readControlCode character.toNat isControl rest
    rw [Char.ofNat_toNat] at code
    simp only [List.cons_append, List.nil_append, readTextAfter, readEscape, code]
  · rename_i notQuote notBackslash _ _ _ _ _ notControl
    simp only [List.cons_append, List.nil_append]
    rw [readTextAfter]
    · simp [notControl]
    · exact notQuote
    · exact notBackslash

/-! ### Texts -/

theorem readEscaped (characters before rest : List Char) (fuel : Nat)
    (enough : characters.length < fuel) :
    readTextAfter before fuel (characters.flatMap escapeChar ++ '"' :: rest) =
      some (String.ofList (before.reverse ++ characters), rest) := by
  induction characters generalizing before fuel with
  | nil =>
      obtain ⟨fuel, rfl⟩ : ∃ more, fuel = more + 1 := ⟨fuel - 1, by simp at enough; omega⟩
      simp [readTextAfter]
  | cons character others inductionHypothesis =>
      obtain ⟨fuel, rfl⟩ : ∃ more, fuel = more + 1 := ⟨fuel - 1, by omega⟩
      rw [List.length_cons] at enough
      rw [List.flatMap_cons, List.append_assoc, readEscapedChar,
        inductionHypothesis (character :: before) fuel (by omega)]
      simp

theorem lengthOfEscaped (characters : List Char) :
    characters.length ≤ (characters.flatMap escapeChar).length := by
  induction characters with
  | nil => exact Nat.le_refl _
  | cons character others inductionHypothesis =>
      have atLeastOne : 1 ≤ (escapeChar character).length := by
        unfold escapeChar
        repeat' split
        all_goals simp
      simp only [List.flatMap_cons, List.length_append, List.length_cons]
      omega

/-- A text between quotes is read back, and what follows it is left. -/
theorem readQuoted (text : String) (rest : List Char) :
    readText (text.toList.flatMap escapeChar ++ '"' :: rest) = some (text, rest) := by
  have enough : text.toList.length <
      (text.toList.flatMap escapeChar ++ '"' :: rest).length + 1 := by
    have atLeast := lengthOfEscaped text.toList
    simp only [List.length_append, List.length_cons]
    omega
  rw [readText, readEscaped text.toList [] rest _ enough]
  simp

open Decimal

/-! ### Values that a document can hold -/

mutual

/-- Every number in a value is one that a document can hold. -/
def IsStorable : Json → Prop
  | .number value => value.IsStorable
  | .array items => AreStorable items
  | .object members => HaveStorable members
  | _ => True

def AreStorable : List Json → Prop
  | [] => True
  | item :: rest => item.IsStorable ∧ AreStorable rest

def HaveStorable : List (String × Json) → Prop
  | [] => True
  | (_, item) :: rest => item.IsStorable ∧ HaveStorable rest

end

/-! ### Space -/

theorem skipSpaceTwice (text : List Char) : skipSpace (skipSpace text) = skipSpace text := by
  induction text with
  | nil => rfl
  | cons first rest inductionHypothesis =>
      by_cases space : isSpace first = true
      · simpa [skipSpace, space] using inductionHypothesis
      · simp [skipSpace, space]

theorem skipLineBreak (level : Nat) (text : List Char) :
    skipSpace (lineBreak level ++ text) = skipSpace text := by
  have spaces : ∀ character ∈ lineBreak level, isSpace character = true := by
    intro character inside
    rw [lineBreak, List.mem_cons, List.mem_replicate] at inside
    obtain rfl | ⟨-, rfl⟩ := inside <;> rfl
  exact List.dropWhile_append_of_pos spaces

/-- Space before a value is skipped. -/
theorem readValueSkip (fuel : Nat) (text : List Char) :
    readValue fuel (skipSpace text) = readValue fuel text := by
  cases fuel with
  | zero => rfl
  | succ fuel => rw [readValue, readValue, skipSpaceTwice]

theorem readItemsSkip (fuel : Nat) (text : List Char) :
    readItems fuel (skipSpace text) = readItems fuel text := by
  cases fuel with
  | zero => rfl
  | succ fuel => rw [readItems, readItems, readValueSkip]

theorem readMembersSkip (fuel : Nat) (text : List Char) :
    readMembers fuel (skipSpace text) = readMembers fuel text := by
  cases fuel with
  | zero => rfl
  | succ fuel => rw [readMembers, readMembers, skipSpaceTwice]

theorem skipNoSpace (first : Char) (rest : List Char) (notSpace : isSpace first = false) :
    skipSpace (first :: rest) = first :: rest := by
  rw [skipSpace, List.dropWhile_cons_of_neg (by simp [notSpace])]

/-! ### Lines -/

theorem itemsAfterFirst (level : Nat) (item : Json) (items : List Json) :
    prettyItems level false (item :: items) = ',' :: prettyItems level true (item :: items) := rfl

theorem membersAfterFirst (level : Nat) (key : String) (item : Json)
    (members : List (String × Json)) :
    prettyMembers level false ((key, item) :: members) =
      ',' :: prettyMembers level true ((key, item) :: members) := rfl

theorem lineEndsNumber (level : Nat) (text : List Char) : EndsNumber (lineBreak level ++ text) :=
  endsNumberCons '\n' _ (by decide)

/-- Behind an item stands a comma or a line break. -/
theorem itemsEndNumber (level outer : Nat) (items : List Json) (text : List Char) :
    EndsNumber (prettyItems level false items ++ (lineBreak outer ++ text)) := by
  cases items with
  | nil => exact lineEndsNumber outer text
  | cons item items => exact endsNumberCons ',' _ (by decide)

theorem membersEndNumber (level outer : Nat) (members : List (String × Json)) (text : List Char) :
    EndsNumber (prettyMembers level false members ++ (lineBreak outer ++ text)) := by
  cases members with
  | nil => exact lineEndsNumber outer text
  | cons member members => exact endsNumberCons ',' _ (by decide)

/-! ### First characters -/

/-- A printed value starts with a character that is neither space nor a closing bracket. -/
theorem prettyFirst (level : Nat) (value : Json) (storable : value.IsStorable) :
    ∃ first others, value.prettyCharacters level = first :: others ∧ isSpace first = false ∧
      first ≠ ']' := by
  cases value with
  | null => exact ⟨'n', _, rfl, by decide, by decide⟩
  | bool value => cases value with
    | true => exact ⟨'t', _, rfl, by decide, by decide⟩
    | false => exact ⟨'f', _, rfl, by decide, by decide⟩
  | number value =>
      obtain ⟨first, others, isText, rfl | isDigit⟩ := numberFirst value storable
      · exact ⟨'-', others, isText, by decide, by decide⟩
      · have isNot := digitIsNot isDigit
        refine ⟨first, others, isText, ?_, isNot ']' (by decide)⟩
        simp [isSpace, isNot ' ' (by decide), isNot '\n' (by decide), isNot '\t' (by decide),
          isNot '\r' (by decide)]
  | string value => exact ⟨'"', _, rfl, by decide, by decide⟩
  | array items => cases items with
    | nil => exact ⟨'[', _, rfl, by decide, by decide⟩
    | cons item items => exact ⟨'[', _, rfl, by decide, by decide⟩
  | object members => cases members with
    | nil => exact ⟨'\x7b', _, rfl, by decide, by decide⟩
    | cons member members => exact ⟨'\x7b', _, rfl, by decide, by decide⟩

/-! ### Values -/

theorem fuelOfLength {text : List Char} {fuel : Nat} (nonempty : text ≠ [])
    (enough : text.length ≤ fuel) : ∃ less, fuel = less + 1 := by
  have isPositive := List.length_pos_of_ne_nil nonempty
  exact ⟨fuel - 1, by omega⟩

/-- A value behind a line break is read like the value alone. -/
theorem readBehindBreak (fuel level : Nat) (text : List Char) :
    readValue fuel (lineBreak level ++ text) = readValue fuel text := by
  rw [← readValueSkip, skipLineBreak, readValueSkip]

mutual

/-- A value is read back from its text, and what follows the text is left. -/
theorem readPretty : ∀ (value : Json) (level fuel : Nat) (rest : List Char), value.IsStorable →
    EndsNumber rest → (value.prettyCharacters level).length ≤ fuel →
    readValue fuel (value.prettyCharacters level ++ rest) = some (value, rest)
  | .null, level, fuel, rest, _, _, enough => by
      obtain ⟨fuel, rfl⟩ := fuelOfLength (by simp [prettyCharacters, scalarCharacters]) enough
      rw [readValue]
      rfl
  | .bool true, level, fuel, rest, _, _, enough => by
      obtain ⟨fuel, rfl⟩ := fuelOfLength (by simp [prettyCharacters, scalarCharacters]) enough
      rw [readValue]
      rfl
  | .bool false, level, fuel, rest, _, _, enough => by
      obtain ⟨fuel, rfl⟩ := fuelOfLength (by simp [prettyCharacters, scalarCharacters]) enough
      rw [readValue]
      rfl
  | .number value, level, fuel, rest, storable, ends, enough => by
      obtain ⟨first, others, isText, -⟩ := prettyFirst level (.number value) storable
      obtain ⟨fuel, rfl⟩ := fuelOfLength (by simp [isText]) enough
      exact readNumberDigits value storable fuel rest ends
  | .string value, level, fuel, rest, _, _, enough => by
      obtain ⟨fuel, rfl⟩ := fuelOfLength (by simp [prettyCharacters, scalarCharacters, quote]) enough
      simp only [prettyCharacters, scalarCharacters, quote, List.cons_append, List.append_assoc]
      rw [readValue, skipNoSpace _ _ (by decide)]
      simp only [List.nil_append, readQuoted]
      rfl
  | .array [], level, fuel, rest, _, _, enough => by
      obtain ⟨fuel, rfl⟩ := fuelOfLength (by simp [prettyCharacters]) enough
      rw [readValue]
      rfl
  | .array (item :: items), level, fuel, rest, storable, ends, enough => by
      obtain ⟨fuel, rfl⟩ := fuelOfLength (by simp [prettyCharacters]) enough
      simp only [prettyCharacters, List.length_cons, List.length_append] at enough
      have isRead := readPrettyItems (item :: items) (level + 1) level fuel rest (by simp) storable
        (by omega)
      obtain ⟨first, others, isFirst, notSpace, notClosing⟩ := prettyFirst (level + 1) item storable.1
      have isItem : skipSpace (prettyItems (level + 1) true (item :: items) ++
          (lineBreak level ++ ']' :: rest)) = first :: (others ++ (prettyItems (level + 1) false items ++
            (lineBreak level ++ ']' :: rest))) := by
        simp only [prettyItems, comma, if_true, List.nil_append, List.append_assoc, skipLineBreak,
          isFirst, List.cons_append, skipNoSpace first _ notSpace]
      simp only [prettyCharacters, List.cons_append, List.append_assoc, List.nil_append]
      rw [readValue, skipNoSpace _ _ (by decide)]
      rw [← readItemsSkip, isItem] at isRead
      simp only [isItem]
      split
      · exact absurd (List.cons.inj ‹_›).1 notClosing
      · rw [isRead]
        rfl
  | .object [], level, fuel, rest, _, _, enough => by
      obtain ⟨fuel, rfl⟩ := fuelOfLength (by simp [prettyCharacters]) enough
      rw [readValue]
      rfl
  | .object ((key, item) :: members), level, fuel, rest, storable, ends, enough => by
      obtain ⟨fuel, rfl⟩ := fuelOfLength (by simp [prettyCharacters]) enough
      simp only [prettyCharacters, List.length_cons, List.length_append] at enough
      have isRead := readPrettyMembers ((key, item) :: members) (level + 1) level fuel rest (by simp)
        storable (by omega)
      have isKey : skipSpace (prettyMembers (level + 1) true ((key, item) :: members) ++
          (lineBreak level ++ '\x7d' :: rest)) = '"' :: (key.toList.flatMap escapeChar ++ '"' :: ':' ::
            ' ' :: (item.prettyCharacters (level + 1) ++ (prettyMembers (level + 1) false members ++
              (lineBreak level ++ '\x7d' :: rest)))) := by
        simp only [prettyMembers, comma, if_true, List.nil_append, List.append_assoc, quote,
          List.cons_append]
        rw [skipLineBreak, skipNoSpace '"' _ (by decide)]
      simp only [prettyCharacters, List.cons_append, List.append_assoc, List.nil_append]
      rw [readValue, skipNoSpace _ _ (by decide)]
      rw [← readMembersSkip, isKey] at isRead
      simp only [isKey]
      split
      · exact absurd (List.cons.inj ‹_›).1 (by decide)
      · rw [isRead]
        rfl

theorem readPrettyItems : ∀ (items : List Json) (level outer fuel : Nat) (rest : List Char),
    items ≠ [] → AreStorable items → (prettyItems level true items).length ≤ fuel →
    readItems fuel (prettyItems level true items ++ (lineBreak outer ++ ']' :: rest)) =
      some (items, rest)
  | [], _, _, _, _, nonempty, _, _ => absurd rfl nonempty
  | item :: items, level, outer, fuel, rest, _, storable, enough => by
      obtain ⟨fuel, rfl⟩ := fuelOfLength (by simp [prettyItems, lineBreak]) enough
      simp only [prettyItems, comma, if_true, List.nil_append, List.length_append, lineBreak,
        List.length_cons] at enough
      have isItem := readPretty item level fuel
        (prettyItems level false items ++ (lineBreak outer ++ ']' :: rest)) storable.1
        (itemsEndNumber level outer items _) (by omega)
      have others := readPrettyItems items level outer fuel rest
      simp only [prettyItems, comma, if_true, List.nil_append, List.append_assoc]
      rw [readItems, readBehindBreak, isItem]
      cases items with
      | nil =>
          simp only [prettyItems, List.nil_append, skipLineBreak, skipNoSpace ']' rest (by decide)]
      | cons next more =>
          rw [itemsAfterFirst, List.length_cons] at enough
          rw [itemsAfterFirst, List.cons_append]
          simp only [skipNoSpace ',' _ (by decide), others (by simp) storable.2 (by omega)]
          rfl

theorem readPrettyMembers : ∀ (members : List (String × Json)) (level outer fuel : Nat)
    (rest : List Char), members ≠ [] → HaveStorable members →
    (prettyMembers level true members).length ≤ fuel →
    readMembers fuel (prettyMembers level true members ++ (lineBreak outer ++ '\x7d' :: rest)) =
      some (members, rest)
  | [], _, _, _, _, nonempty, _, _ => absurd rfl nonempty
  | (key, item) :: members, level, outer, fuel, rest, _, storable, enough => by
      obtain ⟨fuel, rfl⟩ := fuelOfLength (by simp [prettyMembers, lineBreak]) enough
      simp only [prettyMembers, comma, if_true, List.nil_append, List.length_append, lineBreak,
        List.length_cons] at enough
      have isItem := readPretty item level fuel
        (prettyMembers level false members ++ (lineBreak outer ++ '\x7d' :: rest)) storable.1
        (membersEndNumber level outer members _) (by omega)
      have others := readPrettyMembers members level outer fuel rest
      have isKey := readQuoted key (':' :: ' ' :: (item.prettyCharacters level ++
        (prettyMembers level false members ++ (lineBreak outer ++ '\x7d' :: rest))))
      have isSpaced : readValue fuel (' ' :: (item.prettyCharacters level ++
          (prettyMembers level false members ++ (lineBreak outer ++ '\x7d' :: rest)))) =
            some (item, prettyMembers level false members ++ (lineBreak outer ++ '\x7d' :: rest)) := by
        rw [← isItem, ← readValueSkip, ← readValueSkip fuel (item.prettyCharacters level ++ _)]
        rfl
      simp only [prettyMembers, comma, if_true, List.nil_append, List.append_assoc, quote,
        List.cons_append]
      rw [readMembers, skipLineBreak, skipNoSpace '"' _ (by decide)]
      simp only [isKey, skipNoSpace ':' _ (by decide), isSpaced]
      cases members with
      | nil =>
          simp only [prettyMembers, List.nil_append, skipLineBreak,
            skipNoSpace '\x7d' rest (by decide)]
      | cons next more =>
          obtain ⟨nextKey, next⟩ := next
          rw [membersAfterFirst, List.length_cons] at enough
          rw [membersAfterFirst, List.cons_append]
          simp only [skipNoSpace ',' _ (by decide), others (by simp) storable.2 (by omega)]
          rfl

end

/-- Every storable value is read back from its printed text. -/
theorem parsePretty (value : Json) (storable : value.IsStorable) :
    parse? value.pretty = some value := by
  have isRead := readPretty value 0 (2 * (value.prettyCharacters 0).length + 2) [] storable
    endsNumberNil (by omega)
  rw [List.append_nil] at isRead
  unfold parse? pretty
  simp only [String.toList_ofList, isRead]
  rfl

end DeskScript.Json
