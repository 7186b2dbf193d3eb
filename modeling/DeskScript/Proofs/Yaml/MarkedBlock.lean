/-
This file shows what a byte order mark does to a document in block style. The mark takes up a column
of the first line, so that the second line is no longer part of the block.
-/

import DeskScript.Proofs.Yaml.SettledTokens
import DeskScript.Yaml.Reader
import Mathlib.Data.List.Permutation

namespace DeskScript.Yaml

/-! ### Characters of a marked text -/

/-- What has been read stays at the front of what is read in the end. -/
theorem readCharactersFront {before text : List Char} {offset fuel : Nat} {octets : List Nat}
    (done : readCharactersAfter before offset fuel octets = .ok text) :
    before.reverse <+: text := by
  induction fuel generalizing before offset octets with
  | zero =>
      obtain rfl : before.reverse = text := Except.ok.inj done
      exact List.prefix_rfl
  | succ fuel inductionHypothesis =>
      rw [readCharactersAfter] at done
      split at done
      · obtain rfl : before.reverse = text := Except.ok.inj done
        exact List.prefix_rfl
      · split at done
        · cases done
        · have behind := inductionHypothesis done
          rw [List.reverse_cons] at behind
          exact (List.prefix_append _ _).trans behind

/-- These characters are written with one octet each. -/
def IsPlainAscii (character : Char) : Prop :=
  character.toNat < 0x80 ∧ isAllowed character.toNat = true

instance : DecidablePred IsPlainAscii := fun _ => inferInstanceAs (Decidable (_ ∧ _))

theorem readAscii (offset : Nat) {character : Char} (rest : List Nat)
    (plain : IsPlainAscii character) :
    readCharacter offset (character.toNat :: rest) = .ok (character, 1) := by
  obtain ⟨small, allowed⟩ := plain
  have noSurrogate :
      ¬((0xD800 ≤ character.toNat ∧ character.toNat ≤ 0xDFFF) ∨ 0x10FFFF < character.toNat) := by
    omega
  simp [readCharacter, leadingOctet?, small, trailingOctets, isShortest, noSurrogate, allowed]

theorem readAsciiRow (before row : List Char) (offset fuel : Nat) (rest : List Nat)
    (plain : ∀ character ∈ row, IsPlainAscii character) :
    readCharactersAfter before offset (fuel + row.length) (row.map Char.toNat ++ rest) =
      readCharactersAfter (row.reverse ++ before) (offset + row.length) fuel rest := by
  induction row generalizing before offset with
  | nil => rfl
  | cons character others inductionHypothesis =>
      rw [List.forall_mem_cons] at plain
      have more : fuel + (character :: others).length = (fuel + others.length) + 1 := by
        rw [List.length_cons]
        omega
      rw [more, readCharactersAfter, List.map_cons, List.cons_append, readAscii _ _ plain.1]
      simp only [List.isEmpty_cons, Bool.false_eq_true, if_false, List.drop_succ_cons,
        List.drop_zero]
      rw [inductionHypothesis _ _ plain.2]
      simp only [List.reverse_cons, List.append_assoc, List.singleton_append, List.length_cons]
      congr 1
      omega

/-- The octets of a row of such characters are their codes. -/
theorem octetsOfAscii (row : List Char) (plain : ∀ character ∈ row, IsPlainAscii character) :
    (row.flatMap String.utf8EncodeChar).map UInt8.toNat = row.map Char.toNat := by
  induction row with
  | nil => rfl
  | cons character others inductionHypothesis =>
      rw [List.forall_mem_cons] at plain
      have small : character.toNat < 0x80 := plain.1.1
      have single : String.utf8EncodeChar character = [UInt8.ofNat character.toNat] := by
        simp [String.utf8EncodeChar, Nat.le_of_lt_succ small]
      have code : (UInt8.ofNat character.toNat).toNat = character.toNat := by
        rw [UInt8.toNat_ofNat']
        exact Nat.mod_eq_of_lt (by omega)
      rw [List.flatMap_cons, List.map_append, inductionHypothesis plain.2, single, List.map_cons,
        List.map_nil, code]
      rfl

/-- A mark is read as one character, and so is every plain character behind it. -/
theorem charactersOfMarked {content : ByteArray} {row text : List Char} {rest : List Nat}
    (octets : content.toList.map UInt8.toNat = 0xEF :: 0xBB :: 0xBF :: (row.map Char.toNat ++ rest))
    (plain : ∀ character ∈ row, IsPlainAscii character)
    (done : charactersOf content = .ok text) : '\ufeff' :: row <+: text := by
  have mark : readCharacter 0 (0xEF :: 0xBB :: 0xBF :: (row.map Char.toNat ++ rest)) =
      .ok ('\ufeff', 3) := rfl
  have enough : (0xEF :: 0xBB :: 0xBF :: (row.map Char.toNat ++ rest)).length =
      (rest.length + 2 + row.length) + 1 := by
    simp only [List.length_cons, List.length_append, List.length_map]
    omega
  rw [charactersOf, octets, enough, readCharactersAfter, mark] at done
  simp only [List.isEmpty_cons, Bool.false_eq_true, if_false, List.drop_succ_cons,
    List.drop_zero] at done
  rw [readAsciiRow _ _ _ _ _ plain] at done
  simpa using readCharactersFront done

/-! ### Tokens of a marked document -/

/-- A document in block style starts with these lines: its version, and the key of its script. -/
def headLines : List Char := "schema_version: 2\nmacro:\n".toList

/-- These are the tokens of a first line that begins behind a mark, up to the end of its block. -/
def versionTokens : List PlacedToken :=
  [⟨.blockMappingStart, ⟨1, 0, 1⟩⟩, ⟨.key, ⟨1, 0, 1⟩⟩, ⟨.scalar "schema_version" .plain, ⟨1, 0, 1⟩⟩,
    ⟨.value, ⟨15, 0, 15⟩⟩, ⟨.scalar "2" .plain, ⟨17, 0, 17⟩⟩, ⟨.blockEnd, ⟨19, 1, 0⟩⟩]

/-- The second line starts another block. -/
def secondBlock : PlacedToken := ⟨.blockMappingStart, ⟨19, 1, 0⟩⟩

def scriptKey : PlacedToken := ⟨.scalar "macro" .plain, ⟨19, 1, 0⟩⟩

namespace Lexer

variable (rest : List Char) (size : Nat)

/-- The key of the first line stands in the second column. -/
theorem nextVersionKey :
    next ⟨⟨'\ufeff' :: ("schema_version: ".toList ++ rest), ⟨0, 0, 0⟩, size + 16⟩, #[], [], none, [],
        true⟩ =
      .ok ⟨⟨':' :: ' ' :: rest, ⟨15, 0, 15⟩, size + 16⟩,
        #[⟨.scalar "schema_version" .plain, ⟨1, 0, 1⟩⟩], [], some ⟨false, 0, ⟨1, 0, 1⟩⟩, [],
        false⟩ := by
  rfl

theorem nextVersionColon :
    next ⟨⟨':' :: ' ' :: rest, ⟨15, 0, 15⟩, size + 16⟩,
        #[⟨.scalar "schema_version" .plain, ⟨1, 0, 1⟩⟩], [], some ⟨false, 0, ⟨1, 0, 1⟩⟩, [], false⟩ =
      .ok ⟨⟨' ' :: rest, ⟨16, 0, 16⟩, size + 16⟩, (versionTokens.take 4).toArray, [1], none, [],
        false⟩ := by
  cbv

theorem nextVersion :
    next ⟨⟨' ' :: '2' :: '\n' :: 'm' :: rest, ⟨16, 0, 16⟩, size + 16⟩,
        (versionTokens.take 4).toArray, [1], none, [], false⟩ =
      .ok ⟨⟨'m' :: rest, ⟨19, 1, 0⟩, size + 16⟩, (versionTokens.take 5).toArray, [1], none, [],
        true⟩ := by
  cbv

/-- The next key stands in the first column, so it ends the block. -/
theorem nextScriptKey :
    next ⟨⟨'m' :: ("acro:\n".toList ++ rest), ⟨19, 1, 0⟩, size + 16⟩,
        (versionTokens.take 5).toArray, [1], none, [], true⟩ =
      .ok ⟨⟨':' :: '\n' :: rest, ⟨24, 1, 5⟩, size + 16⟩,
        (versionTokens ++ [scriptKey]).toArray, [],
        some ⟨false, 6, ⟨19, 1, 0⟩⟩, [], false⟩ := by
  cbv

theorem nextScriptColon :
    next ⟨⟨':' :: '\n' :: rest, ⟨24, 1, 5⟩, size + 16⟩,
        (versionTokens ++ [scriptKey]).toArray, [],
        some ⟨false, 6, ⟨19, 1, 0⟩⟩, [], false⟩ =
      .ok ⟨⟨'\n' :: rest, ⟨25, 1, 6⟩, size + 16⟩,
        (versionTokens ++
          [secondBlock, ⟨.key, ⟨19, 1, 0⟩⟩, scriptKey, ⟨.value, ⟨24, 1, 5⟩⟩]).toArray,
        [0], none, [], false⟩ := by
  cbv

theorem runNext {lexer after : Lexer} (fuel : Nat) (going : lexer.isDone = false)
    (isNext : lexer.next = .ok after) : run (fuel + 1) lexer = run fuel after := by
  rw [run, going, isNext]
  rfl

end Lexer

/-- Two blocks follow each other in a marked document, whatever comes after its second key. -/
theorem tokensOfMarked (rest : List Char) :
    versionTokens ++ [secondBlock] <+: (tokensOf ('\ufeff' :: (headLines ++ rest))).1 := by
  have head : headLines ++ rest =
      "schema_version: ".toList ++ ('2' :: '\n' :: 'm' :: ("acro:\n".toList ++ rest)) := rfl
  have size : ('\ufeff' :: (headLines ++ rest)).length = (rest.length + 10) + 16 := by
    have first : headLines.length = 25 := by decide
    rw [List.length_cons, List.length_append]
    omega
  have fuel : rest.length + 10 + 16 + 2 = (rest.length + 23) + 5 := by omega
  rw [tokensOf, Lexer.ofText, Cursor.ofText, size, fuel, head]
  rw [Lexer.runNext _ rfl (Lexer.nextVersionKey _ _),
    Lexer.runNext _ rfl (Lexer.nextVersionColon _ _), Lexer.runNext _ rfl (Lexer.nextVersion _ _),
    Lexer.runNext _ rfl (Lexer.nextScriptKey _ _), Lexer.runNext _ rfl (Lexer.nextScriptColon _ _)]
  refine Lexer.Begins.run ⟨?_, ?_⟩ _
  · exact ⟨_, rfl⟩
  · intro candidate member
    cases member

/-! ### Reading a marked document -/

/-- The first document of a marked text ends with its first line, and more text follows. -/
theorem documentOfMarked (rest : List Char) :
    let reading := firstDocument ('\ufeff' :: (headLines ++ rest))
    reading.root.isSome = true ∧ reading.after = .more := by
  obtain ⟨others, isRow⟩ := tokensOfMarked rest
  rcases isTokens : tokensOf ('\ufeff' :: (headLines ++ rest)) with ⟨tokens, fault⟩
  rw [isTokens] at isRow
  dsimp only at isRow
  have fuel : 4 * tokens.length + 4 = 4 * others.length + 32 := by
    rw [← isRow]
    simp [versionTokens]
    omega
  have isFirst : tokens =
      ⟨.blockMappingStart, ⟨1, 0, 1⟩⟩ :: (versionTokens.tail ++ secondBlock :: others) := by
    rw [← isRow]
    rfl
  unfold firstDocument
  rw [isTokens, isFirst]
  dsimp only
  rw [← isFirst, readRoot, fuel, isFirst]
  exact ⟨rfl, rfl⟩

end DeskScript.Yaml
