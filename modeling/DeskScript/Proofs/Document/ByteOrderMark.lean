/-
This file shows that a byte order mark in front of a saved document makes it unreadable, although
the format of the document is still told from the text behind the mark.
-/

import DeskScript.Proofs.Document.SaveLoad
import DeskScript.Proofs.Yaml.MarkedBlock

namespace DeskScript

/-- These octets are the byte order mark of a text. -/
def byteOrderMark : ByteArray := ⟨#[0xEF, 0xBB, 0xBF]⟩

/-- A mark in front of a text is its first character. -/
theorem markedText (text : String) : byteOrderMark ++ text.toUTF8 = ("\ufeff" ++ text).toUTF8 := by
  have mark : byteOrderMark = "\ufeff".toUTF8 := by decide
  rw [mark, String.toUTF8_eq_toByteArray, String.toUTF8_eq_toByteArray,
    String.toUTF8_eq_toByteArray, String.toByteArray_append]

theorem markedOctets (text : String) :
    (byteOrderMark ++ text.toUTF8).toList = 0xEF :: 0xBB :: 0xBF :: text.toUTF8.toList := by
  have first : ("\ufeff" ++ text).toList = '\ufeff' :: text.toList := by
    rw [String.toList_append]
    rfl
  have mark : String.utf8EncodeChar '\ufeff' = [0xEF, 0xBB, 0xBF] := by decide
  rw [markedText, octetsOfText, octetsOfText, first, List.flatMap_cons, mark]
  rfl

/-- A mark in front of a text that has none makes no difference to its format. -/
theorem DocumentFormat.detectMarked {text : String}
    (unmarked : text.toUTF8.toList.head? ≠ some 0xEF) :
    detect (byteOrderMark ++ text.toUTF8) = detect text.toUTF8 := by
  have itself : withoutMark text.toUTF8.toList = text.toUTF8.toList := by
    unfold withoutMark
    split
    · rename_i isMarked
      rw [isMarked] at unmarked
      exact absurd rfl unmarked
    · rfl
  rw [detect, detect, markedOctets, itself, withoutMark]

/-- No value in JSON starts with a mark. -/
theorem Json.parseMarked (text : String) : Json.parse? ("\ufeff" ++ text) = none := by
  have first : ("\ufeff" ++ text).toList = '\ufeff' :: text.toList := by
    rw [String.toList_append]
    rfl
  rw [Json.parse?, first]
  rfl

namespace Yaml

theorem closeLineFront (line : List Char) : line <+: closeLine line := by
  rw [closeLine]
  split
  · exact List.prefix_rfl
  · exact List.prefix_append _ _

/-- A text with more than one document has no value. -/
theorem valueNotAlone {text : List Char} (isRoot : (firstDocument text).root.isSome = true)
    (isMore : (firstDocument text).after = .more) : ∃ fault, valueOfText text = .error fault := by
  obtain ⟨root, isRoot⟩ := Option.isSome_iff_exists.mp isRoot
  rw [valueOfText, isRoot]
  dsimp only
  cases (DocumentContext.value ⟨(firstDocument text).anchors, 100 * root.size⟩ depthLimit root).run
      0 with
  | error fault => exact ⟨fault, rfl⟩
  | ok found => exact ⟨.moreThanOneDocument, by rw [isMore]; rfl⟩

/-- In YAML nothing can be read of a document that starts like this behind a mark. -/
theorem readMarked {text : String} {rest : List Char}
    (starts : text.toList = headLines ++ rest) :
    ∃ fault, read (byteOrderMark ++ text.toUTF8) = .error fault := by
  have plain : ∀ character ∈ headLines, IsPlainAscii character := by
    have checked : headLines.all (fun character => decide (IsPlainAscii character)) = true := by
      decide +kernel
    simpa only [List.all_eq_true, decide_eq_true_eq] using checked
  have octets : (byteOrderMark ++ text.toUTF8).toList.map UInt8.toNat =
      0xEF :: 0xBB :: 0xBF :: (headLines.map Char.toNat ++
        (rest.flatMap String.utf8EncodeChar).map UInt8.toNat) := by
    rw [markedOctets, octetsOfText, starts, List.flatMap_append, ← octetsOfAscii headLines plain,
      ← List.map_append]
    rfl
  rw [read]
  cases isText : charactersOf (byteOrderMark ++ text.toUTF8) with
  | error fault => exact ⟨_, rfl⟩
  | ok characters =>
      obtain ⟨more, rfl⟩ := charactersOfMarked octets plain isText
      obtain ⟨isRoot, isMore⟩ := documentOfMarked more
      exact valueNotAlone isRoot isMore

end Yaml

namespace Document

/-- A document in YAML starts with a line for its version, and with the key of its script. -/
theorem printedHead (script : Script) :
    Yaml.headLines <+: (print .yaml (envelope script)).toList := by
  obtain ⟨entry, others, isBody⟩ : ∃ entry others, script.toJson = .object (entry :: others) :=
    ⟨_, _, rfl⟩
  have block : Yaml.inline? 2 (.object [("schema_version", .nat currentVersion),
      ("macro", .object (entry :: others))]) = none := rfl
  have version : Yaml.closeLine (Yaml.textDigits 2 "schema_version" ++
      ':' :: Yaml.valueAfterKey 0 (.nat currentVersion)) = "schema_version: 2\n".toList := by
    decide
  have versionKey : Yaml.isSimpleKey "schema_version" = true := by decide
  have scriptKey : Yaml.isSimpleKey "macro" = true := by decide
  have scriptName : Yaml.textDigits 2 "macro" = "macro".toList := by decide
  rw [print, Yaml.print, String.toList_ofList, envelope, isBody, block, Option.getD_none,
    Yaml.blockOf, Yaml.entryLines, Yaml.entryLines, if_pos versionKey, if_pos scriptKey, version,
    scriptName, Yaml.valueAfterKey]
  obtain ⟨further, isLine⟩ := Yaml.closeLineFront ("macro".toList ++ ':' :: '\n' ::
    Yaml.entryLines (0 + 2) false (entry :: others))
  have head : Yaml.headLines =
      "schema_version: 2\n".toList ++ ("macro".toList ++ [':', '\n']) := by decide
  rw [← isLine, head]
  refine List.IsPrefix.trans ?_ (Yaml.closeLineFront _)
  simp only [if_true, Bool.false_eq_true, if_false, Yaml.spaces, List.replicate_zero,
    List.nil_append, List.append_assoc, List.cons_append, List.prefix_append_right_inj]
  exact List.prefix_append [':', '\n'] _

/-! ### Documents behind a mark -/

/-- The format of a printed script is told behind a mark. -/
theorem detectPrintedMarked (format : DocumentFormat) (script : Script) :
    DocumentFormat.detect (byteOrderMark ++ (print format (envelope script)).toUTF8) = format := by
  rw [DocumentFormat.detectMarked, detectPrinted]
  rw [octetsOfText]
  cases format with
  | json =>
      have brace : String.utf8EncodeChar '\x7b' = [0x7B] := by decide
      obtain ⟨others, printed⟩ : ∃ others, print .json (envelope script) =
        String.ofList ('\x7b' :: others) := ⟨_, rfl⟩
      rw [printed, String.toList_ofList, List.flatMap_cons, brace]
      simp
  | yaml =>
      have letter : String.utf8EncodeChar 's' = [0x73] := by decide
      have head : Yaml.headLines =
          's' :: "chema_version: 2\nmacro:\n".toList := by decide
      obtain ⟨others, printed⟩ := printedHead script
      rw [← printed, head, List.cons_append, List.flatMap_cons, letter]
      simp

/-- A printed script behind a mark is not even parsed. -/
theorem markedNotParsed (format : DocumentFormat) (script : Script) :
    ∃ fault, parse (byteOrderMark ++ (print format (envelope script)).toUTF8) = .error fault := by
  unfold parse
  rw [detectPrintedMarked]
  cases format with
  | json =>
      refine ⟨.json, ?_⟩
      rw [markedText, textOfOctets, Option.bind_some, Json.read?, Json.parseMarked]
      rfl
  | yaml =>
      obtain ⟨rest, printed⟩ := printedHead script
      obtain ⟨fault, refused⟩ := Yaml.readMarked printed.symm
      exact ⟨.yaml fault, by rw [refused]⟩

/--
Every saved document is refused once there is a byte order mark in front of it. The format of the
document is told as before.
-/
theorem markedRefused {script : Script} {format : DocumentFormat} {text : String}
    (saved : save script format = .ok text) (ids : IdSource) (now : Time.Timestamp) :
    DocumentFormat.detect (byteOrderMark ++ text.toUTF8) = format ∧
      ∃ fault, load ids now (byteOrderMark ++ text.toUTF8) = .error fault := by
  have printed : text = print format (envelope script) := by
    rw [save] at saved
    split at saved
    · cases saved
    · exact (Except.ok.inj saved).symm
  rw [printed]
  refine ⟨detectPrintedMarked format script, ?_⟩
  obtain ⟨fault, refused⟩ := markedNotParsed format script
  refine ⟨fault, ?_⟩
  rw [load, refused]
  rfl

theorem markedRefusedGreeter :
    ∃ text, save greeter .yaml = .ok text ∧
      ∃ fault, load countedIds .epoch (byteOrderMark ++ text.toUTF8) = .error fault := by
  have saved := saveValid greeter .yaml (by rfl)
  exact ⟨_, saved, (markedRefused saved countedIds .epoch).2⟩

/-- A mark in front of a document that is loaded makes it one that is not. -/
theorem markNotPassed :
    ∃ text, save greeter .json = .ok text ∧
      load countedIds .epoch text.toUTF8 = .ok (greeter, countedIds) ∧
      ¬∃ loaded, load countedIds .epoch (byteOrderMark ++ text.toUTF8) = .ok loaded := by
  have valid : greeter.validate = .ok () := by rfl
  refine ⟨_, saveValid greeter .json valid, ?_, ?_⟩
  · exact loadPrinted greeter .json countedIds .epoch valid epochKnown epochKnown ⟨nofun, trivial⟩
      nofun (by decide +kernel)
  · rintro ⟨loaded, isLoaded⟩
    obtain ⟨value, parsed⟩ := parsedOfLoaded countedIds .epoch _ loaded isLoaded
    obtain ⟨fault, refused⟩ := markedNotParsed .json greeter
    rw [refused] at parsed
    cases parsed

end Document

end DeskScript
