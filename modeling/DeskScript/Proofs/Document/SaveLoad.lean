/-
This file shows that the format of a written document can be told from its first octet, and that a
script that has been saved is loaded as it was.
-/

import DeskScript.Document.Codec
import DeskScript.Proofs.Json.Canonical
import DeskScript.Proofs.Script.Identity
import DeskScript.Proofs.Script.Storable
import DeskScript.Proofs.Step.Members
import DeskScript.Proofs.Time.Reading
import DeskScript.Proofs.Yaml.Depth

namespace DeskScript

/-! ### Octets of a text -/

theorem octetLoop (content : ByteArray) (start : Nat) (before : List UInt8) :
    ByteArray.toList.loop content start before =
      before.reverse ++ content.data.toList.drop start := by
  induction gap : content.size - start generalizing start before with
  | zero =>
      have outside : ¬start < content.size := by omega
      have short : content.data.toList.length ≤ start := by
        rw [Array.length_toList, ByteArray.size_data]
        omega
      rw [ByteArray.toList.loop, if_neg outside, List.drop_eq_nil_of_le short, List.append_nil]
  | succ gap inductionHypothesis =>
      have inside : start < content.size := by omega
      have split : content.data.toList.drop start =
          content.get! start :: content.data.toList.drop (start + 1) := by
        rw [List.drop_eq_getElem_cons (by simpa using inside)]
        simp [ByteArray.get!, getElem!_pos, inside]
      rw [ByteArray.toList.loop, if_pos inside, inductionHypothesis _ _ (by omega), split]
      simp

/-- The octets of a text are those of its characters, one after the other. -/
theorem octetsOfText (text : String) :
    text.toUTF8.toList = text.toList.flatMap String.utf8EncodeChar := by
  have octets : text.toUTF8.toList = text.toUTF8.data.toList := octetLoop text.toUTF8 0 []
  rw [octets, String.toUTF8_eq_toByteArray, ← String.utf8Encode_toList]
  simp [List.utf8Encode]

/-- The octets of a text are read back as the text. -/
theorem textOfOctets (text : String) : String.fromUTF8? text.toUTF8 = some text := by
  rw [String.toUTF8_eq_toByteArray, String.fromUTF8?, dif_pos text.isValidUTF8]
  rfl

/-! ### First characters -/

namespace DocumentFormat

theorem detectBrace (rest : List Char) : detect (String.ofList ('\x7b' :: rest)).toUTF8 = .json := by
  rw [detect, octetsOfText, String.toList_ofList, List.flatMap_cons,
    show String.utf8EncodeChar '\x7b' = [0x7B] by decide]
  rfl

/-- A document that starts with the name of the version is not taken for JSON. -/
theorem detectName (rest : List Char) : detect (String.ofList ('s' :: rest)).toUTF8 = .yaml := by
  rw [detect, octetsOfText, String.toList_ofList, List.flatMap_cons,
    show String.utf8EncodeChar 's' = [0x73] by decide]
  rfl

end DocumentFormat

namespace Yaml

theorem closeLineCons (first : Char) (rest : List Char) :
    ∃ others, closeLine (first :: rest) = first :: others := by
  rw [closeLine]
  split
  · exact ⟨rest, rfl⟩
  · exact ⟨rest ++ ['\n'], rfl⟩

/-- A block starts with its first key where the key is a plain word. -/
theorem printCons (key : String) (first : Char) (name : List Char) (value : Json)
    (rest : List (String × Json)) (simple : isSimpleKey key = true)
    (plain : textDigits 2 key = first :: name) :
    ∃ others, print (.object ((key, value) :: rest)) = String.ofList (first :: others) := by
  obtain ⟨line, isLine⟩ := closeLineCons first (name ++ ':' :: valueAfterKey 0 value)
  obtain ⟨others, isOthers⟩ := closeLineCons first (line ++ entryLines 0 false rest)
  refine ⟨others, ?_⟩
  have block : inline? 2 (.object ((key, value) :: rest)) = none := rfl
  rw [print, block, Option.getD_none, blockOf, entryLines]
  simp only [if_true, simple, plain, List.nil_append, List.cons_append, isLine, isOthers]

end Yaml

namespace Document

/-- Every printed script shows the format that it was printed in. -/
theorem detectPrinted (format : DocumentFormat) (script : Script) :
    DocumentFormat.detect (print format (envelope script)).toUTF8 = format := by
  cases format with
  | json => exact DocumentFormat.detectBrace _
  | yaml =>
      obtain ⟨others, printed⟩ := Yaml.printCons "schema_version" 's' "chema_version".toList
        (.nat currentVersion) [("macro", script.toJson)] (by decide) (by decide)
      rw [print, envelope, printed]
      exact DocumentFormat.detectName others

/-! ### Loading a document that has been parsed -/

/-- A document that holds a valid script in the current form is loaded as this script. -/
theorem loadOfParsed (script : Script) (ids : IdSource) (now : Time.Timestamp)
    (content : ByteArray) (valid : script.validate = .ok ())
    (created : Time.readRelaxed script.createdAt.text = .ok script.createdAt)
    (updated : Time.readRelaxed script.updatedAt.text = .ok script.updatedAt)
    (canonical : ∀ entry ∈ script.metadata.entries, entry.2.canonical = entry.2)
    (parsed : parse content = .ok (envelope script)) :
    load ids now content = .ok (script, ids) := by
  have keys : ([("schema_version", Json.nat currentVersion), ("macro", script.toJson)].map
      Prod.fst).Nodup := by simp
  have version : Json.member? (Json.canonicalMembers [] [("schema_version", Json.nat currentVersion),
      ("macro", script.toJson)]) "schema_version" = some (.nat currentVersion) :=
    Json.memberCanonical "schema_version" _ keys
  have body : Json.member? (Json.canonicalMembers [] [("schema_version", Json.nat currentVersion),
      ("macro", script.toJson)]) "macro" = some script.toJson.canonical :=
    Json.memberCanonical "macro" _ keys
  have decoded : decode ids script.toJson.canonical = .ok (script, ids) := by
    rw [decode, script.identifyToJson ids]
    simp only [script.ofToJson created updated canonical]
  have isCurrent : versionOf (some (.nat currentVersion)) = .ok currentVersion := rfl
  have unchanged : currentBody now currentVersion script.toJson.canonical =
      .ok script.toJson.canonical := by rw [currentBody, if_pos rfl]
  rw [load, parsed]
  simp only [bind, Except.bind, envelope, Json.canonical, version, body, isCurrent, unchanged,
    decoded, valid]
  rfl

/-! ### Texts and their nesting -/

/-- A document in a format may nest at most this many arrays and objects. -/
def nestingLimit : DocumentFormat → Nat
  | .json => Json.nestingLimit
  | .yaml => Yaml.depthLimit

/-- The text of a value in YAML says what the value is, apart from the limit on nesting. -/
def IsLegibleYaml (value : Json) : Prop :=
  ∃ limit, Yaml.readWithin limit (Yaml.print value).toUTF8 = .ok value

theorem readPretty (value : Json) (storable : value.IsStorable) :
    Json.read? value.pretty = if value.nesting ≤ Json.nestingLimit then some value else none := by
  rw [Json.read?, Json.parsePretty value storable, Option.filter_some]
  simp only [decide_eq_true_eq]

/-- A printed object is read as it was. -/
theorem parseObject (entry : String × Json) (rest : List (String × Json))
    (storable : (Json.object (entry :: rest)).IsStorable)
    (fits : (Json.object (entry :: rest)).nesting ≤ Json.nestingLimit) :
    parse (Json.object (entry :: rest)).pretty.toUTF8 = .ok (.object (entry :: rest)) := by
  have detected : DocumentFormat.detect (Json.object (entry :: rest)).pretty.toUTF8 = .json :=
    DocumentFormat.detectBrace _
  rw [parse, detected]
  simp only [textOfOctets, Option.bind_some, readPretty _ storable, if_pos fits]

/-- A printed script is refused for its nesting only. -/
theorem parsePrinted (script : Script) (format : DocumentFormat)
    (storable : (envelope script).IsStorable)
    (legible : format = .yaml → IsLegibleYaml (envelope script)) :
    ((envelope script).nesting ≤ nestingLimit format →
        parse (print format (envelope script)).toUTF8 = .ok (envelope script)) ∧
      ∀ found, parse (print format (envelope script)).toUTF8 = .ok found →
        (envelope script).nesting ≤ nestingLimit format := by
  unfold parse
  rw [detectPrinted]
  cases format with
  | json =>
      simp only [print, textOfOctets, Option.bind_some, readPretty _ storable, nestingLimit]
      by_cases fits : (envelope script).nesting ≤ Json.nestingLimit
      · simp [fits]
      · simp [fits]
  | yaml =>
      obtain ⟨limit, isRead⟩ := legible rfl
      obtain ⟨-, again⟩ := Yaml.readWithinLimit limit _ _ isRead
      simp only [print, nestingLimit]
      constructor
      · intro fits
        simp only [Yaml.readAtLimit, again Yaml.depthLimit fits]
      · intro found parsed
        refine (Yaml.readIff limit _ _ isRead).mp ?_
        cases outcome : Yaml.read (Yaml.print (envelope script)).toUTF8 with
        | ok value => exact ⟨value, rfl⟩
        | error fault =>
            rw [outcome] at parsed
            cases parsed

/-! ### Saving and loading -/

theorem saveValid (script : Script) (format : DocumentFormat) (valid : script.validate = .ok ()) :
    save script format = .ok (print format (envelope script)) := by
  rw [save, valid]

/-- What is loaded has been parsed before. -/
theorem parsedOfLoaded (ids : IdSource) (now : Time.Timestamp) (content : ByteArray)
    (loaded : Script × IdSource) (isLoaded : load ids now content = .ok loaded) :
    ∃ value, parse content = .ok value := by
  cases parsed : parse content with
  | ok value => exact ⟨value, rfl⟩
  | error fault =>
      rw [load, parsed] at isLoaded
      cases isLoaded

section Saved

variable (script : Script) (format : DocumentFormat) (ids : IdSource) (now : Time.Timestamp)

/-- A saved script is loaded again as long as its document keeps to the limit on nesting. -/
theorem loadPrinted (valid : script.validate = .ok ())
    (created : script.createdAt.IsKnown) (updated : script.updatedAt.IsKnown)
    (metadata : script.HasCleanMetadata)
    (legible : format = .yaml → IsLegibleYaml (envelope script))
    (fits : (envelope script).nesting ≤ nestingLimit format) :
    load ids now (print format (envelope script)).toUTF8 = .ok (script, ids) := by
  have storable := storableEnvelope script valid metadata.storable
  exact loadOfParsed script ids now _ valid (Time.readText _ created) (Time.readText _ updated)
    metadata.canonical ((parsePrinted script format storable legible).1 fits)

/-- A saved script is not loaded when its document nests too deeply. -/
theorem fitsOfLoaded (valid : script.validate = .ok ()) (metadata : script.HasCleanMetadata)
    (legible : format = .yaml → IsLegibleYaml (envelope script)) (loaded : Script × IdSource)
    (isLoaded : load ids now (print format (envelope script)).toUTF8 = .ok loaded) :
    (envelope script).nesting ≤ nestingLimit format := by
  have storable := storableEnvelope script valid metadata.storable
  obtain ⟨value, parsed⟩ := parsedOfLoaded ids now _ loaded isLoaded
  exact (parsePrinted script format storable legible).2 value parsed

/--
Every valid script whose document does not nest too deeply is saved in a text of which the format
can be told, and which is loaded as the same script. The text of a document in YAML is taken to be
read as the value that it was printed for.
-/
theorem loadSaved (valid : script.validate = .ok ())
    (created : script.createdAt.IsKnown) (updated : script.updatedAt.IsKnown)
    (metadata : script.HasCleanMetadata)
    (legible : format = .yaml → IsLegibleYaml (envelope script))
    (nested : (envelope script).nesting ≤ 127) :
    ∃ text, save script format = .ok text ∧ DocumentFormat.detect text.toUTF8 = format ∧
      load ids now text.toUTF8 = .ok (script, ids) := by
  have fits : (envelope script).nesting ≤ nestingLimit format := by
    cases format with
    | json => exact nested
    | yaml => exact Nat.le_trans nested (by decide)
  exact ⟨_, saveValid script format valid, detectPrinted format script,
    loadPrinted script format ids now valid created updated metadata legible fits⟩

/-- This script types a greeting. -/
def greeter : Script :=
  { Script.new "script" "greeter" .epoch with steps := [Step.newType "greeting" "Hello"] }

theorem epochKnown : Time.Timestamp.epoch.IsKnown :=
  ⟨by decide, by decide, by decide⟩

/-- Identities are numbers here. -/
def countedIds : IdSource := ⟨toString, 0⟩

theorem loadSavedGreeter :
    ∃ text, save greeter .yaml = .ok text ∧ DocumentFormat.detect text.toUTF8 = .yaml ∧
      load countedIds .epoch text.toUTF8 = .ok (greeter, countedIds) := by
  have legible : Yaml.readWithin 4 (Yaml.print (envelope greeter)).toUTF8 =
      .ok (envelope greeter) := by decide +kernel
  exact loadSaved greeter .yaml countedIds .epoch (by rfl) epochKnown epochKnown
    ⟨nofun, trivial⟩ (fun _ => ⟨4, legible⟩) (by decide +kernel)

/--
A valid script can always be saved, but what has been saved is loaded again only as long as the
document keeps to the limit on nesting. Nothing that is saved is checked for that limit.
-/
theorem loadsIffNested (valid : script.validate = .ok ())
    (created : script.createdAt.IsKnown) (updated : script.updatedAt.IsKnown)
    (metadata : script.HasCleanMetadata)
    (legible : format = .yaml → IsLegibleYaml (envelope script)) :
    ∃ text, save script format = .ok text ∧
      ((∃ loaded, load ids now text.toUTF8 = .ok loaded) ↔
        (envelope script).nesting ≤ nestingLimit format) := by
  refine ⟨_, saveValid script format valid, ?_, ?_⟩
  · rintro ⟨loaded, isLoaded⟩
    exact fitsOfLoaded script format ids now valid metadata legible loaded isLoaded
  · intro fits
    exact ⟨_, loadPrinted script format ids now valid created updated metadata legible fits⟩

end Saved

theorem loadsIffNestedGreeter :
    ∃ text, save greeter .json = .ok text ∧
      ((∃ loaded, load countedIds .epoch text.toUTF8 = .ok loaded) ↔
        (envelope greeter).nesting ≤ 127) :=
  loadsIffNested greeter .json countedIds .epoch (by rfl) epochKnown epochKnown
    ⟨nofun, trivial⟩ nofun

/-- This step waits for a picture and clicks on it. -/
def clickOnPicture : Step :=
  .leaf ⟨"picture", none, true, none, 0⟩
    (.waitImage "button.png" ⟨none, 1, 1000, none, some .plain⟩)

/-- These are loops around a step. The identity of a loop is the number of loops in it. -/
def loopsAround (inner : Step) : Nat → Step
  | 0 => inner
  | count + 1 =>
      .loop ⟨toString count, none, true, none, 0⟩ ⟨.count 1, 1, none⟩ [loopsAround inner count]

/-- This script has sixty-one loops in each other around a step that clicks on a picture. -/
def deepScript : Script :=
  { Script.new "script" "deep" .epoch with steps := [loopsAround clickOnPicture 61] }

/-- A script that is valid and can be saved is not loaded again. -/
theorem deepNotLoaded :
    deepScript.validate = .ok () ∧ ∃ text, save deepScript .json = .ok text ∧
      ¬∃ loaded, load countedIds .epoch text.toUTF8 = .ok loaded := by
  have valid : deepScript.validate = .ok () := by rfl
  refine ⟨valid, _, saveValid deepScript .json valid, ?_⟩
  rintro ⟨loaded, isLoaded⟩
  have fits := fitsOfLoaded deepScript .json countedIds .epoch valid ⟨nofun, trivial⟩ nofun loaded
    isLoaded
  have nested : (envelope deepScript).nesting = 128 := by decide +kernel
  rw [nested] at fits
  exact absurd fits (by decide)

end Document

end DeskScript
