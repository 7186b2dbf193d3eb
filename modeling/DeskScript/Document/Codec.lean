/-
This file tells the two text formats of documents apart, writes scripts to documents and reads
documents of any known version.
-/

import DeskScript.Document.Upgrade
import DeskScript.Json.Reader
import DeskScript.Script.Codec
import DeskScript.Script.Identity
import DeskScript.Yaml.Printer

namespace DeskScript

/-! ### Formats -/

inductive DocumentFormat where
  | json
  | yaml
  deriving DecidableEq, Inhabited

namespace DocumentFormat

def extension : DocumentFormat → String
  | .json => "json"
  | .yaml => "yaml"

/-- A file is in YAML when its name says so. -/
def ofExtension (extension : Option String) : DocumentFormat :=
  match extension.map fun extension => String.ofList (extension.toList.map Char.toLower) with
  | some name => if name = "yaml" || name = "yml" then .yaml else .json
  | none => .json

/-- These octets may stand before the first octet of a document. -/
def isBlankOctet (octet : UInt8) : Bool :=
  octet = 0x20 || octet = 0x09 || octet = 0x0A || octet = 0x0C || octet = 0x0D

/-- A byte order mark at the start of a text does not belong to the document. -/
def withoutMark : List UInt8 → List UInt8
  | 0xEF :: 0xBB :: 0xBF :: rest => rest
  | octets => octets

/-- A document in JSON starts with a brace. -/
def detect (content : ByteArray) : DocumentFormat :=
  if (withoutMark content.toList).find? (fun octet => !isBlankOctet octet) = some 0x7B then .json
  else .yaml

end DocumentFormat

/-! ### Faults -/

/-- A document is refused for its text, its version or its content. -/
inductive DocumentFault where
  | json
  | yaml (fault : Yaml.ReadError)
  | notAnObject
  | missingBody
  | missingVersion
  | unreadableVersion (found : Json)
  | unsupportedVersion (found : String)
  | noUpgrade (version : Nat)
  | upgrade (fault : UpgradeFault)
  | shape (fault : ShapeFault)
  | invalid (fault : StepFault)

namespace Document

/-- This is the version that documents are written in. -/
def currentVersion : Nat := 2

end Document

namespace DocumentFault

/-- A version that is a text is named as it is written. -/
def versionText : Json → String
  | .string text => text
  | found => found.compact

def corrupt (reason : String) : String := "Corrupt macro document: " ++ reason

def message : DocumentFault → String
  | .json => corrupt "not well-formed JSON"
  | .yaml fault => corrupt fault.message
  | .notAnObject => corrupt "document is not an object"
  | .missingBody => corrupt "missing \x60macro\x60 object"
  | .missingVersion => "Missing schema version"
  | .unreadableVersion found =>
      corrupt ("unreadable schema version \x60" ++ versionText found ++ "\x60")
  | .unsupportedVersion found =>
      "Unsupported schema version " ++ found ++ " (newest supported is " ++
        toString Document.currentVersion ++ ")"
  | .noUpgrade version =>
      "Cannot upgrade schema version " ++ toString version ++ ": no upgrade path"
  | .upgrade fault => "Cannot upgrade schema version 1: " ++ fault.reason
  | .shape fault => corrupt fault.message
  | .invalid fault => "Macro content is invalid: " ++ fault.message

end DocumentFault

namespace Document

/-! ### Writing -/

/-- A document holds its version and the script. -/
def envelope (script : Script) : Json :=
  .object [("schema_version", .nat currentVersion), ("macro", script.toJson)]

def print (format : DocumentFormat) (value : Json) : String :=
  match format with
  | .json => value.pretty
  | .yaml => Yaml.print value

/-- Only a valid script is written. -/
def save (script : Script) (format : DocumentFormat) : Except DocumentFault String :=
  match script.validate with
  | .error fault => .error (.invalid fault)
  | .ok () => .ok (print format (envelope script))

/-! ### Reading -/

def parse (content : ByteArray) : Except DocumentFault Json :=
  match DocumentFormat.detect content with
  | .json =>
      match (String.fromUTF8? content).bind Json.read? with
      | some value => .ok value
      | none => .error .json
  | .yaml =>
      match Yaml.read content with
      | .ok value => .ok value
      | .error fault => .error (.yaml fault)

/-- A version is a whole number, or a text with points whose first part is one. -/
def versionOf : Option Json → Except DocumentFault Nat
  | none => .error .missingVersion
  | some .null => .error .missingVersion
  | some (.number (.whole value)) =>
      if 0 ≤ value ∧ value < 2 ^ 32 then .ok value.toNat
      else .error (.unsupportedVersion (Json.whole value).compact)
  | some (.number (.decimal value)) => .error (.unsupportedVersion (Json.decimal value).compact)
  | some (.string text) =>
      let major := (Text.trimChars text.toList).takeWhile (· ≠ '.')
      match Decimal.natBelow? 10 (2 ^ 32) major with
      | some version => .ok version
      | none => .error (.unreadableVersion (.string text))
  | some found => .error (.unreadableVersion found)

/-- The body of a document is brought into the form of the current version. -/
def currentBody (now : Time.Timestamp) (version : Nat) (body : Json) : Except DocumentFault Json :=
  if version = currentVersion then .ok body
  else if version = 1 then
    match Upgrade.script now body with
    | .ok body => .ok body
    | .error fault => .error (.upgrade fault)
  else if currentVersion < version then .error (.unsupportedVersion (toString version))
  else .error (.noUpgrade version)

/-- This function reads the body of a document but does not ask whether the script is valid. -/
def decode (ids : IdSource) (body : Json) : Except DocumentFault (Script × IdSource) :=
  let (body, ids) := Identity.identifyScript body ids
  match Script.ofJson body with
  | .ok script => .ok (script, ids)
  | .error fault => .error (.shape fault)

/-- This function reads a document, whose script has to be valid. -/
def load (ids : IdSource) (now : Time.Timestamp) (content : ByteArray) :
    Except DocumentFault (Script × IdSource) := do
  let value ← parse content
  match value.canonical with
  | .object members =>
      let version ← versionOf (Json.member? members "schema_version")
      match Json.member? members "macro" with
      | none => throw .missingBody
      | some body =>
          let body ← currentBody now version body
          let (script, ids) ← decode ids body
          match script.validate with
          | .ok () => return (script, ids)
          | .error fault => throw (.invalid fault)
  | _ => throw .notAnObject

end Document

/-! ### Single steps -/

namespace Step

/-- A member with the type of the step is added to its parameters, which may be missing. -/
def withType (type : StepType) : Json → Except StepFault (List (String × Json))
  | .object members => .ok (putEntry "type" (.string type.tag) members)
  | .null => .ok [("type", .string type.tag)]
  | found => .error (.malformed type (.parameters found))

/-- This function makes a step of a type from parameters. The step has to be valid. -/
def build (ids : IdSource) (type : StepType) (parameters : Json) :
    Except StepFault (Step × IdSource) := do
  let members ← withType type parameters.canonical
  let (found, ids) := Identity.identifyStep (.object members) ids
  match ofJson .document found with
  | .error fault => throw (.malformed type (.shape fault))
  | .ok step =>
      step.validate
      return (step, ids)

/-- This function makes a step from the tag of its type. -/
def buildTagged (ids : IdSource) (tag : String) (parameters : Json) :
    Except StepFault (Step × IdSource) :=
  match StepType.ofTag? tag with
  | some type => build ids type parameters
  | none => .error (.unknownType tag)

end Step

end DeskScript
