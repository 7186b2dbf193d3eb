/-
This file shows that every script is read back as it was written.
-/

import DeskScript.Proofs.Step.RoundTrip
import DeskScript.Script.Codec

namespace DeskScript

open Shape

/-! ### Tables -/

/-- A table is read back from its entries when its values are. -/
theorem Shape.tableOfEntries {value : Type} (read : Json → Result value) (write : value → Json)
    (table : Table value)
    (reads : ∀ entry ∈ table.entries, (write entry.2).canonical = write entry.2 ∧
      read (write entry.2) = .ok entry.2) :
    Shape.table read (Json.object (table.entries.map fun (key, item) => (key, write item))).canonical
      = .ok table := by
  have ordered : KeyOrdered (table.entries.map fun (key, item) => (key, write item)) := by
    rw [KeyOrdered, List.pairwise_map]
    exact table.ordered
  have fixed : ∀ entry ∈ table.entries.map fun (key, item) => (key, write item),
      entry.2.canonical = entry.2 := by
    intro entry inside
    obtain ⟨given, member, same⟩ := List.mem_map.mp inside
    rw [← same]
    exact (reads given member).1
  have canonical : Json.canonicalMembers [] (table.entries.map fun (key, item) => (key, write item))
      = table.entries.map fun (key, item) => (key, write item) :=
    Json.canonicalMembersFixed [] _ ordered fixed
  have each : ∀ entries : List (String × value),
      (∀ entry ∈ entries, read (write entry.2) = .ok entry.2) →
      (entries.map fun (key, item) => (key, write item)).mapM (fun entry =>
        (read entry.2).bind fun item => Except.ok (entry.1, item)) = Except.ok entries := by
    intro entries sound
    induction entries with
    | nil => rfl
    | cons head rest inductionHypothesis =>
        rw [List.forall_mem_cons] at sound
        rw [List.map_cons, List.mapM_cons, inductionHypothesis sound.2, sound.1]
        rfl
  have entries := each table.entries fun entry member => (reads entry member).2
  rw [Json.canonical, canonical]
  calc Shape.table read (.object (table.entries.map fun (key, item) => (key, write item)))
      = (Except.ok table.entries).bind fun entries => Except.ok (Table.ofList entries) :=
        congrArg (fun found => Except.bind found fun entries => Except.ok (Table.ofList entries))
          entries
    _ = .ok table := congrArg Except.ok table.ofListEntries

theorem Shape.tableOfTexts (table : Table String) :
    Shape.table text (Json.ofTexts table).canonical = .ok table :=
  tableOfEntries text .string table fun _ _ => ⟨rfl, rfl⟩

theorem Shape.tableOfValues (table : Table Json)
    (canonical : ∀ entry ∈ table.entries, entry.2.canonical = entry.2) :
    Shape.table Except.ok (Json.object table.entries).canonical = .ok table := by
  have reads := tableOfEntries Except.ok id table fun entry member => ⟨canonical entry member, rfl⟩
  simp only [id, List.map_id'] at reads
  exact reads

/-! ### Scripts -/

namespace Script

/-- These are the members of a written script. -/
def members (script : Script) : List (String × Json) :=
  [("id", .string script.id), ("name", .string script.name)] ++
    (if script.description.isEmpty then [] else [("description", .string script.description)]) ++
    [("created_at", .string script.createdAt.text), ("updated_at", .string script.updatedAt.text),
      ("steps", .array (Step.toJsonAll script.steps)), ("variables", .ofTexts script.defaults)] ++
    if script.metadata.entries.isEmpty then []
    else [("metadata", .object script.metadata.entries)]

theorem toJsonMembers (script : Script) : script.toJson = .object script.members := rfl

theorem keysOfMembers (script : Script) : (script.members.map Prod.fst).Sublist fieldNames := by
  simp only [members, List.map_append]
  exact (((List.Sublist.refl _).append (keysOfUnless "description" _ _)).append
    (List.Sublist.refl _)).append (keysOfUnless "metadata" _ _)

theorem keysNodup (script : Script) : (script.members.map Prod.fst).Nodup :=
  List.Nodup.sublist script.keysOfMembers (by simp [fieldNames])

/-- Times with a readable text and canonical metadata make the whole script readable. -/
theorem ofToJson (script : Script)
    (created : Time.readRelaxed script.createdAt.text = .ok script.createdAt)
    (updated : Time.readRelaxed script.updatedAt.text = .ok script.updatedAt)
    (canonical : ∀ entry ∈ script.metadata.entries, entry.2.canonical = entry.2) :
    ofJson script.toJson.canonical = .ok script := by
  obtain ⟨fields, isRecord, shows⟩ := Fields.ofCanonical "struct Macro" fieldNames fieldNames
    .document script.members script.keysNodup
  have id := shows.required "id" text _ script.id (by simp [fieldNames]) rfl
    (textOfString script.id)
  have name := shows.required "name" text _ script.name (by simp [fieldNames]) rfl
    (textOfString script.name)
  have description := shows.unlessUsual "description" text "" _ script.description
    script.description.isEmpty (by simp [fieldNames])
    (by simp [members, memberAppend, memberCons, memberUnless])
    String.isEmpty_iff.mp fun _ => textOfString script.description
  have createdAt := shows.required "created_at" Shape.timestamp _ script.createdAt
    (by simp [fieldNames])
    (by simp [members, memberAppend, memberCons, memberUnless]; rfl)
    (by simp [canonicalString, Shape.timestamp, created])
  have updatedAt := shows.required "updated_at" Shape.timestamp _ script.updatedAt
    (by simp [fieldNames])
    (by simp [members, memberAppend, memberCons, memberUnless]; rfl)
    (by simp [canonicalString, Shape.timestamp, updated])
  have steps := shows.optional "steps" (Step.listOfJson .document) [] _ script.steps
    (by simp [fieldNames])
    (by simp [members, memberAppend, memberCons, memberUnless])
    (Step.listOfToJson .document script.steps)
  have defaults := shows.optional "variables" (Shape.table text) .empty _ script.defaults
    (by simp [fieldNames])
    (by simp [members, memberAppend, memberCons, memberUnless])
    (tableOfTexts script.defaults)
  have metadata := shows.unlessUsual "metadata" (Shape.table Except.ok) .empty _ script.metadata
    script.metadata.entries.isEmpty (by simp [fieldNames])
    (by simp [members, memberAppend, memberCons, memberUnless])
    (fun empty => Table.eqOfEntries _ _ (List.isEmpty_iff.mp empty))
    fun _ => tableOfValues script.metadata canonical
  have settled := shows.settled [_, _, _, _, _, _, _, _]
    ⟨id.settled, name.settled, description.settled, createdAt.settled, updatedAt.settled,
      steps.settled, defaults.settled, metadata.settled⟩
  rw [ofJson, toJsonMembers, isRecord]
  simp only [bind, Except.bind, settled, id.read, name.read, description.read, createdAt.read,
    updatedAt.read, steps.read, defaults.read, metadata.read]
  rfl

end Script

end DeskScript
