/-
This file says when the fields of a record are read as the values that were written for them.
-/

import DeskScript.Proofs.Json.Canonical
import DeskScript.Proofs.Result
import DeskScript.Shape.Basic
import Mathlib.Data.List.Basic

namespace DeskScript.Shape

/-! ### Slots -/

/-- Nothing is wrong with a settled slot. -/
def SlotState.Settled (state : SlotState) : Prop :=
  state.fault = none ∧ state.missing = false

/-- A slot holds a value when it is settled and gives this value. -/
structure Slot.Holds {α : Type} (slot : Slot α) (value : α) : Prop where
  settled : slot.state.Settled
  read : slot.value = .ok value

theorem Fields.requiredHolds {α : Type} (fields : Fields) (name : String)
    (read : Json → Result α) (found : Json) (value : α)
    (present : Json.member? fields.members name = some found) (reads : read found = .ok value) :
    (fields.required name read).Holds value := by
  constructor <;> simp [required, SlotState.Settled, Slot.state, Slot.value, present, reads]

theorem Fields.optionalHolds {α : Type} (fields : Fields) (name : String)
    (read : Json → Result α) (fallback : α) (found : Json) (value : α)
    (present : Json.member? fields.members name = some found) (reads : read found = .ok value) :
    (fields.optional name read fallback).Holds value := by
  constructor <;> simp [optional, SlotState.Settled, Slot.state, Slot.value, present, reads]

theorem Fields.optionalAbsent {α : Type} (fields : Fields) (name : String)
    (read : Json → Result α) (fallback : α)
    (absent : Json.member? fields.members name = none) :
    (fields.optional name read fallback).Holds fallback := by
  constructor <;> simp [optional, SlotState.Settled, Slot.state, Slot.value, absent]

/-! ### Settled records -/

/-- Where no slot has a fault and no name comes twice, no member has a fault. -/
theorem memberFaultNone (states : List SlotState) (seen : List String)
    (members : List (String × Json))
    (sound : ∀ state ∈ states, state.fault = none)
    (distinct : (members.map Prod.fst).Nodup)
    (unseen : ∀ name ∈ members.map Prod.fst, name ∉ seen) :
    memberFault? states seen members = none := by
  induction members generalizing seen with
  | nil => rfl
  | cons head rest inductionHypothesis =>
      obtain ⟨name, item⟩ := head
      rw [List.map_cons, List.nodup_cons] at distinct
      rw [List.map_cons, List.forall_mem_cons] at unseen
      rw [memberFault?]
      split
      · exact inductionHypothesis seen distinct.2 unseen.2
      · rename_i state found
        have noFault : state.fault = none := sound state (List.mem_of_find?_eq_some found)
        have restUnseen : ∀ other ∈ rest.map Prod.fst, other ∉ name :: seen := by
          intro other member inside
          rcases List.mem_cons.mp inside with same | old
          · exact distinct.1 (same ▸ member)
          · exact unseen.2 other member old
        rw [if_neg (by simpa using unseen.1), noFault, Option.none_or]
        exact inductionHypothesis _ distinct.2 restUnseen

/-- The fields of an object show some members under names of their own. -/
structure Fields.Shows (fields : Fields) (members : List (String × Json)) (names : List String) :
    Prop where
  isObject : fields.form = .object
  distinct : (fields.members.map Prod.fst).Nodup
  found : ∀ name ∈ names,
    Json.member? fields.members name = (Json.member? members name).map Json.canonical

/-- The canonical form of an object shows the members it was made from. -/
theorem Fields.showsCanonical (title : String) (declared names : List String) (origin : Origin)
    (members : List (String × Json)) (distinct : (members.map Prod.fst).Nodup) :
    Fields.Shows ⟨title, declared, .object, Json.canonicalMembers [] members, origin⟩ members
      names where
  isObject := rfl
  distinct := (Json.canonicalMembersOrdered [] members List.Pairwise.nil).nodupKeys
  found name _ := Json.memberCanonical name members distinct

theorem Fields.ofCanonical (title : String) (declared names : List String) (origin : Origin)
    (members : List (String × Json)) (distinct : (members.map Prod.fst).Nodup) :
    ∃ fields, Fields.of title declared origin (Json.object members).canonical = .ok fields ∧
      fields.Shows members names :=
  ⟨_, rfl, showsCanonical title declared names origin members distinct⟩

namespace Fields.Shows

variable {fields : Fields} {members : List (String × Json)} {names : List String}

theorem settled (shows : fields.Shows members names) (states : List SlotState)
    (sound : states.Forall SlotState.Settled) : fields.settle states = .ok () := by
  rw [List.forall_iff_forall_mem] at sound
  have noFault : memberFault? states [] fields.members = none :=
    memberFaultNone states [] fields.members (fun state inside => (sound state inside).1)
      shows.distinct fun _ _ => List.not_mem_nil
  have noneMissing : states.find? SlotState.missing = none := by
    rw [List.find?_eq_none]
    intro state inside
    simp [(sound state inside).2]
  simp only [settle, noFault, noneMissing, shows.isObject]

/-- A part of the members is shown when the other members have other names. -/
theorem part (shows : fields.Shows members names) (own : List (String × Json))
    (ownNames : List String) (inside : ∀ name ∈ ownNames, name ∈ names)
    (same : ∀ name ∈ ownNames, Json.member? members name = Json.member? own name) :
    fields.Shows own ownNames where
  isObject := shows.isObject
  distinct := shows.distinct
  found name member := by rw [shows.found name (inside name member), same name member]

theorem required {α : Type} (shows : fields.Shows members names) (name : String)
    (read : Json → Result α) (item : Json) (value : α) (inside : name ∈ names)
    (written : Json.member? members name = some item) (reads : read item.canonical = .ok value) :
    (fields.required name read).Holds value :=
  fields.requiredHolds name read item.canonical value
    (by rw [shows.found name inside, written]; rfl) reads

theorem optional {α : Type} (shows : fields.Shows members names) (name : String)
    (read : Json → Result α) (fallback : α) (item : Json) (value : α) (inside : name ∈ names)
    (written : Json.member? members name = some item) (reads : read item.canonical = .ok value) :
    (fields.optional name read fallback).Holds value :=
  fields.optionalHolds name read fallback item.canonical value
    (by rw [shows.found name inside, written]; rfl) reads

theorem leftOut {α : Type} (shows : fields.Shows members names) (name : String)
    (read : Json → Result α) (fallback : α) (inside : name ∈ names)
    (written : Json.member? members name = none) :
    (fields.optional name read fallback).Holds fallback :=
  fields.optionalAbsent name read fallback (by rw [shows.found name inside, written]; rfl)

/-- A member that is left out for saying nothing unusual is read as the usual value. -/
theorem unlessUsual {α : Type} (shows : fields.Shows members names) (name : String)
    (read : Json → Result α) (fallback : α) (item : Json) (value : α) (usual : Bool)
    (inside : name ∈ names)
    (written : Json.member? members name = if usual then none else some item)
    (isUsual : usual = true → value = fallback)
    (reads : usual = false → read item.canonical = .ok value) :
    (fields.optional name read fallback).Holds value := by
  cases usual with
  | true =>
      rw [isUsual rfl]
      exact shows.leftOut name read fallback inside written
  | false => exact shows.optional name read fallback item value inside written (reads rfl)

/-- A value that is absent is left out, and is read as absent. -/
theorem ofOption {α : Type} (shows : fields.Shows members names) (name : String)
    (read : Json → Result α) (write : α → Json) (value : Option α) (inside : name ∈ names)
    (written : Json.member? members name = value.map write)
    (notNull : ∀ item, (write item).canonical ≠ .null)
    (reads : ∀ item, read (write item).canonical = .ok item) :
    (fields.optional name (Shape.optional read) none).Holds value := by
  cases value with
  | none => exact shows.leftOut name _ none inside written
  | some item =>
      refine shows.optional name _ none (write item) (some item) inside written ?_
      have readsSome : ∀ found, found ≠ Json.null → read found = .ok item →
          Shape.optional read found = .ok (some item) := by
        intro found different same
        rw [Shape.optional]
        · rw [same]
          rfl
        · exact different
      exact readsSome _ (notNull item) (reads item)

/-- In an object a value that is absent may be left out where null would be read as absent. -/
theorem nullable {α : Type} (shows : fields.Shows members names) (name : String)
    (read : Json → Result α) (write : α → Json) (value : Option α) (inside : name ∈ names)
    (written : Json.member? members name = value.map write)
    (notNull : ∀ item, (write item).canonical ≠ .null)
    (reads : ∀ item, read (write item).canonical = .ok item) :
    (fields.nullable name read).Holds value := by
  have sameSlot : fields.nullable name read = fields.optional name (Shape.optional read) none := by
    rw [Fields.nullable, Fields.optional, shows.isObject]
  rw [sameSlot]
  exact shows.ofOption name read write value inside written notNull reads

end Fields.Shows

/-! ### Tagged values -/

/-- A tagged object is taken apart into its tag and an object that shows the other members. -/
theorem taggedOf (title tag name : String) (members : List (String × Json))
    (distinct : (tag :: members.map Prod.fst).Nodup) :
    ∃ content, tagged title tag (Json.object ((tag, .string name) :: members)).canonical =
        .ok (.string name, .object content) ∧
      ∀ (record : String) (declared names : List String), tag ∉ names →
        Fields.Shows ⟨record, declared, .object, content, .setAside⟩ members names := by
  have keys : (((tag, Json.string name) :: members).map Prod.fst).Nodup := distinct
  have ordered := (Json.canonicalMembersOrdered [] ((tag, Json.string name) :: members)
    List.Pairwise.nil).nodupKeys
  have isTag : Json.member? (Json.canonicalMembers [] ((tag, Json.string name) :: members)) tag =
      some (.string name) := by
    rw [Json.memberCanonical tag _ keys, Json.member?, lookUp?, if_pos rfl]
    rfl
  have others (key : String) (different : key ≠ tag) :
      Json.member? (Json.canonicalMembers [] ((tag, Json.string name) :: members)) key =
        (Json.member? members key).map Json.canonical := by
    rw [Json.memberCanonical key _ keys, Json.member?, lookUp?, if_neg different]
    rfl
  rw [Json.canonical]
  generalize Json.canonicalMembers [] ((tag, Json.string name) :: members) = entries
    at ordered isTag others ⊢
  refine ⟨entries.filter fun entry => entry.1 ≠ tag, ?_, fun record declared names absent => ?_⟩
  · simp only [tagged, filterKey tag _ entries ordered isTag]
  · refine ⟨rfl, ordered.sublist (List.filter_sublist.map _), fun key inside => ?_⟩
    have different : key ≠ tag := fun same => absent (same ▸ inside)
    rw [← others key different]
    exact lookUpWithout tag key entries different

theorem tagNameOf {α : Type} (named : List (String × α)) (name : String) (value : α)
    (known : named.lookup name = some value) : tagName named (.string name) = .ok value := by
  rw [tagName, known]

/-- A tagged object is read from what it shows beside its tag. -/
theorem taggedReads {α : Type} (title tag name : String) (members : List (String × Json))
    (distinct : (tag :: members.map Prod.fst).Nodup) (readers : List (String × (Json → Result α)))
    (read : Json → Result α) (known : readers.lookup name = some read) (value : α)
    (reads : ∀ content, (∀ (record : String) (declared names : List String), tag ∉ names →
      Fields.Shows ⟨record, declared, .object, content, .setAside⟩ members names) →
        read (.object content) = .ok value) :
    (do
      let (tag, content) ← tagged title tag (Json.object ((tag, .string name) :: members)).canonical
      (← tagName readers tag) content) = .ok value := by
  obtain ⟨content, isTagged, shows⟩ := taggedOf title tag name members distinct
  rw [isTagged]
  simp only [bind, Except.bind, tagNameOf readers name read known]
  exact reads content shows

/-! ### Keys of members that may be left out -/

theorem keysOfOption {α : Type} (key : String) (write : α → Json) (value : Option α) :
    (((value.map fun item => (key, write item)).toList).map Prod.fst).Sublist [key] := by
  cases value <;> simp

theorem keysOfUnless (key : String) (usual : Prop) [Decidable usual] (item : Json) :
    ((if usual then [] else [(key, item)]).map Prod.fst).Sublist [key] := by
  split <;> simp

/-! ### Single values -/

theorem withinWhole (least below value : Int) (name : String) (lower : least ≤ value)
    (upper : value < below) : within least below name (Json.whole value) = .ok value := by
  simp [within, Json.whole, lower, upper]

theorem canonicalWhole (value : Int) : (Json.whole value).canonical = Json.whole value := rfl

theorem canonicalString (value : String) : (Json.string value).canonical = .string value := rfl

theorem canonicalNat (value : Nat) : (Json.nat value).canonical = Json.whole value :=
  canonicalWhole value

theorem uint32OfNat (value : UInt32) : uint32 (Json.nat value.toNat).canonical = .ok value := by
  have bound := value.toNat_lt
  rw [uint32, canonicalNat, withinWhole 0 (2 ^ 32) _ _ (by omega) (by omega)]
  simp [Except.map]

theorem uint64OfNat (value : UInt64) : uint64 (Json.nat value.toNat).canonical = .ok value := by
  have bound := value.toNat_lt
  rw [uint64, canonicalNat, withinWhole 0 (2 ^ 64) _ _ (by omega) (by omega)]
  simp [Except.map]

theorem int32OfWhole (value : Int32) : int32 (Json.whole value.toInt).canonical = .ok value := by
  have lower := value.le_toInt
  have upper := value.toInt_lt
  rw [int32, canonicalWhole, withinWhole (-2 ^ 31) (2 ^ 31) _ _ lower upper]
  simp [Except.map]

theorem textOfString (value : String) : text (Json.string value).canonical = .ok value := rfl

/-- A variant is read from its name whatever the origin of the name. -/
theorem variantOfName {α : Type} (origin : Origin) (named : List (String × α)) (name : String)
    (value : α) (known : named.lookup name = some value) :
    variant origin named (Json.string name).canonical = .ok value := by
  rw [canonicalString]
  cases origin <;> simp [variant, variantNamed, known]

/-! ### Lists -/

/-- A list is read back from its items when each of them is. -/
theorem listOfItems {α : Type} (read : Json → Result α) (write : α → Json) (values : List α)
    (reads : ∀ value ∈ values, read (write value).canonical = .ok value) :
    Shape.list read (Json.array (values.map write)).canonical = .ok values := by
  have each : ((values.map write).map Json.canonical).mapM read = .ok values := by
    induction values with
    | nil => rfl
    | cons value rest inductionHypothesis =>
        rw [List.forall_mem_cons] at reads
        rw [List.map_cons, List.map_cons, List.mapM_cons, inductionHypothesis reads.2, reads.1]
        rfl
  rw [Json.canonical, Json.canonicalItemsMap]
  exact each

end DeskScript.Shape
