/-
This file decides whether two JSON values are equal, and it relates the members of an object to
those of its canonical form.
-/

import DeskScript.Json.Basic

namespace DeskScript

namespace Json

mutual

/-- Doubles are told apart by their bits here, so that equal values are one and the same value. -/
def isEqual : Json → Json → Bool
  | .null, .null => true
  | .bool first, .bool second => first = second
  | .number first, .number second => first = second
  | .string first, .string second => first = second
  | .array first, .array second => areEqual first second
  | .object first, .object second => haveEqualMembers first second
  | _, _ => false

def areEqual : List Json → List Json → Bool
  | [], [] => true
  | first :: firstRest, second :: secondRest => first.isEqual second && areEqual firstRest secondRest
  | _, _ => false

def haveEqualMembers : List (String × Json) → List (String × Json) → Bool
  | [], [] => true
  | (firstKey, first) :: firstRest, (secondKey, second) :: secondRest =>
      firstKey = secondKey && first.isEqual second && haveEqualMembers firstRest secondRest
  | _, _ => false

end

mutual

theorem isEqualIff : ∀ first second : Json, first.isEqual second = true ↔ first = second
  | .null, second => by cases second <;> simp [isEqual]
  | .bool _, second => by cases second <;> simp [isEqual]
  | .number _, second => by cases second <;> simp [isEqual]
  | .string _, second => by cases second <;> simp [isEqual]
  | .array items, second => by
      cases second with
      | array others => simp [isEqual, areEqualIff items others]
      | _ => simp [isEqual]
  | .object members, second => by
      cases second with
      | object others => simp [isEqual, haveEqualMembersIff members others]
      | _ => simp [isEqual]

theorem areEqualIff : ∀ first second : List Json, areEqual first second = true ↔ first = second
  | [], second => by cases second <;> simp [areEqual]
  | first :: firstRest, second => by
      cases second with
      | nil => simp [areEqual]
      | cons second secondRest =>
          simp [areEqual, isEqualIff first second, areEqualIff firstRest secondRest]

theorem haveEqualMembersIff : ∀ first second : List (String × Json),
    haveEqualMembers first second = true ↔ first = second
  | [], second => by cases second <;> simp [haveEqualMembers]
  | (key, first) :: firstRest, second => by
      cases second with
      | nil => simp [haveEqualMembers]
      | cons second secondRest =>
          obtain ⟨otherKey, second⟩ := second
          simp [haveEqualMembers, isEqualIff first second,
            haveEqualMembersIff firstRest secondRest]

end

instance : DecidableEq Json := fun first second =>
  decidable_of_iff (first.isEqual second = true) (isEqualIff first second)

end Json

/-! ### Entries in key order -/

/-- The entries of a list have rising keys. -/
def KeyOrdered {value : Type} (entries : List (String × value)) : Prop :=
  entries.Pairwise fun first second => first.1 < second.1

/-- Rising keys are different keys. -/
theorem KeyOrdered.nodupKeys {value : Type} {entries : List (String × value)}
    (ordered : KeyOrdered entries) : (entries.map Prod.fst).Nodup := by
  rw [List.Nodup, List.pairwise_map]
  exact ordered.imp fun less equal => by
    rw [equal] at less
    exact Std.lt_irrefl less

/-- A key beyond all others is put at the end. -/
theorem putEntryLast {value : Type} (key : String) (item : value)
    (entries : List (String × value)) (beyond : ∀ entry ∈ entries, entry.1 < key) :
    putEntry key item entries = entries ++ [(key, item)] := by
  induction entries with
  | nil => rfl
  | cons head rest inductionHypothesis =>
      obtain ⟨first, current⟩ := head
      have before : first < key := beyond (first, current) List.mem_cons_self
      have notBefore : ¬key < first := fun after => Std.lt_irrefl (Std.lt_trans before after)
      have different : ¬key = first := fun equal => by
        rw [equal] at before
        exact Std.lt_irrefl before
      rw [putEntry, if_neg notBefore, if_neg different,
        inductionHypothesis fun entry member => beyond entry (List.mem_cons_of_mem _ member)]
      rfl

/-- A key is found in the first of two rows that has it. -/
theorem lookUpAppend {value : Type} (key : String) (first second : List (String × value)) :
    lookUp? key (first ++ second) = (lookUp? key first).or (lookUp? key second) := by
  induction first with
  | nil => rfl
  | cons head rest inductionHypothesis =>
      simp only [List.cons_append, lookUp?]
      split
      · rfl
      · exact inductionHypothesis

theorem lookUpNone {value : Type} (key : String) (entries : List (String × value))
    (absent : key ∉ entries.map Prod.fst) : lookUp? key entries = none := by
  induction entries with
  | nil => rfl
  | cons head rest inductionHypothesis =>
      rw [List.map_cons, List.mem_cons, not_or] at absent
      rw [lookUp?, if_neg absent.1, inductionHypothesis absent.2]

/-- Where all keys are different, every entry is found under its key. -/
theorem lookUpOfMember {value : Type} (entries : List (String × value)) (entry : String × value)
    (distinct : (entries.map Prod.fst).Nodup) (inside : entry ∈ entries) :
    lookUp? entry.1 entries = some entry.2 := by
  induction entries with
  | nil => exact absurd inside List.not_mem_nil
  | cons head rest inductionHypothesis =>
      rw [List.map_cons, List.nodup_cons] at distinct
      rw [lookUp?]
      rcases List.mem_cons.mp inside with same | old
      · rw [same, if_pos rfl]
      · have different : entry.1 ≠ head.1 := fun equal =>
          distinct.1 (equal ▸ List.mem_map_of_mem old)
        rw [if_neg different, inductionHypothesis distinct.2 old]

/-- Where all keys are different, the entries of a key are the one that is found. -/
theorem filterKey {value : Type} (key : String) (item : value) (entries : List (String × value))
    (distinct : (entries.map Prod.fst).Nodup) (found : lookUp? key entries = some item) :
    entries.filter (fun entry => entry.1 = key) = [(key, item)] := by
  induction entries with
  | nil => cases found
  | cons head rest inductionHypothesis =>
      obtain ⟨first, current⟩ := head
      rw [List.map_cons, List.nodup_cons] at distinct
      rw [lookUp?] at found
      by_cases same : key = first
      · subst same
        rw [if_pos rfl] at found
        cases found
        have others : rest.filter (fun entry => entry.1 = key) = [] := by
          rw [List.filter_eq_nil_iff]
          intro entry inside equal
          exact distinct.1 (List.mem_map.mpr ⟨entry, inside, of_decide_eq_true equal⟩)
        rw [List.filter_cons_of_pos (by simp), others]
      · rw [if_neg same] at found
        rw [List.filter_cons_of_neg (by simpa using Ne.symm same),
          inductionHypothesis distinct.2 found]

/-- Other keys are found without the entries of a key as well. -/
theorem lookUpWithout {value : Type} (key other : String) (entries : List (String × value))
    (different : other ≠ key) :
    lookUp? other (entries.filter fun entry => entry.1 ≠ key) = lookUp? other entries := by
  induction entries with
  | nil => rfl
  | cons head rest inductionHypothesis =>
      obtain ⟨first, current⟩ := head
      by_cases same : first = key
      · rw [List.filter_cons_of_neg (by simpa using same), inductionHypothesis, lookUp?,
          if_neg (same ▸ different)]
      · rw [List.filter_cons_of_pos (by simpa using same), lookUp?, lookUp?, inductionHypothesis]

namespace Table

variable {value : Type}

/-- The entries of a table may be put in one by one. -/
theorem putAllEntries (table : Table value) (entries : List (String × value))
    (ordered : KeyOrdered (table.entries ++ entries)) :
    (table.putAll entries).entries = table.entries ++ entries := by
  induction entries generalizing table with
  | nil => simp [putAll]
  | cons head rest inductionHypothesis =>
      have beyond : ∀ entry ∈ table.entries, entry.1 < head.1 := fun entry member =>
        (List.pairwise_append.mp ordered).2.2 entry member head List.mem_cons_self
      have last : (table.put head.1 head.2).entries = table.entries ++ [head] :=
        putEntryLast head.1 head.2 table.entries beyond
      have split : table.entries ++ head :: rest = table.entries ++ [head] ++ rest := by simp
      rw [split, ← last] at ordered ⊢
      exact inductionHypothesis (table.put head.1 head.2) ordered

theorem ofListEntries (table : Table value) : Table.ofList table.entries = table := by
  apply eqOfEntries
  exact putAllEntries .empty table.entries table.ordered

end Table

namespace Json

/-! ### Members of a canonical object -/

/-- Canonical members have rising keys. -/
theorem canonicalMembersOrdered (sorted members : List (String × Json))
    (ordered : KeyOrdered sorted) : KeyOrdered (canonicalMembers sorted members) := by
  induction members generalizing sorted with
  | nil => rw [canonicalMembers]; exact ordered
  | cons head rest inductionHypothesis =>
      rw [canonicalMembers]
      exact inductionHypothesis _ (Table.putEntryOrdered head.1 head.2.canonical sorted ordered)

theorem ofMemPutEntry (key : String) (item : Json) (entries : List (String × Json))
    (entry : String × Json) (inside : entry ∈ putEntry key item entries) :
    entry ∈ entries ∨ entry = (key, item) := by
  induction entries with
  | nil => exact .inr (List.mem_singleton.mp inside)
  | cons head rest inductionHypothesis =>
      obtain ⟨first, current⟩ := head
      simp only [putEntry] at inside
      split at inside
      · exact (List.mem_cons.mp inside).symm
      · split at inside
        · rcases List.mem_cons.mp inside with same | old
          · exact .inr same
          · exact .inl (List.mem_cons_of_mem _ old)
        · rcases List.mem_cons.mp inside with same | old
          · exact .inl (by simp [same])
          · exact (inductionHypothesis old).imp_left (List.mem_cons_of_mem _)

/-- Every canonical member is the canonical form of a given one. -/
theorem ofMemCanonicalMembers (sorted members : List (String × Json)) (entry : String × Json)
    (inside : entry ∈ canonicalMembers sorted members) :
    entry ∈ sorted ∨ ∃ item, (entry.1, item) ∈ members ∧ entry.2 = item.canonical := by
  induction members generalizing sorted with
  | nil =>
      rw [canonicalMembers] at inside
      exact .inl inside
  | cons head rest inductionHypothesis =>
      obtain ⟨key, item⟩ := head
      rw [canonicalMembers] at inside
      rcases inductionHypothesis _ inside with old | ⟨found, member, same⟩
      · rcases ofMemPutEntry key item.canonical sorted entry old with old | same
        · exact .inl old
        · exact .inr ⟨item, by simp [same], by rw [same]⟩
      · exact .inr ⟨found, List.mem_cons_of_mem _ member, same⟩

/-- Where all keys are different, looking a member up commutes with the canonical form. -/
theorem lookUpCanonicalMembers (key : String) (sorted members : List (String × Json))
    (distinct : (members.map Prod.fst).Nodup) :
    lookUp? key (canonicalMembers sorted members) =
      ((lookUp? key members).map canonical).or (lookUp? key sorted) := by
  induction members generalizing sorted with
  | nil => rfl
  | cons head rest inductionHypothesis =>
      obtain ⟨first, item⟩ := head
      rw [List.map_cons, List.nodup_cons] at distinct
      rw [canonicalMembers, inductionHypothesis _ distinct.2, lookUp?]
      by_cases same : key = first
      · have absent : lookUp? key rest = none :=
          lookUpNone key rest (by rw [same]; exact distinct.1)
        rw [absent, if_pos same, same, Table.findPutEntrySame]
        rfl
      · rw [if_neg same, Table.findPutEntryOther _ _ _ _ same]

theorem memberCanonical (key : String) (members : List (String × Json))
    (distinct : (members.map Prod.fst).Nodup) :
    member? (canonicalMembers [] members) key = (member? members key).map canonical := by
  rw [member?, lookUpCanonicalMembers key [] members distinct]
  exact Option.or_none

/-- Members with rising keys and canonical values are canonical already. -/
theorem canonicalMembersFixed (sorted members : List (String × Json))
    (ordered : KeyOrdered (sorted ++ members))
    (fixed : ∀ entry ∈ members, entry.2.canonical = entry.2) :
    canonicalMembers sorted members = sorted ++ members := by
  induction members generalizing sorted with
  | nil => simp [canonicalMembers]
  | cons head rest inductionHypothesis =>
      obtain ⟨key, item⟩ := head
      have beyond : ∀ entry ∈ sorted, entry.1 < key := fun entry member =>
        (List.pairwise_append.mp ordered).2.2 entry member (key, item) List.mem_cons_self
      have same : item.canonical = item := fixed (key, item) List.mem_cons_self
      have split : sorted ++ (key, item) :: rest = sorted ++ [(key, item)] ++ rest := by simp
      rw [canonicalMembers, same, putEntryLast key item sorted beyond, split]
      rw [split] at ordered
      exact inductionHypothesis _ ordered fun entry member =>
        fixed entry (List.mem_cons_of_mem _ member)

theorem canonicalItemsMap (items : List Json) : canonicalItems items = items.map canonical := by
  induction items with
  | nil => rfl
  | cons item rest inductionHypothesis => rw [canonicalItems, inductionHypothesis]; rfl

end Json

end DeskScript
