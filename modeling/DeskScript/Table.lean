/-
This file holds tables that are keyed by text and kept in key order.
-/

namespace DeskScript

/-- This function binds a key in a list of entries that are in key order. -/
def putEntry {value : Type} (key : String) (item : value) :
    List (String × value) → List (String × value)
  | [] => [(key, item)]
  | (first, current) :: rest =>
      if key < first then (key, item) :: (first, current) :: rest
      else if key = first then (key, item) :: rest
      else (first, current) :: putEntry key item rest

/-- This function looks a key up in a list of entries. -/
def lookUp? {value : Type} (key : String) : List (String × value) → Option value
  | [] => none
  | (first, current) :: rest => if key = first then some current else lookUp? key rest

/-- The entries of a table have rising keys, so every key is bound at most once. -/
structure Table (value : Type) where
  entries : List (String × value)
  ordered : entries.Pairwise fun first second => first.1 < second.1

namespace Table

variable {value : Type}

theorem keyOfPutEntry (key : String) (item : value) (entries : List (String × value))
    (entry : String × value) (member : entry ∈ putEntry key item entries) :
    entry.1 = key ∨ entry ∈ entries := by
  induction entries with
  | nil => simp_all [putEntry]
  | cons head rest hypothesis =>
      simp only [putEntry] at member
      split at member
      · rcases List.mem_cons.mp member with same | old
        · exact Or.inl (by rw [same])
        · exact Or.inr old
      · split at member
        · rcases List.mem_cons.mp member with same | old
          · exact Or.inl (by rw [same])
          · exact Or.inr (List.mem_cons_of_mem _ old)
        · rcases List.mem_cons.mp member with same | old
          · exact Or.inr (by rw [same]; exact List.mem_cons_self)
          · rcases hypothesis old with same | old
            · exact Or.inl same
            · exact Or.inr (List.mem_cons_of_mem _ old)

theorem putEntryOrdered (key : String) (item : value) (entries : List (String × value))
    (ordered : entries.Pairwise fun first second => first.1 < second.1) :
    (putEntry key item entries).Pairwise fun first second => first.1 < second.1 := by
  induction entries with
  | nil => simp [putEntry]
  | cons head rest hypothesis =>
      obtain ⟨first, current⟩ := head
      rw [List.pairwise_cons] at ordered
      simp only [putEntry]
      split
      · rename_i before
        refine List.pairwise_cons.mpr ⟨fun entry member => ?_, List.pairwise_cons.mpr ordered⟩
        rcases List.mem_cons.mp member with same | old
        · rw [same]; exact before
        · exact Std.lt_trans before (ordered.1 entry old)
      · split
        · rename_i same
          refine List.pairwise_cons.mpr ⟨fun entry member => ?_, ordered.2⟩
          have after := ordered.1 entry member
          simpa [same] using after
        · rename_i notBefore different
          refine List.pairwise_cons.mpr ⟨fun entry member => ?_, hypothesis ordered.2⟩
          rcases keyOfPutEntry key item rest entry member with same | old
          · have after : first < key :=
              Std.lt_of_le_of_ne (Std.not_lt.mp notBefore) fun same => different same.symm
            rw [same]; exact after
          · exact ordered.1 entry old

/-- The empty table binds nothing. -/
def empty : Table value := ⟨[], List.Pairwise.nil⟩

instance : Inhabited (Table value) := ⟨empty⟩

def find? (table : Table value) (key : String) : Option value :=
  lookUp? key table.entries

/-- A new binding of a key replaces the old one. -/
def put (table : Table value) (key : String) (item : value) : Table value :=
  ⟨putEntry key item table.entries, putEntryOrdered key item table.entries table.ordered⟩

def erase (table : Table value) (key : String) : Table value :=
  ⟨table.entries.filter fun entry => entry.1 ≠ key, table.ordered.filter _⟩

def size (table : Table value) : Nat := table.entries.length

def keys (table : Table value) : List String := table.entries.map Prod.fst

/-- Later entries of the list replace earlier ones with the same key. -/
def putAll (table : Table value) (entries : List (String × value)) : Table value :=
  entries.foldl (fun table entry => table.put entry.1 entry.2) table

def ofList (entries : List (String × value)) : Table value :=
  empty.putAll entries

theorem eqOfEntries (first second : Table value) (same : first.entries = second.entries) :
    first = second := by
  cases first; cases second; simp_all

instance [DecidableEq value] : DecidableEq (Table value) := fun first second =>
  if same : first.entries = second.entries then isTrue (eqOfEntries first second same)
  else isFalse fun equal => same (by rw [equal])

instance [BEq value] : BEq (Table value) := ⟨fun first second => first.entries == second.entries⟩

theorem findPutEntrySame (key : String) (item : value) (entries : List (String × value)) :
    lookUp? key (putEntry key item entries) = some item := by
  induction entries with
  | nil => simp [putEntry, lookUp?]
  | cons head rest hypothesis =>
      obtain ⟨first, current⟩ := head
      simp only [putEntry]
      split
      · simp [lookUp?]
      · split
        · simp [lookUp?]
        · rename_i different
          simp [lookUp?, different, hypothesis]

theorem findPutEntryOther (key other : String) (item : value)
    (entries : List (String × value)) (different : other ≠ key) :
    lookUp? other (putEntry key item entries) = lookUp? other entries := by
  induction entries with
  | nil => simp [putEntry, lookUp?, different]
  | cons head rest hypothesis =>
      obtain ⟨first, current⟩ := head
      simp only [putEntry]
      split
      · simp [lookUp?, different]
      · split
        · rename_i same
          simp [lookUp?, ← same, different]
        · simp [lookUp?, hypothesis]

@[simp] theorem findPutSame (table : Table value) (key : String) (item : value) :
    (table.put key item).find? key = some item :=
  findPutEntrySame key item table.entries

theorem findPutOther (table : Table value) (key other : String) (item : value)
    (different : other ≠ key) : (table.put key item).find? other = table.find? other :=
  findPutEntryOther key other item table.entries different

theorem findEntryFilterSame (key : String) (entries : List (String × value)) :
    lookUp? key (entries.filter fun entry => entry.1 ≠ key) = none := by
  induction entries with
  | nil => rfl
  | cons head rest hypothesis =>
      by_cases same : head.1 = key
      · simpa [List.filter_cons, same] using hypothesis
      · have other : key ≠ head.1 := fun equal => same equal.symm
        simpa [List.filter_cons, same, lookUp?, other] using hypothesis

theorem findEntryFilterOther (key other : String) (entries : List (String × value))
    (different : other ≠ key) :
    lookUp? other (entries.filter fun entry => entry.1 ≠ key) = lookUp? other entries := by
  induction entries with
  | nil => rfl
  | cons head rest hypothesis =>
      by_cases same : head.1 = key
      · have notOther : other ≠ head.1 := by rw [same]; exact different
        simpa [List.filter_cons, same, lookUp?, notOther, different] using hypothesis
      · have kept : (head :: rest).filter (fun entry => entry.1 ≠ key) =
            head :: rest.filter fun entry => entry.1 ≠ key := by
          simp [same]
        rw [kept]
        simp only [lookUp?, hypothesis]

@[simp] theorem findEraseSame (table : Table value) (key : String) :
    (table.erase key).find? key = none :=
  findEntryFilterSame key table.entries

theorem findEraseOther (table : Table value) (key other : String) (different : other ≠ key) :
    (table.erase key).find? other = table.find? other :=
  findEntryFilterOther key other table.entries different

theorem keyOfLookUp {key : String} {item : value} {entries : List (String × value)}
    (found : lookUp? key entries = some item) : key ∈ entries.map Prod.fst := by
  induction entries with
  | nil => cases found
  | cons head rest hypothesis =>
      by_cases same : key = head.1
      · exact List.mem_cons.mpr (.inl same)
      · rw [lookUp?, if_neg same] at found
        exact List.mem_cons_of_mem _ (hypothesis found)

theorem keyOfFound {table : Table value} {key : String} {item : value}
    (found : table.find? key = some item) : key ∈ table.keys :=
  keyOfLookUp found

end Table

end DeskScript
