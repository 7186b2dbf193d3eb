/-
This file follows an identity source through a document. Every step without an identity gets one
that is drawn for no other step.
-/

import DeskScript.Proofs.Document.Adjacent
import Mathlib.Data.List.Nodup

namespace DeskScript

/-! ### Sources -/

namespace IdSource

/-- A source leads to another one if this one draws the same identities and has drawn no fewer. -/
structure Leads (source later : IdSource) : Prop where
  draw : later.draw = source.draw
  used : source.used ≤ later.used

namespace Leads

theorem refl (source : IdSource) : Leads source source := ⟨rfl, Nat.le_refl _⟩

theorem trans {source middle later : IdSource} (first : Leads source middle)
    (second : Leads middle later) : Leads source later :=
  ⟨second.draw.trans first.draw, Nat.le_trans first.used second.used⟩

end Leads

end IdSource

namespace Identity

open IdSource (Leads)

theorem identifyLeads (members : List (String × Json)) (source : IdSource) :
    Leads source (identify members source).2 := by
  rw [identify]
  split
  · exact .refl source
  · exact ⟨rfl, Nat.le_succ _⟩

/-- The steps in a step get their identities before the step does. -/
theorem identifyObject (members : List (String × Json)) (source : IdSource) :
    identifyStep (.object members) source =
      (.object (identify (identifyMembers members source).1 (identifyMembers members source).2).1,
        (identify (identifyMembers members source).1 (identifyMembers members source).2).2) := rfl

mutual

theorem stepLeads : ∀ (found : Json) (source : IdSource), Leads source (identifyStep found source).2
  | .object members, source => (membersLead members source).trans (identifyLeads _ _)
  | .null, source => .refl source
  | .bool _, source => .refl source
  | .number _, source => .refl source
  | .string _, source => .refl source
  | .array _, source => .refl source

theorem membersLead : ∀ (members : List (String × Json)) (source : IdSource),
    Leads source (identifyMembers members source).2
  | [], source => .refl source
  | (key, found) :: rest, source => by
      rw [identifyMembers]
      by_cases holds : holdsSteps key = true
      · rw [if_pos holds]
        exact (listLeads found source).trans (membersLead rest _)
      · rw [if_neg holds]
        exact membersLead rest source

theorem listLeads : ∀ (found : Json) (source : IdSource),
    Leads source (identifySteps found source).2
  | .array items, source => itemsLead items source
  | .null, source => .refl source
  | .bool _, source => .refl source
  | .number _, source => .refl source
  | .string _, source => .refl source
  | .object _, source => .refl source

theorem itemsLead : ∀ (items : List Json) (source : IdSource),
    Leads source (identifyItems items source).2
  | [], source => .refl source
  | item :: rest, source => (stepLeads item source).trans (itemsLead rest _)

end

theorem memberLeads (key : String) (found : Json) (source : IdSource) :
    Leads source (if holdsSteps key then identifySteps found source else (found, source)).2 := by
  split
  · exact listLeads found source
  · exact .refl source

theorem topLeads (members : List (String × Json)) (source : IdSource) :
    Leads source (identifyTop members source).2 := by
  induction members generalizing source with
  | nil => exact .refl source
  | cons head rest inductionHypothesis =>
      obtain ⟨key, found⟩ := head
      rw [identifyTop]
      by_cases holds : key = "steps"
      · rw [if_pos holds]
        exact (listLeads found source).trans (inductionHypothesis _)
      · rw [if_neg holds]
        exact inductionHypothesis source

/-! ### Lists of steps in a step -/

/-- The steps in a member get their identities while all members do. -/
theorem wayIdentified (members : List (String × Json)) (source : IdSource) {key : String}
    {found : Json} (holds : holdsSteps key = true)
    (isFound : Json.member? members key = some found) :
    ∃ first, Leads source first ∧
      Leads (identifySteps found first).2 (identifyMembers members source).2 ∧
      Json.member? (identifyMembers members source).1 key = some (identifySteps found first).1 := by
  induction members generalizing source with
  | nil => cases isFound
  | cons head rest inductionHypothesis =>
      obtain ⟨front, given⟩ := head
      rw [Json.member?, lookUp?] at isFound
      rw [identifyMembers, Json.member?, lookUp?]
      by_cases same : key = front
      · rw [if_pos same] at isFound ⊢
        rw [← same, if_pos holds]
        cases isFound
        exact ⟨source, .refl source, membersLead rest _, rfl⟩
      · rw [if_neg same] at isFound ⊢
        have begins := memberLeads front given source
        obtain ⟨first, leads, further, isMember⟩ := inductionHypothesis _ isFound
        exact ⟨first, begins.trans leads, further, isMember⟩

/--
The steps in two different members have got their identities one after the other, in the order of
the members.
-/
structure InTurn (source final first second : IdSource) (found others : Json) : Prop where
  firstStarts : Leads source first
  firstEnds : Leads (identifySteps found first).2 final
  secondStarts : Leads source second
  secondEnds : Leads (identifySteps others second).2 final
  ordered : Leads (identifySteps found first).2 second ∨ Leads (identifySteps others second).2 first

theorem waysIdentified (members : List (String × Json)) (source : IdSource) {one other : String}
    {found others : Json} (different : one ≠ other) (holdsOne : holdsSteps one = true)
    (holdsOther : holdsSteps other = true) (isOne : Json.member? members one = some found)
    (isOther : Json.member? members other = some others) :
    ∃ first second,
      InTurn source (identifyMembers members source).2 first second found others ∧
      Json.member? (identifyMembers members source).1 one = some (identifySteps found first).1 ∧
      Json.member? (identifyMembers members source).1 other =
        some (identifySteps others second).1 := by
  induction members generalizing source with
  | nil => cases isOne
  | cons head rest inductionHypothesis =>
      obtain ⟨front, given⟩ := head
      rw [Json.member?, lookUp?] at isOne isOther
      rw [identifyMembers, Json.member?, Json.member?, lookUp?, lookUp?]
      by_cases here : one = front
      · -- The first of the two members is in front, and the second one is among the others.
        rw [if_pos here] at isOne ⊢
        rw [← here, if_neg different.symm] at isOther ⊢
        rw [if_pos holdsOne]
        cases isOne
        obtain ⟨second, leads, further, isMember⟩ :=
          wayIdentified rest (identifySteps found source).2 holdsOther isOther
        exact ⟨source, second,
          { firstStarts := .refl source
            firstEnds := membersLead rest _
            secondStarts := (listLeads found source).trans leads
            secondEnds := further
            ordered := .inl leads }, rfl, isMember⟩
      · rw [if_neg here] at isOne ⊢
        by_cases there : other = front
        · rw [if_pos there] at isOther ⊢
          rw [← there, if_pos holdsOther]
          cases isOther
          obtain ⟨first, leads, further, isMember⟩ :=
            wayIdentified rest (identifySteps others source).2 holdsOne isOne
          exact ⟨first, source,
            { firstStarts := (listLeads others source).trans leads
              firstEnds := further
              secondStarts := .refl source
              secondEnds := membersLead rest _
              ordered := .inr leads }, isMember, rfl⟩
        · rw [if_neg there] at isOther ⊢
          have begins := memberLeads front given source
          obtain ⟨first, second, inTurn, isMember, isFurther⟩ :=
            inductionHypothesis _ isOne isOther
          exact ⟨first, second,
            { inTurn with
              firstStarts := begins.trans inTurn.firstStarts
              secondStarts := begins.trans inTurn.secondStarts }, isMember, isFurther⟩

/-- The steps of a script get their identities before the script does. -/
theorem topIdentified (members : List (String × Json)) (source : IdSource) {found : Json}
    (isFound : Json.member? members "steps" = some found) :
    ∃ first, Leads source first ∧
      Leads (identifySteps found first).2 (identifyTop members source).2 ∧
      Json.member? (identifyTop members source).1 "steps" = some (identifySteps found first).1 := by
  induction members generalizing source with
  | nil => cases isFound
  | cons head rest inductionHypothesis =>
      obtain ⟨front, given⟩ := head
      rw [Json.member?, lookUp?] at isFound
      rw [identifyTop, Json.member?, lookUp?]
      by_cases same : "steps" = front
      · rw [if_pos same] at isFound ⊢
        rw [if_pos same.symm]
        cases isFound
        exact ⟨source, .refl source, topLeads rest _, rfl⟩
      · rw [if_neg same] at isFound ⊢
        rw [if_neg (Ne.symm same)]
        exact inductionHypothesis source isFound

theorem scriptIdentified (members : List (String × Json)) (source : IdSource) {found : Json}
    (isFound : Json.member? members "steps" = some found) :
    ∃ final first, (identifyScript (.object members) source).1 = .object final ∧
      Json.member? final "steps" = some (identifySteps found first).1 ∧ Leads source first ∧
      Leads (identifySteps found first).2 (identifyScript (.object members) source).2 := by
  obtain ⟨first, leads, further, isMember⟩ := topIdentified members source isFound
  refine ⟨(identify (identifyTop members source).1 (identifyTop members source).2).1, first, rfl,
    ?_, leads, further.trans (identifyLeads _ _)⟩
  rw [identifyOther _ _ (by decide)]
  exact isMember

/-! ### Drawn identities -/

/-- An empty identity is replaced with the one that is drawn by a number, and others are kept. -/
inductive Fills (draw : Nat → String) : List String → List Nat → List String → Prop where
  | nil : Fills draw [] [] []
  | kept {id : String} {before : List String} {numbers : List Nat} {after : List String}
      (isWritten : id ≠ "") (rest : Fills draw before numbers after) :
      Fills draw (id :: before) numbers (id :: after)
  | drawn {number : Nat} {before : List String} {numbers : List Nat} {after : List String}
      (rest : Fills draw before numbers after) :
      Fills draw ("" :: before) (number :: numbers) (draw number :: after)

namespace Fills

variable {draw : Nat → String} {before after : List String} {numbers : List Nat}

theorem append {moreBefore moreAfter : List String} {further : List Nat}
    (first : Fills draw before numbers after) (second : Fills draw moreBefore further moreAfter) :
    Fills draw (before ++ moreBefore) (numbers ++ further) (after ++ moreAfter) := by
  induction first with
  | nil => exact second
  | kept isWritten _ inductionHypothesis => exact .kept isWritten inductionHypothesis
  | drawn _ inductionHypothesis => exact .drawn inductionHypothesis

/-- Every identity was written or has been drawn. -/
theorem origin (fills : Fills draw before numbers after) {id : String} (inside : id ∈ after) :
    id ∈ before ∨ ∃ number ∈ numbers, id = draw number := by
  induction fills with
  | nil => exact absurd inside List.not_mem_nil
  | kept _ _ inductionHypothesis =>
      rcases List.mem_cons.mp inside with same | later
      · exact .inl (same ▸ List.mem_cons_self)
      · exact (inductionHypothesis later).imp_left (List.mem_cons_of_mem _)
  | @drawn number _ _ _ _ inductionHypothesis =>
      rcases List.mem_cons.mp inside with same | later
      · exact .inr ⟨number, List.mem_cons_self, same⟩
      · refine (inductionHypothesis later).imp (List.mem_cons_of_mem _) ?_
        rintro ⟨other, isOther, same⟩
        exact ⟨other, List.mem_cons_of_mem _ isOther, same⟩

theorem written (fills : Fills draw before numbers after) {id : String} (isWritten : id ≠ "")
    (inside : id ∈ before) : id ∈ after := by
  induction fills with
  | nil => exact inside
  | kept _ _ inductionHypothesis =>
      rcases List.mem_cons.mp inside with same | later
      · exact same ▸ List.mem_cons_self
      · exact List.mem_cons_of_mem _ (inductionHypothesis later)
  | drawn _ inductionHypothesis =>
      rcases List.mem_cons.mp inside with same | later
      · exact absurd same isWritten
      · exact List.mem_cons_of_mem _ (inductionHypothesis later)

end Fills

/-- No identity is drawn twice, and none of these identities is drawn. -/
structure Fresh (draw : Nat → String) (ids : List String) : Prop where
  distinct : Function.Injective draw
  unused : ∀ number, draw number ∉ ids

/-- An identity that is empty is not written. -/
def writtenIds (ids : List String) : List String := ids.filter (· ≠ "")

/-- Drawn identities are different, so the identities are different if the written ones are. -/
theorem Fills.nodupIff {draw : Nat → String} {before after : List String} {numbers : List Nat}
    (fills : Fills draw before numbers after) (distinct : numbers.Nodup)
    (fresh : Fresh draw before) :
    after.Nodup ↔ (writtenIds before).Nodup := by
  rw [writtenIds]
  induction fills with
  | nil => exact Iff.rfl
  | @kept id before numbers after isWritten fills inductionHypothesis =>
      have unused : ∀ number, draw number ∉ before := fun number inside =>
        fresh.unused number (List.mem_cons_of_mem _ inside)
      have same : id ∈ after ↔ id ∈ before.filter (· ≠ "") := by
        rw [List.mem_filter, decide_eq_true isWritten]
        constructor
        · intro inside
          rcases fills.origin inside with isOld | ⟨number, -, isDrawn⟩
          · exact ⟨isOld, rfl⟩
          · exact absurd List.mem_cons_self (isDrawn ▸ fresh.unused number)
        · exact fun inside => fills.written isWritten inside.1
      rw [List.filter_cons_of_pos (by simpa using isWritten), List.nodup_cons, List.nodup_cons,
        same, inductionHypothesis distinct ⟨fresh.distinct, unused⟩]
  | @drawn number before numbers after fills inductionHypothesis =>
      obtain ⟨undrawn, distinct⟩ := List.nodup_cons.mp distinct
      have unused : ∀ number, draw number ∉ before := fun number inside =>
        fresh.unused number (List.mem_cons_of_mem _ inside)
      have new : draw number ∉ after := by
        intro inside
        rcases fills.origin inside with isOld | ⟨other, isOther, same⟩
        · exact unused number isOld
        · exact undrawn (fresh.distinct same ▸ isOther)
      rw [List.filter_cons_of_neg (by simp), List.nodup_cons,
        inductionHypothesis distinct ⟨fresh.distinct, unused⟩]
      exact and_iff_right new

/-- These identities have been given where those were written, and drawn by different numbers. -/
def Given (draw : Nat → String) (low high : Nat) (before after : List String) : Prop :=
  ∃ numbers : List Nat, Fills draw before numbers after ∧ numbers.Nodup ∧
    ∀ number ∈ numbers, low ≤ number ∧ number < high

namespace Given

variable {draw : Nat → String} {low high : Nat} {before after : List String}

theorem nothing (draw : Nat → String) (low high : Nat) : Given draw low high [] [] :=
  ⟨[], .nil, List.nodup_nil, fun _ inside => absurd inside List.not_mem_nil⟩

theorem widen {least most : Nat} (given : Given draw low high before after) (isLow : least ≤ low)
    (isHigh : high ≤ most) : Given draw least most before after := by
  obtain ⟨numbers, fills, distinct, bounds⟩ := given
  refine ⟨numbers, fills, distinct, fun number inside => ?_⟩
  obtain ⟨above, below⟩ := bounds number inside
  omega

/-- What is given for two lists comes from numbers that are apart. -/
theorem append {start stop : Nat} {moreBefore moreAfter : List String}
    (first : Given draw low high before after)
    (second : Given draw start stop moreBefore moreAfter) (apart : high ≤ start ∨ stop ≤ low) :
    Given draw (min low start) (max high stop) (before ++ moreBefore) (after ++ moreAfter) := by
  obtain ⟨numbers, fills, distinct, bounds⟩ := first
  obtain ⟨further, others, distinctOthers, boundsOthers⟩ := second
  refine ⟨numbers ++ further, fills.append others, ?_, fun number inside => ?_⟩
  · refine List.nodup_append.mpr ⟨distinct, distinctOthers, fun number inside other isOther => ?_⟩
    have here := bounds number inside
    have there := boundsOthers other isOther
    omega
  · rcases List.mem_append.mp inside with isFirst | isSecond
    · have here := bounds number isFirst
      omega
    · have there := boundsOthers number isSecond
      omega

end Given

/-- This is the member with an identity. -/
def written (id : String) : Option Json := if id = "" then none else some (.string id)

theorem ownIdentified {members : List (String × Json)} {id : String} (source : IdSource)
    (isOwn : Json.member? members "id" = written id) :
    Json.member? (identifyMembers members source).1 "id" = written id := by
  obtain ⟨later, kept⟩ := memberIdentified members source "id"
  rw [kept, isOwn]
  exact Option.map_id'

/-- A step gets an identity when all steps in it have theirs. -/
theorem ownGiven {members : List (String × Json)} {source : IdSource} {id : String}
    {origin : Shape.Origin} {header : StepHeader} (isOwn : Json.member? members "id" = written id)
    (read : header.ReadFrom
      ⟨"struct MacroStep", [], .object, (identify members source).1, origin⟩) :
    Given source.draw source.used (identify members source).2.used [id] [header.id] := by
  have isId := read.id
  rw [written] at isOwn
  split at isOwn
  · rename_i isEmpty
    have isDrawn : Json.member? (identify members source).1 "id" =
        some (.string (source.draw source.used)) := by
      rw [identify, isOwn]
      exact Table.findPutEntrySame _ _ _
    have isLater : (identify members source).2.used = source.used + 1 := by
      rw [identify, isOwn]
      rfl
    rw [Shape.valueOfRequired isDrawn] at isId
    rw [isEmpty, isLater, ← Except.ok.inj isId]
    refine ⟨[source.used], .drawn .nil, List.nodup_singleton _, fun number inside => ?_⟩
    rw [List.mem_singleton.mp inside]
    omega
  · rename_i isWritten
    have present : (Json.member? members "id").isSome := by
      rw [isOwn]
      rfl
    rw [identifyFixed members source present, Shape.valueOfRequired isOwn] at isId
    rw [← Except.ok.inj isId]
    exact ⟨[], .kept isWritten .nil, List.nodup_nil, fun _ inside => absurd inside List.not_mem_nil⟩

end Identity

end DeskScript
