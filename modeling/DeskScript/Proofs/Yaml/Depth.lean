/-
This file shows that the limit on the depth of a YAML document only decides whether it is read.
-/

import DeskScript.Yaml.Reader

namespace DeskScript.Yaml

/-! ### Readers with a limit on depth -/

/--
A reader with a limit on depth keeps to it when everything that it finds nests at most as deeply,
and when it finds the same with any other limit that is large enough.
-/
def KeepsLimit {α : Type} (nesting : α → Nat) (read : Nat → Meaning α) (depth : Nat) : Prop :=
  ∀ before found after, read depth before = .ok (found, after) →
    nesting found ≤ depth ∧
      ∀ other, nesting found ≤ other → read other before = .ok (found, after)

/-- Reading a part and then the rest succeeds when both do. -/
theorem bindOk {α β : Type} (first : Meaning α) (next : α → Meaning β) (before : Nat)
    (found : β × Nat) :
    (first >>= next) before = .ok found ↔
      ∃ part middle, first before = .ok (part, middle) ∧ next part middle = .ok found := by
  change Except.bind (first before) (fun result => next result.1 result.2) = .ok found ↔ _
  cases outcome : first before with
  | error fault => simp [Except.bind]
  | ok result =>
      constructor
      · intro isNext
        exact ⟨result.1, result.2, rfl, isNext⟩
      · rintro ⟨part, middle, same, isNext⟩
        rw [Except.ok.inj same]
        exact isNext

theorem pureOk {α : Type} (given : α) (before : Nat) (found : α × Nat) :
    (pure given : Meaning α) before = .ok found ↔ (given, before) = found := by
  change Except.ok (given, before) = Except.ok found ↔ _
  rw [Except.ok.injEq]

namespace KeepsLimit

variable {α β : Type} {nesting : α → Nat} {read : Nat → Meaning α} {depth : Nat}

/-- A reader that does not look at the limit keeps to it when it finds values without parts. -/
theorem ofFlat (single : Meaning α)
    (flat : ∀ before found after, single before = .ok (found, after) → nesting found = 0) :
    KeepsLimit nesting (fun _ => single) depth := by
  intro before found after isRead
  have zero := flat before found after isRead
  exact ⟨by omega, fun _ _ => isRead⟩

theorem ofFault (fault : ReadError) : KeepsLimit nesting (fun _ => throw fault) depth := by
  intro before found after isRead
  cases isRead

/-- A collection nests one level deeper than its parts. -/
theorem collection (build : α → β) (outer : β → Nat)
    (deeper : ∀ found, outer (build found) = nesting found + 1) (refusal : ReadError)
    (inner : KeepsLimit nesting read depth) :
    KeepsLimit outer (fun limit => match limit with
      | 0 => throw refusal
      | limit + 1 => do return build (← read limit)) (depth + 1) := by
  intro before found after isRead
  obtain ⟨part, middle, isPart, isBuilt⟩ := (bindOk _ _ _ _).mp isRead
  obtain ⟨rfl, rfl⟩ := Prod.mk.inj ((pureOk _ _ _).mp isBuilt)
  obtain ⟨bounded, again⟩ := inner before part middle isPart
  rw [deeper]
  refine ⟨by omega, ?_⟩
  intro other enough
  cases other with
  | zero => omega
  | succ other =>
      exact (bindOk _ _ _ _).mpr ⟨part, middle, again other (by omega), (pureOk _ _ _).mpr rfl⟩

end KeepsLimit

/-! ### Lists of parts -/

theorem keepsLimitMapM {α β : Type} (nesting : β → Nat) (nestingOfList : List β → Nat)
    (empty : nestingOfList [] = 0)
    (more : ∀ head rest, nestingOfList (head :: rest) = max (nesting head) (nestingOfList rest))
    (read : Nat → α → Meaning β) (depth : Nat) (items : List α)
    (each : ∀ item ∈ items, KeepsLimit nesting (fun limit => read limit item) depth) :
    KeepsLimit nestingOfList (fun limit => items.mapM (read limit)) depth := by
  induction items with
  | nil =>
      refine KeepsLimit.ofFlat (pure []) ?_
      intro before found after isRead
      obtain ⟨rfl, -⟩ := Prod.mk.inj ((pureOk _ _ _).mp isRead)
      exact empty
  | cons item rest inductionHypothesis =>
      rw [List.forall_mem_cons] at each
      intro before found after isRead
      simp only [List.mapM_cons, bindOk, pureOk] at isRead ⊢
      obtain ⟨head, middle, isHead, others, last, isOthers, same⟩ := isRead
      obtain ⟨rfl, rfl⟩ := Prod.mk.inj same
      obtain ⟨headBound, headAgain⟩ := each.1 before head middle isHead
      obtain ⟨restBound, restAgain⟩ := inductionHypothesis each.2 middle others last isOthers
      rw [more]
      refine ⟨by omega, ?_⟩
      intro other enough
      exact ⟨head, middle, headAgain other (by omega), others, last, restAgain other (by omega), rfl⟩

/-! ### Scalars -/

theorem wholeFlat (word : WholeWord) (value : Json) (isValue : wholeValue word = .ok value) :
    value.nesting = 0 := by
  cases word with
  | fits whole => cases isValue; rfl
  | tooLarge => cases isValue

theorem floatFlat (text : String) (value : Json) (isValue : floatWord? text = some value) :
    value.nesting = 0 := by
  unfold floatWord? at isValue
  split at isValue
  · cases isValue
    rfl
  · obtain ⟨float, -, rfl⟩ := Option.map_eq_some_iff.mp isValue
    rfl

theorem plainFlat (text : String) (value : Json) (isValue : plainValue text = .ok value) :
    value.nesting = 0 := by
  unfold plainValue at isValue
  split at isValue
  · cases isValue
    rfl
  split at isValue
  · cases isValue
    rfl
  split at isValue
  · exact wholeFlat _ value isValue
  split at isValue
  · cases isValue
    rfl
  cases found : floatWord? text with
  | none => rw [found] at isValue; cases isValue; rfl
  | some float =>
      rw [found] at isValue
      cases isValue
      exact floatFlat text _ found

theorem taggedFlat (tag text : String) (value : Json) (isValue : taggedValue tag text = .ok value) :
    value.nesting = 0 := by
  unfold taggedValue at isValue
  split at isValue
  · split at isValue <;> cases isValue
    rfl
  split at isValue
  · split at isValue
    · exact wholeFlat _ value isValue
    · cases isValue
  split at isValue
  · split at isValue
    · cases isValue
      exact floatFlat text value ‹_›
    · cases isValue
  split at isValue
  · split at isValue <;> cases isValue
    rfl
  · cases isValue
    rfl

/-- A scalar stands for a value without parts. -/
theorem scalarFlat (tag : Option String) (style : ScalarStyle) (text : String) (value : Json)
    (isValue : scalarValue tag style text = .ok value) : value.nesting = 0 := by
  unfold scalarValue at isValue
  cases tag with
  | some tag => exact taggedFlat tag text value isValue
  | none =>
      split at isValue
      · contradiction
      split at isValue
      · exact plainFlat text value isValue
      · cases isValue
        rfl

/-! ### Nodes -/

namespace DocumentContext

/-- An alias is replaced by the node that it refers to. -/
def resolve (context : DocumentContext) : Node → Meaning Node
  | .alias number => context.follow number
  | node => pure node

/-- This is the value of a node after its alias has been followed. -/
def resolvedValue (context : DocumentContext) (limit : Nat) : Node → Meaning Json
  | .alias _ => throw (.structural (.unknownAnchor default))
  | .broken fault => throw (.structural fault)
  | .scalar start tag style text =>
      if isOwnTag tag then throw (.meaning ownTagReason start)
      else
        match scalarValue tag style text with
        | .ok value => return value
        | .error reason => throw (.meaning reason start)
  | .sequence start tag items =>
      if isOwnTag tag then throw (.meaning ownTagReason start)
      else
        match limit with
        | 0 => throw (.tooDeep start)
        | limit + 1 => return .array (← items.mapM (context.value limit))
  | .mapping start tag entries =>
      if isOwnTag tag then throw (.meaning ownTagReason start)
      else
        match limit with
        | 0 => throw (.tooDeep start)
        | limit + 1 => return .object (← entries.mapM fun (key, item) => do
            let key ← context.keyText key
            return (key, ← context.value limit item))

theorem valueResolved (context : DocumentContext) (limit : Nat) (node : Node) :
    context.value limit node = context.resolve node >>= context.resolvedValue limit := by
  rw [value.eq_def]
  cases node <;> rfl

/-- The entries of a mapping keep to the limit when their values do. -/
theorem entryKeepsLimit (context : DocumentContext) (depth : Nat) (entry : Node × Node)
    (inner : KeepsLimit Json.nesting (fun limit => context.value limit entry.2) depth) :
    KeepsLimit (fun member : String × Json => member.2.nesting)
      (fun limit => do
        let key ← context.keyText entry.1
        return (key, ← context.value limit entry.2)) depth := by
  intro before found after isRead
  simp only [bindOk, pureOk] at isRead ⊢
  obtain ⟨key, middle, isKey, item, last, isItem, same⟩ := isRead
  obtain ⟨rfl, rfl⟩ := Prod.mk.inj same
  obtain ⟨bounded, again⟩ := inner middle item last isItem
  exact ⟨bounded, fun other enough => ⟨key, middle, isKey, item, last, again other enough, rfl⟩⟩

theorem resolvedKeepsLimit (context : DocumentContext) (depth : Nat) (node : Node)
    (inner : ∀ smaller < depth, ∀ node,
      KeepsLimit Json.nesting (fun limit => context.value limit node) smaller) :
    KeepsLimit Json.nesting (fun limit => context.resolvedValue limit node) depth := by
  cases node with
  | «alias» number => exact KeepsLimit.ofFault _
  | broken fault => exact KeepsLimit.ofFault _
  | scalar start tag style text =>
      by_cases own : isOwnTag tag = true
      · simp only [resolvedValue, if_pos own]
        exact KeepsLimit.ofFault _
      · simp only [resolvedValue, if_neg own]
        cases isValue : scalarValue tag style text with
        | error reason => exact KeepsLimit.ofFault _
        | ok value =>
            refine KeepsLimit.ofFlat (pure value) ?_
            intro before found after isRead
            obtain ⟨rfl, -⟩ := Prod.mk.inj ((pureOk _ _ _).mp isRead)
            exact scalarFlat tag style text value isValue
  | sequence start tag items =>
      by_cases own : isOwnTag tag = true
      · simp only [resolvedValue, if_pos own]
        exact KeepsLimit.ofFault _
      · simp only [resolvedValue, if_neg own]
        cases depth with
        | zero =>
            intro before found after isRead
            cases isRead
        | succ depth =>
            refine KeepsLimit.collection Json.array Json.nesting (fun _ => rfl) (.tooDeep start) ?_
            exact keepsLimitMapM Json.nesting Json.nestingOfItems rfl (fun _ _ => rfl) _ depth items
              fun item _ => inner depth (by omega) item
  | mapping start tag entries =>
      by_cases own : isOwnTag tag = true
      · simp only [resolvedValue, if_pos own]
        exact KeepsLimit.ofFault _
      · simp only [resolvedValue, if_neg own]
        cases depth with
        | zero =>
            intro before found after isRead
            cases isRead
        | succ depth =>
            refine KeepsLimit.collection Json.object Json.nesting (fun _ => rfl) (.tooDeep start) ?_
            exact keepsLimitMapM _ Json.nestingOfMembers rfl (fun _ _ => rfl) _ depth entries
              fun entry _ => context.entryKeepsLimit depth entry (inner depth (by omega) entry.2)

/-- What a YAML document means does not depend on the limit on its depth, if it is read at all. -/
theorem valueKeepsLimit (context : DocumentContext) (depth : Nat) (node : Node) :
    KeepsLimit Json.nesting (fun limit => context.value limit node) depth := by
  induction depth using Nat.strongRecOn generalizing node with
  | _ depth inductionHypothesis =>
      intro before found after isRead
      simp only [valueResolved, bindOk] at isRead ⊢
      obtain ⟨resolved, middle, isResolved, isValue⟩ := isRead
      obtain ⟨bounded, again⟩ := context.resolvedKeepsLimit depth resolved
        (fun smaller less node => inductionHypothesis smaller less node) middle found after isValue
      exact ⟨bounded, fun other enough => ⟨resolved, middle, isResolved, again other enough⟩⟩

end DocumentContext

/-! ### Texts -/

/-- This is the value of a text whose collections may be nested up to a depth. -/
def valueWithin (limit : Nat) (text : List Char) : Except ReadError Json := do
  let reading := firstDocument text
  match reading.root with
  | none => return .null
  | some root =>
      let context : DocumentContext := ⟨reading.anchors, 100 * root.size⟩
      let (value, _) ← (context.value limit root).run 0
      match reading.after with
      | .nothing => return value
      | .more => throw .moreThanOneDocument
      | .fault fault => throw (.structural (.grammar fault))

/-- This is the value of a YAML file whose collections may be nested up to a depth. -/
def readWithin (limit : Nat) (content : ByteArray) : Except ReadError Json :=
  match charactersOf content with
  | .error fault => .error (.encoding fault)
  | .ok text => valueWithin limit text

theorem readAtLimit (content : ByteArray) : read content = readWithin depthLimit content := rfl

/-- A text that is read with one limit is read with any other that its value keeps to. -/
theorem valueWithinLimit (limit : Nat) (text : List Char) (value : Json)
    (isRead : valueWithin limit text = .ok value) :
    value.nesting ≤ limit ∧ ∀ other, value.nesting ≤ other → valueWithin other text = .ok value := by
  unfold valueWithin at isRead ⊢
  generalize firstDocument text = reading at isRead ⊢
  cases isRoot : reading.root with
  | none =>
      simp only [isRoot] at isRead ⊢
      cases isRead
      exact ⟨Nat.zero_le _, fun _ _ => rfl⟩
  | some root =>
      simp only [isRoot] at isRead ⊢
      generalize DocumentContext.mk reading.anchors (100 * root.size) = context at isRead ⊢
      cases outcome : (context.value limit root).run 0 with
      | error fault =>
          rw [outcome] at isRead
          cases isRead
      | ok found =>
          obtain ⟨item, count⟩ := found
          obtain ⟨bounded, again⟩ := context.valueKeepsLimit limit root 0 item count outcome
          rw [outcome] at isRead
          have same : item = value := by
            cases after : reading.after <;> simp only [bind, Except.bind, after] at isRead <;>
              cases isRead
            rfl
          subst same
          refine ⟨bounded, fun other enough => ?_⟩
          have found : (context.value other root).run 0 = .ok (item, count) := again other enough
          rw [found]
          exact isRead

/-- A file that is read with one limit is read with any other that its value keeps to. -/
theorem readWithinLimit (limit : Nat) (content : ByteArray) (value : Json)
    (isRead : readWithin limit content = .ok value) :
    value.nesting ≤ limit ∧
      ∀ other, value.nesting ≤ other → readWithin other content = .ok value := by
  unfold readWithin at isRead ⊢
  cases characters : charactersOf content with
  | error fault =>
      rw [characters] at isRead
      cases isRead
  | ok text =>
      rw [characters] at isRead
      exact valueWithinLimit limit text value isRead

/-- Two limits with which a file is read do not give it two meanings. -/
theorem readWithinUnique (first second : Nat) (content : ByteArray) (value found : Json)
    (isValue : readWithin first content = .ok value)
    (isFound : readWithin second content = .ok found) : found = value := by
  obtain ⟨valueBound, valueAgain⟩ := readWithinLimit first content value isValue
  obtain ⟨foundBound, foundAgain⟩ := readWithinLimit second content found isFound
  have asValue := valueAgain (max first second) (by omega)
  have asFound := foundAgain (max first second) (by omega)
  rw [asValue] at asFound
  exact (Except.ok.inj asFound).symm

/-- A file that is read with some limit is read exactly when it keeps to the usual limit. -/
theorem readIff (limit : Nat) (content : ByteArray) (value : Json)
    (isRead : readWithin limit content = .ok value) :
    (∃ found, read content = .ok found) ↔ value.nesting ≤ depthLimit := by
  constructor
  · rintro ⟨found, isFound⟩
    have same := readWithinUnique limit depthLimit content value found isRead isFound
    rw [← same]
    exact (readWithinLimit depthLimit content found isFound).1
  · intro bounded
    exact ⟨value, (readWithinLimit limit content value isRead).2 depthLimit bounded⟩

end DeskScript.Yaml
