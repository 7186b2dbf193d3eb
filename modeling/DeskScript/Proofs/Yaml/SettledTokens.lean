/-
This file shows that the tokens before every place where a key may still start stay at the front of
the row, whatever characters follow.
-/

import DeskScript.Proofs.Result
import DeskScript.Yaml.Lexer
import Mathlib.Data.List.InsertIdx

namespace DeskScript.Yaml.Lexer

/-! ### Rows that begin with some tokens -/

/-- The row begins with these tokens, and no key can start among them any more. -/
structure Begins (front : List PlacedToken) (lexer : Lexer) : Prop where
  row : front <+: lexer.tokens.toList
  candidates : ∀ candidate ∈ lexer.candidates, front.length ≤ candidate.number

namespace Begins

variable {front : List PlacedToken} {lexer next : Lexer}

/-- Only the row and the candidates count. -/
theorem same (begins : Begins front lexer) (tokens : next.tokens = lexer.tokens)
    (candidates : ∀ candidate ∈ next.candidates, candidate ∈ lexer.candidates) :
    Begins front next where
  row := tokens ▸ begins.row
  candidates candidate member := begins.candidates candidate (candidates candidate member)

/-- Where a key is allowed makes no difference to the row. -/
theorem keys (begins : Begins front lexer) (allowed : Bool) :
    Begins front { lexer with keyAllowed := allowed } :=
  ⟨begins.row, begins.candidates⟩

theorem push (begins : Begins front lexer) (token : Token) (start : Mark) :
    Begins front (lexer.push token start) where
  row := by
    rw [Lexer.push, Array.toList_push]
    exact begins.row.trans (List.prefix_append _ _)
  candidates := begins.candidates

/-- A token that is put in behind these tokens leaves them where they are. -/
theorem insert (begins : Begins front lexer) {number : Nat} (behind : front.length ≤ number)
    (placed : PlacedToken) :
    front <+: (lexer.tokens.insertIdxIfInBounds number placed).toList := by
  rw [Array.insertIdxIfInBounds]
  split
  · have kept := List.take_insertIdx_eq_take_of_le lexer.tokens.toList placed front.length number
      behind
    rw [Array.toList_insertIdx, List.prefix_iff_eq_take, kept]
    exact List.prefix_iff_eq_take.mp begins.row
  · exact begins.row

theorem below (begins : Begins front lexer) : front.length ≤ lexer.tokens.size := by
  rw [← Array.length_toList]
  exact begins.row.length_le

/-! ### Candidates -/

theorem dropStale (begins : Begins front lexer) (done : lexer.dropStale = .ok next) :
    Begins front next := by
  rw [Lexer.dropStale] at done
  split at done
  · cases done
  · rw [← Except.ok.inj done]
    refine begins.same rfl fun candidate member => ?_
    simp only [Lexer.candidates, List.mem_filterMap, List.mem_cons, List.mem_map, id] at member ⊢
    obtain ⟨kept, rfl | ⟨outer, isOuter, rfl⟩, isKept⟩ := member
    · exact ⟨_, .inl rfl, (Option.filter_eq_some_iff.mp isKept).1⟩
    · exact ⟨_, .inr isOuter, (Option.filter_eq_some_iff.mp isKept).1⟩

theorem dropCandidate (begins : Begins front lexer) (done : lexer.dropCandidate = .ok next) :
    Begins front next := by
  rw [Lexer.dropCandidate] at done
  split at done
  · cases done
  · rw [← Except.ok.inj done]
    refine begins.same rfl fun candidate member => ?_
    simp only [Lexer.candidates, List.mem_filterMap, List.mem_cons, id] at member ⊢
    obtain ⟨kept, rfl | isOuter, isKept⟩ := member
    · cases isKept
    · exact ⟨kept, .inr isOuter, isKept⟩

/-- A new candidate is the token that comes next, so it stands behind the whole row. -/
theorem saveCandidate (begins : Begins front lexer) (done : lexer.saveCandidate = .ok next) :
    Begins front next := by
  rw [Lexer.saveCandidate] at done
  split at done
  · obtain ⟨dropped, isDropped, done⟩ := okOfBind done
    have rest := begins.dropCandidate isDropped
    rw [← Except.ok.inj done]
    refine ⟨rest.row, fun candidate member => ?_⟩
    simp only [Lexer.candidates, List.filterMap_cons, id, List.mem_cons] at member
    rcases member with rfl | isOuter
    · exact begins.below
    · refine rest.candidates candidate ?_
      simp only [Lexer.candidates, List.filterMap_cons, id]
      split
      · exact isOuter
      · exact List.mem_cons_of_mem _ isOuter
  · rw [← Except.ok.inj done]
    exact begins

/-! ### Blocks -/

theorem openBlock (begins : Begins front lexer) (token : Token) {number : Nat} (start : Mark)
    (behind : front.length ≤ number) : Begins front (lexer.openBlock token number start) := by
  rw [Lexer.openBlock]
  split
  all_goals
    split
    · exact begins
    · exact ⟨begins.insert behind _, begins.candidates⟩

theorem openBlockHere {token : Token} {refused : String} (begins : Begins front lexer)
    (done : lexer.openBlockHere token refused = .ok next) : Begins front next := by
  rw [Lexer.openBlockHere] at done
  split at done
  · exact Except.ok.inj done ▸ begins
  · split at done
    · cases done
    · exact Except.ok.inj done ▸ begins.openBlock token _ begins.below

theorem closeBlocksAfter (begins : Begins front lexer) (isOpen : Nat → Bool) (indents : List Nat) :
    Begins front (lexer.closeBlocksAfter isOpen indents) := by
  induction indents generalizing lexer with
  | nil => exact ⟨begins.row, begins.candidates⟩
  | cons indent rest inductionHypothesis =>
      rw [Lexer.closeBlocksAfter]
      split
      · exact ⟨begins.row, begins.candidates⟩
      · exact inductionHypothesis (begins.push _ _)

theorem closeBlocks (begins : Begins front lexer) : Begins front lexer.closeBlocks := by
  rw [Lexer.closeBlocks]
  split
  · exact begins
  · exact begins.closeBlocksAfter _ _

theorem closeAllBlocks (begins : Begins front lexer) : Begins front lexer.closeAllBlocks := by
  rw [Lexer.closeAllBlocks]
  split
  · exact begins
  · exact begins.closeBlocksAfter _ _

/-! ### Gaps and tokens -/

theorem passGap (begins : Begins front lexer) (fuel : Nat) :
    Begins front (Lexer.passGap fuel lexer) := by
  induction fuel generalizing lexer with
  | zero => exact begins
  | succ fuel inductionHypothesis =>
      rw [Lexer.passGap]
      split
      · exact inductionHypothesis ⟨begins.row, begins.candidates⟩
      · exact ⟨begins.row, begins.candidates⟩

theorem take (begins : Begins front lexer) (token : Token) (width : Nat) :
    Begins front (lexer.take token width) :=
  (begins.push token lexer.mark).same rfl fun _ member => member

theorem takeRead {read : Cursor → TokenRead} (begins : Begins front lexer)
    (done : lexer.takeRead read = .ok next) : Begins front next := by
  obtain ⟨⟨token, after⟩, -, done⟩ := okOfBind done
  rw [← Except.ok.inj done]
  exact (begins.push token lexer.mark).same rfl fun _ member => member

theorem takeEnd (begins : Begins front lexer) (done : lexer.takeEnd = .ok next) :
    Begins front next := by
  obtain ⟨dropped, isDropped, done⟩ := okOfBind done
  rw [← Except.ok.inj done]
  refine ((closeAllBlocks ?_).dropCandidate isDropped |>.push _ _).same rfl fun _ member => member
  exact begins.same rfl fun _ member => member

theorem takeDirective (begins : Begins front lexer) (done : lexer.takeDirective = .ok next) :
    Begins front next := by
  obtain ⟨dropped, isDropped, done⟩ := okOfBind done
  have closed := begins.closeAllBlocks.dropCandidate isDropped
  exact (closed.keys _).takeRead done

theorem takeDocumentBound (begins : Begins front lexer)
    (done : lexer.takeDocumentBound = .ok next) : Begins front next := by
  obtain ⟨dropped, isDropped, done⟩ := okOfBind done
  have closed := begins.closeAllBlocks.dropCandidate isDropped
  rw [← Except.ok.inj done]
  exact (closed.keys _).take _ _

theorem takeFlowStart {token : Token} (begins : Begins front lexer)
    (done : lexer.takeFlowStart token = .ok next) : Begins front next := by
  obtain ⟨saved, isSaved, done⟩ := okOfBind done
  have kept := begins.saveCandidate isSaved
  rw [← Except.ok.inj done]
  -- The candidate is set aside while the collection is open.
  have setAside : Begins front { saved with
      candidate := none, outerCandidates := saved.candidate :: saved.outerCandidates } :=
    kept.same rfl fun candidate member => by simpa [Lexer.candidates] using member
  exact (setAside.keys _).take _ _

theorem takeFlowEnd {token : Token} (begins : Begins front lexer)
    (done : lexer.takeFlowEnd token = .ok next) : Begins front next := by
  obtain ⟨dropped, isDropped, done⟩ := okOfBind done
  have kept := begins.dropCandidate isDropped
  rw [← Except.ok.inj done]
  refine take (kept.same ?_ ?_) _ _
  · split <;> rfl
  · intro candidate member
    split at member
    · rename_i isOuter
      simp only [Lexer.candidates, isOuter] at member ⊢
      exact List.mem_filterMap.mpr
        ((List.mem_filterMap.mp member).imp fun _ found => ⟨List.mem_cons_of_mem _ found.1, found.2⟩)
    · exact member

theorem takeFlowEntry (begins : Begins front lexer) (done : lexer.takeFlowEntry = .ok next) :
    Begins front next := by
  obtain ⟨dropped, isDropped, done⟩ := okOfBind done
  have kept := begins.dropCandidate isDropped
  rw [← Except.ok.inj done]
  exact (kept.keys _).take _ _

theorem takeBlockEntry (begins : Begins front lexer) (done : lexer.takeBlockEntry = .ok next) :
    Begins front next := by
  obtain ⟨opened, isOpened, done⟩ := okOfBind done
  obtain ⟨dropped, isDropped, done⟩ := okOfBind done
  have kept := (begins.openBlockHere isOpened).dropCandidate isDropped
  rw [← Except.ok.inj done]
  exact (kept.keys _).take _ _

theorem takeKey (begins : Begins front lexer) (done : lexer.takeKey = .ok next) :
    Begins front next := by
  obtain ⟨opened, isOpened, done⟩ := okOfBind done
  obtain ⟨dropped, isDropped, done⟩ := okOfBind done
  have kept := (begins.openBlockHere isOpened).dropCandidate isDropped
  rw [← Except.ok.inj done]
  exact (kept.keys _).take _ _

/-- A colon puts tokens in where its candidate started, which is behind the tokens. -/
theorem takeValue (begins : Begins front lexer) (done : lexer.takeValue = .ok next) :
    Begins front next := by
  rw [Lexer.takeValue] at done
  split at done
  · rename_i candidate isCandidate
    have behind : front.length ≤ candidate.number := by
      refine begins.candidates candidate ?_
      simp [Lexer.candidates, isCandidate]
    rw [← Except.ok.inj done]
    refine take (openBlock ⟨begins.insert behind _, fun other member => ?_⟩ _ _ behind) _ _
    refine begins.candidates other ?_
    simp only [Lexer.candidates, List.filterMap_cons, id] at member ⊢
    rw [isCandidate]
    exact List.mem_cons_of_mem _ member
  · obtain ⟨opened, isOpened, done⟩ := okOfBind done
    rw [← Except.ok.inj done]
    exact ((begins.openBlockHere isOpened).keys _).take _ _

theorem takeCandidate {read : Cursor → TokenRead} (begins : Begins front lexer)
    (done : lexer.takeCandidate read = .ok next) : Begins front next := by
  obtain ⟨saved, isSaved, done⟩ := okOfBind done
  exact ((begins.saveCandidate isSaved).keys _).takeRead done

theorem takeBlockScalar {literal : Bool} (begins : Begins front lexer)
    (done : lexer.takeBlockScalar literal = .ok next) : Begins front next := by
  obtain ⟨dropped, isDropped, done⟩ := okOfBind done
  exact ((begins.dropCandidate isDropped).keys _).takeRead done

theorem takePlain (begins : Begins front lexer) (done : lexer.takePlain = .ok next) :
    Begins front next := by
  obtain ⟨saved, isSaved, done⟩ := okOfBind done
  obtain ⟨scalar, -, done⟩ := okOfBind done
  rw [← Except.ok.inj done]
  exact ((begins.saveCandidate isSaved).push _ _).same rfl fun _ member => member

/-- Whatever the next character asks for keeps the tokens. -/
theorem takeToken {character : Char} {rest : List Char} (begins : Begins front lexer)
    (done : lexer.takeToken character rest = .ok next) : Begins front next := by
  rw [Lexer.takeToken] at done
  rcases okOfIf done with done | done
  · exact begins.takeDirective done
  rcases okOfIf done with done | done
  · exact begins.takeDocumentBound done
  rcases okOfIf done with done | done
  · exact begins.takeFlowStart done
  rcases okOfIf done with done | done
  · exact begins.takeFlowStart done
  rcases okOfIf done with done | done
  · exact begins.takeFlowEnd done
  rcases okOfIf done with done | done
  · exact begins.takeFlowEnd done
  rcases okOfIf done with done | done
  · exact begins.takeFlowEntry done
  rcases okOfIf done with done | done
  · exact begins.takeBlockEntry done
  rcases okOfIf done with done | done
  · exact begins.takeKey done
  rcases okOfIf done with done | done
  · exact begins.takeValue done
  rcases okOfIf done with done | done
  · exact begins.takeCandidate done
  rcases okOfIf done with done | done
  · exact begins.takeCandidate done
  rcases okOfIf done with done | done
  · exact begins.takeCandidate done
  rcases okOfIf done with done | done
  · exact begins.takeBlockScalar done
  rcases okOfIf done with done | done
  · exact begins.takeBlockScalar done
  rcases okOfIf done with done | done
  · exact begins.takeCandidate done
  rcases okOfIf done with done | done
  · exact begins.takeCandidate done
  rcases okOfIf done with done | done
  · exact begins.takePlain done
  · cases done

/-- Taking a token keeps the tokens at the front of the row. -/
theorem step (begins : Begins front lexer) (done : lexer.next = .ok next) : Begins front next := by
  obtain ⟨fresh, isFresh, done⟩ := okOfBind done
  have closed := ((begins.passGap _).dropStale isFresh).closeBlocks
  dsimp only at done
  split at done
  · obtain ⟨taken, isTaken, done⟩ := okOfBind done
    exact (closed.takeEnd isTaken).dropStale done
  · obtain ⟨taken, isTaken, done⟩ := okOfBind done
    exact (closed.takeToken isTaken).dropStale done

/-! ### Whole texts -/

theorem settled (begins : Begins front lexer) : front <+: lexer.settled := by
  have behind (candidates : List KeyCandidate) (count : Nat) (enough : front.length ≤ count)
      (each : ∀ candidate ∈ candidates, front.length ≤ candidate.number) :
      front.length ≤ candidates.foldl (fun count candidate => min count candidate.number) count := by
    induction candidates generalizing count with
    | nil => exact enough
    | cons candidate rest inductionHypothesis =>
        rw [List.forall_mem_cons] at each
        exact inductionHypothesis _ (Nat.le_min.mpr ⟨enough, each.1⟩) each.2
  rw [Lexer.settled]
  exact List.prefix_take_iff.mpr ⟨begins.row, behind _ _ begins.below begins.candidates⟩

/-- Whether the text ends well or not, the tokens stay at the front of the row. -/
theorem run (begins : Begins front lexer) (fuel : Nat) : front <+: (lexer.run fuel).1 := by
  induction fuel generalizing lexer with
  | zero => exact begins.row
  | succ fuel inductionHypothesis =>
      rw [Lexer.run]
      split
      · exact begins.row
      · split
        · rename_i isNext
          exact inductionHypothesis (begins.step isNext)
        · exact begins.settled

end Begins

end DeskScript.Yaml.Lexer
