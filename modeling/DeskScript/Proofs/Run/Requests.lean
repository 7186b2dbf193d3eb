/-
This file separates an attempt at an action into what it asks for, which depends on the variables
alone, and how this is done.
-/

import DeskScript.Proofs.Run.Alike
import DeskScript.Run.Leaf

namespace DeskScript

variable {device : Type}

namespace Leaf

/-! ### Values in an action -/

variable {names : List String}

theorem coordinateAgree {first second : Bindings} {coordinate : Coordinate}
    (mentions : Template.Mentions names coordinate.text)
    (agree : Bindings.Agree names first second) (notes : StepNotes) (field : String) :
    Leaf.coordinate first notes field coordinate =
      Leaf.coordinate second notes field coordinate := by
  cases coordinate with
  | fixed value => rfl
  | template template =>
      have own : Template.Mentions names template := mentions
      rw [coordinate, coordinate, notes.resolveAgree own agree]

theorem coordinateNamed {coordinate : Coordinate}
    (mentions : Template.Mentions names coordinate.text) (bindings : Bindings) (notes : StepNotes)
    (field : String) (named : notes.Named names) :
    (Leaf.coordinate bindings notes field coordinate).2.Named names := by
  cases coordinate with
  | fixed value => exact named
  | template template =>
      have resolved := notes.resolveNamed mentions bindings named
      rw [coordinate]
      simp only
      split <;> exact resolved

theorem positionAgree {first second : Bindings} {x y : Coordinate}
    (xMentions : Template.Mentions names x.text) (yMentions : Template.Mentions names y.text)
    (agree : Bindings.Agree names first second) : position first x y = position second x y := by
  rw [position, position, coordinateAgree xMentions agree]
  simp only [coordinateAgree yMentions agree]

theorem positionNamed {x y : Coordinate} (xMentions : Template.Mentions names x.text)
    (yMentions : Template.Mentions names y.text) (bindings : Bindings) :
    (position bindings x y).2.Named names := by
  have xNamed := coordinateNamed xMentions bindings .empty "x" StepNotes.emptyNamed
  rw [position]
  generalize coordinate bindings .empty "x" x = found at xNamed ⊢
  obtain ⟨failure | xValue, notes⟩ := found
  · exact xNamed
  · have yNamed := coordinateNamed yMentions bindings notes "y" xNamed
    simp only
    generalize coordinate bindings notes "y" y = found at yNamed ⊢
    obtain ⟨failure | yValue, notes⟩ := found
    · exact yNamed
    · exact yNamed

theorem pressedKeysAgree {first second : Bindings} {keys : List String}
    (mentions : ∀ key ∈ keys, Template.Mentions names key)
    (agree : Bindings.Agree names first second) (notes : StepNotes) :
    pressedKeys first keys notes = pressedKeys second keys notes := by
  induction keys generalizing notes with
  | nil => rfl
  | cons key rest inductionHypothesis =>
      rw [List.forall_mem_cons] at mentions
      rw [pressedKeys, pressedKeys, notes.resolveAgree mentions.1 agree]
      simp only [inductionHypothesis mentions.2]

theorem pressedKeysNamed {keys : List String}
    (mentions : ∀ key ∈ keys, Template.Mentions names key) (bindings : Bindings)
    (notes : StepNotes) (named : notes.Named names) :
    (pressedKeys bindings keys notes).2.Named names := by
  induction keys generalizing notes with
  | nil => exact named
  | cons key rest inductionHypothesis =>
      rw [List.forall_mem_cons] at mentions
      exact inductionHypothesis mentions.2 _ (notes.resolveNamed mentions.1 bindings named)

/-! ### Requests -/

/-- An action asks for this when its placeholders have been replaced. -/
inductive Request where
  | input (action : InputAction)
  | pause (duration : Nat)
  | search (target : Target) (sensing : Sensing)

/-- With the request come the notes on names that were not bound. It fails if a value is missing. -/
def request (bindings : Bindings) : Action → Except StepFailure Request × StepNotes
  | .click x y button count =>
      match position bindings x y with
      | (.error failure, notes) => (.error failure, notes)
      | (.ok (x, y), notes) => (.ok (.input (.click x y button count)), notes)
  | .move x y duration =>
      match position bindings x y with
      | (.error failure, notes) => (.error failure, notes)
      | (.ok (x, y), notes) => (.ok (.input (.move x y duration.toNat)), notes)
  | .type text interval =>
      let (text, notes) := StepNotes.empty.resolve bindings text
      (.ok (.input (.type text interval.toNat)), notes)
  | .hotkey keys =>
      match pressedKeys bindings keys .empty with
      | ([], notes) =>
          (.error (.invalidValue "keys" ("+".intercalate keys)
            "no keys left after substitution"), notes)
      | (pressed, notes) => (.ok (.input (.hotkey pressed)), notes)
  | .wait duration => (.ok (.pause duration.toNat), .empty)
  | .waitImage template sensing =>
      let (template, notes) := StepNotes.empty.resolve bindings template
      (.ok (.search (.image template) sensing), notes)
  | .searchText query exact sensing =>
      let (query, notes) := StepNotes.empty.resolve bindings query
      (.ok (.search (.text query exact) sensing), notes)

def perform (place : Workplace device) (stepId : String) (session : Session device) :
    Except StepFailure Request × StepNotes → ActionRun device
  | (.error failure, notes) => ⟨session, notes, .failed failure⟩
  | (.ok (.input action), notes) => input place session notes action
  | (.ok (.pause duration), notes) =>
      match session.sleep duration with
      | (session, some reason) =>
          ⟨session, notes, .failed (.aborted (session.abort reason stepId))⟩
      | (session, none) => ⟨session, notes, .done⟩
  | (.ok (.search target sensing), notes) => sense place stepId session notes target sensing

/-- An attempt depends on the variables only through what it asks for. -/
theorem actPerforms (place : Workplace device) (stepId : String) (session : Session device)
    (action : Action) :
    act place stepId session action =
      perform place stepId session (request session.bindings action) := by
  cases action with
  | click x y button count =>
      rw [act, request]
      obtain ⟨failure | ⟨x, y⟩, notes⟩ := position session.bindings x y <;> rfl
  | move x y duration =>
      rw [act, request]
      obtain ⟨failure | ⟨x, y⟩, notes⟩ := position session.bindings x y <;> rfl
  | type text interval => rfl
  | hotkey keys =>
      rw [act, request]
      obtain ⟨_ | ⟨key, others⟩, notes⟩ := pressedKeys session.bindings keys .empty <;> rfl
  | wait duration => rfl
  | waitImage template sensing => rfl
  | searchText query exactly sensing => rfl

/-- What an action asks for depends only on the variables that it mentions, and so do its notes. -/
theorem requestAgree {header : StepHeader} {action : Action}
    (mentions : (Step.leaf header action).Mentions names) {first second : Bindings}
    (agree : Bindings.Agree names first second) :
    request first action = request second action ∧ (request first action).2.Named names := by
  cases action with
  | click x y button count =>
      have xMentions := mentions x.text (by simp [Step.templates])
      have yMentions := mentions y.text (by simp [Step.templates])
      have named := positionNamed xMentions yMentions second
      rw [request, request, positionAgree xMentions yMentions agree]
      generalize position second x y = found at named ⊢
      obtain ⟨failure | ⟨x, y⟩, notes⟩ := found <;> exact ⟨rfl, named⟩
  | move x y duration =>
      have xMentions := mentions x.text (by simp [Step.templates])
      have yMentions := mentions y.text (by simp [Step.templates])
      have named := positionNamed xMentions yMentions second
      rw [request, request, positionAgree xMentions yMentions agree]
      generalize position second x y = found at named ⊢
      obtain ⟨failure | ⟨x, y⟩, notes⟩ := found <;> exact ⟨rfl, named⟩
  | type text interval =>
      have textMentions := mentions text (by simp [Step.templates])
      rw [request, request, StepNotes.resolveAgree textMentions agree]
      exact ⟨rfl, StepNotes.empty.resolveNamed textMentions second StepNotes.emptyNamed⟩
  | hotkey keys =>
      have keyMentions : ∀ key ∈ keys, Template.Mentions names key := mentions
      have named := pressedKeysNamed keyMentions second .empty StepNotes.emptyNamed
      rw [request, request, pressedKeysAgree keyMentions agree]
      generalize pressedKeys second keys .empty = found at named ⊢
      obtain ⟨_ | ⟨key, rest⟩, notes⟩ := found <;> exact ⟨rfl, named⟩
  | wait duration => exact ⟨rfl, StepNotes.emptyNamed⟩
  | waitImage template sensing =>
      have templateMentions := mentions template (by simp [Step.templates])
      rw [request, request, StepNotes.resolveAgree templateMentions agree]
      exact ⟨rfl, StepNotes.empty.resolveNamed templateMentions second StepNotes.emptyNamed⟩
  | searchText query exactly sensing =>
      have queryMentions := mentions query (by simp [Step.templates])
      rw [request, request, StepNotes.resolveAgree queryMentions agree]
      exact ⟨rfl, StepNotes.empty.resolveNamed queryMentions second StepNotes.emptyNamed⟩

end Leaf

end DeskScript
