/-
This file compares what is published about the state of an engine with the life of its runs. The
news of one run follow those of another unless a run breaks down or is announced too early.
-/

import DeskScript.Proofs.Engine.Exclusion
import DeskScript.Proofs.Run.Onward
import Mathlib.Data.List.Induction

namespace DeskScript

variable {device : Type}

/-! ### News about the state -/

/-- The news about one run are that it is running, how it ended, and that the engine is idle. -/
def roundOf (runId : String) (outcome : RunOutcome) : List (String × EngineState) :=
  [(runId, .running), (runId, .ofOutcome outcome), (runId, .idle)]

/-- The news so far are those of one run after the other. -/
def RunAfterRun (news : List (String × EngineState)) : Prop :=
  ∃ rounds : List (String × RunOutcome),
    news <+: rounds.flatMap fun (runId, outcome) => roundOf runId outcome

/-- An observer may know of a run that is running, or that has ended and still has the engine. -/
inductive Observed where
  | running (runId : String)
  | ended (runId : String)

def EngineState.isOutcome : EngineState → Bool
  | .completed | .aborted | .failed => true
  | .idle | .running => false

namespace Observed

/-- After some news only certain others can follow. -/
def observe : Option Observed → String × EngineState → Option (Option Observed)
  | none, (runId, .running) => some (some (.running runId))
  | some (.running runId), (other, state) =>
      if other = runId ∧ state.isOutcome then some (some (.ended runId)) else none
  | some (.ended runId), (other, .idle) => if other = runId then some none else none
  | _, _ => none

/-- This is what an observer knows after all the news, unless they are in disorder. -/
def observeAll (news : List (String × EngineState)) : Option (Option Observed) :=
  news.foldlM observe none

theorem observeAppend (first second : List (String × EngineState)) :
    observeAll (first ++ second) =
      (observeAll first).bind fun known => second.foldlM observe known :=
  List.foldlM_append

theorem observeLast (earlier : List (String × EngineState)) (item : String × EngineState) :
    observeAll (earlier ++ [item]) =
      (observeAll earlier).bind fun known => observe known item := by
  rw [observeAppend]
  simp

/-- These are the ways in which an observer can learn something. -/
inductive Learns : Option Observed → String × EngineState → Option Observed → Prop where
  | begins (runId : String) : Learns none (runId, .running) (some (.running runId))
  | ends (runId : String) (outcome : RunOutcome) :
      Learns (some (.running runId)) (runId, .ofOutcome outcome) (some (.ended runId))
  | rests (runId : String) : Learns (some (.ended runId)) (runId, .idle) none

theorem learnsOf {known later : Option Observed} {item : String × EngineState}
    (observed : observe known item = some later) : Learns known item later := by
  obtain ⟨runId, state⟩ := item
  cases known with
  | none =>
      cases state with
      | running =>
          cases observed
          exact .begins runId
      | _ => cases observed
  | some known =>
      cases known with
      | running other =>
          rw [observe] at observed
          split at observed
          · rename_i right
            obtain ⟨rfl, ending⟩ := right
            cases observed
            cases state with
            | completed => exact .ends runId .completed
            | aborted => exact .ends runId (.aborted .cancelled none)
            | failed => exact .ends runId (.failed "" none)
            | idle => cases ending
            | running => cases ending
          · cases observed
      | ended other =>
          cases state with
          | idle =>
              rw [observe] at observed
              split at observed
              · rename_i same
                cases observed
                rw [same]
                exact .rests other
              · cases observed
          | _ => cases observed

theorem Learns.observed {known later : Option Observed} {item : String × EngineState}
    (learns : Learns known item later) : observe known item = some later := by
  cases learns with
  | begins => rfl
  | ends runId outcome => cases outcome <;> simp [observe, EngineState.ofOutcome,
      EngineState.isOutcome]
  | rests runId => simp [observe]

/-- These news of the present run are known already. -/
inductive Partly : Option Observed → List (String × EngineState) → Prop where
  | nothing : Partly none []
  | begun (runId : String) : Partly (some (.running runId)) [(runId, .running)]
  | ended (runId : String) (outcome : RunOutcome) :
      Partly (some (.ended runId)) [(runId, .running), (runId, .ofOutcome outcome)]

/-- What an observer knows tells how far the news of the present run have come. -/
theorem roundsOf (news : List (String × EngineState)) (known : Option Observed)
    (observed : observeAll news = some known) :
    ∃ (rounds : List (String × RunOutcome)) (present : List (String × EngineState)),
      Partly known present ∧
        news = (rounds.flatMap fun (runId, outcome) => roundOf runId outcome) ++ present := by
  induction news using List.reverseRecOn generalizing known with
  | nil =>
      cases observed
      exact ⟨[], [], .nothing, rfl⟩
  | append_singleton earlier item inductionHypothesis =>
      rw [observeLast, Option.bind_eq_some_iff] at observed
      obtain ⟨before, isBefore, isAfter⟩ := observed
      obtain ⟨rounds, present, partly, rfl⟩ := inductionHypothesis before isBefore
      cases learnsOf isAfter with
      | begins runId =>
          cases partly
          exact ⟨rounds, _, .begun runId, by rw [List.append_nil]⟩
      | ends runId outcome =>
          cases partly
          exact ⟨rounds, _, .ended runId outcome, by rw [List.append_assoc]; rfl⟩
      | rests runId =>
          cases partly with
          | ended _ outcome =>
              refine ⟨rounds ++ [(runId, outcome)], [], .nothing, ?_⟩
              rw [List.flatMap_append, List.append_assoc, List.append_nil]
              rfl

theorem observeRounds (rounds : List (String × RunOutcome)) :
    observeAll (rounds.flatMap fun (runId, outcome) => roundOf runId outcome) = some none := by
  induction rounds with
  | nil => rfl
  | cons head rest inductionHypothesis =>
      have one : observeAll (roundOf head.1 head.2) = some none := by
        rw [observeAll, roundOf, List.foldlM_cons, (Learns.begins head.1).observed]
        simp only [Option.bind_eq_bind, Option.bind_some, List.foldlM_cons]
        rw [(Learns.ends head.1 head.2).observed]
        simp only [Option.bind_some]
        rw [(Learns.rests head.1).observed]
        rfl
      rw [List.flatMap_cons, observeAppend, one]
      exact inductionHypothesis

/-- The news are those of one run after the other exactly if an observer is never at a loss. -/
theorem runAfterRunIff (news : List (String × EngineState)) :
    RunAfterRun news ↔ (observeAll news).isSome = true := by
  constructor
  · rintro ⟨rounds, later, whole⟩
    have observed := observeRounds rounds
    rw [← whole, observeAppend] at observed
    obtain ⟨known, isKnown, -⟩ := Option.bind_eq_some_iff.mp observed
    rw [isKnown]
    rfl
  · intro isSome
    obtain ⟨known, observed⟩ := Option.isSome_iff_exists.mp isSome
    obtain ⟨rounds, present, partly, rfl⟩ := roundsOf news known observed
    cases partly with
    | nothing => exact ⟨rounds, [], by rw [List.append_nil, List.append_nil]⟩
    | begun runId =>
        refine ⟨rounds ++ [(runId, .completed)],
          [(runId, .ofOutcome .completed), (runId, .idle)], ?_⟩
        rw [List.flatMap_append, List.append_assoc]
        rfl
    | ended runId outcome =>
        refine ⟨rounds ++ [(runId, outcome)], [(runId, .idle)], ?_⟩
        rw [List.flatMap_append, List.append_assoc]
        rfl

end Observed

/-! ### What the shifts tell -/

def RunEvent.state? (event : RunEvent) : Option (String × EngineState) :=
  match event.news with
  | .stateChanged state => some (event.runId, state)
  | _ => none

namespace Engine

/-- These are all news about the state of an engine, in the order in which they were published. -/
def stateNews (engine : Engine device) : List (String × EngineState) :=
  engine.feed.sent.toList.filterMap RunEvent.state?

theorem newsPublish (engine : Engine device) (runId : String) (state : EngineState) :
    (engine.publish runId state).stateNews = engine.stateNews ++ [(runId, state)] := by
  rw [stateNews, publish, Feed.sentSend, List.filterMap_append]
  rfl

theorem newsFollow (engine : Engine device) {before after : Session device} {more : List RunEvent}
    (events : after.events.toList = before.events.toList ++ more)
    (silent : ∀ event ∈ more, event.state? = none) :
    (engine.follow before after).stateNews = engine.stateNews := by
  rw [stateNews, followSent engine events, List.filterMap_append,
    List.filterMap_eq_nil_iff.mpr silent, List.append_nil]
  rfl

end Engine

theorem Session.Onward.silent? {before after : Session device} (onward : Onward before after) :
    ∃ more : List RunEvent, after.events.toList = before.events.toList ++ more ∧
      ∀ event ∈ more, event.state? = none := by
  obtain ⟨more, about, events⟩ := onward.events
  refine ⟨_, events, fun event member => ?_⟩
  obtain ⟨news, inside, rfl⟩ := List.mem_map.mp member
  have aboutSteps := about news inside
  cases news with
  | stateChanged state => cases aboutSteps
  | _ => rfl

namespace Shift

/-- This is what the news about a run let an observer know. -/
def shown (shift : Shift device) : Option Observed :=
  match shift.worker.stage with
  | .ready | .ran _ => some (.running shift.worker.runId)
  | .told _ | .freed _ => some (.ended shift.worker.runId)
  | .over none => if shift.announced then some (.running shift.worker.runId) else none
  | .accepted | .over (some _) => none

/-- These are the news about a run that have been published so far. -/
def news (shift : Shift device) : List (String × EngineState) :=
  match shift.worker.stage with
  | .accepted => []
  | .ready | .ran _ => [(shift.worker.runId, .running)]
  | .told found | .freed found =>
      [(shift.worker.runId, .running), (shift.worker.runId, .ofOutcome found.outcome)]
  | .over (some found) => roundOf shift.worker.runId found.outcome
  | .over none => if shift.announced then [(shift.worker.runId, .running)] else []

/-- This run no longer has the engine, and still it has not been published that it is idle. -/
def lingers (shift : Shift device) : Bool :=
  match shift.worker.stage with
  | .freed _ => true
  | .over none => shift.announced
  | _ => false

/-- A run is announced before its steps begin, and not before it is accepted. -/
def Sound (shift : Shift device) : Prop :=
  match shift.worker.stage with
  | .accepted => shift.announced = false
  | .ready | .ran _ | .told _ | .freed _ => shift.announced = true
  | .over _ => True

/-- A shift that shows something has told something. -/
theorem newsOfShown {shift : Shift device} (shows : shift.shown ≠ none) : shift.news ≠ [] := by
  unfold shown at shows
  unfold news
  split at shows <;> simp_all

/-- A shift that goes on tells nothing and shows the same, or it tells what it shows now. -/
inductive Tells (shift later : Shift device) : List (String × EngineState) → Prop where
  | nothing (sameShown : later.shown = shift.shown) (sameNews : later.news = shift.news) :
      Tells shift later []
  | item (item : String × EngineState) (known : shift.shown ≠ none)
      (learns : Observed.Learns shift.shown item later.shown)
      (more : later.news = shift.news ++ [item]) : Tells shift later [item]

theorem Tells.shownBefore {shift later : Shift device} {items : List (String × EngineState)}
    (tells : Tells shift later items) (shows : later.shown ≠ none) : shift.shown ≠ none := by
  cases tells with
  | nothing sameShown => rwa [← sameShown]
  | item _ known => exact known

theorem Goes.tellsNews {engine begun : Engine device} {shift later : Shift device}
    (goes : Goes engine shift begun later) (sound : shift.Sound) :
    later.Sound ∧ ∃ items, Tells shift later items ∧
      begun.stateNews = engine.stateNews ++ items := by
  unfold Sound at sound ⊢
  cases goes with
  | rests => exact ⟨sound, [], .nothing rfl rfl, (List.append_nil _).symm⟩
  | cancels => exact ⟨sound, [], .nothing rfl rfl, (List.append_nil _).symm⟩
  | goesOn =>
      obtain ⟨more, events, silent⟩ := (shift.instant.onwardNext engine.place).silent?
      refine ⟨sound, [], .nothing rfl rfl, ?_⟩
      rw [engine.newsFollow events silent, List.append_nil]
  | breaksDown begun =>
      obtain accepted | ready := begun
      · simp only [accepted] at sound
        refine ⟨trivial, [], .nothing ?_ ?_, (List.append_nil _).symm⟩
        · simp [shown, reach, accepted, sound]
        · simp [news, reach, accepted, sound]
      · simp only [ready] at sound
        refine ⟨trivial, [], .nothing ?_ ?_, (List.append_nil _).symm⟩
        · simp [shown, reach, ready, sound]
        · simp [news, reach, ready, sound]
  | finishes session halt outcome works =>
      simp only [works] at sound
      refine ⟨sound, [], .nothing ?_ ?_, ?_⟩
      · simp [shown, reach, works]
      · simp [news, reach, works]
      · have events := Floor.reportEvents engine shift session outcome
        rw [engine.newsFollow events (by simp [RunEvent.state?]), List.append_nil]
  | tells found ran =>
      simp only [ran] at sound
      refine ⟨sound, _, .item _ ?_ ?_ ?_, engine.newsPublish _ _⟩
      · simp [shown, ran]
      · have before : shift.shown = some (.running shift.worker.runId) := by simp [shown, ran]
        rw [before]
        exact .ends shift.worker.runId found.outcome
      · simp [news, reach, ran]
  | frees found told =>
      simp only [told] at sound
      refine ⟨sound, [], .nothing ?_ ?_, (List.append_nil _).symm⟩
      · simp [shown, reach, told]
      · simp [news, reach, told]
  | closes found freed =>
      refine ⟨trivial, _, .item _ ?_ ?_ ?_, engine.newsPublish _ _⟩
      · simp [shown, freed]
      · have before : shift.shown = some (.ended shift.worker.runId) := by simp [shown, freed]
        rw [before]
        exact .rests shift.worker.runId
      · simp [news, reach, freed, roundOf]

end Shift

namespace Floor

/-- As long as a run is active or shows something, nothing is told of the runs after it. -/
def Precedes (earlier later : Shift device) : Prop :=
  earlier.isActive = true ∨ earlier.shown ≠ none → later.news = []

/-- An observer knows of the one run that shows something, if there is one. -/
structure Told (floor : Floor device) (known : Option Observed) : Prop where
  exclusive : floor.Exclusive
  sound : ∀ shift ∈ floor.shifts, shift.Sound
  ordered : floor.shifts.Pairwise Precedes
  news : floor.engine.stateNews = floor.shifts.flatMap Shift.news
  observed : Observed.observeAll floor.engine.stateNews = some known
  shown : known.toList = floor.shifts.filterMap Shift.shown

theorem shownSplit (before after : List (Shift device)) (shift : Shift device) :
    (before ++ shift :: after).filterMap Shift.shown =
      before.filterMap Shift.shown ++ (shift.shown.toList ++ after.filterMap Shift.shown) := by
  rw [List.filterMap_append, List.filterMap_cons]
  cases shift.shown <;> rfl

/-- Where one shift shows something, no other one does. -/
theorem shownAlone {known : Option Observed} {before after : List Observed} {one : Observed}
    (shown : known.toList = before ++ ((some one).toList ++ after)) :
    known = some one ∧ before = [] ∧ after = [] := by
  cases known with
  | none => cases before <;> cases shown
  | some other =>
      cases before with
      | nil =>
          cases shown
          exact ⟨rfl, rfl, rfl⟩
      | cons head rest => cases rest <;> cases shown

theorem shownNothing {shift : Shift device} (inactive : shift.isActive = false)
    (clear : shift.lingers = false) : shift.shown = none := by
  unfold Shift.isActive at inactive
  unfold Shift.lingers at clear
  unfold Shift.shown
  split at clear <;> simp_all [WorkerStage.isActive]
  split <;> simp_all

theorem newsSplit (before after : List (Shift device)) (shift : Shift device) :
    (before ++ shift :: after).flatMap Shift.news =
      before.flatMap Shift.news ++ (shift.news ++ after.flatMap Shift.news) := by
  rw [List.flatMap_append, List.flatMap_cons]

theorem orderedReplaced {before after : List (Shift device)} {shift later : Shift device}
    (ordered : (before ++ shift :: after).Pairwise Precedes)
    (earlier : ∀ other ∈ before, Precedes other shift → Precedes other later)
    (following : ∀ other ∈ after, Precedes shift other → Precedes later other) :
    (before ++ later :: after).Pairwise Precedes := by
  rw [List.pairwise_append, List.pairwise_cons] at ordered ⊢
  obtain ⟨first, ⟨behind, second⟩, across⟩ := ordered
  refine ⟨first, ⟨fun other member => following other member (behind other member), second⟩, ?_⟩
  intro other member next isNext
  obtain rfl | after := List.mem_cons.mp isNext
  · exact earlier other member (across other member shift List.mem_cons_self)
  · exact across other member next (List.mem_cons_of_mem _ after)

/-- What one shift tells is what the observer learns, and the other shifts tell nothing. -/
theorem Told.goesOn {floor : Floor device} {known : Option Observed} (told : floor.Told known)
    {before after : List (Shift device)} {shift later : Shift device} {engine : Engine device}
    (shifts : floor.shifts = before ++ shift :: after)
    (exclusive : (Floor.mk engine (before ++ later :: after)).Exclusive)
    (goes : shift.Goes floor.engine engine later) :
    ∃ known, (Floor.mk engine (before ++ later :: after)).Told known := by
  obtain ⟨-, sounds, ordered, news, observed, shown⟩ := told
  rw [shifts] at sounds ordered news shown
  have here : shift ∈ before ++ shift :: after := List.mem_append_right _ List.mem_cons_self
  obtain ⟨sound, items, tells, stateNews⟩ := goes.tellsNews (sounds shift here)
  have following : ∀ other ∈ after, Precedes shift other → Precedes later other := by
    intro other _ precedes reason
    refine precedes (reason.imp ?_ tells.shownBefore)
    obtain ⟨sameActivity, -⟩ | ⟨active, -, -⟩ := goes.activity
    · rw [sameActivity]
      exact id
    · exact fun _ => active
  rw [shownSplit] at shown
  rw [newsSplit] at news
  cases tells with
  | nothing sameShown sameNews =>
      refine ⟨known, exclusive, allReplaced sounds sound, ?_, ?_, ?_, ?_⟩
      · refine orderedReplaced ordered (fun other _ precedes reason => ?_) following
        rw [sameNews]
        exact precedes reason
      · rw [newsSplit, stateNews, List.append_nil, sameNews]
        exact news
      · rw [stateNews, List.append_nil]
        exact observed
      · rw [shownSplit, sameShown]
        exact shown
  | item item isKnown learns more =>
      have quiet : after.flatMap Shift.news = [] := by
        rw [List.pairwise_append, List.pairwise_cons] at ordered
        exact List.flatMap_eq_nil_iff.mpr fun other member =>
          ordered.2.1.1 other member (.inr isKnown)
      obtain ⟨one, isOne⟩ := Option.ne_none_iff_exists'.mp isKnown
      rw [isOne] at shown learns
      obtain ⟨rfl, early, late⟩ := shownAlone shown
      refine ⟨later.shown, exclusive, allReplaced sounds sound, ?_, ?_, ?_, ?_⟩
      · refine orderedReplaced ordered (fun other member precedes reason => ?_) following
        exact absurd (precedes reason) (Shift.newsOfShown isKnown)
      · rw [newsSplit, stateNews, news, more, quiet, List.append_nil, List.append_nil,
          List.append_assoc]
      · rw [stateNews, Observed.observeLast, observed]
        exact learns.observed
      · rw [shownSplit, early, late, List.append_nil]
        rfl

/-- A run that begins has told nothing, and it comes after all others. -/
theorem Told.opens {floor : Floor device} {known : Option Observed} (told : floor.Told known)
    (engine : Engine device) (shift : Shift device) (feed : engine.feed = floor.engine.feed)
    (accepted : shift.worker.stage = .accepted) (silent : shift.announced = false)
    (exclusive : (Floor.mk engine (floor.shifts ++ [shift])).Exclusive) :
    (Floor.mk engine (floor.shifts ++ [shift])).Told known := by
  have nothing : shift.news = [] := by simp [Shift.news, accepted]
  have hidden : shift.shown = none := by simp [Shift.shown, accepted]
  have stateNews : engine.stateNews = floor.engine.stateNews := by
    rw [Engine.stateNews, feed, Engine.stateNews]
  refine ⟨exclusive, ?_, ?_, ?_, ?_, ?_⟩
  · intro other member
    obtain early | same := List.mem_append.mp member
    · exact told.sound other early
    · rw [List.mem_singleton.mp same]
      simpa [Shift.Sound, accepted] using silent
  · refine List.pairwise_append.mpr ⟨told.ordered, List.pairwise_singleton _ _, ?_⟩
    intro other _ last isLast _
    rw [List.mem_singleton.mp isLast]
    exact nothing
  · rw [stateNews, told.news, List.flatMap_append, List.flatMap_singleton, nothing, List.append_nil]
  · rw [stateNews]
    exact told.observed
  · rw [told.shown, List.filterMap_append, List.filterMap_cons_none hidden, List.filterMap_nil,
      List.append_nil]

/-- A run that is announced when no other one lingers is the only one that shows something. -/
theorem Told.announces {floor : Floor device} {known : Option Observed} (told : floor.Told known)
    {before after : List (Shift device)} {shift : Shift device}
    (shifts : floor.shifts = before ++ shift :: after) (accepted : shift.worker.stage = .accepted)
    (clear : ∀ shift ∈ floor.shifts, shift.lingers = false)
    (exclusive : (Floor.mk (floor.engine.publish shift.worker.runId .running)
      (before ++ { shift with announced := true }.reach .ready :: after)).Exclusive) :
    (Floor.mk (floor.engine.publish shift.worker.runId .running)
      (before ++ { shift with announced := true }.reach .ready :: after)).Told
        (some (.running shift.worker.runId)) := by
  have active := Shift.activeOfAccepted accepted
  obtain ⟨idleBefore, idleAfter⟩ := told.exclusive.othersInactive shifts active
  obtain ⟨-, sounds, ordered, news, observed, shown⟩ := told
  rw [shifts] at sounds ordered news shown clear
  have hidden (other : Shift device) (inactive : other.isActive = false)
      (member : other ∈ before ++ shift :: after) : other.shown = none :=
    shownNothing inactive (clear other member)
  have early : before.filterMap Shift.shown = [] :=
    List.filterMap_eq_nil_iff.mpr fun other member =>
      hidden other (idleBefore other member) (List.mem_append_left _ member)
  have late : after.filterMap Shift.shown = [] :=
    List.filterMap_eq_nil_iff.mpr fun other member => hidden other (idleAfter other member)
      (List.mem_append_right _ (List.mem_cons_of_mem _ member))
  have quiet : after.flatMap Shift.news = [] := by
    rw [List.pairwise_append, List.pairwise_cons] at ordered
    exact List.flatMap_eq_nil_iff.mpr fun other member =>
      ordered.2.1.1 other member (.inl active)
  have waits : shift.shown = none := by simp [Shift.shown, accepted]
  have nothing : shift.news = [] := by simp [Shift.news, accepted]
  rw [newsSplit, nothing, quiet] at news
  rw [shownSplit, early, late, waits] at shown
  have unknown : known = none := by cases known <;> simp_all
  refine ⟨exclusive, allReplaced sounds rfl, ?_, ?_, ?_, ?_⟩
  · refine orderedReplaced ordered (fun other member _ reason => ?_)
      fun other _ precedes _ => precedes (.inl active)
    rw [idleBefore other member,
      hidden other (idleBefore other member) (List.mem_append_left _ member)] at reason
    simp at reason
  · rw [newsSplit, Engine.newsPublish, news, quiet, List.nil_append, List.append_nil,
      List.append_nil]
    rfl
  · rw [Engine.newsPublish, Observed.observeLast, observed, unknown]
    rfl
  · rw [shownSplit, early, late]
    rfl

/-- As long as no run is announced too early, an observer knows what the shifts show. -/
theorem Goes.told {floor later : Floor device} {turn : Turn} {known : Option Observed}
    (goes : floor.Goes turn later) (told : floor.Told known)
    (clear : floor.announces turn = true → ∀ shift ∈ floor.shifts, shift.lingers = false) :
    ∃ known, later.Told known := by
  have exclusive := goes.exclusive told.exclusive
  cases goes with
  | stays => exact ⟨known, told⟩
  | opens script runId overrides engine worker silent accepted =>
      obtain ⟨-, -, rfl, rfl⟩ := Engine.acceptedOf accepted
      exact ⟨known, told.opens _ _ rfl rfl rfl exclusive⟩
  | announces before after shift shifts accepted announced =>
      exact ⟨_, told.announces shifts accepted (clear announced) exclusive⟩
  | goesOn before after shift later engine shifts silent goes =>
      exact told.goesOn shifts exclusive goes

/-- A run that is announced while another one lingers leaves an observer at a loss. -/
theorem Goes.disorder {floor later : Floor device} {turn : Turn} {known : Option Observed}
    (goes : floor.Goes turn later) (told : floor.Told known)
    (announced : floor.announces turn = true) (lingers : floor.shifts.any Shift.lingers = true) :
    Observed.observeAll later.engine.stateNews = none := by
  obtain ⟨other, member, isLingering⟩ := List.any_eq_true.mp lingers
  have isShown : other.shown ≠ none := by
    unfold Shift.lingers at isLingering
    unfold Shift.shown
    split at isLingering <;> simp_all
  have isKnown : known ≠ none := by
    rintro rfl
    have nothing := List.filterMap_eq_nil_iff.mp told.shown.symm
    exact isShown (nothing other member)
  cases goes with
  | stays silent => simp [silent] at announced
  | opens script runId overrides engine worker silent => simp [silent] at announced
  | goesOn before after shift later engine shifts silent => simp [silent] at announced
  | announces before after shift =>
      rw [Engine.newsPublish, Observed.observeLast, told.observed]
      obtain ⟨one, rfl⟩ := Option.ne_none_iff_exists'.mp isKnown
      cases one <;> simp [Observed.observe, EngineState.isOutcome]

/-- An observer who is at a loss stays so. -/
theorem disorderStays {floor : Floor device} (turns : List Turn)
    (disorder : Observed.observeAll floor.engine.stateNews = none) :
    Observed.observeAll (floor.takeTurns turns).engine.stateNews = none := by
  obtain ⟨⟨more, grown⟩, -⟩ := floor.takeTurnsGrows turns
  rw [Engine.stateNews, ← grown, List.filterMap_append, Observed.observeAppend]
  rw [Engine.stateNews] at disorder
  rw [disorder]
  rfl

/-- The observer is at a loss exactly if some run is announced while another one lingers. -/
theorem Told.takeTurns {floor : Floor device} {known : Option Observed} (told : floor.Told known)
    (turns : List Turn) :
    if floor.heeds Shift.lingers turns = true then
      ∃ known, (floor.takeTurns turns).Told known
    else Observed.observeAll (floor.takeTurns turns).engine.stateNews = none := by
  induction turns generalizing floor known with
  | nil => exact ⟨known, told⟩
  | cons turn rest inductionHypothesis =>
      have goes := floor.takeTurnGoes turn
      rw [heeds]
      cases early : floor.announces turn && floor.shifts.any Shift.lingers with
      | true =>
          rw [Bool.and_eq_true] at early
          simp only [Bool.not_true, Bool.false_and, Bool.false_eq_true, if_false]
          exact disorderStays rest (goes.disorder told early.1 early.2)
      | false =>
          have clear : floor.announces turn = true →
              ∀ shift ∈ floor.shifts, shift.lingers = false := by
            intro announced
            simpa [announced] using early
          obtain ⟨later, toldLater⟩ := goes.told told clear
          simp only [Bool.not_false, Bool.true_and]
          exact inductionHypothesis toldLater

theorem toldOpened (place : Workplace device) (state : device) : (opened place state).Told none where
  exclusive := .inr ⟨rfl, rfl⟩
  sound _ member := absurd member List.not_mem_nil
  ordered := .nil
  news := rfl
  observed := rfl
  shown := rfl

/-! ### Where an observer ends -/

/-- An observer who replays all news about the state of an engine ends with this state. -/
def displayed (floor : Floor device) : EngineState :=
  (floor.engine.stateNews.getLast?.map Prod.snd).getD .idle

theorem displayedIdle {floor : Floor device} {known : Option Observed}
    (observed : Observed.observeAll floor.engine.stateNews = some known) :
    floor.displayed = .idle ↔ known = none := by
  rw [displayed]
  generalize floor.engine.stateNews = news at observed
  cases news using List.reverseRecOn with
  | nil =>
      cases observed
      simp
  | append_singleton earlier item =>
      rw [Observed.observeLast, Option.bind_eq_some_iff] at observed
      obtain ⟨before, -, isAfter⟩ := observed
      rw [List.getLast?_concat]
      cases Observed.learnsOf isAfter with
      | begins runId => simp
      | ends runId outcome => cases outcome <;> simp [EngineState.ofOutcome]
      | rests runId => simp

/-- A run shows nothing exactly if it has not been announced or everything has been told of it. -/
theorem shownNoneIff {shift : Shift device} (sound : shift.Sound) :
    shift.shown = none ↔
      (shift.announced = true → ∃ found, shift.worker.stage = .over (some found)) := by
  unfold Shift.Sound at sound
  unfold Shift.shown
  cases stage : shift.worker.stage with
  | accepted => simp_all
  | ready => simp_all
  | ran found => simp_all
  | told found => simp_all
  | freed found => simp_all
  | _ =>
      rename_i report
      cases report <;> simp

theorem Told.displayed {floor : Floor device} {known : Option Observed}
    (told : floor.Told known) :
    floor.displayed = .idle ↔ ∀ shift ∈ floor.shifts, shift.announced = true →
      ∃ found, shift.worker.stage = .over (some found) := by
  have nothing : known = none ↔ ∀ shift ∈ floor.shifts, shift.shown = none := by
    rw [← List.filterMap_eq_nil_iff, ← told.shown]
    cases known <;> simp
  rw [displayedIdle told.observed, nothing]
  exact forall₂_congr fun shift member => shownNoneIff (told.sound shift member)

/--
The news about the state of an engine are those of one run after the other exactly if no run is
announced while another one lingers: one that broke down after it had been announced, or that gave
the engine back but has not published yet that it is idle. Then every run has told that it is
running, its outcome, and that the engine is idle, as far as it has come, and an observer ends on
idle exactly if every run that was announced has told everything.
-/
theorem lifeCyclesTold (place : Workplace device) (state : device) (turns : List Turn) :
    let floor := (opened place state).takeTurns turns
    (RunAfterRun floor.engine.stateNews ↔
        (opened place state).heeds Shift.lingers turns = true) ∧
      (RunAfterRun floor.engine.stateNews →
        floor.engine.stateNews = floor.shifts.flatMap Shift.news ∧
        (floor.displayed = .idle ↔ ∀ shift ∈ floor.shifts, shift.announced = true →
          ∃ found, shift.worker.stage = .over (some found))) := by
  intro floor
  have observing := (toldOpened place state).takeTurns turns
  rw [Observed.runAfterRunIff]
  cases heeded : (opened place state).heeds Shift.lingers turns with
  | true =>
      rw [heeded, if_pos rfl] at observing
      obtain ⟨known, told⟩ := observing
      have ordered : (Observed.observeAll floor.engine.stateNews).isSome = true := by
        rw [told.observed]
        rfl
      exact ⟨iff_of_true ordered rfl, fun _ => ⟨told.news, told.displayed⟩⟩
  | false =>
      rw [heeded, if_neg Bool.false_ne_true] at observing
      have disorder : ¬(Observed.observeAll floor.engine.stateNews).isSome = true := by
        rw [observing]
        exact Bool.false_ne_true
      exact ⟨iff_of_false disorder Bool.false_ne_true, fun ordered => absurd ordered disorder⟩

/-- This workplace has a keyboard that breaks down when it is used. -/
def jammed : Workplace Unit :=
  { Workplace.idle with devices := { Devices.idle with input := fun state _ => (state, .brokeDown) } }

/-- A run is started that types a text, and its worker goes on until the run is over. -/
def jammedTyping : List Turn :=
  let greeting := { Script.new "script" "greet" .epoch with steps := [Step.newType "greet" "hi"] }
  .start greeting "run" .empty :: List.replicate 8 (.work 0)

/-- A second run is announced after the first one gave the engine back, before it told so. -/
def announcedEarly : List Turn :=
  let nothing := Script.new "script" "rest" .epoch
  .start nothing "first" .empty :: List.replicate 5 (.work 0) ++
    [.start nothing "second" .empty, .work 1, .work 0]

/-- An observer never learns that a run broke down, and may be told of two runs at a time. -/
theorem runningForEver :
    (((opened jammed ()).takeTurns jammedTyping).shifts.any Shift.isActive = false ∧
      ((opened jammed ()).takeTurns jammedTyping).engine.state = .idle ∧
      ((opened jammed ()).takeTurns jammedTyping).engine.stateNews = [("run", .running)] ∧
      ((opened jammed ()).takeTurns jammedTyping).displayed = .running) ∧
    ((opened .idle ()).takeTurns announcedEarly).engine.stateNews =
        [("first", .running), ("first", .completed), ("second", .running), ("first", .idle)] ∧
      ¬RunAfterRun ((opened .idle ()).takeTurns announcedEarly).engine.stateNews := by
  have broken : (((opened jammed ()).takeTurns jammedTyping).shifts.any Shift.isActive = false ∧
      ((opened jammed ()).takeTurns jammedTyping).engine.state = .idle ∧
      ((opened jammed ()).takeTurns jammedTyping).engine.stateNews = [("run", .running)] ∧
      ((opened jammed ()).takeTurns jammedTyping).displayed = .running) := by decide +kernel
  have early : ((opened .idle ()).takeTurns announcedEarly).engine.stateNews =
      [("first", .running), ("first", .completed), ("second", .running), ("first", .idle)] := by
    decide +kernel
  refine ⟨broken, early, ?_⟩
  rw [early, Observed.runAfterRunIff]
  decide

end Floor

end DeskScript
