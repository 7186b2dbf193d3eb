/-
This file says when a search looks at the screen and how it ends. Its looks are timed by their own
durations, by the poll interval and by the time that the search has.
-/

import DeskScript.Proofs.Run.Requests
import DeskScript.Proofs.Run.Returning
import Mathlib.Logic.Function.Iterate

namespace DeskScript

variable {device : Type} {place : Workplace device}

/-! ### Times of looks -/

/--
This is what a search comes upon: when it begins, how much time it has, how long it sleeps at most
between two looks, and for the look at each index how long it takes and how it is answered.
-/
structure Looking where
  begun : Nat
  timeout : Nat
  interval : Nat
  duration : Nat → Nat
  answer : Nat → LookAnswer

namespace Looking

/-- After a look there is a pause of the interval, but not beyond the time of the search. -/
def start (looking : Looking) : Nat → Nat
  | 0 => looking.begun
  | index + 1 =>
      let finish := looking.start index + looking.duration index
      finish + min looking.interval (looking.timeout - (finish - looking.begun))

def finish (looking : Looking) (index : Nat) : Nat :=
  looking.start index + looking.duration index

def deadline (looking : Looking) : Nat := looking.begun + looking.timeout

/-- The looks before this one have seen nothing, and they were over before the deadline. -/
def Comes (looking : Looking) (index : Nat) : Prop :=
  ∀ earlier < index, looking.answer earlier = .nothing ∧ looking.finish earlier < looking.deadline

theorem Comes.next {looking : Looking} {index : Nat} (comes : looking.Comes index)
    (nothing : looking.answer index = .nothing)
    (early : looking.finish index < looking.deadline) : looking.Comes (index + 1) := by
  intro earlier less
  obtain less | rfl := Nat.lt_succ_iff_lt_or_eq.mp less
  · exact comes earlier less
  · exact ⟨nothing, early⟩

theorem begunLeStart (looking : Looking) (index : Nat) : looking.begun ≤ looking.start index := by
  induction index with
  | zero => exact Nat.le_refl _
  | succ index inductionHypothesis =>
      rw [start]
      omega

theorem startInTime {looking : Looking} {index : Nat} (comes : looking.Comes index) :
    looking.start index ≤ looking.deadline := by
  cases index with
  | zero => exact Nat.le_add_right _ _
  | succ index =>
      have early := (comes index (Nat.lt_succ_self index)).2
      have begun := looking.begunLeStart index
      rw [start]
      rw [finish, deadline] at early
      rw [deadline]
      omega

/-- Looks that take no time come at the multiples of the interval until the deadline. -/
theorem startMomentary {looking : Looking} {index : Nat}
    (momentary : ∀ earlier < index, looking.duration earlier = 0) :
    looking.start index = looking.begun + min (index * looking.interval) looking.timeout := by
  induction index with
  | zero => rw [start, Nat.zero_mul, Nat.zero_min, Nat.add_zero]
  | succ index inductionHypothesis =>
      have earlier := inductionHypothesis fun other less =>
        momentary other (Nat.lt_succ_of_lt less)
      rw [start, momentary index (Nat.lt_succ_self index), earlier, Nat.succ_mul]
      omega

/--
This is how a search keeps its time when it ends with the look at an index. If nothing is seen in
this look either, it comes to its end after the deadline, but has begun before.
-/
structure KeepsTime (looking : Looking) (last : Nat) : Prop where
  comes : looking.Comes last
  inTime : ∀ index ≤ last, looking.start index ≤ looking.deadline
  missed : looking.answer last = .nothing →
    looking.deadline ≤ looking.finish last ∧
      looking.finish last ≤ looking.deadline + looking.duration last
  momentary : (∀ index ≤ last, looking.duration index = 0 ∧ looking.answer index = .nothing) →
    last = (looking.timeout + looking.interval - 1) / looking.interval ∧
      (∀ index < last, looking.start index = looking.begun + index * looking.interval) ∧
      looking.start last = looking.deadline ∧ looking.finish last = looking.deadline

theorem keepsTime {looking : Looking} (pauses : 0 < looking.interval) {last : Nat}
    (comes : looking.Comes last)
    (late : looking.answer last = .nothing → looking.deadline ≤ looking.finish last) :
    looking.KeepsTime last where
  comes := comes
  inTime index inside :=
    startInTime fun earlier less => comes earlier (Nat.lt_of_lt_of_le less inside)
  missed nothing := by
    refine ⟨late nothing, ?_⟩
    exact Nat.add_le_add_right (startInTime comes) _
  momentary each := by
    have starts (index : Nat) (inside : index ≤ last) :
        looking.start index = looking.begun + min (index * looking.interval) looking.timeout :=
      startMomentary fun earlier less =>
        (each earlier (Nat.le_of_lt (Nat.lt_of_lt_of_le less inside))).1
    have isFinish (index : Nat) (inside : index ≤ last) :
        looking.finish index = looking.start index := by
      rw [finish, (each index inside).1, Nat.add_zero]
    have early (index : Nat) (less : index < last) :
        index * looking.interval < looking.timeout := by
      have before := (comes index less).2
      rw [isFinish index (Nat.le_of_lt less), starts index (Nat.le_of_lt less), deadline] at before
      omega
    have spent : looking.timeout ≤ last * looking.interval := by
      have after := late (each last (Nat.le_refl last)).2
      rw [isFinish last (Nat.le_refl last), starts last (Nat.le_refl last), deadline] at after
      omega
    have atDeadline : looking.start last = looking.deadline := by
      rw [starts last (Nat.le_refl last), deadline]
      omega
    refine ⟨?_, fun index less => ?_, atDeadline, ?_⟩
    · refine (Nat.div_eq_of_lt_le ?_ ?_).symm
      · cases last with
        | zero => omega
        | succ index =>
            have before := early index (Nat.lt_succ_self index)
            rw [Nat.succ_mul]
            omega
      · rw [Nat.succ_mul]
        omega
    · have before := early index less
      rw [starts index (Nat.le_of_lt less)]
      omega
    · rw [isFinish last (Nat.le_refl last), atDeadline]

end Looking

/-! ### Looks in a row -/

namespace Devices

variable (devices : Devices device) (look : Look) (state : device)

/-- A look that is not stopped leaves the devices in this state. -/
def afterLook : device := (devices.look (devices.note state (.look look)).1 look).1

def lookDuration : Nat := (devices.note state (.look look)).2.delay

def lookAnswer : LookAnswer := (devices.look (devices.note state (.look look)).1 look).2

end Devices

theorem Session.lookAnswered {session after : Session device} {look : Look} {answer : LookAnswer}
    (looked : session.look place look = (after, .ok answer)) :
    after.context.now =
        session.context.now + place.devices.lookDuration look session.device ∧
      after.device = place.devices.afterLook look session.device ∧
      answer = place.devices.lookAnswer look session.device := by
  have notedNow := session.noteNow place (.look look)
  have notedDevice : (session.note place (.look look)).1.device =
      (place.devices.note session.device (.look look)).1 := rfl
  have isDuration : (session.note place (.look look)).2 =
      place.devices.lookDuration look session.device := rfl
  rw [Session.look] at looked
  generalize session.note place (.look look) = noting at notedNow notedDevice isDuration looked
  obtain ⟨noted, delay⟩ := noting
  have worked := noted.context.workUninterrupted delay
  dsimp only at notedNow notedDevice isDuration looked
  generalize noted.context.work delay = working at worked looked
  obtain ⟨context, _ | reason⟩ := working
  · cases looked
    refine ⟨?_, ?_, ?_⟩
    · rw [← notedNow, ← isDuration]
      exact worked rfl
    · rw [Devices.afterLook, ← notedDevice]
      rfl
    · rw [Devices.lookAnswer, ← notedDevice]
      rfl
  · cases looked

/-- The looks of a search come one after another as long as nothing else uses the devices. -/
def Looking.of (place : Workplace device) (wait : Leaf.Wait) (state : device) : Looking where
  begun := wait.startedAt
  timeout := wait.timeout
  interval := place.config.pollWait
  duration index :=
    place.devices.lookDuration wait.look ((place.devices.afterLook wait.look)^[index] state)
  answer index :=
    place.devices.lookAnswer wait.look ((place.devices.afterLook wait.look)^[index] state)

namespace Leaf

/-- This is how a search does not end if it is neither cancelled nor has trouble with a device. -/
inductive PollEnd.Interrupted : PollEnd → Prop where
  | aborted (abort : Abort) : Interrupted (.failed (.aborted abort))
  | unavailable (unavailable : Unavailable) : Interrupted (.failed (.unavailable unavailable))
  | brokeDown : Interrupted .brokeDown

/-- These are the calls of the first looks of a search. -/
def looks (looking : Looking) (look : Look) (count : Nat) : List CallRecord :=
  (List.range count).map fun index => ⟨looking.start index, .look look⟩

theorem looksNext (looking : Looking) (look : Look) (count : Nat) :
    looks looking look (count + 1) =
      looks looking look count ++ [⟨looking.start count, .look look⟩] := by
  rw [looks, List.range_succ, List.map_append]
  rfl

/-- A search that began in one state has come to the look at an index in another one. -/
structure Reached (place : Workplace device) (wait : Wait) (first : Session device) (index : Nat)
    (session : Session device) : Prop where
  device : session.device = (place.devices.afterLook wait.look)^[index] first.device
  now : session.context.now = (Looking.of place wait first.device).start index
  calls : session.calls.toList =
    first.calls.toList ++ looks (.of place wait first.device) wait.look index
  comes : (Looking.of place wait first.device).Comes index

/-- After the last look of a search the time and the calls are these. -/
structure Finished (place : Workplace device) (wait : Wait) (first : Session device) (last : Nat)
    (after : Session device) : Prop where
  now : after.context.now = (Looking.of place wait first.device).finish last
  calls : after.calls.toList =
    first.calls.toList ++ looks (.of place wait first.device) wait.look (last + 1)

section

variable {wait : Wait} {first session after : Session device} {index : Nat}

theorem Reached.zero (begins : wait.startedAt = first.context.now) :
    Reached place wait first 0 first where
  device := rfl
  now := begins.symm
  calls := (List.append_nil _).symm
  comes := nofun

/-- The look at an index is answered when its time is over. -/
theorem Reached.looked (reached : Reached place wait first index session) {answer : LookAnswer}
    (looked : session.look place wait.look = (after, .ok answer)) :
    Finished place wait first index after ∧
      after.device = (place.devices.afterLook wait.look)^[index + 1] first.device ∧
      answer = (Looking.of place wait first.device).answer index := by
  have proceeds : Session.Proceeds session (session.look place wait.look).1 _ :=
    session.lookProceeds wait.look
  rw [looked] at proceeds
  obtain ⟨isNow, isDevice, isAnswer⟩ := Session.lookAnswered looked
  rw [reached.device] at isNow isDevice isAnswer
  refine ⟨⟨?_, ?_⟩, ?_, isAnswer⟩
  · rw [isNow, reached.now]
    rfl
  · rw [proceeds.calls, reached.calls, reached.now, looksNext, List.append_assoc]
  · rw [isDevice, Function.iterate_succ_apply']

/-- A round after which a search goes on has seen nothing, and brings it to its next look. -/
theorem Reached.next (reached : Reached place wait first index session)
    (goesOn : searchRound place wait index session = (after, none)) :
    Reached place wait first (index + 1) after := by
  rw [searchRound] at goesOn
  split at goesOn
  · cases goesOn
  generalize isLooked : session.look place wait.look = looking at goesOn
  obtain ⟨looked, reason | found | _ | unavailable | _⟩ := looking
  · cases goesOn
  · cases goesOn
  · obtain ⟨finished, isDevice, isAnswer⟩ := reached.looked isLooked
    dsimp only at goesOn
    split at goesOn
    · cases goesOn
    rename_i early
    generalize isDuration : min place.config.pollWait
      (wait.timeout - (looked.context.now - wait.startedAt)) = duration at goesOn
    have slept := looked.context.sleepUninterrupted duration
    rw [Session.sleep] at goesOn
    generalize looked.context.sleep duration = sleeping at slept goesOn
    obtain ⟨context, _ | reason⟩ := sleeping
    · cases goesOn
      have lasted := slept rfl
      dsimp only at lasted
      have inTime : (Looking.of place wait first.device).finish index <
          (Looking.of place wait first.device).deadline := by
        have begun := (Looking.of place wait first.device).begunLeStart index
        rw [finished.now] at early
        rw [Looking.deadline]
        dsimp only [Looking.of, Looking.finish] at early begun ⊢
        omega
      exact {
        device := isDevice
        now := by
          rw [lasted, ← isDuration, finished.now]
          rfl
        calls := finished.calls
        comes := reached.comes.next isAnswer.symm inTime }
    · cases goesOn
  · cases goesOn
  · cases goesOn

/-- A round ends its search with a match, or with a look that was over too late. -/
theorem Reached.ends (reached : Reached place wait first index session) {ending : PollEnd}
    (isRound : searchRound place wait index session = (after, some ending))
    (uninterrupted : ¬ ending.Interrupted) :
    Finished place wait first index after ∧
      ((∃ found, (Looking.of place wait first.device).answer index = .found found ∧
          ending = .found found) ∨
        ((Looking.of place wait first.device).answer index = .nothing ∧
          (Looking.of place wait first.device).deadline ≤
            (Looking.of place wait first.device).finish index ∧
          ending = .failed (wait.expired (index + 1)))) := by
  rw [searchRound] at isRound
  split at isRound
  · cases isRound
    exact absurd (.aborted _) uninterrupted
  generalize isLooked : session.look place wait.look = looking at isRound
  obtain ⟨looked, reason | found | _ | unavailable | _⟩ := looking
  · cases isRound
    exact absurd (.aborted _) uninterrupted
  · cases isRound
    obtain ⟨finished, -, isAnswer⟩ := reached.looked isLooked
    exact ⟨finished, .inl ⟨found, isAnswer.symm, rfl⟩⟩
  · obtain ⟨finished, -, isAnswer⟩ := reached.looked isLooked
    dsimp only at isRound
    split at isRound
    · rename_i late
      cases isRound
      refine ⟨finished, .inr ⟨isAnswer.symm, ?_, rfl⟩⟩
      rw [finished.now] at late
      have begun := (Looking.of place wait first.device).begunLeStart index
      rw [Looking.deadline]
      dsimp only [Looking.of, Looking.finish] at late begun ⊢
      omega
    · generalize looked.sleep _ = sleeping at isRound
      obtain ⟨later, _ | reason⟩ := sleeping
      · cases isRound
      · cases isRound
        exact absurd (.aborted _) uninterrupted
  · cases isRound
    exact absurd (.unavailable _) uninterrupted
  · cases isRound
    exact absurd .brokeDown uninterrupted

/-- A search that is not interrupted ends with a look that is too late or that sees something. -/
theorem Searches.keepsTime {ending : PollEnd}
    (searches : Searches place wait index session (after, ending))
    (reached : Reached place wait first index session) (uninterrupted : ¬ ending.Interrupted) :
    ∃ last, (Looking.of place wait first.device).KeepsTime last ∧
      Finished place wait first last after ∧
      ((∃ found, (Looking.of place wait first.device).answer last = .found found ∧
          ending = .found found) ∨
        ((Looking.of place wait first.device).answer last = .nothing ∧
          ending = .failed (wait.expired (last + 1)))) := by
  generalize isResult : (after, ending) = result at searches
  induction searches with
  | @ends index session later isEnding isRound =>
      cases isResult
      have pauses : 0 < (Looking.of place wait first.device).interval := Nat.le_max_right _ _
      obtain ⟨finished, ⟨found, answered, isFound⟩ | ⟨answered, late, isExpired⟩⟩ :=
        reached.ends isRound uninterrupted
      · refine ⟨index, Looking.keepsTime pauses reached.comes ?_, finished,
          .inl ⟨found, answered, isFound⟩⟩
        intro nothing
        rw [answered] at nothing
        cases nothing
      · exact ⟨index, Looking.keepsTime pauses reached.comes fun _ => late, finished,
          .inr ⟨answered, isExpired⟩⟩
  | goesOn isRound further inductionHypothesis =>
      exact inductionHypothesis (reached.next isRound) isResult

end

/-! ### Searches of an action -/

/-- This is what an action waits for that searches from now on. -/
def searchWait (stepId : String) (session : Session device) (target : Target)
    (sensing : Sensing) : Wait :=
  ⟨stepId, ⟨target, sensing.region, sensing.threshold⟩, sensing.timeout.toNat,
    session.context.now⟩

/-- The search of an action begins when its output variables have been cleared. -/
def search (place : Workplace device) (stepId : String) (session : Session device)
    (target : Target) (sensing : Sensing) : Session device × PollEnd :=
  poll place (searchWait stepId session target sensing) (sensing.timeout.toNat + 1) 0
    (clearOutputs session sensing.output)

theorem clearOutputsBindings (session : Session device) (output : Option String) :
    clearOutputs session output =
      { session with bindings := (clearOutputs session output).bindings } := by
  cases output <;> rfl

theorem senseSearches (place : Workplace device) (stepId : String) (session : Session device)
    (notes : StepNotes) (target : Target) (sensing : Sensing) :
    sense place stepId session notes target sensing =
      match search place stepId session target sensing with
      | (after, .found found) => useMatch place after notes sensing found
      | (after, .failed failure) => ⟨after, notes, .failed failure⟩
      | (after, .brokeDown) => ⟨after, notes, .brokeDown⟩ := by
  have cleared : searchWait stepId session target sensing =
      searchWait stepId (clearOutputs session sensing.output) target sensing := by
    rw [clearOutputsBindings]
    rfl
  rw [sense, search, cleared]
  rfl

/-- An action that looks for something searches for a target, and takes the notes of its request. -/
theorem actSearches (place : Workplace device) (stepId : String) (session : Session device)
    {action : Action} {sensing : Sensing} (isSensing : sensing? action = some sensing) :
    ∃ target, request session.bindings action =
        (.ok (.search target sensing), (request session.bindings action).2) ∧
      act place stepId session action =
        sense place stepId session (request session.bindings action).2 target sensing := by
  cases action with
  | waitImage template own =>
      cases isSensing
      exact ⟨_, rfl, rfl⟩
  | searchText query exactly own =>
      cases isSensing
      exact ⟨_, rfl, rfl⟩
  | _ => cases isSensing

/-- This is what the search of an action comes upon that begins in this state. -/
def searchLooking (place : Workplace device) (stepId : String) (session : Session device)
    (target : Target) (sensing : Sensing) : Looking :=
  .of place (searchWait stepId session target sensing) session.device

/-- A search that is not interrupted keeps its time and ends with the last of its looks. -/
theorem searchKeepsTime {stepId : String} {session : Session device} {target : Target}
    {sensing : Sensing}
    (uninterrupted : ¬ (search place stepId session target sensing).2.Interrupted) :
    let wait := searchWait stepId session target sensing
    let looking := searchLooking place stepId session target sensing
    ∃ last, looking.KeepsTime last ∧
      Finished place wait session last (search place stepId session target sensing).1 ∧
      ((∃ found, looking.answer last = .found found ∧
          (search place stepId session target sensing).2 = .found found) ∨
        (looking.answer last = .nothing ∧
          (search place stepId session target sensing).2 = .failed (wait.expired (last + 1)))) := by
  intro wait looking
  have begins : wait.startedAt = (clearOutputs session sensing.output).context.now := by
    rw [clearOutputsBindings]
    rfl
  have searches : Searches place wait 0 (clearOutputs session sensing.output)
      (search place stepId session target sensing) := searchEnds wait _ begins
  have reached : Reached place wait (clearOutputs session sensing.output) 0 _ := .zero begins
  rw [clearOutputsBindings] at searches reached
  generalize (clearOutputs session sensing.output).bindings = bindings at searches reached
  generalize search place stepId session target sensing = result at uninterrupted searches ⊢
  obtain ⟨last, keepsTime, finished, ended⟩ := searches.keepsTime reached uninterrupted
  exact ⟨last, keepsTime, ⟨finished.now, finished.calls⟩, ended⟩

/--
An action that searches, and is not interrupted, looks at the screen at the times that its looks,
the poll interval and its time allow. It succeeds with the first look that sees something, and fails
with the first one that is over too late.
-/
theorem searchWindowKept {stepId : String} {session : Session device} {action : Action}
    {target : Target} {sensing : Sensing} {notes : StepNotes}
    (asks : request session.bindings action = (.ok (.search target sensing), notes))
    (uninterrupted : ¬ (search place stepId session target sensing).2.Interrupted) :
    let wait := searchWait stepId session target sensing
    let looking := Looking.of place wait session.device
    ∃ last after, looking.KeepsTime last ∧
      after.calls.toList = session.calls.toList ++ looks looking wait.look (last + 1) ∧
      after.context.now = looking.finish last ∧
      ((∃ found, looking.answer last = .found found ∧
          act place stepId session action = useMatch place after notes sensing found ∧
          (sensing.click = none → (act place stepId session action).ending = .done)) ∨
        (looking.answer last = .nothing ∧
          act place stepId session action =
            ⟨after, notes, .failed (.matchTimeout stepId target.wording sensing.timeout.toNat
              (last + 1))⟩)) := by
  intro wait looking
  have sensed : act place stepId session action =
      sense place stepId session notes target sensing := by
    rw [actPerforms, asks, perform]
  rw [sensed, senseSearches]
  obtain ⟨last, keepsTime, finished, ended⟩ := searchKeepsTime uninterrupted
  generalize search place stepId session target sensing = result at finished ended ⊢
  obtain ⟨after, ending⟩ := result
  refine ⟨last, after, keepsTime, finished.calls, finished.now, ?_⟩
  obtain ⟨found, answered, rfl⟩ | ⟨answered, rfl⟩ := ended
  · refine .inl ⟨found, answered, rfl, fun noClick => ?_⟩
    dsimp only
    rw [useMatch, noClick]
  · exact .inr ⟨answered, rfl⟩

/-- The idle devices never see anything, and here they look for it every five milliseconds. -/
def watchful : Workplace Unit :=
  { Workplace.idle with config := { EngineConfig.standard with pollInterval := 5 } }

/-- The time is no multiple of the interval, so the last look comes sooner than the others. -/
theorem searchWindowKeptOfTwelve :
    let session : Session Unit := .start (.start "run" none 0) .empty ()
    let sensing : Sensing := ⟨none, 0.5, 12, none, none⟩
    let action : Action := .waitImage "door" sensing
    request session.bindings action = (.ok (.search (.image "door") sensing), .empty) ∧
      ¬ (search watchful "step" session (.image "door") sensing).2.Interrupted ∧
      (act watchful "step" session action).session.calls.toList.map CallRecord.time =
        [0, 5, 10, 12] ∧
      (act watchful "step" session action).session.context.now = 12 ∧
      (act watchful "step" session action).ending =
        .failed (.matchTimeout "step" "door" 12 4) := by
  intro session sensing action
  have resolved : StepNotes.empty.resolve session.bindings "door" = ("door", .empty) := by
    decide +kernel
  have asks : request session.bindings action =
      (.ok (.search (.image "door") sensing), .empty) := by
    rw [request, resolved]
  have uninterrupted :
      ¬ (search watchful "step" session (.image "door") sensing).2.Interrupted := by
    have isEnding : (search watchful "step" session (.image "door") sensing).2 =
        .failed (.matchTimeout "step" "door" 12 4) := rfl
    rw [isEnding]
    rintro ⟨⟩
  refine ⟨asks, uninterrupted, ?_⟩
  obtain ⟨last, after, keepsTime, isCalls, isNow, ⟨found, answered, -⟩ | ⟨-, expired⟩⟩ :=
    searchWindowKept asks uninterrupted
  · cases answered
  · obtain ⟨isLast, -, -, atDeadline⟩ := keepsTime.momentary fun index inside => ⟨rfl, rfl⟩
    have isThree : last = 3 := isLast.trans (by decide +kernel)
    rw [isThree] at isCalls
    rw [expired, isThree, isCalls]
    exact ⟨rfl, isNow.trans atDeadline, rfl⟩

end Leaf

end DeskScript
