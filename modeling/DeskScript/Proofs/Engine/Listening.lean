/-
This file says what listeners of a feed hear that read at any speed. All of them have heard what the
feed still keeps once they have read everything, and some have heard nothing else.
-/

import DeskScript.Run.Engine
import Mathlib.Data.List.Induction

namespace DeskScript

/-- A listener reads from a position on and remembers what it has heard. -/
structure Listener (item : Type) where
  position : Nat
  heard : List item

namespace Feed

variable {item : Type}

/-- A new listener hears only what is sent from now on. -/
def subscribe (feed : Feed item) : Listener item := ⟨feed.sent.size, []⟩

/-- While items are sent, a listener reads whenever it likes. -/
inductive Attends (feed : Feed item) : Feed item → Listener item → Prop where
  | subscribes : Attends feed feed feed.subscribe
  | sends {later : Feed item} {listener : Listener item} (next : item)
      (attends : Attends feed later listener) : Attends feed (later.send next) listener
  | reads {later : Feed item} {listener : Listener item} (next : item) (position : Nat)
      (attends : Attends feed later listener)
      (read : later.read? listener.position = some (next, position)) :
      Attends feed later ⟨position, listener.heard ++ [next]⟩

/-- A listener has caught up when there is nothing left for it to read. -/
def CaughtUp (feed : Feed item) (listener : Listener item) : Prop :=
  feed.read? listener.position = none

theorem caughtUpIff (feed : Feed item) (listener : Listener item) :
    feed.CaughtUp listener ↔ feed.sent.toList.length ≤ max listener.position feed.dropped := by
  rw [CaughtUp, read?, Option.map_eq_none_iff, Array.getElem?_eq_none_iff, Array.length_toList]

/-! ### What has been heard -/

theorem readSome {feed : Feed item} {position later : Nat} {next : item}
    (read : feed.read? position = some (next, later)) :
    later = max position feed.dropped + 1 ∧
      feed.sent.toList[max position feed.dropped]? = some next := by
  simp only [read?, Option.map_eq_some_iff, Prod.mk.injEq] at read
  obtain ⟨found, isFound, rfl, rfl⟩ := read
  exact ⟨rfl, by rwa [Array.getElem?_toList]⟩

/-- A listener has heard all that it has passed and that is still kept. -/
structure Hears (feed later : Feed item) (listener : Listener item) : Prop where
  within : listener.position ≤ later.sent.toList.length
  heard : ∀ index next, feed.sent.size ≤ index → index < listener.position →
    later.dropped ≤ index → later.sent.toList[index]? = some next → next ∈ listener.heard

theorem Attends.hears {feed later : Feed item} {listener : Listener item}
    (attends : Attends feed later listener) : Hears feed later listener := by
  induction attends with
  | subscribes =>
      refine ⟨Nat.le_refl _, fun index next after before => ?_⟩
      exact absurd before (Nat.not_lt.mpr after)
  | @sends later listener next attends inductionHypothesis =>
      obtain ⟨within, heard⟩ := inductionHypothesis
      have grown : (later.send next).sent.toList = later.sent.toList ++ [next] :=
        later.sentSend next
      have dropsMore : later.dropped ≤ (later.send next).dropped := by
        simp only [dropped, send, Array.size_push]
        omega
      refine ⟨by rw [grown, List.length_append]; omega, fun index found after before kept => ?_⟩
      rw [grown, List.getElem?_append_left (by omega)]
      exact heard index found after before (Nat.le_trans dropsMore kept)
  | @reads later listener next position attends read inductionHypothesis =>
      obtain ⟨within, heard⟩ := inductionHypothesis
      obtain ⟨isLater, isNext⟩ := readSome read
      have inside := (List.getElem?_eq_some_iff.mp isNext).1
      refine ⟨by simp only; omega, fun index found after before kept isFound => ?_⟩
      rw [List.mem_append, List.mem_singleton]
      by_cases early : index < listener.position
      · exact .inl (heard index found after early kept isFound)
      · -- What lies between the old position and the new one was dropped, except for the last item.
        have last : index = max listener.position later.dropped := by
          simp only at before
          omega
        rw [last, isNext] at isFound
        exact .inr (Option.some.inj isFound).symm

/-- A listener that has caught up has heard everything that it could still get. -/
theorem Attends.restHeard {feed later : Feed item} {listener : Listener item}
    (attends : Attends feed later listener) (caughtUp : CaughtUp later listener) (next : item)
    (kept : next ∈ later.rest feed.sent.size) : next ∈ listener.heard := by
  obtain ⟨offset, isNext⟩ := List.mem_iff_getElem?.mp kept
  rw [rest, List.getElem?_drop] at isNext
  have inside := (List.getElem?_eq_some_iff.mp isNext).1
  have passed := (later.caughtUpIff listener).mp caughtUp
  refine attends.hears.heard (max feed.sent.size later.dropped + offset) next ?_ ?_ ?_ isNext
  · omega
  · omega
  · omega

/-! ### The listener that reads last -/

/-- A listener need not read while items are sent. -/
theorem attendsIdly (feed : Feed item) (items : List item) :
    Attends feed (items.foldl send feed) feed.subscribe := by
  induction items using List.reverseRecOn with
  | nil => exact .subscribes
  | append_singleton earlier next inductionHypothesis =>
      rw [List.foldl_append]
      exact .sends next inductionHypothesis

theorem sentAll (feed : Feed item) (items : List item) :
    items.foldl send feed = ⟨feed.capacity, feed.sent ++ items.toArray⟩ := by
  induction items generalizing feed with
  | nil => simp
  | cons next rest inductionHypothesis =>
      rw [List.foldl_cons, inductionHypothesis]
      simp [send]

/-- A listener that reads on to the end hears the rest. -/
theorem Attends.readsOn {feed later : Feed item} {listener : Listener item}
    (attends : Attends feed later listener) :
    ∃ last, Attends feed later last ∧ CaughtUp later last ∧
      last.heard = listener.heard ++ later.rest listener.position := by
  obtain ⟨left, isLeft⟩ :
      ∃ left, later.sent.toList.length - max listener.position later.dropped = left := ⟨_, rfl⟩
  induction left generalizing listener with
  | zero =>
      have nothing : later.sent.toList.length ≤ max listener.position later.dropped := by omega
      refine ⟨listener, attends, (later.caughtUpIff listener).mpr nothing, ?_⟩
      rw [rest, List.drop_eq_nil_of_le nothing, List.append_nil]
  | succ left inductionHypothesis =>
      have inside : max listener.position later.dropped < later.sent.toList.length := by omega
      have read : later.read? listener.position =
          some (later.sent.toList[max listener.position later.dropped],
            max listener.position later.dropped + 1) := by
        simp only [read?, Option.map_eq_some_iff]
        exact ⟨_, by rw [← Array.getElem?_toList, List.getElem?_eq_getElem inside], rfl⟩
      have further : max (max listener.position later.dropped + 1) later.dropped =
          max listener.position later.dropped + 1 := by omega
      obtain ⟨last, attendsLast, caughtUp, heard⟩ :=
        inductionHypothesis (attends.reads _ _ read) (by simp only [further]; omega)
      refine ⟨last, attendsLast, caughtUp, ?_⟩
      rw [heard, rest, further, rest, List.drop_eq_getElem_cons inside, List.append_assoc]
      rfl

/-- One listener that has caught up has heard no more than what it could still get at last. -/
theorem onlyRestHeard {feed later : Feed item} (capacity : later.capacity = feed.capacity)
    (grown : feed.sent.toList <+: later.sent.toList) :
    ∃ listener, Attends feed later listener ∧ CaughtUp later listener ∧
      listener.heard = later.rest feed.sent.size := by
  obtain ⟨items, sent⟩ := grown
  have isLater : items.foldl send feed = later := by
    obtain ⟨room, array⟩ := later
    rw [sentAll]
    simp only at capacity sent
    rw [capacity]
    congr 1
    apply Array.ext'
    simpa using sent
  have idle := attendsIdly feed items
  rw [isLater] at idle
  exact idle.readsOn

/--
Every listener that has caught up has heard an item exactly if the feed still keeps the item for a
listener that has not read anything.
-/
theorem heardIffKept {feed later : Feed item} (capacity : later.capacity = feed.capacity)
    (grown : feed.sent.toList <+: later.sent.toList) (next : item) :
    (∀ listener, Attends feed later listener → CaughtUp later listener →
      next ∈ listener.heard) ↔ next ∈ later.rest feed.sent.size := by
  constructor
  · intro always
    obtain ⟨listener, attends, caughtUp, heard⟩ := onlyRestHeard capacity grown
    rw [← heard]
    exact always listener attends caughtUp
  · exact fun kept listener attends caughtUp => attends.restHeard caughtUp next kept

/-! ### Room -/

/-- An item that was sent last is still kept exactly if there is room for what came behind it. -/
theorem keptIff {feed : Feed item} {front behind : List item} {next : item} (position : Nat)
    (sent : feed.sent.toList = front ++ next :: behind) (early : position ≤ front.length)
    (last : next ∉ behind) : next ∈ feed.rest position ↔ behind.length < feed.capacity := by
  have size : feed.sent.size = front.length + behind.length + 1 := by
    rw [← Array.length_toList, sent, List.length_append, List.length_cons]
    omega
  rw [rest, dropped, sent, size]
  obtain room | full := Nat.lt_or_ge behind.length feed.capacity
  · refine iff_of_true ?_ room
    rw [List.drop_append_of_le_length (by omega)]
    exact List.mem_append_right _ List.mem_cons_self
  · refine iff_of_false ?_ (Nat.not_lt.mpr full)
    intro kept
    -- The item itself is dropped with all that came before it.
    obtain ⟨more, isMore⟩ : ∃ more,
        max position (front.length + behind.length + 1 - feed.capacity) =
          (front ++ [next]).length + more :=
      Nat.exists_eq_add_of_le (by rw [List.length_append, List.length_singleton]; omega)
    rw [List.append_cons, isMore, List.drop_length_add_append] at kept
    exact last (List.mem_of_mem_drop kept)

theorem roomEnough (least : Nat) : least ≤ (withRoom least : Feed item).capacity := by
  unfold withRoom
  split
  · assumption
  · have reached : least - 1 < 2 ^ (Nat.log2 (least - 1) + 1) := Nat.lt_log2_self
    simp only
    omega

/-- A feed has room for three items only if it is asked to keep three. -/
theorem roomForThree (least : Nat) :
    3 ≤ (withRoom (max least 1) : Feed item).capacity ↔ 3 ≤ least := by
  constructor
  · intro room
    apply Nat.le_of_not_lt
    intro few
    have oneOrTwo : max least 1 = 1 ∨ max least 1 = 2 := by omega
    obtain one | two := oneOrTwo
    · have small : (withRoom 1 : Feed item).capacity = 1 := rfl
      rw [one, small] at room
      omega
    · have small : (withRoom 2 : Feed item).capacity = 2 := rfl
      rw [two, small] at room
      omega
  · intro enough
    have room := @roomEnough item (max least 1)
    omega

end Feed

end DeskScript
