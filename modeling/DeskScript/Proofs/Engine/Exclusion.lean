/-
This file shows that an engine runs one script at a time, in whatever order its runs are started and
cancelled, go on and break down. A start that is refused changes nothing.
-/

import DeskScript.Proofs.Engine.Alone
import DeskScript.Proofs.Json.Canonical

namespace DeskScript

variable {device : Type}

/-! ### Variables -/

/-- A table takes over the bindings of another one, and keeps those of the other names. -/
theorem Table.findPutAll {value : Type} (table : Table value) (entries : List (String × value))
    (ordered : KeyOrdered entries) (name : String) :
    (table.putAll entries).find? name = (lookUp? name entries).or (table.find? name) := by
  induction entries generalizing table with
  | nil => rfl
  | cons head rest inductionHypothesis =>
      have keys := ordered.nodupKeys
      rw [List.map_cons, List.nodup_cons] at keys
      have later := inductionHypothesis (table.put head.1 head.2) (List.pairwise_cons.mp ordered).2
      rw [putAll, List.foldl_cons, ← putAll, later, lookUp?]
      by_cases same : name = head.1
      · rw [same, lookUpNone head.1 rest keys.1, findPutSame, if_pos rfl]
        rfl
      · rw [findPutOther table head.1 name head.2 same, if_neg same]

/-- A variable has the value that was given for it, or else the declared one. -/
theorem Bindings.findSeeded (defaults overrides : Table String) (name : String) :
    (Bindings.seeded defaults overrides).find? name =
      (overrides.find? name).or (defaults.find? name) :=
  defaults.findPutAll overrides.entries overrides.ordered name

/-! ### One run at a time -/

/-- The engine is running exactly if one of the runs is active, and never for two of them. -/
def Floor.Exclusive (floor : Floor device) : Prop :=
  (floor.engine.state = .running ∧ floor.shifts.countP Shift.isActive = 1) ∨
    (floor.engine.state = .idle ∧ floor.shifts.countP Shift.isActive = 0)

namespace Shift

theorem activeOfAccepted {shift : Shift device} (accepted : shift.worker.stage = .accepted) :
    shift.isActive = true := by
  simp [isActive, accepted, WorkerStage.isActive]

/-- A shift that goes on stays as active as it is, or it gives the engine back. -/
theorem Goes.activity {engine begun : Engine device} {shift later : Shift device}
    (goes : Goes engine shift begun later) :
    (later.isActive = shift.isActive ∧ begun.state = engine.state) ∨
      (shift.isActive = true ∧ later.isActive = false ∧ begun.state = .idle) := by
  cases goes with
  | rests => exact .inl ⟨rfl, rfl⟩
  | cancels => exact .inl ⟨rfl, rfl⟩
  | goesOn => exact .inl ⟨rfl, rfl⟩
  | breaksDown begun =>
      refine .inr ⟨?_, rfl, rfl⟩
      obtain accepted | ready := begun
      · exact activeOfAccepted accepted
      · simp [isActive, ready, WorkerStage.isActive]
  | finishes session halt outcome works =>
      refine .inl ⟨?_, rfl⟩
      simp [isActive, reach, works, WorkerStage.isActive]
  | tells found ran =>
      refine .inl ⟨?_, rfl⟩
      simp [isActive, reach, ran, WorkerStage.isActive]
  | frees found told =>
      refine .inr ⟨?_, rfl, rfl⟩
      simp [isActive, told, WorkerStage.isActive]
  | closes found freed =>
      refine .inl ⟨?_, rfl⟩
      simp [isActive, reach, freed, WorkerStage.isActive]

end Shift

namespace Floor

/-- One shift is counted beside the shifts around it. -/
theorem countSplit (kind : Shift device → Bool) (before after : List (Shift device))
    (shift : Shift device) :
    (before ++ shift :: after).countP kind =
      before.countP kind + after.countP kind + (if kind shift then 1 else 0) := by
  rw [List.countP_append, List.countP_cons]
  omega

/-- While one shift is the only one of its kind, the shifts around it are not of this kind. -/
theorem othersDiffer {kind : Shift device → Bool} {before after : List (Shift device)}
    {shift : Shift device} (atMost : (before ++ shift :: after).countP kind ≤ 1)
    (here : kind shift = true) :
    (∀ other ∈ before, kind other = false) ∧ ∀ other ∈ after, kind other = false := by
  have others : before.countP kind = 0 ∧ after.countP kind = 0 := by
    rw [countSplit, here, if_pos rfl] at atMost
    omega
  simpa [List.countP_eq_zero] using others

/-- What holds of all shifts still does when one of them is replaced by another for which it does. -/
theorem allReplaced {property : Shift device → Prop} {before after : List (Shift device)}
    {shift later : Shift device} (all : ∀ other ∈ before ++ shift :: after, property other)
    (replaced : property later) : ∀ other ∈ before ++ later :: after, property other := by
  intro other member
  have inside := all other
  simp only [List.mem_append, List.mem_cons] at member inside
  obtain early | rfl | late := member
  · exact inside (.inl early)
  · exact replaced
  · exact inside (.inr (.inr late))

/-- Every turn keeps the engine running for one run at most. -/
theorem Goes.exclusive {floor later : Floor device} {turn : Turn} (goes : floor.Goes turn later)
    (exclusive : floor.Exclusive) : later.Exclusive := by
  unfold Exclusive at exclusive ⊢
  cases goes with
  | stays => exact exclusive
  | opens script runId overrides engine worker silent accepted =>
      obtain ⟨-, free, rfl, rfl⟩ := Engine.acceptedOf accepted
      have none : floor.shifts.countP Shift.isActive = 0 := by
        obtain ⟨running, -⟩ | ⟨-, none⟩ := exclusive
        · exact absurd running free
        · exact none
      refine .inl ⟨rfl, ?_⟩
      rw [List.countP_append, none]
      rfl
  | announces before after shift shifts accepted =>
      rw [shifts, countSplit, Shift.activeOfAccepted accepted] at exclusive
      rw [countSplit]
      exact exclusive
  | goesOn before after shift later engine shifts silent goes =>
      rw [shifts, countSplit] at exclusive
      rw [countSplit]
      obtain ⟨sameActivity, sameState⟩ | ⟨active, inactive, idle⟩ := goes.activity
      · rw [sameActivity, sameState]
        exact exclusive
      · rw [active, if_pos rfl] at exclusive
        refine .inr ⟨idle, ?_⟩
        rw [inactive, if_neg Bool.false_ne_true]
        omega

theorem exclusiveAlways (place : Workplace device) (state : device) (turns : List Turn) :
    ((opened place state).takeTurns turns).Exclusive := by
  have first : (opened place state).Exclusive := .inr ⟨rfl, rfl⟩
  exact keeps turns first fun floor turn exclusive =>
    (floor.takeTurnGoes turn).exclusive exclusive

theorem Exclusive.atMostOne {floor : Floor device} (exclusive : floor.Exclusive) :
    floor.shifts.countP Shift.isActive ≤ 1 := by
  obtain ⟨-, one⟩ | ⟨-, none⟩ := exclusive <;> omega

/-- While one run is active, the others are not. -/
theorem Exclusive.othersInactive {floor : Floor device} (exclusive : floor.Exclusive)
    {before after : List (Shift device)} {shift : Shift device}
    (shifts : floor.shifts = before ++ shift :: after) (active : shift.isActive = true) :
    (∀ other ∈ before, other.isActive = false) ∧ ∀ other ∈ after, other.isActive = false := by
  have atMostOne := exclusive.atMostOne
  rw [shifts] at atMostOne
  exact othersDiffer atMostOne active

theorem Exclusive.state {floor : Floor device} (exclusive : floor.Exclusive) :
    floor.engine.state = if floor.shifts.any Shift.isActive then .running else .idle := by
  obtain ⟨running, one⟩ | ⟨idle, none⟩ := exclusive
  · have active : floor.shifts.any Shift.isActive = true := by
      rw [List.any_eq_true, ← List.countP_pos_iff]
      omega
    rw [running, active, if_pos rfl]
  · have inactive : floor.shifts.any Shift.isActive = false := by
      rw [List.countP_eq_zero] at none
      rw [List.any_eq_false]
      exact none
    rw [idle, inactive]
    rfl

/-! ### Starts -/

/-- A shift begins with its own variables and with nothing done. -/
structure Begins (shift : Shift device) (script : Script) (runId : String)
    (overrides : Table String) : Prop where
  worker : shift.worker =
    ⟨runId, script, Bindings.seeded script.defaults overrides, .accepted⟩
  opening : shift.opening.bindings = shift.worker.bindings
  instant : shift.instant = .start script shift.opening
  untouched : shift.opening.trace = #[] ∧ shift.opening.warnings = #[] ∧
    shift.opening.calls = #[] ∧ shift.opening.events = #[]
  bound : ∀ name, shift.instant.session.bindings.find? name =
    (overrides.find? name).or (script.defaults.find? name)

/--
A start is refused for a script that is not valid, or as long as another run is active. Otherwise
its run begins, and if nothing disturbs it then it ends like a run that is done at once.
-/
structure Answers (floor : Floor device) (script : Script) (runId : String)
    (overrides : Table String) : Prop where
  invalid : ∀ fault, script.validate = .error fault →
    floor.start script runId overrides = (floor, .error (.invalidScript fault))
  busy : script.validate = .ok () → floor.shifts.any Shift.isActive = true →
    floor.start script runId overrides = (floor, .error .alreadyRunning)
  free : script.validate = .ok () → floor.shifts.any Shift.isActive = false →
    ∃ shift, Begins shift script runId overrides ∧
      floor.start script runId overrides =
        (⟨{ floor.engine with state := .running }, floor.shifts ++ [shift]⟩, .ok ())
  alone : script.validate = .ok () → floor.shifts.any Shift.isActive = false →
    ∃ count last, floor.takeTurns
        (.start script runId overrides :: List.replicate count (.work floor.shifts.length)) =
      ⟨(floor.engine.run script runId overrides).1, floor.shifts ++ [last]⟩ ∧
      (floor.engine.run script runId overrides).2 =
        match last.worker.stage with
        | .over (some report) => .ok report
        | _ => .error .brokeDown

theorem beginsOpened (engine : Engine device) (script : Script) (runId : String)
    (overrides : Table String) :
    Begins (.opened engine
      ⟨runId, script, Bindings.seeded script.defaults overrides, .accepted⟩) script runId
        overrides where
  worker := rfl
  opening := rfl
  instant := rfl
  untouched := ⟨rfl, rfl, rfl, rfl⟩
  bound := Bindings.findSeeded script.defaults overrides

theorem Exclusive.answers {floor : Floor device} (exclusive : floor.Exclusive) (script : Script)
    (runId : String) (overrides : Table String) : floor.Answers script runId overrides := by
  have accepts (valid : script.validate = .ok ())
      (inactive : floor.shifts.any Shift.isActive = false) :
      floor.engine.accept script runId overrides = .ok ({ floor.engine with state := .running },
        ⟨runId, script, Bindings.seeded script.defaults overrides, .accepted⟩) := by
    have idle := exclusive.state
    rw [inactive] at idle
    rw [Engine.accept, valid]
    simp [Engine.isRunning, idle]
  constructor
  · intro fault invalid
    rw [start, Engine.accept, invalid]
  · intro valid active
    have running := exclusive.state
    rw [active, if_pos rfl] at running
    rw [start, Engine.accept, valid]
    simp [Engine.isRunning, running]
  · intro valid inactive
    refine ⟨_, beginsOpened { floor.engine with state := .running } script runId overrides, ?_⟩
    rw [start, accepts valid inactive]
  · intro valid inactive
    exact finishesAlone floor.engine _ floor.shifts script runId overrides _
      (accepts valid inactive)

/--
In whatever order runs are started and cancelled, go on and break down, at most one is active. The
engine is running while one is, and idle otherwise. A start that is refused leaves everything as it
is, and a start that is accepted begins with the declared variables and those given for the run,
whatever was bound in other runs.
-/
theorem runsExclude (place : Workplace device) (state : device) (turns : List Turn) :
    let floor := (opened place state).takeTurns turns
    floor.shifts.countP Shift.isActive ≤ 1 ∧
      floor.engine.state = (if floor.shifts.any Shift.isActive then .running else .idle) ∧
      ∀ script runId overrides, floor.Answers script runId overrides := by
  intro floor
  have exclusive : floor.Exclusive := exclusiveAlways place state turns
  exact ⟨exclusive.atMostOne, exclusive.state, exclusive.answers⟩

end Floor

end DeskScript
