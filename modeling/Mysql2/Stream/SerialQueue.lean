import Mathlib.Tactic.Common

/-!
# Serial queues of asynchronous tasks

A serial queue starts the task at its head, waits until the task reports that it
is done, and only then looks for the next one.  It looks for a task in a tick of
its own, so between two tasks there is a tick that is scheduled and has not run
yet.  At any time a running queue has exactly one thing going on: a tick that is
scheduled or a task that is started.  Hence the tasks end in the order in which
they were pushed, whatever the order of ticks and callbacks.
-/

namespace Mysql2.Stream

universe u

variable {τ : Type u}

/-- The tasks that wait, whether the queue is running, the number of scheduled
ticks, and the tasks that were started and have not ended. -/
structure SerialQueue (τ : Type u) where
  queue : List τ
  running : Bool
  ticks : Nat
  started : List τ
  deriving DecidableEq

namespace SerialQueue

/-- A queue nothing was pushed to. -/
def idle : SerialQueue τ :=
  { queue := []
    running := false
    ticks := 0
    started := [] }

/-- Append a task.  A queue that is not running schedules a tick. -/
def push (tasks : SerialQueue τ) (task : τ) : SerialQueue τ :=
  let pushed := { tasks with queue := tasks.queue ++ [task] }
  if tasks.running then pushed else { pushed with running := true, ticks := tasks.ticks + 1 }

/-- A tick runs: take the task at the head, or stop running. -/
def next (tasks : SerialQueue τ) : SerialQueue τ × Option τ :=
  let ticked := { tasks with ticks := tasks.ticks - 1 }
  match tasks.queue with
  | [] => ({ ticked with running := false }, none)
  | task :: queue => ({ ticked with queue := queue }, some task)

/-- A task goes on in the background. -/
def start (tasks : SerialQueue τ) (task : τ) : SerialQueue τ :=
  { tasks with started := tasks.started ++ [task] }

/-- A background task ends. -/
def callback (tasks : SerialQueue τ) (index : Nat) : SerialQueue τ × Option τ :=
  ({ tasks with started := tasks.started.eraseIdx index }, tasks.started[index]?)

/-- A task reports that it is done, which schedules the next tick. -/
def done (tasks : SerialQueue τ) : SerialQueue τ :=
  { tasks with ticks := tasks.ticks + 1 }

/-- The tasks that have not ended, in the order in which they were pushed. -/
def pending (tasks : SerialQueue τ) : List τ :=
  tasks.started ++ tasks.queue

/-- A queue that is not running has nothing going on, and a running one has
exactly one thing going on. -/
structure Serial (tasks : SerialQueue τ) : Prop where
  resting : tasks.running = false → tasks.queue = [] ∧ tasks.ticks = 0 ∧ tasks.started = []
  busy : tasks.running = true → tasks.ticks + tasks.started.length = 1

/-- Nothing is scheduled and nothing is started. -/
def AtRest (tasks : SerialQueue τ) : Prop :=
  tasks.ticks = 0 ∧ tasks.started = []

instance (tasks : SerialQueue τ) : Decidable tasks.Serial :=
  decidable_of_iff
    ((tasks.running = false →
        tasks.queue.isEmpty ∧ tasks.ticks = 0 ∧ tasks.started.isEmpty) ∧
      (tasks.running = true → tasks.ticks + tasks.started.length = 1))
    ⟨fun holds => ⟨by simpa using holds.1, holds.2⟩,
      fun serial => ⟨by simpa using serial.resting, serial.busy⟩⟩

theorem serial_idle : (idle : SerialQueue τ).Serial where
  resting := fun _ => ⟨rfl, rfl, rfl⟩
  busy := fun running => absurd running Bool.noConfusion

@[simp]
theorem pending_idle : (idle : SerialQueue τ).pending = [] :=
  rfl

/-! ## What an operation does to the pending tasks -/

@[simp]
theorem pending_push (tasks : SerialQueue τ) (task : τ) :
    (tasks.push task).pending = tasks.pending ++ [task] := by
  unfold push pending
  dsimp only
  split <;> simp

@[simp]
theorem started_push (tasks : SerialQueue τ) (task : τ) :
    (tasks.push task).started = tasks.started := by
  unfold push
  dsimp only
  split <;> rfl

theorem queue_push (tasks : SerialQueue τ) (task : τ) :
    (tasks.push task).queue = tasks.queue ++ [task] := by
  unfold push
  dsimp only
  split <;> rfl

theorem ticks_done (tasks : SerialQueue τ) : tasks.done.ticks ≠ 0 :=
  Nat.succ_ne_zero _

namespace Serial

variable {tasks : SerialQueue τ}

theorem push (serial : tasks.Serial) (task : τ) : (tasks.push task).Serial := by
  cases runningEq : tasks.running with
  | false =>
      obtain ⟨_, noTicks, noStarted⟩ := serial.resting runningEq
      unfold SerialQueue.push
      simp only [runningEq, Bool.false_eq_true, if_false]
      exact ⟨fun running => absurd running Bool.noConfusion,
        fun _ => by simp [noTicks, noStarted]⟩
  | true =>
      unfold SerialQueue.push
      simp only [runningEq, if_true]
      exact ⟨fun running => absurd running Bool.noConfusion, fun _ => serial.busy runningEq⟩

/-- Something is going on only while the queue is running. -/
theorem running_of_ticks (serial : tasks.Serial) (scheduled : tasks.ticks ≠ 0) :
    tasks.running = true := by
  cases runningEq : tasks.running with
  | false => exact absurd (serial.resting runningEq).2.1 scheduled
  | true => rfl

theorem running_of_started (serial : tasks.Serial) (started : tasks.started ≠ []) :
    tasks.running = true := by
  cases runningEq : tasks.running with
  | false => exact absurd (serial.resting runningEq).2.2 started
  | true => rfl

/-- Where a tick is scheduled, it is the only thing going on. -/
theorem only_tick (serial : tasks.Serial) (scheduled : tasks.ticks ≠ 0) :
    tasks.ticks = 1 ∧ tasks.started = [] := by
  have one := serial.busy (serial.running_of_ticks scheduled)
  have none : tasks.started.length = 0 := by omega
  exact ⟨by omega, List.length_eq_zero_iff.mp none⟩

/-- Where a task is started, it is the only thing going on. -/
theorem only_started (serial : tasks.Serial) {index : Nat} {task : τ}
    (startedAt : tasks.started[index]? = some task) :
    index = 0 ∧ tasks.ticks = 0 ∧ tasks.started = [task] := by
  have nonempty : tasks.started ≠ [] := by
    rintro noStarted
    simp [noStarted] at startedAt
  have one := serial.busy (serial.running_of_started nonempty)
  have positive := List.length_pos_iff.mpr nonempty
  obtain ⟨only, startedEq⟩ := List.length_eq_one_iff.mp
    (show tasks.started.length = 1 by omega)
  rw [startedEq] at startedAt one
  cases index with
  | zero =>
      cases startedAt
      exact ⟨rfl, by simpa using one, startedEq⟩
  | succ index => simp at startedAt

/-- A tick that finds no task stops the queue. -/
theorem next_nil (serial : tasks.Serial) (scheduled : tasks.ticks ≠ 0)
    (nothing : tasks.queue = []) : tasks.next = (idle, none) := by
  obtain ⟨oneTick, noStarted⟩ := serial.only_tick scheduled
  obtain ⟨queue, running, ticks, started⟩ := tasks
  simp only at nothing oneTick noStarted
  subst nothing oneTick noStarted
  rfl

/-- A tick that finds a task leaves the queue running with nothing going on. -/
theorem next_cons (serial : tasks.Serial) (scheduled : tasks.ticks ≠ 0) {task : τ}
    {queue : List τ} (queueEq : tasks.queue = task :: queue) :
    tasks.next =
      ({ queue := queue, running := true, ticks := 0, started := [] }, some task) := by
  obtain ⟨oneTick, noStarted⟩ := serial.only_tick scheduled
  have runningEq := serial.running_of_ticks scheduled
  obtain ⟨tasksQueue, running, ticks, started⟩ := tasks
  simp only at queueEq oneTick noStarted runningEq
  subst queueEq oneTick noStarted runningEq
  rfl

/-- The queue between a task's end and the next tick. -/
theorem handled (queue : List τ) :
    ({ queue := queue, running := true, ticks := 0, started := [] } :
      SerialQueue τ).done.Serial where
  resting := fun running => absurd running Bool.noConfusion
  busy := fun _ => rfl

/-- The queue while a task goes on in the background. -/
theorem waiting (queue : List τ) (task : τ) :
    (start { queue := queue, running := true, ticks := 0, started := [] } task).Serial where
  resting := fun running => absurd running Bool.noConfusion
  busy := fun _ => rfl

/-- The end of a background task leaves the queue running with nothing going on. -/
theorem callback_eq (serial : tasks.Serial) {index : Nat} {task : τ}
    (startedAt : tasks.started[index]? = some task) :
    tasks.callback index =
      ({ queue := tasks.queue, running := true, ticks := 0, started := [] }, some task) := by
  obtain ⟨rfl, noTicks, startedEq⟩ := serial.only_started startedAt
  have runningEq := serial.running_of_started (by simp [startedEq])
  obtain ⟨queue, running, ticks, started⟩ := tasks
  simp only at noTicks startedEq runningEq
  subst noTicks startedEq runningEq
  rfl

theorem pending_of_tick (serial : tasks.Serial) (scheduled : tasks.ticks ≠ 0) :
    tasks.pending = tasks.queue := by
  rw [pending, (serial.only_tick scheduled).2, List.nil_append]

theorem pending_of_started (serial : tasks.Serial) {index : Nat} {task : τ}
    (startedAt : tasks.started[index]? = some task) :
    tasks.pending = task :: tasks.queue := by
  rw [pending, (serial.only_started startedAt).2.2, List.singleton_append]

/-- Once nothing is going on, no task is left. -/
theorem pending_atRest (serial : tasks.Serial) (atRest : tasks.AtRest) :
    tasks.running = false ∧ tasks.pending = [] := by
  cases runningEq : tasks.running with
  | false =>
      obtain ⟨noQueue, _, noStarted⟩ := serial.resting runningEq
      exact ⟨rfl, by rw [pending, noQueue, noStarted, List.append_nil]⟩
  | true =>
      have one := serial.busy runningEq
      rw [atRest.1, atRest.2] at one
      simp at one

/-- A queue that is not running has no task left. -/
theorem pending_of_resting (serial : tasks.Serial) (resting : tasks.running = false) :
    tasks.pending = [] := by
  obtain ⟨noQueue, _, noStarted⟩ := serial.resting resting
  rw [pending, noQueue, noStarted, List.append_nil]

end Serial

end SerialQueue

end Mysql2.Stream
