import Conscrypt.Ssl.Wakeup

/-!
# A full emergency pipe

`AppData::create` makes only the read end `fdsEmergency[0]` non-blocking, so a
write in `sslNotify` waits while the pipe is full. Bytes leave the pipe only
through the drain loop of `sslSelect`, which needs `AppData.mutex`, and a driver
calls `sslNotify` while it holds that mutex. Interrupt calls fill the pipe
whatever its size; a driver that then notifies blocks with the mutex, and the
waiter that would drain the pipe blocks on the mutex.
-/

set_option autoImplicit false

/-!
## Blocked threads
-/

/-! A thread in `sslNotify` with a full pipe, and a thread in `sslSelect` waiting
for a held mutex, can take no action at all. -/

namespace Conscrypt.Ssl

section Blocked

variable {capacity : Nat} {slot : Slot} {other thread : Thread} {app : AppData} {transport : Transport}

theorem Thread.step_notify_full (notifying : thread.pc = .notify) (full : capacity ≤ app.emergency)
    (move : Move) : Thread.step capacity slot other app transport thread move = none := by
  cases move <;> simp [Thread.step, notifying, Nat.not_lt.mpr full]

theorem Thread.step_drainLock_held {result : Int} {readable : Bool}
    (draining : thread.pc = .drainLock result readable) (held : app.mutex ≠ none) (move : Move) :
    Thread.step capacity slot other app transport thread move = none := by
  cases move <;> simp [Thread.step, draining, held]

end Blocked

/-- The writer waits in `sslNotify` for room in a full pipe while it holds the
mutex, and the reader waits for that mutex to drain the pipe. -/
structure Deadlocked (capacity : Nat) (connection : Connection) : Prop where
  full : connection.appData.emergency = capacity
  owner : connection.appData.mutex = some .writer
  notifying : (connection.thread .writer).pc = .notify
  draining : ∃ result readable, (connection.thread .reader).pc = .drainLock result readable

/-- From a deadlocked state only new interrupt calls move, and they stop at their
first write: the drivers stay where they are and no interrupt call returns. -/
theorem Deadlocked.step {capacity : Nat} {connection next : Connection} {action : Action}
    (deadlocked : Deadlocked capacity connection) (stepped : step capacity connection action = some next) :
    Deadlocked capacity next ∧ next.thread .reader = connection.thread .reader ∧
      next.thread .writer = connection.thread .writer ∧
      next.interrupts.completed = connection.interrupts.completed := by
  obtain ⟨full, owner, notifying, result, readable, draining⟩ := deadlocked
  cases action with
  | interruptStart => cases stepped; exact ⟨⟨full, owner, notifying, result, readable, draining⟩, rfl, rfl, rfl⟩
  | interruptNotify => simp [Ssl.step, full] at stepped
  | interruptNotifyAgain => simp [Ssl.step, full] at stepped
  | thread slot move =>
      obtain ⟨moved, threadStep, rfl⟩ := Option.map_eq_some'.mp stepped
      have held : connection.appData.mutex ≠ none := by simp [owner]
      cases slot
      · rw [Thread.step_drainLock_held draining held] at threadStep; cases threadStep
      · rw [Thread.step_notify_full notifying (Nat.le_of_eq full.symm)] at threadStep; cases threadStep

theorem Deadlocked.run {capacity : Nat} {connection final : Connection} {actions : List Action}
    (deadlocked : Deadlocked capacity connection) (ran : run capacity connection actions = some final) :
    final.thread .reader = connection.thread .reader ∧ final.thread .writer = connection.thread .writer ∧
      final.interrupts.completed = connection.interrupts.completed := by
  induction actions generalizing connection with
  | nil => cases ran; exact ⟨rfl, rfl, rfl⟩
  | cons action actions ih =>
      simp only [Conscrypt.Ssl.run, Option.bind_eq_some] at ran
      obtain ⟨next, stepped, rest⟩ := ran
      obtain ⟨still, reader, writer, completed⟩ := deadlocked.step stepped
      obtain ⟨reader', writer', completed'⟩ := ih still rest
      exact ⟨reader'.trans reader, writer'.trans writer, completed'.trans completed⟩

end Conscrypt.Ssl

/-!
## Filling the pipe
-/

/-! Each interrupt call writes a byte before it can block; with no thread
draining, the bytes accumulate up to the pipe's size. -/

namespace Conscrypt.Ssl

/-- An interrupt call that cleared the flag and wrote its first byte. -/
def Connection.interruptOnce (connection : Connection) : Connection :=
  { connection with
    appData := { connection.appData with
      aliveAndKicking := false, emergency := connection.appData.emergency + 1 },
    interrupts := { connection.interrupts with secondNotify := connection.interrupts.secondNotify + 1 } }

/-- `count` interrupt calls, each stopped after its first byte. -/
def Connection.interruptMany (connection : Connection) : Nat → Connection
  | 0 => connection
  | count + 1 => (connection.interruptMany count).interruptOnce

theorem run_interruptOnce {capacity : Nat} {connection : Connection}
    (first : connection.interrupts.firstNotify = 0) (room : connection.appData.emergency < capacity) :
    run capacity connection [.interruptStart, .interruptNotify] = some connection.interruptOnce := by
  simp [run, step, first, room, Connection.interruptOnce]

theorem Connection.interruptMany_spec (connection : Connection) (count : Nat) :
    (connection.interruptMany count).appData.emergency = connection.appData.emergency + count ∧
      (connection.interruptMany count).appData.mutex = connection.appData.mutex ∧
      (connection.interruptMany count).interrupts.firstNotify = connection.interrupts.firstNotify ∧
      (connection.interruptMany count).interrupts.secondNotify = connection.interrupts.secondNotify + count ∧
      (connection.interruptMany count).interrupts.completed = connection.interrupts.completed ∧
      ∀ slot, (connection.interruptMany count).thread slot = connection.thread slot := by
  induction count with
  | zero => exact ⟨rfl, rfl, rfl, rfl, rfl, fun _ => rfl⟩
  | succ count ih =>
      obtain ⟨emergency, mutex, first, second, completed, threads⟩ := ih
      refine ⟨by simp [Connection.interruptMany, Connection.interruptOnce, emergency]; omega, mutex, first,
        by simp [Connection.interruptMany, Connection.interruptOnce, second]; omega, completed,
        fun slot => ?_⟩
      rw [← threads slot]
      cases slot <;> rfl

theorem Reachable.interruptMany {capacity : Nat} {connection : Connection}
    (reachable : Reachable capacity connection) (first : connection.interrupts.firstNotify = 0) (count : Nat)
    (room : connection.appData.emergency + count ≤ capacity) :
    Reachable capacity (connection.interruptMany count) := by
  induction count with
  | zero => exact reachable
  | succ count ih =>
      obtain ⟨emergency, -, first', -⟩ := connection.interruptMany_spec count
      exact (ih (by omega)).run (run_interruptOnce (first'.trans first) (by omega))

end Conscrypt.Ssl

/-!
## The deadlock
-/

/-! The reader waits, the writer's step moves data and goes on to `sslNotify`;
before it writes, an interrupt call writes a byte, the reader's `poll` returns on
it, and more interrupt calls fill the pipe. -/

namespace Conscrypt.Ssl

/-- From `readerWaiting`: the writer's step writes 5 bytes while the reader waits, an
interrupt call writes its first byte, and the reader's `poll` returns on it. -/
def writerNotifiesLate : List Action :=
  [.thread .writer (.engine (.returned 5 .errorNone 0 0 5)), .interruptStart, .interruptNotify,
    .thread .reader (.poll (.ready false))]

/-- The state after `writerNotifiesLate`. -/
def writerNotifyingLate : Connection :=
  (run 1 readerWaiting writerNotifiesLate).getD readerWaiting

/-- For every pipe size, interrupt calls fill the pipe while the writer is about to
notify: the writer then blocks in `sslNotify` holding the mutex, the reader blocks
waiting for the mutex to drain the pipe, an interrupt call blocks in its second
`sslNotify`, and no later action moves either driver or lets an interrupt call
return. -/
theorem pipe_fills_and_deadlocks (capacity : Nat) :
    ∃ full, Reachable (capacity + 1) full ∧ full.appData.emergency = capacity + 1 ∧
      0 < full.interrupts.secondNotify ∧ full.appData.mutex = some .writer ∧
      (full.thread .writer).pc = .notify ∧
      (∃ result readable, (full.thread .reader).pc = .drainLock result readable) ∧
      ∀ actions final, run (capacity + 1) full actions = some final →
        final.thread .reader = full.thread .reader ∧ final.thread .writer = full.thread .writer ∧
        final.interrupts.completed = full.interrupts.completed := by
  have late : run 1 readerWaiting writerNotifiesLate = some writerNotifyingLate := by decide
  have reached : Reachable (capacity + 1) writerNotifyingLate :=
    (readerWaiting_reachable.run late).mono (Nat.le_add_left 1 capacity)
  have filled := reached.interruptMany (by decide) capacity (by
    rw [show writerNotifyingLate.appData.emergency = 1 by decide]; omega)
  obtain ⟨emergency, mutex, -, second, -, threads⟩ := writerNotifyingLate.interruptMany_spec capacity
  have deadlocked : Deadlocked (capacity + 1) (writerNotifyingLate.interruptMany capacity) :=
    ⟨by rw [emergency, show writerNotifyingLate.appData.emergency = 1 by decide]; omega,
      by rw [mutex]; decide, by rw [threads]; decide, ⟨1, true, by rw [threads]; decide⟩⟩
  exact ⟨_, filled, deadlocked.full, by rw [second, show writerNotifyingLate.interrupts.secondNotify = 1 by decide]; omega, deadlocked.owner, deadlocked.notifying,
    deadlocked.draining, fun actions final ran => deadlocked.run ran⟩

end Conscrypt.Ssl
