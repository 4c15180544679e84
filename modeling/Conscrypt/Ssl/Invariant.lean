import Conscrypt.Ssl.Step

/-!
# The waiter count and the mutex

In every reachable state `AppData.waitingThreads` counts the threads between
the increment after a `WANT_*` result and the decrement that ends `sslSelect`,
and `AppData.mutex` is owned by exactly the thread in a locked section. One
thread's step changes the shared state in only a few ways (`Thread.Effect`);
the invariant follows from that by induction over the run.
-/

set_option autoImplicit false

/-!
## Where a thread is
-/

/-! The waiting window and the locked sections, read off the program counter,
and what each piece of the drivers does to it. -/

namespace Conscrypt.Ssl

/-- Between the `waitingThreads++` after a `WANT_*` result and the decrement ending
`sslSelect`. -/
def Pc.waiting : Pc → Bool
  | .poll _ | .drainLock .. | .drain _ | .selectExit _ => true
  | _ => false

/-- The thread owns `AppData.mutex`: the locked section of `sslRead`/`sslWrite` (the
handshake step takes no lock) or `sslSelect` after its `poll`. -/
def Thread.holdsMutex (thread : Thread) : Bool :=
  match thread.pc with
  | .engine => thread.driver != .handshake
  | .notify | .drain _ | .selectExit _ => true
  | _ => false

/-- The thread's share of `waitingThreads`. -/
def Thread.waitingCount (thread : Thread) : Int :=
  if thread.pc.waiting then 1 else 0

theorem Thread.start_pc (thread : Thread) (request : Request) (setup : Setup) :
    (thread.start request setup).pc = .loopTest ∨ ∃ ret, (thread.start request setup).pc = .done ret := by
  cases request <;> simp only [Thread.start] <;> split <;> (try split) <;> simp

theorem Thread.handshakeExit_pc (thread : Thread) : ∃ ret, thread.handshakeExit.pc = .done ret := by
  unfold Thread.handshakeExit
  split_ifs <;> simp

@[simp] theorem Thread.handshakeExit_driver (thread : Thread) :
    thread.handshakeExit.driver = thread.driver := by
  simp [Thread.handshakeExit, apply_ite Thread.driver]

theorem Thread.loopTest_pc (alive : Bool) (thread : Thread) :
    (thread.loopTest alive).pc = .lock ∧ thread.driver ≠ .handshake ∨
      (thread.loopTest alive).pc = .engine ∧ thread.driver = .handshake ∨
      ∃ ret, (thread.loopTest alive).pc = .done ret := by
  unfold Thread.loopTest
  split <;> rename_i driver <;> split_ifs <;> simp [driver, Thread.handshakeExit_pc]

@[simp] theorem Thread.loopTest_driver (alive : Bool) (thread : Thread) :
    (thread.loopTest alive).driver = thread.driver := by
  unfold Thread.loopTest
  split <;> split_ifs <;> simp

theorem Thread.dispatch_pc (thread : Thread) :
    thread.dispatch.pc = .poll thread.sslError ∧ thread.sslError.isWant = true ∨
      thread.sslError.isWant = false ∧
        (thread.dispatch.pc = .loopTest ∨ ∃ ret, thread.dispatch.pc = .done ret) := by
  unfold Thread.dispatch
  cases sslError : thread.sslError <;> simp only [sslError] <;> (try split_ifs) <;>
    simp [SslError.isWant]

@[simp] theorem Thread.dispatch_driver (thread : Thread) : thread.dispatch.driver = thread.driver := by
  unfold Thread.dispatch
  split <;> (try split_ifs) <;> rfl

theorem Thread.afterSelect_pc (thread : Thread) (result : Int) :
    (thread.afterSelect result).pc = .loopTest ∨ ∃ ret, (thread.afterSelect result).pc = .done ret := by
  unfold Thread.afterSelect
  by_cases handshake : thread.driver = .handshake <;> simp only [handshake, if_true, if_false] <;>
    split_ifs <;> simp

@[simp] theorem Thread.afterSelect_driver (thread : Thread) (result : Int) :
    (thread.afterSelect result).driver = thread.driver := by
  simp [Thread.afterSelect, apply_ite Thread.driver]

/-- A pass of the `poll` loop stays in it or goes on to take the mutex. -/
theorem pollStep_pc {app : AppData} {thread next : Thread} {outcome : PollOutcome}
    (stepped : pollStep app thread outcome = some next) :
    next.pc = thread.pc ∨ ∃ result readable, next.pc = .drainLock result readable := by
  cases outcome <;> simp only [pollStep] at stepped <;> (repeat' split at stepped) <;>
    cases stepped <;> first | exact .inl rfl | exact .inr ⟨_, _, rfl⟩

/-- A step of the handshake keeps the driver; it enters `sslSelect`'s window, or
leaves `AppData` alone and goes back to the loop test or returns. -/
theorem handshakeStep_cases {app app' : AppData} {transport transport' : Transport} {thread next : Thread}
    {outcome : EngineOutcome} (stepped : handshakeStep app transport thread outcome = some (next, app', transport')) :
    next.driver = thread.driver ∧
      (app' = app ∧ (next.pc = .loopTest ∨ ∃ ret, next.pc = .done ret) ∨
        app' = { app with waitingThreads := app.waitingThreads + 1 } ∧ ∃ type, next.pc = .poll type) := by
  cases outcome with
  | initNotFinished => cases stepped
  | callbackStateFailed => cases stepped; exact ⟨rfl, .inl ⟨rfl, .inr ⟨0, rfl⟩⟩⟩
  | callbackThrew => cases stepped; exact ⟨rfl, .inl ⟨rfl, .inr ⟨0, rfl⟩⟩⟩
  | returned ret getError errno read written =>
      simp only [handshakeStep] at stepped
      by_cases bad : ¬ IsInt32 ret ∨ 1 < ret ∨ (ret ≤ 0 ∧ getError = .errorNone)
      · simp only [bad, ↓reduceIte] at stepped; cases stepped
      by_cases success : ret = 1
      · simp only [bad, success, ↓reduceIte] at stepped; cases stepped
        exact ⟨by simp, .inl ⟨rfl, .inr (Thread.handshakeExit_pc _)⟩⟩
      by_cases interrupted : errno = eintr
      · simp only [bad, success, interrupted, ↓reduceIte] at stepped; cases stepped
        exact ⟨rfl, .inl ⟨rfl, .inl rfl⟩⟩
      by_cases want : (sslErrorOf ret getError).isWant
      all_goals simp only [bad, success, interrupted, want, ↓reduceIte] at stepped; cases stepped
      · exact ⟨rfl, .inr ⟨rfl, _, rfl⟩⟩
      · exact ⟨by simp, .inl ⟨rfl, .inr (Thread.handshakeExit_pc _)⟩⟩

/-- A read of the pipe stays in the drain loop or leaves it for the decrement. -/
theorem drainStep_pc (app : AppData) (thread : Thread) (result : Int) (interrupted : Bool) :
    (drainStep app thread result interrupted).1.pc = .drain result ∨
      (drainStep app thread result interrupted).1.pc = .selectExit result := by
  simp only [drainStep]; split_ifs <;> simp

end Conscrypt.Ssl

/-!
## What one step does to `AppData`
-/

/-! The effect of one step of one thread, stated for every step whatever the
other thread does. The only assumption is the one the invariant carries: a
thread waiting for the lock of `sslRead`/`sslWrite` runs one of those. -/

namespace Conscrypt.Ssl

/-- One step of the thread in `slot` keeps the flag unless it clears it, moves the
waiter count with the thread's entering or leaving the window, and changes the
mutex only by taking it while free or by releasing it. -/
structure Thread.Effect (slot : Slot) (thread next : Thread) (app app' : AppData) : Prop where
  alive : app'.aliveAndKicking = app.aliveAndKicking
  waiting : app'.waitingThreads + thread.waitingCount = app.waitingThreads + next.waitingCount
  kept : thread.holdsMutex = next.holdsMutex → app'.mutex = app.mutex
  taken : thread.holdsMutex = false → next.holdsMutex = true → app.mutex = none ∧ app'.mutex = some slot
  released : thread.holdsMutex = true → next.holdsMutex = false → app'.mutex = none
  locking : next.pc = .lock → next.driver ≠ .handshake

section Effect

variable {slot : Slot} {thread next : Thread} {app app' : AppData}

/-- A step that leaves `AppData` alone and keeps the thread's place in the window and
in the locked sections. -/
theorem Thread.Effect.unchanged (waiting : thread.waitingCount = next.waitingCount)
    (holds : thread.holdsMutex = next.holdsMutex) (locking : next.pc = .lock → next.driver ≠ .handshake) :
    Thread.Effect slot thread next app app :=
  ⟨rfl, by rw [waiting], fun _ => rfl, fun free held => by simp_all,
    fun held free => by simp_all, locking⟩

/-- Leaving the locked section of `sslRead`/`sslWrite` by `leaveLocked`. -/
theorem Thread.Effect.leaveLocked (holds : thread.holdsMutex = true) (outside : thread.waitingCount = 0) :
    Thread.Effect slot thread (Ssl.leaveLocked app next).1 app (Ssl.leaveLocked app next).2 := by
  have shape := next.dispatch_pc
  have free : next.dispatch.holdsMutex = false := by
    rcases shape with ⟨pc, -⟩ | ⟨-, pc | ⟨ret, pc⟩⟩ <;> simp [Thread.holdsMutex, pc]
  refine ⟨rfl, ?_, fun same => ?_, fun held => ?_, fun _ _ => rfl, fun lock => ?_⟩
  · rw [outside]
    rcases shape with ⟨pc, want⟩ | ⟨want, pc | ⟨ret, pc⟩⟩ <;>
      simp [Ssl.leaveLocked, Thread.waitingCount, pc, Pc.waiting, want]
  · simp [Ssl.leaveLocked, holds, free] at same
  · simp [holds] at held
  · rcases shape with ⟨pc, -⟩ | ⟨-, pc | ⟨ret, pc⟩⟩ <;> simp [Ssl.leaveLocked, pc] at lock

/-- The pipe is not part of the effect: writing to it in `sslNotify` changes nothing
the effect speaks of. -/
theorem Thread.Effect.of_pipe {emergency : Nat}
    (effect : Thread.Effect slot thread next { app with emergency } app') : Thread.Effect slot thread next app app' :=
  ⟨effect.alive, effect.waiting, effect.kept, effect.taken, effect.released, effect.locking⟩

/-- Nor is the pipe the step leaves behind. -/
theorem Thread.Effect.to_pipe {emergency : Nat}
    (effect : Thread.Effect slot thread next app app') : Thread.Effect slot thread next app { app' with emergency } :=
  ⟨effect.alive, effect.waiting, effect.kept, effect.taken, effect.released, effect.locking⟩

/-- An early return from the locked section: the mutex is released by `appDataLock`'s
destructor. -/
theorem Thread.Effect.release (holds : thread.holdsMutex = true) (outside : thread.waitingCount = 0)
    {ret : Int} (done : next.pc = .done ret) : Thread.Effect slot thread next app { app with mutex := none } := by
  refine ⟨rfl, ?_, fun same => ?_, fun free => by simp [holds] at free, fun _ _ => rfl,
    fun lock => by simp [done] at lock⟩
  · rw [outside]; simp [Thread.waitingCount, done, Pc.waiting]
  · rw [holds] at same; simp [Thread.holdsMutex, done] at same

theorem Thread.Effect.lockedStep {transport transport' : Transport} {outcome : EngineOutcome}
    (engine : thread.pc = .engine) (driver : thread.driver ≠ .handshake)
    (stepped : Ssl.lockedStep app transport thread outcome = some (next, app', transport')) :
    Thread.Effect slot thread next app app' := by
  have holds : thread.holdsMutex = true := by simp [Thread.holdsMutex, engine, driver]
  have outside : thread.waitingCount = 0 := by simp [Thread.waitingCount, engine, Pc.waiting]
  cases outcome with
  | initNotFinished => cases stepped; exact .release holds outside rfl
  | callbackStateFailed => cases stepped; exact .release holds outside rfl
  | callbackThrew => cases stepped; exact .release holds outside rfl
  | returned result getError errno read written =>
      simp only [Ssl.lockedStep] at stepped
      split_ifs at stepped with bad notify <;> cases stepped
      · exact .unchanged (by simp [Thread.waitingCount, engine, Pc.waiting])
          (by simp [Thread.holdsMutex, engine, driver]) (by simp)
      · exact .leaveLocked holds outside

theorem Thread.Effect.handshakeStep {transport transport' : Transport} {outcome : EngineOutcome}
    (engine : thread.pc = .engine) (driver : thread.driver = .handshake)
    (stepped : Ssl.handshakeStep app transport thread outcome = some (next, app', transport')) :
    Thread.Effect slot thread next app app' := by
  rcases (handshakeStep_cases stepped).2 with ⟨rfl, outside⟩ | ⟨rfl, type, pc⟩
  · rcases outside with pc | ⟨ret, pc⟩ <;>
      exact .unchanged (by simp [Thread.waitingCount, engine, pc, Pc.waiting])
        (by simp [Thread.holdsMutex, engine, driver, pc]) (by simp [pc])
  · exact ⟨rfl, by simp [Thread.waitingCount, engine, pc, Pc.waiting], fun _ => rfl,
      fun _ held => by simp [Thread.holdsMutex, pc] at held,
      fun held => by simp [Thread.holdsMutex, engine, driver] at held, fun lock => by simp [pc] at lock⟩

theorem Thread.Effect.pollStep {outcome : PollOutcome} {type : SslError} (polling : thread.pc = .poll type)
    (stepped : Ssl.pollStep app thread outcome = some next) : Thread.Effect slot thread next app app := by
  rcases pollStep_pc stepped with same | ⟨result, readable, lock⟩
  · exact .unchanged (by simp [Thread.waitingCount, same]) (by simp [Thread.holdsMutex, same, polling])
      (by simp [same, polling])
  · exact .unchanged (by simp [Thread.waitingCount, polling, lock, Pc.waiting])
      (by simp [Thread.holdsMutex, polling, lock]) (by simp [lock])

theorem Thread.Effect.drainStep {result : Int} {interrupted : Bool} (draining : thread.pc = .drain result) :
    Thread.Effect slot thread (Ssl.drainStep app thread result interrupted).1 app
      (Ssl.drainStep app thread result interrupted).2 := by
  rcases drainStep_pc app thread result interrupted with pc | pc <;>
    exact .to_pipe (.unchanged (by simp [Thread.waitingCount, Pc.waiting, draining, pc])
      (by simp [Thread.holdsMutex, draining, pc]) (by simp [pc]))

/-- Every step of a thread has an effect, provided a thread at the lock of
`sslRead`/`sslWrite` runs one of those. -/
theorem Thread.step_effect {capacity : Nat} {other : Thread} {transport transport' : Transport} {move : Move}
    (locking : thread.pc = .lock → thread.driver ≠ .handshake)
    (stepped : Thread.step capacity slot other app transport thread move = some (next, app', transport')) :
    Thread.Effect slot thread next app app' := by
  cases move with
  | call request setup =>
      simp only [Thread.step] at stepped
      split_ifs at stepped with ready
      cases stepped
      rcases Thread.start_pc thread request setup with pc | ⟨ret, pc⟩ <;>
        exact .unchanged (by simp [Thread.waitingCount, ready.1, pc, Pc.waiting])
          (by simp [Thread.holdsMutex, ready.1, pc]) (by simp [pc])
  | proceed =>
      simp only [Thread.step] at stepped
      split at stepped <;> rename_i pc
      · cases stepped
        rcases Thread.loopTest_pc app.aliveAndKicking thread with ⟨lock, driver⟩ | ⟨engine, driver⟩ | ⟨ret, done⟩ <;>
          exact .unchanged (by simp [Thread.waitingCount, pc, Pc.waiting, *])
            (by simp [Thread.holdsMutex, pc, *]) (by simp [*])
      · split_ifs at stepped with free
        cases stepped
        exact ⟨rfl, by simp [Thread.waitingCount, pc, Pc.waiting], fun same => by
          simp [Thread.holdsMutex, pc, locking pc] at same, fun _ _ => ⟨free, rfl⟩,
          fun held => by simp [Thread.holdsMutex, pc] at held, fun lock => by simp at lock⟩
      · split_ifs at stepped with room
        cases stepped
        exact Thread.Effect.of_pipe (.leaveLocked (by simp [Thread.holdsMutex, pc])
          (by simp [Thread.waitingCount, pc, Pc.waiting]))
      · split_ifs at stepped with free readable <;> cases stepped <;>
          exact ⟨rfl, by simp [Thread.waitingCount, pc, Pc.waiting], fun same => by
            simp [Thread.holdsMutex, pc] at same, fun _ _ => ⟨free, rfl⟩,
            fun held => by simp [Thread.holdsMutex, pc] at held, fun lock => by simp at lock⟩
      · rename_i result
        cases stepped
        rcases Thread.afterSelect_pc thread result with after | ⟨ret, after⟩ <;>
          exact ⟨rfl, by simp [Thread.waitingCount, pc, after, Pc.waiting], fun same => by
            simp [Thread.holdsMutex, pc, after] at same, fun held => by simp [Thread.holdsMutex, pc] at held,
            fun _ _ => rfl, fun lock => by simp [after] at lock⟩
      · cases stepped
  | engine outcome =>
      simp only [Thread.step] at stepped
      split_ifs at stepped with engine driver
      · exact .handshakeStep engine driver stepped
      · exact .lockedStep engine driver stepped
  | poll outcome =>
      simp only [Thread.step] at stepped
      split at stepped <;> rename_i pc
      · obtain ⟨polled, polledStep, same⟩ := Option.map_eq_some'.mp stepped
        cases same
        exact .pollStep pc polledStep
      · cases stepped
  | drain interrupted =>
      simp only [Thread.step] at stepped
      split at stepped <;> rename_i pc
      · cases stepped
        exact .drainStep pc
      · cases stepped
  | finish =>
      simp only [Thread.step] at stepped
      split at stepped <;> rename_i pc
      · cases stepped
        exact .unchanged (by simp [Thread.waitingCount, pc, Pc.waiting]) (by simp [Thread.holdsMutex, pc])
          (by simp)
      · cases stepped

end Effect

end Conscrypt.Ssl

/-!
## The invariant
-/

/-! The waiter count, the owner of the mutex and the lock-taking drivers, in every
state reachable from `AppData::create` by any interleaving of the two driver slots
and of any number of interrupt calls, with any engine and kernel outcomes. -/

namespace Conscrypt.Ssl

/-- The coordinator's bookkeeping agrees with where the threads are. -/
structure Coordinated (connection : Connection) : Prop where
  counted : connection.appData.waitingThreads =
    (connection.thread .reader).waitingCount + (connection.thread .writer).waitingCount
  owner : ∀ slot, connection.appData.mutex = some slot ↔ (connection.thread slot).holdsMutex = true
  locking : ∀ slot, (connection.thread slot).pc = .lock → (connection.thread slot).driver ≠ .handshake

@[simp] theorem Slot.other_ne (slot : Slot) : slot.other ≠ slot := by
  cases slot <;> simp [Slot.other]

@[simp] theorem Slot.ne_other (slot : Slot) : slot ≠ slot.other := fun same => slot.other_ne same.symm

theorem Connection.waitingCount_split (connection : Connection) (slot : Slot) :
    (connection.thread .reader).waitingCount + (connection.thread .writer).waitingCount =
      (connection.thread slot).waitingCount + (connection.thread slot.other).waitingCount := by
  cases slot
  · rfl
  · exact Int.add_comm _ _

/-- The mutex after one thread's step: its owner is still the thread in a locked section. -/
private theorem owner_of_effect {slot : Slot} {thread next other : Thread} {app app' : AppData}
    (effect : Thread.Effect slot thread next app app')
    (self : app.mutex = some slot ↔ thread.holdsMutex = true)
    (rival : app.mutex = some slot.other ↔ other.holdsMutex = true) :
    (app'.mutex = some slot ↔ next.holdsMutex = true) ∧
      (app'.mutex = some slot.other ↔ other.holdsMutex = true) := by
  cases before : thread.holdsMutex <;> cases after : next.holdsMutex
  · rw [effect.kept (before.trans after.symm)]; exact ⟨by simpa [before] using self, rival⟩
  · obtain ⟨free, taken⟩ := effect.taken before after
    rw [free] at rival
    rw [taken]
    simpa using rival
  · rw [before] at self
    rw [self.mpr rfl] at rival
    rw [effect.released before after]
    simpa using rival
  · rw [effect.kept (before.trans after.symm)]; exact ⟨by simpa [before] using self, rival⟩

theorem Coordinated.initial : Coordinated Connection.initial :=
  ⟨rfl, fun slot => by cases slot <;> decide, fun slot => by cases slot <;> decide⟩

theorem Coordinated.step {capacity : Nat} {connection next : Connection} {action : Action}
    (coordinated : Coordinated connection) (stepped : step capacity connection action = some next) :
    Coordinated next := by
  cases action with
  | interruptStart => cases stepped; exact ⟨coordinated.1, coordinated.2, coordinated.3⟩
  | interruptNotify =>
      simp only [Ssl.step] at stepped
      split_ifs at stepped
      cases stepped; exact ⟨coordinated.1, coordinated.2, coordinated.3⟩
  | interruptNotifyAgain =>
      simp only [Ssl.step] at stepped
      split_ifs at stepped
      cases stepped; exact ⟨coordinated.1, coordinated.2, coordinated.3⟩
  | thread slot move =>
      obtain ⟨⟨thread, appData, transport⟩, threadStep, rfl⟩ := Option.map_eq_some'.mp stepped
      have effect := Thread.step_effect (coordinated.locking slot) threadStep
      have owners := owner_of_effect effect (coordinated.owner slot) (coordinated.owner slot.other)
      refine ⟨?_, fun target => ?_, fun target => ?_⟩
      · have counted := coordinated.counted
        have waiting := effect.waiting
        rw [Connection.waitingCount_split _ slot] at counted ⊢
        simp only [Connection.update_thread, Connection.update_thread_other, Connection.update_appData]
        omega
      · rcases Slot.eq_or_eq_other slot target with rfl | rfl
        · simpa using owners.1
        · simpa using owners.2
      · rcases Slot.eq_or_eq_other slot target with rfl | rfl
        · simpa using effect.locking
        · simpa using coordinated.locking slot.other

/-- The bookkeeping holds in every reachable state. -/
theorem Reachable.coordinated {capacity : Nat} {connection : Connection}
    (reachable : Reachable capacity connection) : Coordinated connection := by
  induction reachable with
  | initial => exact .initial
  | step action _ stepped coordinated => exact coordinated.step stepped

/-- A thread leaves the waiting window only by the decrement that ends `sslSelect`. -/
theorem Thread.step_window {capacity : Nat} {slot : Slot} {other thread next : Thread}
    {app app' : AppData} {transport transport' : Transport} {move : Move}
    (stepped : Thread.step capacity slot other app transport thread move = some (next, app', transport'))
    (waiting : thread.pc.waiting = true) :
    next.pc.waiting = true ∨ ∃ result, thread.pc = .selectExit result := by
  cases move with
  | call request setup =>
      simp only [Thread.step] at stepped
      split_ifs at stepped with ready
      simp [ready.1, Pc.waiting] at waiting
  | proceed =>
      simp only [Thread.step] at stepped
      split at stepped <;> rename_i pc <;> try simp [pc, Pc.waiting] at waiting
      · split_ifs at stepped <;> cases stepped <;> simp [Pc.waiting]
      · exact .inr ⟨_, pc⟩
      · cases stepped
  | engine outcome =>
      simp only [Thread.step] at stepped
      split_ifs at stepped with engine <;> simp [engine, Pc.waiting] at waiting
  | poll outcome =>
      simp only [Thread.step] at stepped
      split at stepped <;> rename_i pc
      · obtain ⟨polled, polledStep, same⟩ := Option.map_eq_some'.mp stepped
        cases same
        rcases pollStep_pc polledStep with same | ⟨result, readable, lock⟩
        · exact .inl (by rw [same, pc]; rfl)
        · exact .inl (by rw [lock]; rfl)
      · cases stepped
  | drain interrupted =>
      simp only [Thread.step] at stepped
      split at stepped
      · rename_i result _
        cases stepped
        rcases drainStep_pc app thread result interrupted with pc | pc <;> simp [pc, Pc.waiting]
      · cases stepped
  | finish =>
      simp only [Thread.step] at stepped
      split at stepped <;> rename_i pc
      · simp [pc, Pc.waiting] at waiting
      · cases stepped

theorem Thread.waitingCount_nonneg (thread : Thread) : 0 ≤ thread.waitingCount := by
  unfold Thread.waitingCount; split <;> decide

theorem Thread.waitingCount_le_one (thread : Thread) : thread.waitingCount ≤ 1 := by
  unfold Thread.waitingCount; split <;> decide

/-- In every reachable state `waitingThreads` is the number of threads between a
`WANT_*` increment and the decrement ending `sslSelect`, hence between 0 and 2; the
mutex belongs to the thread in a locked section, so never to a thread that left the
drivers, by whatever path; and a thread leaves the waiting window only through that
decrement, whatever `poll` returned. -/
theorem waiting_count_and_mutex_owner {capacity : Nat} {connection : Connection}
    (reachable : Reachable capacity connection) :
    connection.appData.waitingThreads =
        (connection.thread .reader).waitingCount + (connection.thread .writer).waitingCount ∧
      0 ≤ connection.appData.waitingThreads ∧ connection.appData.waitingThreads ≤ 2 ∧
      (∀ slot, connection.appData.mutex = some slot ↔ (connection.thread slot).holdsMutex = true) ∧
      (∀ slot, ((connection.thread slot).pc = .idle ∨ ∃ ret, (connection.thread slot).pc = .done ret) →
        connection.appData.mutex ≠ some slot) ∧
      ∀ slot move next, step capacity connection (.thread slot move) = some next →
        (connection.thread slot).pc.waiting = true → (next.thread slot).pc.waiting = false →
        (∃ result, (connection.thread slot).pc = .selectExit result) ∧
          next.appData.waitingThreads = connection.appData.waitingThreads - 1 := by
  have coordinated := reachable.coordinated
  have counted := coordinated.counted
  have reader := (connection.thread .reader).waitingCount_nonneg
  have writer := (connection.thread .writer).waitingCount_nonneg
  have reader' := (connection.thread .reader).waitingCount_le_one
  have writer' := (connection.thread .writer).waitingCount_le_one
  refine ⟨coordinated.counted, by omega, by omega, coordinated.owner, fun slot outside owned => ?_,
    fun slot move next stepped waiting left => ?_⟩
  · have holds := (coordinated.owner slot).mp owned
    rcases outside with pc | ⟨ret, pc⟩ <;> simp [Thread.holdsMutex, pc] at holds
  · obtain ⟨⟨thread, app, transport⟩, threadStep, rfl⟩ := Option.map_eq_some'.mp stepped
    simp only [Connection.update_thread] at left
    have effect := Thread.step_effect (coordinated.locking slot) threadStep
    rcases Thread.step_window threadStep waiting with still | exit
    · simp [still] at left
    · have moved := effect.waiting
      simp only [Thread.waitingCount, waiting, left, ↓reduceIte, Bool.false_eq_true] at moved
      exact ⟨exit, by simp only [Connection.update_appData]; omega⟩

/-- Both drivers reach `sslSelect` on an idle connection: first the reader, then the
writer, which still holds the lock when it is about to step. -/
def readerWaits : List Action :=
  [.thread .reader (.call (.read 10 0) Setup.ok), .thread .reader .proceed, .thread .reader .proceed,
    .thread .reader (.engine (.returned (-1) .wantRead eagain 0 0)),
    .thread .writer (.call (.write 0 10 0) Setup.ok), .thread .writer .proceed, .thread .writer .proceed]

/-- The state in which the reader waits in `poll` and the writer is in its locked section. -/
def readerWaiting : Connection :=
  (run 1 Connection.initial readerWaits).getD Connection.initial

theorem readerWaiting_reachable : Reachable 1 readerWaiting :=
  Reachable.initial.run (show run 1 Connection.initial readerWaits = some readerWaiting by decide)

/-- A state with a waiting reader and a writer holding the mutex. -/
theorem waiting_count_and_mutex_owner_reader_waiting :
    Reachable 1 readerWaiting ∧ readerWaiting.appData.waitingThreads = 1 ∧
      readerWaiting.appData.mutex = some .writer ∧
      (readerWaiting.appData.waitingThreads =
          (readerWaiting.thread .reader).waitingCount + (readerWaiting.thread .writer).waitingCount ∧
        0 ≤ readerWaiting.appData.waitingThreads ∧ readerWaiting.appData.waitingThreads ≤ 2 ∧
        (∀ slot, readerWaiting.appData.mutex = some slot ↔ (readerWaiting.thread slot).holdsMutex = true) ∧
        (∀ slot, ((readerWaiting.thread slot).pc = .idle ∨ ∃ ret, (readerWaiting.thread slot).pc = .done ret) →
          readerWaiting.appData.mutex ≠ some slot) ∧
        ∀ slot move next, step 1 readerWaiting (.thread slot move) = some next →
          (readerWaiting.thread slot).pc.waiting = true → (next.thread slot).pc.waiting = false →
          (∃ result, (readerWaiting.thread slot).pc = .selectExit result) ∧
            next.appData.waitingThreads = readerWaiting.appData.waitingThreads - 1) :=
  ⟨readerWaiting_reachable, by decide, by decide, waiting_count_and_mutex_owner readerWaiting_reachable⟩

end Conscrypt.Ssl
