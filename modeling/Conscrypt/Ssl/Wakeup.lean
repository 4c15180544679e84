import Conscrypt.Ssl.Invariant

/-!
# Wakeups through the emergency pipe

`sslSelect` polls the socket and the read end of `fdsEmergency`. An interrupt
call writes two bytes, and a data-moving step of `sslRead`/`sslWrite` writes one
while a thread waits. An unread byte ends every `poll`, but nothing reserves it
for the thread it was written for: the drain loop of whichever `sslSelect` takes
the mutex first reads it, and with a stale `EINTR` in `errno` that loop reads
the whole pipe.
-/

set_option autoImplicit false

/-!
## Polling
-/

/-! With the socket not ready, a `poll` returns on the pipe or on the timeout,
and only then. -/

namespace Conscrypt.Ssl

/-- With the socket not ready, `poll` returns on the pipe exactly when it holds a byte. -/
theorem pollStep_pipe_isSome (app : AppData) (thread : Thread) :
    (pollStep app thread (.ready false)).isSome ↔ 0 < app.emergency := by
  simp [pollStep]

/-- The timeout ends `poll` only when it is positive and the pipe is empty. -/
theorem pollStep_timedOut_isSome (app : AppData) (thread : Thread) :
    (pollStep app thread .timedOut).isSome ↔ 0 < thread.timeoutMillis ∧ app.emergency = 0 := by
  simp only [pollStep]
  split_ifs with returns <;> simp [returns]

theorem step_poll {capacity : Nat} {connection : Connection} {slot : Slot} {type : SslError}
    (polling : (connection.thread slot).pc = .poll type) (outcome : PollOutcome) :
    step capacity connection (.thread slot (.poll outcome)) =
      (pollStep connection.appData (connection.thread slot) outcome).map fun polled =>
        connection.update slot polled connection.appData connection.transport := by
  simp only [step, Thread.step, polling, Option.map_map]
  rfl

/-- A thread in `poll` with an empty pipe and no timeout waits for the socket alone. -/
theorem step_poll_blocked {capacity : Nat} {connection : Connection} {slot : Slot} {type : SslError}
    (polling : (connection.thread slot).pc = .poll type) (empty : connection.appData.emergency = 0)
    (forever : (connection.thread slot).timeoutMillis ≤ 0) :
    step capacity connection (.thread slot (.poll (.ready false))) = none ∧
      step capacity connection (.thread slot (.poll .timedOut)) = none := by
  rw [step_poll polling, step_poll polling, Option.map_eq_none', Option.map_eq_none',
    ← Option.not_isSome_iff_eq_none, ← Option.not_isSome_iff_eq_none, pollStep_pipe_isSome,
    pollStep_timedOut_isSome]
  omega

/-- A move that a socket which never becomes ready allows: a `poll` sees neither
readiness nor a failure other than a signal. -/
def Move.quietPoll : Move → Bool
  | .poll (.ready socketReady) => !socketReady
  | .poll (.failed errno closedAfter) => errno == eintr && !closedAfter
  | .poll .closedBefore => false
  | _ => true

/-- A thread in `poll` with an empty pipe and no timeout: of the quiet moves only a
`poll` interrupted by a signal is enabled, and the thread stays in `poll`. -/
theorem Thread.step_polling {capacity : Nat} {slot : Slot} {other thread next : Thread} {app app' : AppData}
    {transport transport' : Transport} {move : Move} {type : SslError}
    (stepped : Thread.step capacity slot other app transport thread move = some (next, app', transport'))
    (quiet : move.quietPoll = true) (polling : thread.pc = .poll type)
    (empty : app.emergency = 0) (forever : thread.timeoutMillis = 0) :
    next.pc = .poll type ∧ next.driver = thread.driver ∧ next.timeoutMillis = 0 ∧ app' = app := by
  cases move with
  | poll outcome =>
      simp only [Thread.step, polling] at stepped
      obtain ⟨polled, polledStep, same⟩ := Option.map_eq_some'.mp stepped
      cases same
      cases outcome with
      | ready socketReady =>
          cases socketReady
          · simp [pollStep, empty] at polledStep
          · simp [Move.quietPoll] at quiet
      | timedOut => simp [pollStep, forever] at polledStep
      | closedBefore => simp [Move.quietPoll] at quiet
      | failed errno closedAfter =>
          simp only [Move.quietPoll, Bool.and_eq_true, beq_iff_eq, Bool.not_eq_true'] at quiet
          simp only [pollStep, quiet, Bool.false_eq_true, ↓reduceIte] at polledStep
          cases polledStep
          exact ⟨polling, rfl, forever, rfl⟩
  | _ => simp [Thread.step, polling] at stepped

end Conscrypt.Ssl

/-!
## Progress tokens
-/

/-! A step of `sslRead`/`sslWrite` that moved data while a thread waits writes a
byte before it releases the mutex, to wake the other thread (comment (3) of
`AppData`). Nothing reserves the byte for that thread: the writer's own next
`sslSelect` may read it first, and the waiter then stays in `poll`. -/

namespace Conscrypt.Ssl

/-- The writer's `SSL_write` flushes 5 bytes and then wants to write; it notifies,
enters `sslSelect`, sees its own byte, drains it, and waits again after a step that
moved nothing. The reader takes no step. -/
def writerDrainsOwnToken : List Action :=
  [.thread .writer (.engine (.returned (-1) .wantWrite eagain 0 5)), .thread .writer .proceed,
    .thread .writer (.poll (.ready false)), .thread .writer .proceed, .thread .writer (.drain false),
    .thread .writer .proceed, .thread .writer .proceed, .thread .writer .proceed,
    .thread .writer (.engine (.returned (-1) .wantWrite eagain 0 0))]

/-- The state after `writerDrainsOwnToken`. -/
def ownTokenDrained : Connection :=
  (run 1 readerWaiting writerDrainsOwnToken).getD readerWaiting

/-- Only the drivers move, and each only as a socket that never becomes ready allows. -/
def Action.quiet : Action → Bool
  | .thread _ move => move.quietPoll
  | _ => false

/-- Both drivers wait in `poll` with no byte in the pipe and no timeout. -/
structure Parked (connection : Connection) : Prop where
  empty : connection.appData.emergency = 0
  reader : (connection.thread .reader).pc = .poll .wantRead
  writer : ∃ type, (connection.thread .writer).pc = .poll type
  forever : ∀ slot, (connection.thread slot).timeoutMillis = 0

theorem Parked.step {capacity : Nat} {connection next : Connection} {action : Action}
    (parked : Parked connection) (quiet : action.quiet = true)
    (stepped : step capacity connection action = some next) : Parked next := by
  obtain ⟨empty, reader, ⟨type, writer⟩, forever⟩ := parked
  cases action with
  | thread slot move =>
      obtain ⟨⟨thread, app, transport⟩, threadStep, rfl⟩ := Option.map_eq_some'.mp stepped
      cases slot
      · obtain ⟨polled, -, timeout, rfl⟩ := Thread.step_polling threadStep quiet reader empty (forever _)
        exact ⟨empty, polled, ⟨type, writer⟩, fun target => by cases target; exacts [timeout, forever .writer]⟩
      · obtain ⟨polled, -, timeout, rfl⟩ := Thread.step_polling threadStep quiet writer empty (forever _)
        exact ⟨empty, reader, ⟨type, polled⟩, fun target => by cases target; exacts [forever .reader, timeout]⟩
  | _ => simp [Action.quiet] at quiet

theorem Parked.run {capacity : Nat} {connection final : Connection} {actions : List Action}
    (parked : Parked connection) (quiet : ∀ action ∈ actions, action.quiet = true)
    (ran : run capacity connection actions = some final) : Parked final := by
  induction actions generalizing connection with
  | nil => cases ran; exact parked
  | cons action actions ih =>
      simp only [Conscrypt.Ssl.run, Option.bind_eq_some] at ran
      obtain ⟨next, stepped, rest⟩ := ran
      exact ih (parked.step (quiet action (.head _)) stepped) (fun other mem => quiet other (.tail _ mem)) rest

/-- A waiter can miss the byte written for it: the reader waits, the writer's step
moves data and writes a byte, the writer's own `sslSelect` reads it, and the reader
is left in the same `poll` with an empty pipe, for every pipe size. Both drivers then
wait, and while the socket stays not ready neither ever leaves `poll`. -/
theorem progress_token_lost_for_every_pipe (capacity : Nat) :
    ∃ waiting final, Reachable (capacity + 1) waiting ∧ (waiting.thread .reader).pc = .poll .wantRead ∧
      run (capacity + 1) waiting writerDrainsOwnToken = some final ∧
      waiting.transport.moved.toNat < final.transport.moved.toNat ∧
      final.thread .reader = waiting.thread .reader ∧ final.appData.emergency = 0 ∧
      step (capacity + 1) final (.thread .reader (.poll (.ready false))) = none ∧
      step (capacity + 1) final (.thread .reader (.poll .timedOut)) = none ∧
      ∀ actions later, (∀ action ∈ actions, action.quiet = true) →
        run (capacity + 1) final actions = some later →
        (later.thread .reader).pc = .poll .wantRead ∧ later.appData.emergency = 0 := by
  have roomy : 1 ≤ capacity + 1 := Nat.le_add_left 1 capacity
  have ran : run 1 readerWaiting writerDrainsOwnToken = some ownTokenDrained := by decide
  have parked : Parked ownTokenDrained :=
    ⟨by decide, by decide, ⟨.wantWrite, by decide⟩, fun slot => by cases slot <;> decide⟩
  have blocked := @step_poll_blocked (capacity + 1) _ _ _ parked.reader parked.empty (by simp [parked.forever])
  exact ⟨readerWaiting, ownTokenDrained, readerWaiting_reachable.mono roomy, by decide,
    run_mono roomy ran, by decide, by decide, parked.empty, blocked.1, blocked.2,
    fun actions later quiet after => ⟨(parked.run quiet after).reader, (parked.run quiet after).empty⟩⟩

end Conscrypt.Ssl

/-!
## Interrupts
-/

/-! `NativeCrypto_SSL_interrupt` writes one byte per thread that may wait, and each
`sslSelect` is meant to read one. The drain loop tests `errno` without clearing
it, so a `sslSelect` whose `poll` was interrupted by a signal (and then returned on
the pipe) keeps reading until the pipe is empty. -/

namespace Conscrypt.Ssl

/-- From `readerWaiting`: the writer also waits; a signal interrupts its `poll`, an
interrupt call writes its two bytes, the retried `poll` returns on the pipe, and
the drain loop, seeing the stale `EINTR`, reads both bytes and then fails with
`EAGAIN`. The reader takes no step. -/
def staleInterrupt : List Action :=
  [.thread .writer (.engine (.returned (-1) .wantWrite eagain 0 0)),
    .thread .writer (.poll (.failed eintr false)),
    .interruptStart, .interruptNotify, .interruptNotifyAgain,
    .thread .writer (.poll (.ready false)), .thread .writer .proceed,
    .thread .writer (.drain false), .thread .writer (.drain false), .thread .writer (.drain false)]

/-- The state after `staleInterrupt`. -/
def interruptDrained : Connection :=
  (run 2 readerWaiting staleInterrupt).getD readerWaiting

/-- What may still happen once the interrupt call returned: no new interrupt call,
and a reader that only polls as `Move.quietPoll` allows. -/
def Action.quietForReader : Action → Bool
  | .interruptStart => false
  | .thread .reader move => move.quietPoll
  | _ => true

/-- The writer outside any engine step: in its loop test, returned, idle, or leaving
`sslSelect`. -/
def Pc.beforeEngine : Pc → Bool
  | .loopTest | .idle | .done _ | .selectExit _ => true
  | _ => false

/-- The reader waits in `poll` with no byte in the pipe and no timeout, no interrupt
call is in flight, the flag is cleared, and the writer can no longer reach an engine
step, so nothing will write to the pipe. -/
structure Stranded (connection : Connection) : Prop where
  silenced : connection.appData.aliveAndKicking = false
  empty : connection.appData.emergency = 0
  noFirst : connection.interrupts.firstNotify = 0
  noSecond : connection.interrupts.secondNotify = 0
  polling : (connection.thread .reader).pc = .poll .wantRead
  reading : (connection.thread .reader).driver = .read
  forever : (connection.thread .reader).timeoutMillis = 0
  writing : (connection.thread .writer).driver = .write
  outside : (connection.thread .writer).pc.beforeEngine = true

/-- A writer before any engine step, with the flag cleared and the reader busy, stays
before any engine step and leaves the flag and the pipe alone. -/
theorem Thread.step_writer_beforeEngine {capacity : Nat} {other thread next : Thread} {app app' : AppData}
    {transport transport' : Transport} {move : Move}
    (stepped : Thread.step capacity .writer other app transport thread move = some (next, app', transport'))
    (silenced : app.aliveAndKicking = false) (writing : thread.driver = .write)
    (outside : thread.pc.beforeEngine = true) (busy : other.pc ≠ .idle) :
    next.driver = .write ∧ next.pc.beforeEngine = true ∧ app'.aliveAndKicking = app.aliveAndKicking ∧
      app'.emergency = app.emergency := by
  cases move with
  | call request setup =>
      simp only [Thread.step] at stepped
      split_ifs at stepped with ready
      cases stepped
      cases request with
      | read len timeoutMillis => simp [Request.allowed] at ready
      | handshake timeoutMillis => simp [Request.allowed, busy] at ready
      | write offset len timeoutMillis =>
          refine ⟨by simp only [Thread.start]; split <;> rfl, ?_, rfl, rfl⟩
          rcases Thread.start_pc thread (.write offset len timeoutMillis) setup with pc | ⟨ret, pc⟩ <;>
            simp [pc, Pc.beforeEngine]
  | proceed =>
      simp only [Thread.step] at stepped
      split at stepped <;> rename_i pc <;> try simp [pc, Pc.beforeEngine] at outside
      · cases stepped
        simp [Thread.loopTest, writing, silenced, Pc.beforeEngine]
      · rename_i result
        cases stepped
        refine ⟨by simp [writing], ?_, rfl, rfl⟩
        rcases Thread.afterSelect_pc thread result with after | ⟨ret, after⟩ <;> simp [after, Pc.beforeEngine]
      · cases stepped
  | engine outcome =>
      simp only [Thread.step] at stepped
      split_ifs at stepped with engine <;> simp [engine, Pc.beforeEngine] at outside
  | poll outcome =>
      simp only [Thread.step] at stepped
      split at stepped <;> rename_i pc
      · simp [pc, Pc.beforeEngine] at outside
      · cases stepped
  | drain interrupted =>
      simp only [Thread.step] at stepped
      split at stepped <;> rename_i pc
      · simp [pc, Pc.beforeEngine] at outside
      · cases stepped
  | finish =>
      simp only [Thread.step] at stepped
      split at stepped <;> cases stepped
      exact ⟨writing, rfl, rfl, rfl⟩

theorem Stranded.step {capacity : Nat} {connection next : Connection} {action : Action}
    (stranded : Stranded connection) (quiet : action.quietForReader = true)
    (stepped : step capacity connection action = some next) : Stranded next := by
  obtain ⟨silenced, empty, noFirst, noSecond, polling, reading, forever, writing, outside⟩ := stranded
  cases action with
  | interruptStart => simp [Action.quietForReader] at quiet
  | interruptNotify => simp [Ssl.step, noFirst] at stepped
  | interruptNotifyAgain => simp [Ssl.step, noSecond] at stepped
  | thread slot move =>
      obtain ⟨⟨thread, app, transport⟩, threadStep, rfl⟩ := Option.map_eq_some'.mp stepped
      cases slot
      · obtain ⟨polled, driver, timeout, rfl⟩ :=
          Thread.step_polling threadStep quiet polling empty forever
        exact ⟨silenced, empty, noFirst, noSecond, polled, driver.trans reading, timeout, writing, outside⟩
      · obtain ⟨driver, before, alive, pipe⟩ := Thread.step_writer_beforeEngine threadStep silenced writing
          outside (by simp [Slot.other, polling])
        exact ⟨alive.trans silenced, pipe.trans empty, noFirst, noSecond, polling, reading, forever, driver,
          before⟩

theorem Stranded.run {capacity : Nat} {connection final : Connection} {actions : List Action}
    (stranded : Stranded connection) (quiet : ∀ action ∈ actions, action.quietForReader = true)
    (ran : run capacity connection actions = some final) : Stranded final := by
  induction actions generalizing connection with
  | nil => cases ran; exact stranded
  | cons action actions ih =>
      simp only [Conscrypt.Ssl.run, Option.bind_eq_some] at ran
      obtain ⟨next, stepped, rest⟩ := ran
      exact ih (stranded.step (quiet action (.head _)) stepped) (fun other mem => quiet other (.tail _ mem)) rest

/-- An interrupt call can complete while the reader stays in `poll` with an empty
pipe and no timeout, for every pipe of at least two bytes; unless the socket becomes
ready, `poll` fails or another interrupt call begins, the reader never leaves it. -/
theorem interrupt_lost_after_stale_eintr (capacity : Nat) :
    ∃ waiting final, Reachable (capacity + 2) waiting ∧ (waiting.thread .reader).pc = .poll .wantRead ∧
      run (capacity + 2) waiting staleInterrupt = some final ∧
      final.thread .reader = waiting.thread .reader ∧ 0 < final.interrupts.completed ∧
      final.appData.emergency = 0 ∧ (final.thread .reader).timeoutMillis = 0 ∧
      step (capacity + 2) final (.thread .reader (.poll (.ready false))) = none ∧
      step (capacity + 2) final (.thread .reader (.poll .timedOut)) = none ∧
      ∀ actions later, (∀ action ∈ actions, action.quietForReader = true) →
        run (capacity + 2) final actions = some later →
        (later.thread .reader).pc = .poll .wantRead ∧ later.appData.emergency = 0 := by
  have roomy : 2 ≤ capacity + 2 := Nat.le_add_left 2 capacity
  have ran : run 2 readerWaiting staleInterrupt = some interruptDrained := by decide
  have stranded : Stranded interruptDrained := by constructor <;> decide
  have blocked := @step_poll_blocked (capacity + 2) _ _ _ stranded.polling stranded.empty
    (by simp [stranded.forever])
  exact ⟨readerWaiting, interruptDrained, readerWaiting_reachable.mono (Nat.le_add_left 1 _),
    by decide, run_mono roomy ran, by decide, by decide, stranded.empty, stranded.forever,
    blocked.1, blocked.2,
    fun actions later quiet after => ⟨(stranded.run quiet after).polling, (stranded.run quiet after).empty⟩⟩

end Conscrypt.Ssl

/-!
## The drain loop
-/

/-! `do { read(fdsEmergency[0], &token, 1); } while (errno == EINTR);` tests `errno`
after every read, but a read that succeeds leaves `errno` alone. Entered with
`EINTR` still in `errno`, from an interrupted `poll` or an interrupted read, the
loop reads until the pipe is empty; entered with any other value it reads once. -/

namespace Conscrypt.Ssl

theorem step_drain {capacity : Nat} {connection : Connection} {slot : Slot} {result : Int}
    (draining : (connection.thread slot).pc = .drain result) (interrupted : Bool) :
    step capacity connection (.thread slot (.drain interrupted)) =
      some (connection.update slot (drainStep connection.appData (connection.thread slot) result interrupted).1
        (drainStep connection.appData (connection.thread slot) result interrupted).2 connection.transport) := by
  simp [step, Thread.step, draining]

/-- With `EINTR` in `errno` and `k` bytes in the pipe, `k + 1` reads, none of them
interrupted, take every byte and leave on the `EAGAIN` of the last; with any other
`errno` and a byte in the pipe, the first read takes one byte and leaves. -/
theorem stale_eintr_drains_every_byte {capacity : Nat} {slot : Slot} {result : Int} (k : Nat)
    (connection : Connection) (draining : (connection.thread slot).pc = .drain result)
    (queued : connection.appData.emergency = k) :
    ((connection.thread slot).errno = eintr →
      ∃ final, run capacity connection (List.replicate (k + 1) (.thread slot (.drain false))) = some final ∧
        final.appData.emergency = 0 ∧ (final.thread slot).pc = .selectExit result) ∧
      ((connection.thread slot).errno ≠ eintr → 0 < k →
        ∃ final, step capacity connection (.thread slot (.drain false)) = some final ∧
          final.appData.emergency = k - 1 ∧ (final.thread slot).pc = .selectExit result) := by
  refine ⟨fun stale => ?_, fun fresh nonEmpty => ⟨_, step_drain draining false, ?_, ?_⟩⟩
  · induction k generalizing connection with
    | zero =>
        refine ⟨_, by rw [List.replicate_one, run, step_drain draining, Option.some_bind]; rfl, ?_, ?_⟩ <;>
          simp [drainStep, queued, eagain, eintr]
    | succ k ih =>
        have read : (drainStep connection.appData (connection.thread slot) result false).1.pc = .drain result ∧
            (drainStep connection.appData (connection.thread slot) result false).1.errno = eintr ∧
            (drainStep connection.appData (connection.thread slot) result false).2.emergency = k := by
          simp [drainStep, queued, stale]
        obtain ⟨final, ran, empty, exit⟩ := ih (connection.update slot _ _ connection.transport)
          (by simpa using read.1) (by simpa using read.2.2) (by simpa using read.2.1)
        exact ⟨final, by rw [List.replicate_succ, run, step_drain draining, Option.some_bind]; exact ran,
          empty, exit⟩
  · simp [drainStep, queued, Nat.pos_iff_ne_zero.mp nonEmpty]
  · simp [drainStep, queued, nonEmpty, fresh]

/-- The writer of `staleInterrupt` about to read the pipe: `errno` holds the `EINTR`
of its first `poll` and both bytes of the interrupt call are unread. -/
def staleDrainEntry : Connection :=
  (run 2 readerWaiting (staleInterrupt.take 7)).getD readerWaiting

theorem stale_eintr_drains_every_byte_two :
    (staleDrainEntry.thread .writer).pc = .drain 1 ∧ staleDrainEntry.appData.emergency = 2 ∧
      (staleDrainEntry.thread .writer).errno = eintr ∧
      ∃ final, run 2 staleDrainEntry (List.replicate 3 (.thread .writer (.drain false))) = some final ∧
        final.appData.emergency = 0 ∧ (final.thread .writer).pc = .selectExit 1 :=
  have draining : (staleDrainEntry.thread .writer).pc = .drain 1 := by decide
  have queued : staleDrainEntry.appData.emergency = 2 := by decide
  have stale : (staleDrainEntry.thread .writer).errno = eintr := by decide
  ⟨draining, queued, stale, (stale_eintr_drains_every_byte 2 staleDrainEntry draining queued).1 stale⟩

end Conscrypt.Ssl

/-!
## The progress test past `2 ^ 32` bytes
-/

/-! `bytesMoved` keeps the transport count modulo `2 ^ 32`, so once that many bytes
crossed the connection, every step passes the progress test. -/

namespace Conscrypt.Ssl

/-- The writer moves `2 ^ 32` bytes in three calls: two writes of `2 ^ 31 - 1` bytes,
each taken whole by one `SSL_write`, and a write of 10 bytes whose first step moves
2. The reader then waits, and the writer takes the lock for its remaining 8 bytes. -/
def fourGibWritten : List Action :=
  [.thread .writer (.call (.write 0 2147483647 0) Setup.ok), .thread .writer .proceed, .thread .writer .proceed,
    .thread .writer (.engine (.returned 2147483647 .errorNone 0 0 2147483647)), .thread .writer .proceed,
    .thread .writer .finish,
    .thread .writer (.call (.write 0 2147483647 0) Setup.ok), .thread .writer .proceed, .thread .writer .proceed,
    .thread .writer (.engine (.returned 2147483647 .errorNone 0 0 2147483647)), .thread .writer .proceed,
    .thread .writer .finish,
    .thread .writer (.call (.write 0 10 0) Setup.ok), .thread .writer .proceed, .thread .writer .proceed,
    .thread .writer (.engine (.returned 2 .errorNone 0 0 2)),
    .thread .reader (.call (.read 10 0) Setup.ok), .thread .reader .proceed, .thread .reader .proceed,
    .thread .reader (.engine (.returned (-1) .wantRead eagain 0 0)),
    .thread .writer .proceed, .thread .writer .proceed]

/-- The state after `fourGibWritten`. -/
def fourGibState : Connection :=
  (run 0 Connection.initial fourGibWritten).getD Connection.initial

/-- The state after the writer's next step, which moves nothing. -/
def idleStepTaken : Connection :=
  (step 0 fourGibState (.thread .writer (.engine (.returned (-1) .wantWrite eagain 0 0)))).getD fourGibState

/-- Past `2 ^ 32` transported bytes, a step of `sslWrite` that moves no byte while the
reader waits goes on to `sslNotify`, for every pipe size. -/
theorem idle_step_notifies_past_four_gib (capacity : Nat) :
    ∃ connection next, Reachable capacity connection ∧ 2 ^ 32 ≤ connection.transport.moved.toNat ∧
      step capacity connection (.thread .writer (.engine (.returned (-1) .wantWrite eagain 0 0))) =
        some next ∧
      next.transport = connection.transport ∧ (next.thread .writer).pc = .notify := by
  have reached : run 0 Connection.initial fourGibWritten = some fourGibState := by decide
  have stepped : step 0 fourGibState (.thread .writer (.engine (.returned (-1) .wantWrite eagain 0 0))) =
      some idleStepTaken := by decide
  exact ⟨fourGibState, idleStepTaken, (Reachable.initial.run reached).mono (Nat.zero_le _), by decide,
    step_mono (Nat.zero_le _) stepped, by decide, by decide⟩

end Conscrypt.Ssl
