import Conscrypt.Ssl.Invariant

/-!
# What the drivers return

`NativeCrypto_SSL_read`, `NativeCrypto_SSL_write` and
`NativeCrypto_SSL_do_handshake` turn the driver's return code into a Java result
and a pending exception. A read's outcome is classified over every run: data
only after an `SSL_read` that returned it, the end-of-stream sentinel only after
the engine reported the end of the stream or after an interrupt, an exception
otherwise. An interrupt makes `sslWrite` return its full count and the handshake
raise a peer closure that never happened.
-/

set_option autoImplicit false

/-!
## The JNI wrappers
-/

/-! The `switch (ret)` after `sslRead` and `sslWrite`. A driver code raises its
exception here; `THROWN_EXCEPTION` means one is pending already. -/

namespace Conscrypt.Ssl

/-- `NativeCrypto_SSL_read` once `sslRead` returned `ret`: the result and the exception
then pending. -/
def nativeReadResult (ret : Int) (sslError : SslError) (pending : Option JavaException) :
    Int × Option JavaException :=
  if ret = throwSslException then (-1, some (.sslErrors "Read error" sslError))
  else if ret = throwSocketTimeoutException then (-1, some (.socketTimeout "Read timed out"))
  else if ret = thrownException then (-1, pending)
  else (ret, pending)

/-- `NativeCrypto_SSL_write` once `sslWrite` returned `ret`: the exception then pending. -/
def nativeWriteException (ret : Int) (sslError : SslError) (pending : Option JavaException) :
    Option JavaException :=
  if ret = throwSslException then some (.sslErrors "Write error" sslError)
  else if ret = throwSocketTimeoutException then some (.socketTimeout "Write timed out")
  else pending

end Conscrypt.Ssl

/-!
## How `sslRead` returns
-/

/-! What a read thread carries when it returns a code, and what it must carry at
the points where a code is chosen later: the `sslNotify` before the switch, and
`sslSelect` after a `poll` that saw the descriptor closed. -/

namespace Conscrypt.Ssl

/-- The result `sslSelect` will return, once `poll` is over. -/
def Pc.selectResult : Pc → Option Int
  | .drainLock result _ | .drain result | .selectExit result => some result
  | _ => none

/-- What `sslRead` leaves when it returns `ret`, with `alive` the current flag. -/
structure Thread.ReadExit (alive : Bool) (thread : Thread) (ret : Int) : Prop where
  data : 0 < ret → ret = thread.result ∧ ret ≤ thread.len ∧ thread.sslError = .errorNone
  endOfStream : ret = -1 →
    thread.sslError = .zeroReturn ∨ (thread.sslError = .syscall ∧ thread.result = 0) ∨ alive = false
  empty : ret = 0 → thread.exception.isSome ∨ thread.len = 0
  thrown : ret = thrownException → thread.exception.isSome
  codes : ret < 0 → ret = -1 ∨ ret = throwSslException ∨ ret = throwSocketTimeoutException ∨
    ret = thrownException

/-- A read thread's state at the points where its return code is decided. -/
structure Thread.ReadInvariant (alive : Bool) (thread : Thread) : Prop where
  notify : thread.pc = .notify → thread.sslError = .errorNone → 0 < thread.result ∧ thread.result ≤ thread.len
  thrown : thread.pc.selectResult = some thrownException → thread.exception.isSome
  exit : ∀ ret, thread.pc = .done ret → thread.ReadExit alive ret

section ReadExit

variable {alive : Bool} {thread : Thread}

theorem Thread.readExit_error {ret : Int}
    (code : ret = throwSslException ∨ ret = throwSocketTimeoutException) : thread.ReadExit alive ret := by
  rcases code with rfl | rfl <;> constructor <;>
    simp [throwSslException, throwSocketTimeoutException, thrownException]

theorem Thread.readExit_thrown (pending : thread.exception.isSome) :
    thread.ReadExit alive thrownException := by
  constructor <;> simp [thrownException, pending]

theorem Thread.readExit_endOfStream
    (reason : thread.sslError = .zeroReturn ∨ (thread.sslError = .syscall ∧ thread.result = 0) ∨
      alive = false) : thread.ReadExit alive (-1) := by
  constructor <;> simp [thrownException, reason]

theorem Thread.readExit_data (positive : 0 < thread.result) (within : thread.result ≤ thread.len)
    (none : thread.sslError = .errorNone) : thread.ReadExit alive thread.result :=
  ⟨fun _ => ⟨rfl, within, none⟩, fun eof => by omega, fun zero => by omega,
    fun thrown => by simp [thrownException] at thrown; omega, fun negative => by omega⟩

theorem Thread.readExit_zero (pending : thread.exception.isSome ∨ thread.len = 0) :
    thread.ReadExit alive 0 := by
  constructor <;> simp [thrownException, pending]

/-- The flag only goes from set to cleared, and a cleared flag only widens what a
return of -1 may mean. -/
theorem Thread.ReadExit.clear {ret : Int} (exit : thread.ReadExit alive ret) : thread.ReadExit false ret :=
  ⟨exit.data, fun _ => .inr (.inr rfl), exit.empty, exit.thrown, exit.codes⟩

theorem Thread.ReadInvariant.clear (invariant : thread.ReadInvariant alive) : thread.ReadInvariant false :=
  ⟨invariant.notify, invariant.thrown, fun ret done => (invariant.exit ret done).clear⟩

/-- Where no code is decided, there is nothing to keep. -/
theorem Thread.ReadInvariant.quiet
    (quiet : thread.pc = .idle ∨ thread.pc = .loopTest ∨ thread.pc = .lock ∨ thread.pc = .engine ∨
      ∃ type, thread.pc = .poll type) : thread.ReadInvariant alive := by
  refine ⟨fun notify => ?_, fun thrown => ?_, fun ret done => ?_⟩ <;>
    rcases quiet with pc | pc | pc | pc | ⟨type, pc⟩ <;> simp [pc, Pc.selectResult] at *

/-- A thread that returned `ret`. -/
theorem Thread.ReadInvariant.done {ret : Int} (done : thread.pc = .done ret) (exit : thread.ReadExit alive ret) :
    thread.ReadInvariant alive :=
  ⟨fun notify => by simp [done] at notify, fun thrown => by simp [done, Pc.selectResult] at thrown,
    fun other returned => by rw [done] at returned; cases returned; exact exit⟩

/-- A thread inside `sslSelect` after `poll`, whose result is already fixed. -/
theorem Thread.ReadInvariant.selecting {result : Int} (selecting : thread.pc.selectResult = some result)
    (thrown : result = thrownException → thread.exception.isSome) : thread.ReadInvariant alive := by
  refine ⟨fun notify => ?_, fun fixed => thrown ?_, fun ret done => ?_⟩
  · simp [notify, Pc.selectResult] at selecting
  · rw [selecting] at fixed; cases fixed; rfl
  · simp [done, Pc.selectResult] at selecting

/-- The engine's contract: a class `SSL_ERROR_NONE` comes with a positive result, at
most the requested length. -/
theorem sslErrorOf_eq_errorNone {result len : Int} {getError : SslError}
    (contract : ¬(len < result ∨ (result ≤ 0 ∧ getError = .errorNone)))
    (none : sslErrorOf result getError = .errorNone) : 0 < result ∧ result ≤ len := by
  unfold sslErrorOf at none
  split_ifs at none with negative
  · simp [none] at contract; omega
  · omega

/-- The switch of `sslRead` after the locked section decides the code from the step's class. -/
theorem Thread.ReadInvariant.dispatch (reading : thread.driver = .read)
    (success : thread.sslError = .errorNone → 0 < thread.result ∧ thread.result ≤ thread.len) :
    thread.dispatch.ReadInvariant alive := by
  unfold Thread.dispatch
  cases sslError : thread.sslError <;> simp only [sslError]
  case errorNone =>
    rw [if_neg (by simp [reading])]
    exact .done rfl (Thread.readExit_data (success sslError).1 (success sslError).2 rfl)
  case zeroReturn => exact .done rfl (Thread.readExit_endOfStream (.inl rfl))
  case wantRead => exact .quiet (.inr (.inr (.inr (.inr ⟨_, rfl⟩))))
  case wantWrite => exact .quiet (.inr (.inr (.inr (.inr ⟨_, rfl⟩))))
  case syscall =>
    split_ifs with closed interrupted
    · exact .done rfl (Thread.readExit_endOfStream (.inr (.inl ⟨rfl, closed⟩)))
    · exact .quiet (.inr (.inl rfl))
    · exact .done rfl (Thread.readExit_error (.inl rfl))
  all_goals exact .done rfl (Thread.readExit_error (.inl rfl))

theorem lockedStep_driver {app app' : AppData} {transport transport' : Transport} {thread next : Thread}
    {outcome : EngineOutcome} (stepped : lockedStep app transport thread outcome = some (next, app', transport')) :
    next.driver = thread.driver := by
  cases outcome <;> simp only [lockedStep] at stepped <;> (try split_ifs at stepped) <;> cases stepped <;>
    simp [leaveLocked]

theorem pollStep_driver {app : AppData} {thread next : Thread} {outcome : PollOutcome}
    (stepped : pollStep app thread outcome = some next) : next.driver = thread.driver := by
  cases outcome <;> simp only [pollStep] at stepped <;> (try split_ifs at stepped) <;> cases stepped <;> rfl

/-- Only a call changes the driver a thread runs. -/
theorem Thread.step_driver {capacity : Nat} {slot : Slot} {other thread next : Thread} {app app' : AppData}
    {transport transport' : Transport} {move : Move}
    (stepped : Thread.step capacity slot other app transport thread move = some (next, app', transport'))
    (running : ∀ request setup, move ≠ .call request setup) : next.driver = thread.driver := by
  cases move with
  | call request setup => exact absurd rfl (running request setup)
  | proceed =>
      simp only [Thread.step] at stepped
      split at stepped <;> (try split_ifs at stepped) <;> cases stepped <;> simp [leaveLocked]
  | engine outcome =>
      simp only [Thread.step] at stepped
      split_ifs at stepped
      · exact (handshakeStep_cases stepped).1
      · exact lockedStep_driver stepped
  | poll outcome =>
      simp only [Thread.step] at stepped
      split at stepped
      · obtain ⟨polled, polledStep, same⟩ := Option.map_eq_some'.mp stepped
        cases same
        exact pollStep_driver polledStep
      · cases stepped
  | drain interrupted =>
      simp only [Thread.step] at stepped
      split at stepped <;> cases stepped
      simp only [drainStep]
  | finish =>
      simp only [Thread.step] at stepped
      split at stepped <;> cases stepped
      rfl

theorem Thread.ReadInvariant.pollStep {alive : Bool} {app : AppData} {thread next : Thread}
    {outcome : PollOutcome} {type : SslError} (polling : thread.pc = .poll type)
    (stepped : Ssl.pollStep app thread outcome = some next) : next.ReadInvariant alive := by
  cases outcome with
  | closedBefore => cases stepped; exact .selecting rfl fun _ => rfl
  | ready socketReady =>
      simp only [Ssl.pollStep] at stepped
      split_ifs at stepped <;> cases stepped <;>
        exact .selecting rfl fun thrown => by simp [thrownException] at thrown
  | timedOut =>
      simp only [Ssl.pollStep] at stepped
      split_ifs at stepped
      cases stepped
      exact .selecting rfl fun thrown => by simp [thrownException] at thrown
  | failed errno closedAfter =>
      simp only [Ssl.pollStep] at stepped
      split_ifs at stepped <;> cases stepped
      · exact .selecting rfl fun _ => rfl
      · exact .quiet (.inr (.inr (.inr (.inr ⟨type, polling⟩))))
      · exact .selecting rfl fun thrown => by simp [thrownException] at thrown

/-- One step of a read thread keeps its classification. -/
theorem Thread.ReadInvariant.step {capacity : Nat} {slot : Slot} {other thread next : Thread}
    {app app' : AppData} {transport transport' : Transport} {move : Move}
    (invariant : thread.driver = .read → thread.ReadInvariant app.aliveAndKicking)
    (stepped : Thread.step capacity slot other app transport thread move = some (next, app', transport'))
    (reading : next.driver = .read) : next.ReadInvariant app.aliveAndKicking := by
  cases move with
  | call request setup =>
      simp only [Thread.step] at stepped
      split_ifs at stepped
      cases stepped
      cases request with
      | read len timeoutMillis =>
          simp only [Thread.start]
          split
          · exact .done rfl (Thread.readExit_zero (.inl rfl))
          · split_ifs with empty
            · exact .done rfl (Thread.readExit_zero (.inr empty))
            · exact .quiet (.inr (.inl rfl))
      | write offset len timeoutMillis =>
          simp only [Thread.start] at reading
          split at reading <;> cases reading
      | handshake timeoutMillis =>
          simp only [Thread.start] at reading
          split at reading <;> cases reading
  | proceed =>
      have kept := invariant ((Thread.step_driver stepped (by simp)).symm.trans reading)
      simp only [Thread.step] at stepped
      split at stepped <;> rename_i pc
      · cases stepped
        have read : thread.driver = .read := by simpa using reading
        unfold Thread.loopTest
        simp only [read]
        split_ifs with alive
        · exact .quiet (.inr (.inr (.inl rfl)))
        · exact .done rfl (Thread.readExit_endOfStream (.inr (.inr (by simpa using alive))))
      · split_ifs at stepped
        cases stepped
        exact .quiet (.inr (.inr (.inr (.inl rfl))))
      · split_ifs at stepped
        cases stepped
        exact .dispatch (by simpa [leaveLocked] using reading) (kept.notify pc)
      · split_ifs at stepped <;> cases stepped <;>
          exact .selecting rfl fun thrown => kept.thrown (by simp [pc, Pc.selectResult, thrown])
      · cases stepped
        have read : thread.driver = .read := by simpa using reading
        unfold Thread.afterSelect
        rw [if_neg (by simp [read])]
        split_ifs with thrown failed timeout
        · exact .done rfl (Thread.readExit_thrown (kept.thrown (by simp [pc, Pc.selectResult, thrown])))
        · exact .done rfl (Thread.readExit_error (.inl rfl))
        · exact .done rfl (Thread.readExit_error (.inr rfl))
        · exact .quiet (.inr (.inl rfl))
      · cases stepped
  | engine outcome =>
      have read := (Thread.step_driver stepped (by simp)).symm.trans reading
      simp only [Thread.step] at stepped
      split_ifs at stepped with engine handshake
      · rw [read] at handshake; cases handshake
      · cases outcome with
        | initNotFinished => cases stepped; exact .done rfl (Thread.readExit_error (.inl rfl))
        | callbackStateFailed => cases stepped; exact .done rfl (Thread.readExit_thrown rfl)
        | callbackThrew => cases stepped; exact .done rfl (Thread.readExit_thrown rfl)
        | returned result getError errno received sent =>
            simp only [lockedStep] at stepped
            split_ifs at stepped with contract notify <;> cases stepped
            · exact ⟨fun _ none => sslErrorOf_eq_errorNone (fun bad => contract (.inr bad)) none,
                fun thrown => by simp [Pc.selectResult] at thrown, fun ret done => by simp at done⟩
            · exact .dispatch read (sslErrorOf_eq_errorNone fun bad => contract (.inr bad))
  | poll outcome =>
      simp only [Thread.step] at stepped
      split at stepped <;> rename_i pc
      · obtain ⟨polled, polledStep, same⟩ := Option.map_eq_some'.mp stepped
        cases same
        exact .pollStep pc polledStep
      · cases stepped
  | drain interrupted =>
      have kept := invariant ((Thread.step_driver stepped (by simp)).symm.trans reading)
      simp only [Thread.step] at stepped
      split at stepped
      · rename_i result pc
        cases stepped
        have selecting : (drainStep app thread result interrupted).1.pc.selectResult = some result := by
          rcases drainStep_pc app thread result interrupted with drained | drained <;>
            simp [drained, Pc.selectResult]
        exact .selecting selecting fun thrown => by
          simpa [drainStep] using kept.thrown (by simp [pc, Pc.selectResult, thrown])
      · cases stepped
  | finish =>
      simp only [Thread.step] at stepped
      split at stepped <;> cases stepped
      exact .quiet (.inl rfl)

end ReadExit

end Conscrypt.Ssl

/-!
## Read outcomes over every run
-/

/-! The classification holds for both slots in every reachable state. It needs no
assumption on the engine beyond its contract, on `poll`, or on when interrupt
calls come. -/

namespace Conscrypt.Ssl

/-- Every thread running `sslRead` keeps its return codes classified. -/
def ReadsClassified (connection : Connection) : Prop :=
  ∀ slot, (connection.thread slot).driver = .read →
    (connection.thread slot).ReadInvariant connection.appData.aliveAndKicking

theorem ReadsClassified.initial : ReadsClassified Connection.initial := by
  intro slot _
  cases slot <;> exact .quiet (.inl rfl)

theorem ReadsClassified.step {capacity : Nat} {connection next : Connection} {action : Action}
    (coordinated : Coordinated connection) (classified : ReadsClassified connection)
    (stepped : step capacity connection action = some next) : ReadsClassified next := by
  cases action with
  | interruptStart =>
      cases stepped
      exact fun slot reading => (classified slot reading).clear
  | interruptNotify =>
      simp only [Ssl.step] at stepped
      split_ifs at stepped
      cases stepped
      exact classified
  | interruptNotifyAgain =>
      simp only [Ssl.step] at stepped
      split_ifs at stepped
      cases stepped
      exact classified
  | thread slot move =>
      obtain ⟨⟨thread, appData, transport⟩, threadStep, rfl⟩ := Option.map_eq_some'.mp stepped
      have alive := (Thread.step_effect (coordinated.locking slot) threadStep).alive
      intro target reading
      simp only [Connection.update_appData, alive]
      rcases Slot.eq_or_eq_other slot target with rfl | rfl
      · simp only [Connection.update_thread] at reading ⊢
        exact Thread.ReadInvariant.step (classified target) threadStep reading
      · simp only [Connection.update_thread_other] at reading ⊢
        exact classified slot.other reading

theorem Reachable.readsClassified {capacity : Nat} {connection : Connection}
    (reachable : Reachable capacity connection) : ReadsClassified connection := by
  induction reachable with
  | initial => exact .initial
  | step action reached stepped classified => exact classified.step reached.coordinated stepped

/-- For every read of a positive length, in every run: when `NativeCrypto_SSL_read`
returns with no exception pending, it returns either the positive count its last
`SSL_read` returned, or the sentinel -1 after the engine reported the end of the
stream (`SSL_ERROR_ZERO_RETURN`, or `SSL_ERROR_SYSCALL` with result 0) or after an
interrupt cleared `aliveAndKicking`. -/
theorem native_read_quiet_result {capacity : Nat} {connection : Connection} {slot : Slot} {ret : Int}
    (reachable : Reachable capacity connection) (reading : (connection.thread slot).driver = .read)
    (requested : 0 < (connection.thread slot).len) (returned : (connection.thread slot).pc = .done ret)
    (quiet : (nativeReadResult ret (connection.thread slot).sslError (connection.thread slot).exception).2 =
      none) :
    (0 < (nativeReadResult ret (connection.thread slot).sslError (connection.thread slot).exception).1 ∧
        (nativeReadResult ret (connection.thread slot).sslError (connection.thread slot).exception).1 =
          (connection.thread slot).result ∧
        (connection.thread slot).result ≤ (connection.thread slot).len ∧
        (connection.thread slot).sslError = .errorNone) ∨
      ((nativeReadResult ret (connection.thread slot).sslError (connection.thread slot).exception).1 = -1 ∧
        ((connection.thread slot).sslError = .zeroReturn ∨
          ((connection.thread slot).sslError = .syscall ∧ (connection.thread slot).result = 0) ∨
          connection.appData.aliveAndKicking = false)) := by
  have exit := (reachable.readsClassified slot reading).exit ret returned
  unfold nativeReadResult at quiet ⊢
  split_ifs at quiet ⊢ with error timeout thrown
  · simp only at quiet
    have pending := exit.thrown thrown
    rw [quiet] at pending
    cases pending
  · simp only at quiet
    rcases Int.lt_trichotomy ret 0 with negative | zero | positive
    · rcases exit.codes negative with eof | code | code | code
      · exact .inr ⟨eof, exit.endOfStream eof⟩
      · exact absurd code error
      · exact absurd code timeout
      · exact absurd code thrown
    · rcases exit.empty zero with pending | empty
      · simp [quiet] at pending
      · omega
    · obtain ⟨same, within, none⟩ := exit.data positive
      exact .inl ⟨positive, same, same ▸ within, none⟩

/-- A read of 10 bytes to which the engine hands 5. -/
def fiveBytesRead : List Action :=
  [.thread .reader (.call (.read 10 0) Setup.ok), .thread .reader .proceed, .thread .reader .proceed,
    .thread .reader (.engine (.returned 5 .errorNone 0 5 0))]

/-- The state after `fiveBytesRead`. -/
def fiveBytesState : Connection :=
  (run 0 Connection.initial fiveBytesRead).getD Connection.initial

theorem native_read_quiet_result_five_bytes :
    Reachable 0 fiveBytesState ∧ (fiveBytesState.thread .reader).driver = .read ∧
      0 < (fiveBytesState.thread .reader).len ∧ (fiveBytesState.thread .reader).pc = .done 5 ∧
      (nativeReadResult 5 (fiveBytesState.thread .reader).sslError
        (fiveBytesState.thread .reader).exception).2 = none ∧
      ((0 < (nativeReadResult 5 (fiveBytesState.thread .reader).sslError
            (fiveBytesState.thread .reader).exception).1 ∧
          (nativeReadResult 5 (fiveBytesState.thread .reader).sslError
            (fiveBytesState.thread .reader).exception).1 = (fiveBytesState.thread .reader).result ∧
          (fiveBytesState.thread .reader).result ≤ (fiveBytesState.thread .reader).len ∧
          (fiveBytesState.thread .reader).sslError = .errorNone) ∨
        ((nativeReadResult 5 (fiveBytesState.thread .reader).sslError
            (fiveBytesState.thread .reader).exception).1 = -1 ∧
          ((fiveBytesState.thread .reader).sslError = .zeroReturn ∨
            ((fiveBytesState.thread .reader).sslError = .syscall ∧ (fiveBytesState.thread .reader).result = 0) ∨
            fiveBytesState.appData.aliveAndKicking = false))) :=
  have reachable := Reachable.initial.run (by decide : run 0 Connection.initial fiveBytesRead = some fiveBytesState)
  ⟨reachable, by decide, by decide, by decide, by decide,
    native_read_quiet_result reachable (by decide) (by decide) (by decide) (by decide)⟩

end Conscrypt.Ssl

/-!
## Interrupted calls
-/

/-! An interrupt call clears `aliveAndKicking` at any point of a driver's loop. The
loop test then ends the driver as if its work were done: `sslRead` returns the
end-of-stream sentinel, `sslWrite` its full count, and the handshake keeps the
`ret = 0` it started with. No engine step need have run. -/

namespace Conscrypt.Ssl

/-- An interrupt call clears the flag between the read's call and its first loop test. -/
def interruptedRead : List Action :=
  [.thread .reader (.call (.read 10 0) Setup.ok), .interruptStart, .thread .reader .proceed]

/-- The state after `interruptedRead`. -/
def interruptedReadState : Connection :=
  (run 0 Connection.initial interruptedRead).getD Connection.initial

/-- A read interrupted before any `SSL_read` returns the end-of-stream sentinel with
no exception pending, though the engine reported no end of stream (here with a pipe
of 65536 bytes, the default size on Linux; the run writes nothing to the pipe). -/
theorem interrupted_read_returns_end_of_stream :
    run 65536 Connection.initial interruptedRead = some interruptedReadState ∧
      (interruptedReadState.thread .reader).pc = .done (-1) ∧
      nativeReadResult (-1) (interruptedReadState.thread .reader).sslError
        (interruptedReadState.thread .reader).exception = (-1, none) ∧
      (interruptedReadState.thread .reader).sslError = .errorNone ∧ interruptedReadState.transport = ⟨0, 0⟩ :=
  ⟨run_mono (Nat.zero_le _) (by decide), by decide, by decide, by decide, by decide⟩

/-- A write of 10 bytes: the engine takes 4, then an interrupt call clears the flag
before the next loop test. -/
def interruptedWrite : List Action :=
  [.thread .writer (.call (.write 0 10 0) Setup.ok), .thread .writer .proceed, .thread .writer .proceed,
    .thread .writer (.engine (.returned 4 .errorNone 0 0 4)), .interruptStart, .thread .writer .proceed]

/-- The state after `interruptedWrite`. -/
def interruptedWriteState : Connection :=
  (run 0 Connection.initial interruptedWrite).getD Connection.initial

/-- A write of 10 bytes that the engine answers with the end of the stream. -/
def closedWrite : List Action :=
  [.thread .writer (.call (.write 0 10 0) Setup.ok), .thread .writer .proceed, .thread .writer .proceed,
    .thread .writer (.engine (.returned 0 .zeroReturn 0 0 0))]

/-- The state after `closedWrite`. -/
def closedWriteState : Connection :=
  (run 0 Connection.initial closedWrite).getD Connection.initial

/-- `NativeCrypto_SSL_write` returns with no exception pending while 6 of 10 bytes are
unwritten, after an interrupt between two `SSL_write` calls, and while all 10 are
unwritten, after the engine reported the end of the stream. -/
theorem write_returns_quietly_unwritten (capacity : Nat) :
    (run capacity Connection.initial interruptedWrite = some interruptedWriteState ∧
      (interruptedWriteState.thread .writer).pc = .done 10 ∧ (interruptedWriteState.thread .writer).len = 6 ∧
      nativeWriteException 10 (interruptedWriteState.thread .writer).sslError
        (interruptedWriteState.thread .writer).exception = none) ∧
    (run capacity Connection.initial closedWrite = some closedWriteState ∧
      (closedWriteState.thread .writer).pc = .done (-1) ∧ (closedWriteState.thread .writer).len = 10 ∧
      nativeWriteException (-1) (closedWriteState.thread .writer).sslError
        (closedWriteState.thread .writer).exception = none) :=
  ⟨⟨run_mono (Nat.zero_le _) (by decide), by decide, by decide, by decide⟩,
    ⟨run_mono (Nat.zero_le _) (by decide), by decide, by decide, by decide⟩⟩

/-- An interrupt call clears the flag before the handshake's first loop test. -/
def interruptedHandshake : List Action :=
  [.interruptStart, .thread .reader (.call (.handshake 0) Setup.ok), .thread .reader .proceed]

/-- The state after `interruptedHandshake`. -/
def interruptedHandshakeState : Connection :=
  (run 0 Connection.initial interruptedHandshake).getD Connection.initial

/-- A handshake that ran no `SSL_do_handshake` step raises the peer-closure
`SSLHandshakeException`. -/
theorem interrupted_handshake_blames_peer (capacity : Nat) :
    run capacity Connection.initial interruptedHandshake = some interruptedHandshakeState ∧
      (interruptedHandshakeState.thread .reader).pc = .done 0 ∧
      (interruptedHandshakeState.thread .reader).exception = some (.sslHandshake "Connection closed by peer") ∧
      interruptedHandshakeState.transport = ⟨0, 0⟩ :=
  ⟨run_mono (Nat.zero_le _) (by decide), by decide, by decide, by decide⟩

end Conscrypt.Ssl
