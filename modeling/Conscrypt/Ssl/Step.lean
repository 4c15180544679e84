import Conscrypt.Ssl.State

/-!
# The blocking I/O coordinator: one step

`step capacity connection action` is one atomic action of a driver thread or of
an interrupt call, or `none` when the action cannot be taken: the mutex is held,
the pipe of `capacity` bytes is full, or the environment's choice does not fit
the thread's position. Each action touches at most one object shared outside
`AppData.mutex`, so every interleaving of the code is one of these actions.

The engine and the kernel are oracles. An engine step may report any result,
class and `errno`, within the engine's contract: at most `len` bytes per call,
`SSL_ERROR_NONE` only for a positive result, and `SSL_do_handshake` at most 1.
-/

set_option autoImplicit false

/-!
## What the environment decides
-/

/-! One engine step, one pass of `poll`, the arguments of a driver call and the
wrappers' checks before their loops. -/

namespace Conscrypt.Ssl

/-- What one engine step reports to the driver. -/
inductive EngineOutcome where
  /-- `!SSL_is_init_finished(ssl) && !SSL_in_false_start(ssl) && !SSL_renegotiate_pending(ssl)`. -/
  | initNotFinished
  /-- `setCallbackState` found the descriptor closed; `NetFd::isClosed` raised. -/
  | callbackStateFailed
  /-- `env->ExceptionCheck()` after the call: a Java callback threw. -/
  | callbackThrew
  /-- The call returned `result`; `SSL_get_error` would report `getError`; the call
  left `errno` and moved `read` and `written` bytes over the transport. -/
  | returned (result : Int) (getError : SslError) (errno : Nat) (read written : Nat)
  deriving DecidableEq, Repr

/-- What one pass of `sslSelect`'s `poll` loop sees. -/
inductive PollOutcome where
  /-- `fd.isClosed()` at the top of the loop. -/
  | closedBefore
  /-- `poll` returned a positive count: the socket is ready or the pipe holds a byte. -/
  | ready (socketReady : Bool)
  /-- `poll` returned 0 after a positive timeout. -/
  | timedOut
  /-- `poll` returned -1 with `errno`; `closedAfter` is `fd.isClosed()` then. -/
  | failed (errno : Nat) (closedAfter : Bool)
  deriving DecidableEq, Repr

/-- The arguments a driver loop reads. -/
inductive Request where
  | read (len : Int) (timeoutMillis : Int)
  | write (offset : Nat) (len : Int) (timeoutMillis : Int)
  | handshake (timeoutMillis : Int)
  deriving DecidableEq, Repr

/-- The JNI wrappers' checks before the loops: null references, and for the
handshake the descriptor, `SSL_set_fd` and `setBlocking`. -/
structure Setup where
  sslNull : Bool
  fdNull : Bool
  shcNull : Bool
  fdClosed : Bool
  setFdFails : Bool
  setBlockingFails : Bool
  deriving DecidableEq, Repr

/-- Every check passes. -/
def Setup.ok : Setup := ⟨false, false, false, false, false, false⟩

/-- The checks the three wrappers share: `to_SSL`, `fdObject`, `shc`. -/
def Setup.nullCheck (setup : Setup) : Option JavaException :=
  if setup.sslNull then some (.nullPointer "ssl == null")
  else if setup.fdNull then some (.nullPointer "fd == null")
  else if setup.shcNull then some (.nullPointer "sslHandshakeCallbacks == null")
  else none

/-- `NativeCrypto_SSL_do_handshake`'s checks before its loop. -/
def Setup.handshakeCheck (setup : Setup) : Option JavaException :=
  match setup.nullCheck with
  | some thrown => some thrown
  | none =>
      if setup.fdClosed then some .socket
      else if setup.setFdFails then some (.sslErrors "Error setting the file descriptor" .errorNone)
      else if setup.setBlockingFails then some (.ssl "Unable to make socket non blocking")
      else none

/-- The `jint` arguments of a request: the length and the timeout. -/
def Request.jints : Request → List Int
  | .read len timeoutMillis => [len, timeoutMillis]
  | .write _ len timeoutMillis => [len, timeoutMillis]
  | .handshake timeoutMillis => [timeoutMillis]

/-- The Java layer's contract: the reader slot reads, the writer slot writes,
either may run the handshake, and a handshake runs alone. -/
def Request.allowed (request : Request) (slot : Slot) (other : Thread) : Bool :=
  match request with
  | .read .. => slot == .reader && (other.pc == .idle || other.driver != .handshake)
  | .write .. => slot == .writer && (other.pc == .idle || other.driver != .handshake)
  | .handshake .. => other.pc == .idle

end Conscrypt.Ssl

/-!
## The drivers
-/

/-! The pieces of `sslRead`, `sslWrite` and `NativeCrypto_SSL_do_handshake`
between two shared actions. `sslRead` and `sslWrite` differ only in their loop
test and in what a successful step does. -/

namespace Conscrypt.Ssl

/-- Entering a driver: the wrapper's checks, the zero-length shortcut of
`sslRead`/`sslWrite`, then the loop with a fresh `OpenSslError`. -/
def Thread.start (thread : Thread) : Request → Setup → Thread
  | .read len timeoutMillis, setup =>
      let entered := { thread with
        driver := .read, sslError := .errorNone, result := 0, buf := 0, len, count := 0,
        timeoutMillis, exception := none }
      match setup.nullCheck with
      | some thrown => { entered with pc := .done 0, exception := some thrown }
      | none => { entered with pc := if len = 0 then .done 0 else .loopTest }
  | .write offset len timeoutMillis, setup =>
      let entered := { thread with
        driver := .write, sslError := .errorNone, result := 0, buf := offset, len, count := len,
        timeoutMillis, exception := none }
      match setup.nullCheck with
      | some thrown => { entered with pc := .done 0, exception := some thrown }
      | none => { entered with pc := if len = 0 then .done 0 else .loopTest }
  | .handshake timeoutMillis, setup =>
      let entered := { thread with
        driver := .handshake, sslError := .errorNone, result := 0, buf := 0, len := 0, count := 0,
        timeoutMillis, exception := none }
      match setup.handshakeCheck with
      | some thrown => { entered with pc := .done 0, exception := some thrown }
      | none => { entered with pc := .loopTest }

/-- The code after the handshake loop: a zero `ret` is a clean closure or a
termination, a negative one an abort, anything else is returned. -/
def Thread.handshakeExit (thread : Thread) : Thread :=
  if thread.result = 0 then
    if thread.sslError = .errorNone ∨ (thread.sslError = .syscall ∧ thread.errno = 0) ∨
        thread.sslError = .zeroReturn then
      { thread with pc := .done 0, exception := some (.sslHandshake "Connection closed by peer") }
    else
      { thread with
        pc := .done 0, exception := some (.sslHandshakeErrors "SSL handshake terminated" thread.sslError) }
  else if thread.result < 0 then
    { thread with
      pc := .done 0, exception := some (.sslHandshakeErrors "SSL handshake aborted" thread.sslError) }
  else { thread with pc := .done thread.result }

/-- The loop condition and the `errno = 0;` that opens the body. -/
def Thread.loopTest (alive : Bool) (thread : Thread) : Thread :=
  match thread.driver with
  | .read => if alive then { thread with pc := .lock, errno := 0 } else { thread with pc := .done (-1) }
  | .write =>
      if alive && decide (0 < thread.len) then { thread with pc := .lock, errno := 0 }
      else { thread with pc := .done thread.count }
  | .handshake => if alive then { thread with pc := .engine, errno := 0 } else thread.handshakeExit

/-- The `switch (sslError.get())` after `appDataLock.unlock()`. -/
def Thread.dispatch (thread : Thread) : Thread :=
  match thread.sslError with
  | .errorNone =>
      if thread.driver = .write then
        { thread with
          pc := .loopTest, buf := thread.buf + thread.result.toNat, len := thread.len - thread.result }
      else { thread with pc := .done thread.result }
  | .zeroReturn => { thread with pc := .done (-1) }
  | .wantRead => { thread with pc := .poll .wantRead }
  | .wantWrite => { thread with pc := .poll .wantWrite }
  | .syscall =>
      if thread.result = 0 then { thread with pc := .done (-1) }
      else if thread.errno = eintr then { thread with pc := .loopTest }
      else { thread with pc := .done throwSslException }
  | _ => { thread with pc := .done throwSslException }

/-- `if (WANT_*) appData->waitingThreads++; appDataLock.unlock();`, then the switch. -/
def leaveLocked (app : AppData) (thread : Thread) : Thread × AppData :=
  (thread.dispatch,
    { app with
      waitingThreads := if thread.sslError.isWant then app.waitingThreads + 1 else app.waitingThreads,
      mutex := none })

/-- The locked section of `sslRead`/`sslWrite` up to `sslNotify`: the early
returns release the mutex (`appDataLock`'s destructor), a step that moved data
while a thread waits goes on to `sslNotify`. The engine's result is an `int` no
larger than the length it was given, and positive when it reports no error. -/
def lockedStep (app : AppData) (transport : Transport) (thread : Thread) :
    EngineOutcome → Option (Thread × AppData × Transport)
  | .initNotFinished =>
      some ({ thread with pc := .done throwSslException }, { app with mutex := none }, transport)
  | .callbackStateFailed =>
      some ({ thread with pc := .done thrownException, exception := some .socket },
        { app with mutex := none }, transport)
  | .callbackThrew =>
      some ({ thread with pc := .done thrownException, exception := some .callback },
        { app with mutex := none }, transport)
  | .returned result getError errno read written =>
      if ¬ IsInt32 result ∨ thread.len < result ∨ (result ≤ 0 ∧ getError = .errorNone) then none
      else
        let after := transport.advance read written
        let stepped := { thread with result, errno, sslError := sslErrorOf result getError }
        if progressed transport after && decide (0 < app.waitingThreads) then
          some ({ stepped with pc := .notify }, app, after)
        else
          some ((leaveLocked app stepped).1, (leaveLocked app stepped).2, after)

/-- One pass of the handshake loop: no mutex, `EINTR` retries before the class is
asked, and `WANT_*` counts a waiter before `sslSelect`. `SSL_do_handshake` returns
an `int` of at most 1. -/
def handshakeStep (app : AppData) (transport : Transport) (thread : Thread) :
    EngineOutcome → Option (Thread × AppData × Transport)
  | .initNotFinished => none
  | .callbackStateFailed => some ({ thread with pc := .done 0, exception := some .socket }, app, transport)
  | .callbackThrew => some ({ thread with pc := .done 0, exception := some .callback }, app, transport)
  | .returned ret getError errno read written =>
      if ¬ IsInt32 ret ∨ 1 < ret ∨ (ret ≤ 0 ∧ getError = .errorNone) then none
      else
        let after := transport.advance read written
        let stepped := { thread with result := ret, errno }
        if ret = 1 then some (stepped.handshakeExit, app, after)
        else if errno = eintr then some ({ stepped with pc := .loopTest }, app, after)
        else
          let classified := { stepped with sslError := sslErrorOf ret getError }
          if classified.sslError.isWant then
            some ({ classified with pc := .poll classified.sslError },
              { app with waitingThreads := app.waitingThreads + 1 }, after)
          else some (classified.handshakeExit, app, after)

end Conscrypt.Ssl

/-!
## `sslSelect`
-/

/-! The `poll` loop retries only on `EINTR`; every exit then takes the mutex,
drains the pipe when `poll` saw it readable, and decrements the waiter count. -/

namespace Conscrypt.Ssl

/-- One pass of the `poll` loop on the socket and `fdsEmergency[0]`. -/
def pollStep (app : AppData) (thread : Thread) : PollOutcome → Option Thread
  | .closedBefore => some { thread with pc := .drainLock thrownException false, exception := some .socket }
  | .ready socketReady =>
      if socketReady = true ∨ 0 < app.emergency then
        some { thread with
          pc := .drainLock ((if socketReady then 1 else 0) + (if 0 < app.emergency then 1 else 0))
            (decide (0 < app.emergency)) }
      else none
  | .timedOut =>
      if 0 < thread.timeoutMillis ∧ app.emergency = 0 then some { thread with pc := .drainLock 0 false }
      else none
  | .failed errno closedAfter =>
      if closedAfter then
        some { thread with pc := .drainLock thrownException false, errno, exception := some .socket }
      else if errno = eintr then some { thread with errno }
      else some { thread with pc := .drainLock (-1) false, errno }

/-- One `read(fdsEmergency[0], &token, 1)` of the non-blocking read end, then the
test `errno == EINTR`. A successful read leaves `errno` as it was. -/
def drainStep (app : AppData) (thread : Thread) (result : Int) (interrupted : Bool) :
    Thread × AppData :=
  let errno := if interrupted then eintr else if 0 < app.emergency then thread.errno else eagain
  let emergency := if !interrupted && decide (0 < app.emergency) then app.emergency - 1 else app.emergency
  ({ thread with errno, pc := if errno = eintr then .drain result else .selectExit result },
    { app with emergency })

/-- The driver's reading of `sslSelect`'s result. -/
def Thread.afterSelect (thread : Thread) (result : Int) : Thread :=
  if thread.driver = .handshake then
    if result = thrownException then { thread with pc := .done 0 }
    else if result = -1 then
      { thread with pc := .done 0, exception := some (.sslHandshakeErrors "handshake error" .syscall) }
    else if result = 0 then
      { thread with pc := .done 0, exception := some (.socketTimeout "SSL handshake timed out") }
    else { thread with pc := .loopTest }
  else if result = thrownException then { thread with pc := .done thrownException }
  else if result = -1 then { thread with pc := .done throwSslException }
  else if result = 0 then { thread with pc := .done throwSocketTimeoutException }
  else { thread with pc := .loopTest }

end Conscrypt.Ssl

/-!
## Steps and runs
-/

/-! A thread's move is the environment's choice for its next action. An interrupt
call stores `aliveAndKicking = 0` and writes two bytes, each write blocking on a
full pipe like the driver's `sslNotify`. -/

namespace Conscrypt.Ssl

/-- The environment's choice for a thread's next action. -/
inductive Move where
  | call (request : Request) (setup : Setup)
  | proceed
  | engine (outcome : EngineOutcome)
  | poll (outcome : PollOutcome)
  | drain (interrupted : Bool)
  | finish
  deriving DecidableEq, Repr

/-- One action of the connection. -/
inductive Action where
  /-- `NativeCrypto_SSL_interrupt` begins: `appData->aliveAndKicking = 0`. -/
  | interruptStart
  /-- An interrupt call's first `sslNotify` writes its byte. -/
  | interruptNotify
  /-- An interrupt call's second `sslNotify` writes its byte; the call returns. -/
  | interruptNotifyAgain
  | thread (slot : Slot) (move : Move)
  deriving DecidableEq, Repr

/-- One action of the thread in `slot`, or `none` if it cannot be taken. A call's
length and timeout are `jint` values. -/
def Thread.step (capacity : Nat) (slot : Slot) (other : Thread) (app : AppData)
    (transport : Transport) (thread : Thread) : Move → Option (Thread × AppData × Transport)
  | .call request setup =>
      if thread.pc = .idle ∧ request.allowed slot other = true ∧ ∀ value ∈ request.jints, IsInt32 value then
        some (thread.start request setup, app, transport)
      else none
  | .proceed =>
      match thread.pc with
      | .loopTest => some (thread.loopTest app.aliveAndKicking, app, transport)
      | .lock =>
          if app.mutex = none then some ({ thread with pc := .engine }, { app with mutex := some slot }, transport)
          else none
      | .notify =>
          if app.emergency < capacity then
            some ((leaveLocked { app with emergency := app.emergency + 1 } thread).1,
              (leaveLocked { app with emergency := app.emergency + 1 } thread).2, transport)
          else none
      | .drainLock result readable =>
          if app.mutex = none then
            some ({ thread with pc := if 0 < result ∧ readable = true then .drain result else .selectExit result },
              { app with mutex := some slot }, transport)
          else none
      | .selectExit result =>
          some (thread.afterSelect result,
            { app with waitingThreads := app.waitingThreads - 1, mutex := none }, transport)
      | _ => none
  | .engine outcome =>
      if thread.pc = .engine then
        if thread.driver = .handshake then handshakeStep app transport thread outcome
        else lockedStep app transport thread outcome
      else none
  | .poll outcome =>
      match thread.pc with
      | .poll _ => (pollStep app thread outcome).map fun polled => (polled, app, transport)
      | _ => none
  | .drain interrupted =>
      match thread.pc with
      | .drain result =>
          some ((drainStep app thread result interrupted).1, (drainStep app thread result interrupted).2,
            transport)
      | _ => none
  | .finish =>
      match thread.pc with
      | .done _ => some ({ thread with pc := .idle }, app, transport)
      | _ => none

/-- The connection after the thread in `slot` took a step. -/
def Connection.update (connection : Connection) (slot : Slot) (thread : Thread) (appData : AppData)
    (transport : Transport) : Connection :=
  { connection.setThread slot thread with appData, transport }

@[simp] theorem Connection.update_thread (connection : Connection) (slot : Slot) (thread : Thread)
    (appData : AppData) (transport : Transport) :
    (connection.update slot thread appData transport).thread slot = thread := by
  cases slot <;> rfl

@[simp] theorem Connection.update_thread_other (connection : Connection) (slot : Slot) (thread : Thread)
    (appData : AppData) (transport : Transport) :
    (connection.update slot thread appData transport).thread slot.other = connection.thread slot.other := by
  cases slot <;> rfl

@[simp] theorem Connection.update_appData (connection : Connection) (slot : Slot) (thread : Thread)
    (appData : AppData) (transport : Transport) :
    (connection.update slot thread appData transport).appData = appData := rfl

@[simp] theorem Connection.update_transport (connection : Connection) (slot : Slot) (thread : Thread)
    (appData : AppData) (transport : Transport) :
    (connection.update slot thread appData transport).transport = transport := rfl

@[simp] theorem Connection.update_interrupts (connection : Connection) (slot : Slot) (thread : Thread)
    (appData : AppData) (transport : Transport) :
    (connection.update slot thread appData transport).interrupts = connection.interrupts := by
  cases slot <;> rfl

/-- One action of the connection, with a pipe of `capacity` bytes. -/
def step (capacity : Nat) (connection : Connection) : Action → Option Connection
  | .interruptStart =>
      some { connection with
        appData := { connection.appData with aliveAndKicking := false },
        interrupts := { connection.interrupts with firstNotify := connection.interrupts.firstNotify + 1 } }
  | .interruptNotify =>
      if 0 < connection.interrupts.firstNotify ∧ connection.appData.emergency < capacity then
        some { connection with
          appData := { connection.appData with emergency := connection.appData.emergency + 1 },
          interrupts := { connection.interrupts with
            firstNotify := connection.interrupts.firstNotify - 1,
            secondNotify := connection.interrupts.secondNotify + 1 } }
      else none
  | .interruptNotifyAgain =>
      if 0 < connection.interrupts.secondNotify ∧ connection.appData.emergency < capacity then
        some { connection with
          appData := { connection.appData with emergency := connection.appData.emergency + 1 },
          interrupts := { connection.interrupts with
            secondNotify := connection.interrupts.secondNotify - 1,
            completed := connection.interrupts.completed + 1 } }
      else none
  | .thread slot move =>
      (Thread.step capacity slot (connection.thread slot.other) connection.appData connection.transport
        (connection.thread slot) move).map fun (thread, appData, transport) =>
          connection.update slot thread appData transport

/-- The states a connection reaches from `AppData::create` by any interleaving. -/
inductive Reachable (capacity : Nat) : Connection → Prop where
  | initial : Reachable capacity Connection.initial
  | step {connection next : Connection} (action : Action) :
      Reachable capacity connection → step capacity connection action = some next →
      Reachable capacity next

/-- A finite interleaving, stopping at the first action that cannot be taken. -/
def run (capacity : Nat) (connection : Connection) : List Action → Option Connection
  | [] => some connection
  | action :: actions => (step capacity connection action).bind fun next => run capacity next actions

theorem Reachable.run {capacity : Nat} {connection final : Connection} {actions : List Action}
    (reachable : Reachable capacity connection) (ran : run capacity connection actions = some final) :
    Reachable capacity final := by
  induction actions generalizing connection with
  | nil => cases ran; exact reachable
  | cons action actions ih =>
      simp only [Conscrypt.Ssl.run, Option.bind_eq_some] at ran
      obtain ⟨next, stepped, rest⟩ := ran
      exact ih (reachable.step action stepped) rest

/-- A larger pipe allows every step a smaller one allows: only a write to a full
pipe waits. -/
theorem Thread.step_mono {capacity capacity' : Nat} (larger : capacity ≤ capacity') {slot : Slot}
    {other : Thread} {app : AppData} {transport : Transport} {thread : Thread} {move : Move}
    {result : Thread × AppData × Transport}
    (stepped : Thread.step capacity slot other app transport thread move = some result) :
    Thread.step capacity' slot other app transport thread move = some result := by
  cases move with
  | proceed =>
      simp only [Thread.step] at stepped ⊢
      split at stepped <;> try exact stepped
      split_ifs at stepped with room
      rw [if_pos (Nat.lt_of_lt_of_le room larger)]
      exact stepped
  | _ => exact stepped

theorem step_mono {capacity capacity' : Nat} (larger : capacity ≤ capacity') {connection next : Connection}
    {action : Action} (stepped : step capacity connection action = some next) :
    step capacity' connection action = some next := by
  cases action with
  | interruptStart => exact stepped
  | interruptNotify =>
      simp only [step] at stepped ⊢
      split_ifs at stepped with ready
      rw [if_pos ⟨ready.1, Nat.lt_of_lt_of_le ready.2 larger⟩]
      exact stepped
  | interruptNotifyAgain =>
      simp only [step] at stepped ⊢
      split_ifs at stepped with ready
      rw [if_pos ⟨ready.1, Nat.lt_of_lt_of_le ready.2 larger⟩]
      exact stepped
  | thread slot move =>
      obtain ⟨result, threadStep, rfl⟩ := Option.map_eq_some'.mp stepped
      simp only [step, Thread.step_mono larger threadStep, Option.map_some']

theorem Reachable.mono {capacity capacity' : Nat} (larger : capacity ≤ capacity') {connection : Connection}
    (reachable : Reachable capacity connection) : Reachable capacity' connection := by
  induction reachable with
  | initial => exact .initial
  | step action _ stepped reachable => exact reachable.step action (step_mono larger stepped)

theorem run_mono {capacity capacity' : Nat} (larger : capacity ≤ capacity') {connection final : Connection}
    {actions : List Action} (ran : run capacity connection actions = some final) :
    run capacity' connection actions = some final := by
  induction actions generalizing connection with
  | nil => exact ran
  | cons action actions ih =>
      simp only [Conscrypt.Ssl.run, Option.bind_eq_some] at ran ⊢
      obtain ⟨next, stepped, rest⟩ := ran
      exact ⟨next, step_mono larger stepped, ih rest⟩

end Conscrypt.Ssl
