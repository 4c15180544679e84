import Conscrypt.Engine.Errors

/-!
# The blocking I/O coordinator: state

The shared `AppData` of one connection, the transport's byte counters, the
local state of the two driver threads the Java layer admits at once, and the
`NativeCrypto_SSL_interrupt` calls in flight. A thread's program counter names
the point of `sslRead`, `sslWrite`, `NativeCrypto_SSL_do_handshake` or
`sslSelect` it has reached.
-/

set_option autoImplicit false

/-!
## Return codes and the progress test
-/

/-! The driver return codes, the two `errno` values the glue compares with
(their Linux values), and the byte-count comparison that decides whether a
step moved data. The comparison keeps the count in an `unsigned int`. -/

namespace Conscrypt.Ssl

/-- `THROW_SSLEXCEPTION`. -/
def throwSslException : Int := -2

/-- `THROW_SOCKETTIMEOUTEXCEPTION`. -/
def throwSocketTimeoutException : Int := -3

/-- `THROWN_EXCEPTION`. -/
def thrownException : Int := -4

/-- `EINTR`. -/
def eintr : Nat := 4

/-- `EAGAIN`. -/
def eagain : Nat := 11

/-- `OpenSslError::reset`: the class is asked of the engine only for a result `<= 0`. -/
def sslErrorOf (returnCode : Int) (getError : SslError) : SslError :=
  if returnCode ≤ 0 then getError else .errorNone

/-- `BIO_number_read(rbio)` and `BIO_number_written(wbio)`. -/
structure Transport where
  bytesRead : UInt64
  bytesWritten : UInt64
  deriving DecidableEq, Repr

/-- `BIO_number_read(rbio) + BIO_number_written(wbio)`, a 64-bit sum. -/
def Transport.moved (transport : Transport) : UInt64 :=
  transport.bytesRead + transport.bytesWritten

/-- An engine step moving `read` and `written` more bytes over the transport. -/
def Transport.advance (transport : Transport) (read written : Nat) : Transport :=
  ⟨transport.bytesRead + UInt64.ofNat read, transport.bytesWritten + UInt64.ofNat written⟩

/-- `unsigned int bytesMoved = BIO_number_read(rbio) + BIO_number_written(wbio);` -/
def bytesMoved (transport : Transport) : UInt32 :=
  transport.moved.toUInt32

/-- `BIO_number_read(rbio) + BIO_number_written(wbio) != bytesMoved`, the saved
count widened back to 64 bits. -/
def progressed (before after : Transport) : Bool :=
  after.moved != (bytesMoved before).toUInt64

end Conscrypt.Ssl

/-!
## Threads and shared state
-/

/-! Two driver slots, as `AppData`'s comment (2) allows: one reader and one
writer; either may run the handshake. Interrupt calls have no local state
besides how far they got, so they are counted, not named. -/

namespace Conscrypt.Ssl

/-- The two threads the Java layer lets into the native drivers at once. -/
inductive Slot where
  | reader
  | writer
  deriving DecidableEq, Repr

def Slot.other : Slot → Slot
  | .reader => .writer
  | .writer => .reader

/-- The driver loop a thread runs. -/
inductive Driver where
  | read
  | write
  | handshake
  deriving DecidableEq, Repr

/-- Where a thread is. `notify`, `drain` and `selectExit` hold `AppData.mutex`, as
does `engine` in `sslRead` and `sslWrite`; `poll` to `selectExit` lie between the
`waitingThreads++` after a `WANT_*` result and the decrement ending `sslSelect`. -/
inductive Pc where
  /-- Outside the native drivers. -/
  | idle
  /-- The loop condition `while (appData->aliveAndKicking ...)`. -/
  | loopTest
  /-- `UniqueMutex appDataLock(&appData->mutex)` in `sslRead`/`sslWrite`. -/
  | lock
  /-- One engine step: `SSL_read`, `SSL_write` or `SSL_do_handshake`. -/
  | engine
  /-- `sslNotify(appData)` after a step that moved data. -/
  | notify
  /-- The `poll` loop of `sslSelect` for the given `WANT_*` direction. -/
  | poll (type : SslError)
  /-- `sslSelect` taking the mutex after `poll` returned `result`. -/
  | drainLock (result : Int) (pipeReadable : Bool)
  /-- `do { read(fdsEmergency[0], &token, 1); } while (errno == EINTR);` -/
  | drain (result : Int)
  /-- `appData->waitingThreads--`, then `sslSelect` returns `result`. -/
  | selectExit (result : Int)
  /-- The driver returned `ret` to its JNI wrapper. -/
  | done (ret : Int)
  deriving DecidableEq, Repr

/-- A driver thread's local state: its `errno`, the `OpenSslError` of the call,
the last engine result (`ret` in the handshake), the buffer position and length
(`sslWrite` advances them), the write's `count`, the timeout and the Java
exception pending on its `JNIEnv`. -/
structure Thread where
  pc : Pc
  driver : Driver
  errno : Nat
  sslError : SslError
  result : Int
  buf : Nat
  len : Int
  count : Int
  timeoutMillis : Int
  exception : Option JavaException
  deriving DecidableEq, Repr

/-- A thread that has not entered the native code. -/
def Thread.initial : Thread :=
  ⟨.idle, .read, 0, .errorNone, 0, 0, 0, 0, 0, none⟩

/-- The synchronisation part of `AppData`: the flag, the waiter count, the unread
bytes of the pipe `fdsEmergency` and the owner of `mutex`. -/
structure AppData where
  aliveAndKicking : Bool
  waitingThreads : Int
  emergency : Nat
  mutex : Option Slot
  deriving DecidableEq, Repr

/-- `AppData::create`: alive, no waiter, an empty pipe, a free mutex. -/
def AppData.create : AppData := ⟨true, 0, 0, none⟩

/-- `NativeCrypto_SSL_interrupt` calls past `aliveAndKicking = 0`: in their first
`sslNotify`, in their second, and returned. -/
structure Interrupts where
  firstNotify : Nat
  secondNotify : Nat
  completed : Nat
  deriving DecidableEq, Repr

/-- One connection: its `AppData`, its transport, its two driver threads and the
interrupt calls in flight. -/
structure Connection where
  appData : AppData
  transport : Transport
  reader : Thread
  writer : Thread
  interrupts : Interrupts
  deriving DecidableEq, Repr

def Connection.initial : Connection :=
  ⟨AppData.create, ⟨0, 0⟩, Thread.initial, { Thread.initial with driver := .write }, ⟨0, 0, 0⟩⟩

def Connection.thread (connection : Connection) : Slot → Thread
  | .reader => connection.reader
  | .writer => connection.writer

def Connection.setThread (connection : Connection) : Slot → Thread → Connection
  | .reader, thread => { connection with reader := thread }
  | .writer, thread => { connection with writer := thread }

@[simp] theorem Connection.thread_setThread (connection : Connection) (slot : Slot) (thread : Thread) :
    (connection.setThread slot thread).thread slot = thread := by
  cases slot <;> rfl

@[simp] theorem Connection.thread_setThread_other (connection : Connection) (slot : Slot)
    (thread : Thread) : (connection.setThread slot thread).thread slot.other = connection.thread slot.other := by
  cases slot <;> rfl

@[simp] theorem Connection.setThread_appData (connection : Connection) (slot : Slot) (thread : Thread) :
    (connection.setThread slot thread).appData = connection.appData := by
  cases slot <;> rfl

@[simp] theorem Connection.setThread_interrupts (connection : Connection) (slot : Slot)
    (thread : Thread) : (connection.setThread slot thread).interrupts = connection.interrupts := by
  cases slot <;> rfl

@[simp] theorem Slot.other_other (slot : Slot) : slot.other.other = slot := by
  cases slot <;> rfl

theorem Slot.eq_or_eq_other (slot target : Slot) : target = slot ∨ target = slot.other := by
  cases slot <;> cases target <;> simp [Slot.other]

end Conscrypt.Ssl
