import Mathlib.Data.Nat.Defs
import Mathlib.Algebra.Group.Nat.Basic

/-!
# Errors and integers at the native boundary

The engine's error classes and error queue entries, and the Java exceptions
the native glue leaves pending. An exception is named by its class and the
message the glue passes; the text the engine appends is not modelled. A `jint`
or a C `int` is an `Int` in the 32-bit range, and `int` arithmetic wraps into it.
-/

set_option autoImplicit false

namespace Conscrypt

/-- A `jint` or a C `int`: a 32-bit two's-complement value. -/
def IsInt32 (value : Int) : Prop := -2147483648 ≤ value ∧ value < 2147483648

instance (value : Int) : Decidable (IsInt32 value) := inferInstanceAs (Decidable (_ ∧ _))

/-- What a C `int` holds after arithmetic whose exact result is `value`, as the
compiled two's-complement code computes it: `value` modulo `2 ^ 32`, taken in
`[-2 ^ 31, 2 ^ 31)`. -/
def wrapInt32 (value : Int) : Int := (value + 2147483648) % 4294967296 - 2147483648

theorem wrapInt32_of_isInt32 {value : Int} (fits : IsInt32 value) : wrapInt32 value = value := by
  unfold wrapInt32 IsInt32 at *
  omega

/-- An entry of the engine's error queue (`ERR_get_error_line_data`). -/
structure EngineError where
  code : Nat
  deriving DecidableEq, Repr

/-- The class `SSL_get_error` reports for a step that returned `<= 0`. -/
inductive SslError where
  | errorNone
  | errorSsl
  | wantRead
  | wantWrite
  | wantX509Lookup
  | syscall
  | zeroReturn
  | wantConnect
  | wantAccept
  | other (code : Nat)
  deriving DecidableEq, Repr

/-- `SSL_ERROR_WANT_READ` or `SSL_ERROR_WANT_WRITE`: the engine waits for the socket. -/
def SslError.isWant (sslError : SslError) : Bool :=
  sslError == .wantRead || sslError == .wantWrite

/-- A pending Java exception, by the helper that raised it. -/
inductive JavaException where
  | nullPointer (message : String)
  | arrayIndexOutOfBounds (message : String)
  | outOfMemory (message : String)
  /-- `throwExceptionIfNecessary` for the queued engine error. -/
  | engine (error : EngineError)
  /-- The `SocketException` that `NetFd::isClosed` raises for a closed descriptor. -/
  | socket
  /-- An exception thrown by a Java callback during an engine step. -/
  | callback
  /-- `throwSSLExceptionWithSslErrors` with its default `throwSSLExceptionStr`. -/
  | sslErrors (message : String) (sslError : SslError)
  /-- `throwSSLExceptionWithSslErrors` raising through `throwSSLHandshakeExceptionStr`. -/
  | sslHandshakeErrors (message : String) (sslError : SslError)
  | ssl (message : String)
  | sslHandshake (message : String)
  | socketTimeout (message : String)
  /-- `jniThrowRuntimeException`. -/
  | runtime (message : String)
  /-- `jniThrowException` of `java/lang/IllegalArgumentException`. -/
  | illegalArgument (message : String)
  /-- `jniThrowException` of `java/security/cert/CertificateParsingException`. -/
  | certificateParsing (message : String)
  deriving DecidableEq, Repr

/-- `throwExceptionIfNecessary`: raise only when the engine queued an error. -/
def throwExceptionIfNecessary (queued : Option EngineError) : Option JavaException :=
  queued.map .engine

end Conscrypt
