import Mathlib.Data.List.Forall2
import Conscrypt.Bignum.KeyMethods

/-!
# The handshake callbacks

During a handshake the engine calls back into the native code on the thread that
runs `SSL_do_handshake`: `cert_verify_callback`, `info_callback`, `cert_cb` and the
two PSK callbacks reach Java through the `env` saved in `AppData`, and the methods of
`android_rsa_method` and `android_ecdsa_method`, for a key that lives in Java, through
the env `getJNIEnv` returns for the same thread. A Java method that throws leaves
its exception pending; nothing clears it before `SSL_do_handshake` returns.
`info_callback`, `cert_cb` and the PSK callbacks call `ExceptionCheck` first and
return when it finds one. `cert_verify_callback` does not check, and
`rawSignDigestWithPrivateKey` and `rsaDecryptWithPrivateKey`, through which the key
methods call Java, check only after their `NewByteArray`: both call JNI with the
exception pending, which JNI does not allow.
-/

set_option autoImplicit false

/-!
## JNI on the handshake thread
-/

/-! The callbacks run on the thread's `JNIEnv`, which holds whether an exception is
pending and, here, every JNI function called on it, with whether one was pending at
the call. The functions that release what a scoped helper holds
(`Release<Type>ArrayElements`, `DeleteLocalRef`) are allowed with an exception pending
and are left out. The allocations are taken to succeed. -/

namespace Conscrypt.Ssl

/-- A JNI function the callbacks call. `getArrayElements` is the
`Get<Type>ArrayElements` of `ScopedByteArrayRO`, `ScopedByteArrayRW` and
`ScopedLongArrayRW`; `callMethod` is `CallVoidMethod`, `CallIntMethod` or
`CallStaticObjectMethod`, the call into Java. -/
inductive JniFunction where
  | exceptionCheck
  | getObjectClass
  | getMethodID
  | getStaticMethodID
  | newStringUTF
  | newByteArray
  | newLongArray
  | newObjectArray
  | setByteArrayRegion
  | setObjectArrayElement
  | getArrayElements
  | callMethod
  deriving DecidableEq, Repr

/-- The thread's `JNIEnv`: whether a Java exception is pending, and the JNI functions
called on it in order, each with whether an exception was pending at the call. -/
structure JniEnv where
  pending : Bool
  calls : List (JniFunction × Bool)
  deriving DecidableEq, Repr

/-- Native code running on the env. -/
abbrev Jni := StateM JniEnv

/-- A call of `function`. -/
def jni (function : JniFunction) : Jni Unit :=
  modify fun env => { env with calls := env.calls ++ [(function, env.pending)] }

/-- `env->ExceptionCheck()`. -/
def exceptionCheck : Jni Bool := do
  jni .exceptionCheck
  return (← get).pending

/-- A call into Java; a method that throws leaves its exception pending. -/
def callJava (throws : Bool) : Jni Unit := do
  jni .callMethod
  if throws then modify fun env => { env with pending := true }

/-- The calls JNI does not allow: those of a function other than `ExceptionCheck` made
with an exception pending. -/
def JniEnv.forbiddenCalls (env : JniEnv) : List JniFunction :=
  (env.calls.filter fun call => call.2 && call.1 != .exceptionCheck).map Prod.fst

@[simp]
theorem jni_run (function : JniFunction) (env : JniEnv) :
    (jni function).run env = ((), { env with calls := env.calls ++ [(function, env.pending)] }) := rfl

@[simp]
theorem exceptionCheck_run (env : JniEnv) :
    exceptionCheck.run env = (env.pending, { env with calls := env.calls ++ [(.exceptionCheck, env.pending)] }) :=
  rfl

@[simp]
theorem callJava_run (throws : Bool) (env : JniEnv) :
    (callJava throws).run env = ((), ⟨env.pending || throws, env.calls ++ [(.callMethod, env.pending)]⟩) := by
  cases throws <;> simp [callJava]

end Conscrypt.Ssl

/-!
## The callbacks
-/

/-! Each callback is a `Jni` computation, with the Java method's behaviour as an
argument: whether a void method throws, and for a method that returns a value, none
when it throws. `hasEnv` is whether `appData->env` is set, `attached` whether
`getJNIEnv` attaches the thread. -/

namespace Conscrypt.Ssl

open Bignum

/-- `getCertificateRefs(env, chain)`, with `chain` for a chain with certificates:
`NewLongArray` and its `ScopedLongArrayRW`. -/
def getCertificateRefs (chain : Bool) : Jni Unit := do
  if chain then
    jni .newLongArray
    jni .getArrayElements

/-- `cert_verify_callback`, with `chain` for `x509_store_ctx->untrusted` holding
certificates: calls `verifyCertificateChain` whenever `env` is set, and returns 1 when
no exception is pending afterwards. -/
def certVerifyCallback (hasEnv chain throws : Bool) : Jni Int := do
  if !hasEnv then return 0
  jni .getObjectClass
  jni .getMethodID
  getCertificateRefs chain
  jni .newStringUTF
  callJava throws
  return if (← exceptionCheck) then 0 else 1

/-- `SSL_CB_HANDSHAKE_START`. -/
def sslCbHandshakeStart : Nat := 0x10

/-- `SSL_CB_HANDSHAKE_DONE`. -/
def sslCbHandshakeDone : Nat := 0x20

/-- `info_callback(ssl, where, ret)`, with `where` as `whereBits`: calls `onSSLStateChange`
at the start and the end of a handshake. -/
def infoCallback (hasEnv : Bool) (whereBits : Nat) (throws : Bool) : Jni Unit := do
  if whereBits &&& sslCbHandshakeDone = 0 ∧ whereBits &&& sslCbHandshakeStart = 0 then return
  if !hasEnv then return
  if (← exceptionCheck) then return
  jni .getObjectClass
  jni .getMethodID
  callJava throws
  discard exceptionCheck

/-- The loop of `getPrincipalBytes` over `count` names: `ASN1ToByteArray` (its
`NewByteArray` and `ScopedByteArrayRW`) and `SetObjectArrayElement` for each. -/
def principalBytes : Nat → Jni Unit
  | 0 => pure ()
  | count + 1 => do
      jni .newByteArray
      jni .getArrayElements
      jni .setObjectArrayElement
      principalBytes count

/-- `getPrincipalBytes(env, names)` for a list of `count` names. -/
def getPrincipalBytes (count : Nat) : Jni Unit := do
  if count = 0 then return
  jni .newObjectArray
  principalBytes count

/-- `cert_cb`, with the number of names of the client CA list: a server goes on at
once; a client calls `clientCertificateRequested`. -/
def certCb (hasEnv isServer : Bool) (names : Nat) (throws : Bool) : Jni Int := do
  if isServer then return 1
  if !hasEnv then return 0
  if (← exceptionCheck) then return 0
  jni .getObjectClass
  jni .getMethodID
  getPrincipalBytes names
  jni .newByteArray
  jni .setByteArrayRegion
  callJava throws
  return if (← exceptionCheck) then 0 else 1

/-- A Java `byte[]` of `n` elements; Java code cannot change an array's length. -/
structure JavaBytes (n : Nat) where
  bytes : List UInt8
  length_eq : bytes.length = n

/-- What a PSK callback returns and the bytes it writes from `psk` and from `identity` on. -/
structure PskWrites where
  result : Nat
  psk : List UInt8
  identity : List UInt8

/-- A PSK callback that fails. -/
def PskWrites.failed : PskWrites := ⟨0, [], []⟩

/-- The key half the two PSK callbacks share, from the Java method's return on: `keyLen`
must be positive and at most `max_psk_len`; then `keyLen` bytes of the key array are
copied to `psk`. -/
def pskKey (maxPskLen : Nat) (keyLen : Int) (key : JavaBytes maxPskLen) : Option (Nat × List UInt8) :=
  if keyLen ≤ 0 then none
  else if maxPskLen < keyLen.toNat then none
  else some (keyLen.toNat, key.bytes.take keyLen.toNat)

/-- `psk_client_callback`, with whether the server sent a `hint`. `answer` is what
`clientPSKKeyRequested` does with the two arrays it is given: its return value and the
arrays as it leaves them. -/
def pskClientCallback (hasEnv hint : Bool) (maxIdentityLen maxPskLen : Nat)
    (answer : Option (Int × JavaBytes maxIdentityLen × JavaBytes maxPskLen)) : Jni PskWrites := do
  if !hasEnv then return .failed
  if (← exceptionCheck) then return .failed
  jni .getObjectClass
  jni .getMethodID
  if hint then jni .newStringUTF
  jni .newByteArray
  jni .newByteArray
  callJava answer.isNone
  if (← exceptionCheck) then return .failed
  match answer with
  | none => return .failed
  | some (keyLen, identity, key) =>
      match pskKey maxPskLen keyLen key with
      | none => return .failed
      | some (keyLen, psk) =>
          jni .getArrayElements
          jni .getArrayElements
          return ⟨keyLen, psk, identity.bytes⟩

/-- `psk_server_callback`, with whether there are an identity hint and a client
identity, and what `serverPSKKeyRequested` does with the key array. -/
def pskServerCallback (hasEnv hint identity : Bool) (maxPskLen : Nat) (answer : Option (Int × JavaBytes maxPskLen)) :
    Jni PskWrites := do
  if !hasEnv then return .failed
  if (← exceptionCheck) then return .failed
  jni .getObjectClass
  jni .getMethodID
  if hint then jni .newStringUTF
  if identity then jni .newStringUTF
  jni .newByteArray
  callJava answer.isNone
  if (← exceptionCheck) then return .failed
  match answer with
  | none => return .failed
  | some (keyLen, key) =>
      match pskKey maxPskLen keyLen key with
      | none => return .failed
      | some (keyLen, psk) =>
          jni .getArrayElements
          return ⟨keyLen, psk, []⟩

/-- `rawSignDigestWithPrivateKey` and `rsaDecryptWithPrivateKey`, which differ only in
the method they look up, with what the Java method returns (`some none` for null):
the array for the input, then `ExceptionCheck`, its `ScopedByteArrayRW`, the lookup
and the call. -/
def upcallWithPrivateKey (answer : Option (Option (List UInt8))) : Jni (Option (List UInt8)) := do
  jni .newByteArray
  if (← exceptionCheck) then return none
  jni .getArrayElements
  jni .getStaticMethodID
  callJava answer.isNone
  return answer.join

def rawSignDigestWithPrivateKey (answer : Option (Option (List UInt8))) : Jni (Option (List UInt8)) :=
  upcallWithPrivateKey answer

def rsaDecryptWithPrivateKey (answer : Option (Option (List UInt8))) : Jni (Option (List UInt8)) :=
  upcallWithPrivateKey answer

/-- `RsaMethodSignRaw` on the handshake thread. Past its checks of the padding and the
key it calls the upcall and takes a `ScopedByteArrayRO` of the signature it gets;
what it writes is what `Bignum.rsaMethodSignRaw` writes for that signature. -/
def rsaMethodSignRaw (attached : Bool) (exData : Option KeyExData) (maxOut : Nat) (input : List UInt8)
    (padding : Int) (answer : Option (Option (List UInt8))) : Jni (Except MethodError (List UInt8)) := do
  let signature ← if padding = rsaPkcs1Padding ∧ exData.isSome ∧ attached then
    rawSignDigestWithPrivateKey answer else pure none
  if signature.isSome then jni .getArrayElements
  return Bignum.rsaMethodSignRaw ⟨fun _ => signature, fun _ _ => none⟩ exData maxOut input padding

/-- `RsaMethodDecrypt` on the handshake thread, as `rsaMethodSignRaw` with
`rsaDecryptWithPrivateKey` and no check of the padding. -/
def rsaMethodDecrypt (attached : Bool) (exData : Option KeyExData) (maxOut : Nat) (input : List UInt8)
    (padding : Int) (answer : Option (Option (List UInt8))) : Jni (Except MethodError (List UInt8)) := do
  let cleartext ← if exData.isSome ∧ attached then rsaDecryptWithPrivateKey answer else pure none
  if cleartext.isSome then jni .getArrayElements
  return Bignum.rsaMethodDecrypt ⟨fun _ => none, fun _ _ => cleartext⟩ exData maxOut input padding

/-- `EcdsaMethodSign` on the handshake thread, as `rsaMethodSignRaw` with the Java key
`EcKeyGetKey` finds and `Bignum.ecdsaMethodSign`. -/
def ecdsaMethodSign (attached privateKey : Bool) (ecdsaSize : Nat) (digest : List UInt8)
    (answer : Option (Option (List UInt8))) : Jni (Option (List UInt8)) := do
  let signature ← if privateKey ∧ attached then rawSignDigestWithPrivateKey answer else pure none
  if signature.isSome then jni .getArrayElements
  return Bignum.ecdsaMethodSign ⟨fun _ => signature, fun _ _ => none⟩ privateKey ecdsaSize digest

theorem principalBytes_run (count : Nat) (env : JniEnv) :
    (principalBytes count).run env = ((), ⟨env.pending, env.calls ++
      (List.replicate count [JniFunction.newByteArray, .getArrayElements, .setObjectArrayElement]).flatten.map
        (·, env.pending)⟩) := by
  induction count generalizing env with
  | zero => simp [principalBytes]
  | succ count ih => simp [principalBytes, ih, List.replicate_succ]

/-- `getPrincipalBytes` neither raises nor clears an exception. -/
theorem getPrincipalBytes_run (count : Nat) (env : JniEnv) :
    ∃ calls : List JniFunction,
      (getPrincipalBytes count).run env = ((), ⟨env.pending, env.calls ++ calls.map (·, env.pending)⟩) := by
  unfold getPrincipalBytes
  split_ifs
  · exact ⟨[], by simp⟩
  · exact ⟨.newObjectArray :: (List.replicate count [.newByteArray, .getArrayElements, .setObjectArrayElement]).flatten,
      by simp [principalBytes_run]⟩

/-- With an exception pending the upcall stops at its `ExceptionCheck`, after the
`NewByteArray`. -/
theorem upcallWithPrivateKey_run_pending (answer : Option (Option (List UInt8))) (calls : List (JniFunction × Bool)) :
    (upcallWithPrivateKey answer).run ⟨true, calls⟩ =
      (none, ⟨true, calls ++ [(.newByteArray, true), (.exceptionCheck, true)]⟩) := by
  simp [upcallWithPrivateKey]

end Conscrypt.Ssl

/-!
## Over a handshake
-/

/-! A handshake's callbacks run one after another on the same env, each in the
state the one before left. -/

namespace Conscrypt.Ssl

open Bignum

/-- A callback the engine makes during a handshake, with its arguments and what its
Java method does. -/
inductive Upcall where
  | certVerify (chain throws : Bool)
  | info (whereBits : Nat) (throws : Bool)
  | certCb (isServer : Bool) (names : Nat) (throws : Bool)
  | pskClient (hint : Bool) (maxIdentityLen maxPskLen : Nat)
      (answer : Option (Int × JavaBytes maxIdentityLen × JavaBytes maxPskLen))
  | pskServer (hint identity : Bool) (maxPskLen : Nat) (answer : Option (Int × JavaBytes maxPskLen))
  | rsaSignRaw (attached : Bool) (exData : Option KeyExData) (maxOut : Nat) (input : List UInt8)
      (padding : Int) (answer : Option (Option (List UInt8)))
  | rsaDecrypt (attached : Bool) (exData : Option KeyExData) (maxOut : Nat) (input : List UInt8)
      (padding : Int) (answer : Option (Option (List UInt8)))
  | ecdsaSign (attached privateKey : Bool) (ecdsaSize : Nat) (digest : List UInt8)
      (answer : Option (Option (List UInt8)))

/-- The value a method returns to the engine: 1 when it wrote, 0 when it failed. -/
def methodResult {ε α : Type} (written : Except ε α) : Int :=
  match written with
  | .ok _ => 1
  | .error _ => 0

/-- The callback run on the env, with what it returns to the engine (none for
`info_callback`, which returns nothing). -/
def Upcall.apply (hasEnv : Bool) : Upcall → Jni (Option Int)
  | .certVerify chain throws => some <$> certVerifyCallback hasEnv chain throws
  | .info whereBits throws => (fun _ => none) <$> infoCallback hasEnv whereBits throws
  | .certCb isServer names throws => some <$> Ssl.certCb hasEnv isServer names throws
  | .pskClient hint maxIdentityLen maxPskLen answer =>
      (fun writes => some writes.result) <$> pskClientCallback hasEnv hint maxIdentityLen maxPskLen answer
  | .pskServer hint identity maxPskLen answer =>
      (fun writes => some writes.result) <$> pskServerCallback hasEnv hint identity maxPskLen answer
  | .rsaSignRaw attached exData maxOut input padding answer =>
      (some ∘ methodResult) <$> rsaMethodSignRaw attached exData maxOut input padding answer
  | .rsaDecrypt attached exData maxOut input padding answer =>
      (some ∘ methodResult) <$> rsaMethodDecrypt attached exData maxOut input padding answer
  | .ecdsaSign attached privateKey ecdsaSize digest answer =>
      (fun signature => some (if signature.isSome then 1 else 0)) <$>
        ecdsaMethodSign attached privateKey ecdsaSize digest answer

/-- What a callback leaves: what it returned to the engine, whether an exception is
pending after it, and the JNI calls it made. -/
structure Upcalled where
  result : Option Int
  env : JniEnv
  deriving DecidableEq, Repr

/-- The callback reported success to the engine. -/
def Upcalled.succeeded (called : Upcalled) : Bool :=
  called.result.any (0 < ·)

/-- The callback run with an exception pending or not, its calls recorded from none. -/
def Upcall.run (hasEnv pending : Bool) (upcall : Upcall) : Upcalled :=
  let (result, env) := (upcall.apply hasEnv).run ⟨pending, []⟩
  ⟨result, env⟩

/-- The callbacks of a handshake in order, each on the env the one before left. -/
def runUpcalls (hasEnv pending : Bool) : List Upcall → List Upcalled
  | [] => []
  | upcall :: upcalls =>
      let called := upcall.run hasEnv pending
      called :: runUpcalls hasEnv called.env.pending upcalls

/-- The callback is `cert_cb` on a server. -/
def Upcall.isServerCertCb : Upcall → Bool
  | .certCb isServer _ _ => isServer
  | _ => false

/-- The JNI functions a callback calls before it first asks `ExceptionCheck`:
`cert_verify_callback`'s whole lookup and call, and the `NewByteArray` of
`rawSignDigestWithPrivateKey` and `rsaDecryptWithPrivateKey` for a method past its
checks; no function for the others. -/
def Upcall.callsBeforeCheck (hasEnv : Bool) : Upcall → List JniFunction
  | .certVerify chain _ =>
      if hasEnv then
        [.getObjectClass, .getMethodID] ++ (if chain then [.newLongArray, .getArrayElements] else []) ++
          [.newStringUTF, .callMethod]
      else []
  | .rsaSignRaw attached exData _ _ padding _ =>
      if padding = rsaPkcs1Padding ∧ exData.isSome ∧ attached then [.newByteArray] else []
  | .rsaDecrypt attached exData _ _ _ _ => if exData.isSome ∧ attached then [.newByteArray] else []
  | .ecdsaSign attached privateKey _ _ _ => if privateKey ∧ attached then [.newByteArray] else []
  | _ => []

/-- Without a signature from Java `RsaMethodSignRaw` fails. -/
theorem methodResult_rsaMethodSignRaw_none (decrypt : Int → List UInt8 → Option (List UInt8))
    (exData : Option KeyExData) (maxOut : Nat) (input : List UInt8) (padding : Int) :
    methodResult (Bignum.rsaMethodSignRaw ⟨fun _ => none, decrypt⟩ exData maxOut input padding) = 0 := by
  unfold Bignum.rsaMethodSignRaw
  split_ifs <;> cases exData <;> rfl

theorem methodResult_rsaMethodDecrypt_none (sign : List UInt8 → Option (List UInt8))
    (exData : Option KeyExData) (maxOut : Nat) (input : List UInt8) (padding : Int) :
    methodResult (Bignum.rsaMethodDecrypt ⟨sign, fun _ _ => none⟩ exData maxOut input padding) = 0 := by
  cases exData <;> rfl

theorem ecdsaMethodSign_none (decrypt : Int → List UInt8 → Option (List UInt8)) (privateKey : Bool)
    (ecdsaSize : Nat) (digest : List UInt8) :
    Bignum.ecdsaMethodSign ⟨fun _ => none, decrypt⟩ privateKey ecdsaSize digest = none := by
  cases privateKey <;> rfl

/-- On an env with no exception pending a callback makes no call JNI forbids: each
asks `ExceptionCheck` after its call into Java before it calls JNI again. -/
theorem Upcall.run_clear (hasEnv : Bool) (upcall : Upcall) : (upcall.run hasEnv false).env.forbiddenCalls = [] := by
  cases upcall with
  | certVerify chain throws => cases hasEnv <;> cases chain <;> cases throws <;> rfl
  | info whereBits throws =>
      simp only [Upcall.run, Upcall.apply, infoCallback]
      split_ifs <;> cases hasEnv <;> cases throws <;> rfl
  | certCb isServer names throws =>
      obtain ⟨calls, ran⟩ := getPrincipalBytes_run names
        ⟨false, [(.exceptionCheck, false), (.getObjectClass, false), (.getMethodID, false)]⟩
      cases hasEnv <;> cases isServer <;> cases throws <;>
        simp [Upcall.run, Upcall.apply, Ssl.certCb, ran, JniEnv.forbiddenCalls]
  | pskClient hint maxIdentityLen maxPskLen answer =>
      rcases answer with _ | ⟨keyLen, identity, key⟩
      · cases hasEnv <;> cases hint <;> rfl
      · cases copied : pskKey maxPskLen keyLen key <;> simp only [Upcall.run, Upcall.apply, pskClientCallback, copied] <;>
          cases hasEnv <;> cases hint <;> rfl
  | pskServer hint identity maxPskLen answer =>
      rcases answer with _ | ⟨keyLen, key⟩
      · cases hasEnv <;> cases hint <;> cases identity <;> rfl
      · cases copied : pskKey maxPskLen keyLen key <;> simp only [Upcall.run, Upcall.apply, pskServerCallback, copied] <;>
          cases hasEnv <;> cases hint <;> cases identity <;> rfl
  | rsaSignRaw attached exData maxOut input padding answer =>
      simp only [Upcall.run, Upcall.apply, rsaMethodSignRaw]
      split_ifs
      · rcases answer with _ | _ | signature <;> rfl
      · rfl
  | rsaDecrypt attached exData maxOut input padding answer =>
      simp only [Upcall.run, Upcall.apply, rsaMethodDecrypt]
      split_ifs
      · rcases answer with _ | _ | cleartext <;> rfl
      · rfl
  | ecdsaSign attached privateKey ecdsaSize digest answer =>
      simp only [Upcall.run, Upcall.apply, ecdsaMethodSign]
      split_ifs
      · rcases answer with _ | _ | signature <;> rfl
      · rfl

/-- On an env with an exception pending a callback leaves it pending, reports success
only as `cert_cb` on a server, and calls with it pending what it calls before its first
`ExceptionCheck`. -/
theorem Upcall.run_pending (hasEnv : Bool) (upcall : Upcall) :
    (upcall.run hasEnv true).env.pending = true ∧
      ((upcall.run hasEnv true).succeeded = true → upcall.isServerCertCb = true) ∧
      (upcall.run hasEnv true).env.forbiddenCalls = upcall.callsBeforeCheck hasEnv := by
  cases upcall with
  | certVerify chain throws => cases hasEnv <;> cases chain <;> cases throws <;> decide
  | info whereBits throws =>
      simp only [Upcall.run, Upcall.apply, infoCallback]
      split_ifs <;> cases hasEnv <;> cases throws <;> exact ⟨rfl, nofun, rfl⟩
  | certCb isServer names throws =>
      cases isServer
      · cases hasEnv <;> exact ⟨rfl, nofun, rfl⟩
      · exact ⟨rfl, fun _ => rfl, rfl⟩
  | pskClient => cases hasEnv <;> exact ⟨rfl, nofun, rfl⟩
  | pskServer => cases hasEnv <;> exact ⟨rfl, nofun, rfl⟩
  | rsaSignRaw attached exData maxOut input padding answer =>
      simp only [Upcall.run, Upcall.apply, rsaMethodSignRaw, Upcall.callsBeforeCheck]
      split_ifs <;> simp [Upcalled.succeeded, rawSignDigestWithPrivateKey, upcallWithPrivateKey_run_pending,
        methodResult_rsaMethodSignRaw_none, JniEnv.forbiddenCalls]
  | rsaDecrypt attached exData maxOut input padding answer =>
      simp only [Upcall.run, Upcall.apply, rsaMethodDecrypt, Upcall.callsBeforeCheck]
      split_ifs <;> simp [Upcalled.succeeded, rsaDecryptWithPrivateKey, upcallWithPrivateKey_run_pending,
        methodResult_rsaMethodDecrypt_none, JniEnv.forbiddenCalls]
  | ecdsaSign attached privateKey ecdsaSize digest answer =>
      simp only [Upcall.run, Upcall.apply, ecdsaMethodSign, Upcall.callsBeforeCheck]
      split_ifs <;> simp [Upcalled.succeeded, rawSignDigestWithPrivateKey, upcallWithPrivateKey_run_pending,
        ecdsaMethodSign_none, JniEnv.forbiddenCalls]

/-- Once an exception is pending, the rest of the handshake keeps it. -/
theorem runUpcalls_of_pending (hasEnv : Bool) (upcalls : List Upcall) :
    List.Forall₂ (fun upcall (called : Upcalled) =>
        called.env.pending = true ∧ (called.succeeded = true → upcall.isServerCertCb = true) ∧
          called.env.forbiddenCalls = upcall.callsBeforeCheck hasEnv)
      upcalls (runUpcalls hasEnv true upcalls) := by
  induction upcalls with
  | nil => exact .nil
  | cons upcall upcalls ih =>
      have ran := Upcall.run_pending hasEnv upcall
      rw [runUpcalls, ran.1]
      exact .cons ran ih

/-- A Java exception from `onSSLStateChange` at the start of a handshake is still
pending when a wrapped RSA key signs: `rawSignDigestWithPrivateKey` calls `NewByteArray`
with it pending, and the method fails. -/
example :
    (runUpcalls true false [.info sslCbHandshakeStart true, .rsaSignRaw true (some ⟨2⟩) 4 [1] 1 (some (some [7]))]).map
      (fun called => (called.result, called.env.pending, called.env.forbiddenCalls)) =
    [(none, true, []), (some 0, true, [.newByteArray])] := by decide

end Conscrypt.Ssl
