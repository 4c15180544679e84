import Conscrypt.Bignum.Size

/-!
# The engine methods of a wrapped key

A key made by `getRSAPrivateKeyWrapper` or `getECPrivateKeyWrapper` carries the
methods of `android_rsa_method` and `android_ecdsa_method` (taken from
Chromium's keystore_openssl.cpp). A private operation hands its input to a
static upcall of `CryptoUpcalls` and copies the array Java returns into the
buffer the engine gave it. `RsaMethodSignRaw` pads the signature on the left
with zeros to exactly `RSA_size` bytes, which for a wrapped key is the
`cached_size` measured from the modulus; `RsaMethodDecrypt` copies the cleartext
as it is; `EcdsaMethodSign` copies a signature of at most `ECDSA_size` bytes.
A padded signature keeps its value.
-/

set_option autoImplicit false

/-!
## The methods
-/

/-! A failed method pushes an error and writes nothing, so a method returns the
bytes it writes at `out` (their count is `*out_len`) or the error it pushes. -/

namespace Conscrypt.Bignum

/-- The reason `OPENSSL_PUT_ERROR` records when a method fails. -/
inductive MethodError where
  /-- `RSA_R_UNKNOWN_PADDING_TYPE`. -/
  | unknownPaddingType
  /-- `ERR_R_INTERNAL_ERROR`. -/
  | internalError
  /-- `RSA_R_DATA_TOO_LARGE`. -/
  | dataTooLarge
  /-- `RSA_R_UNKNOWN_ALGORITHM_TYPE`. -/
  | unknownAlgorithmType
  /-- `ECDSA_R_NOT_IMPLEMENTED`. -/
  | notImplemented
  deriving DecidableEq, Repr

/-- The Java side of a wrapped key: what `rawSignDigestWithPrivateKey` and
`rsaDecryptWithPrivateKey` return for the bytes they copy into a new array, none
when `getJNIEnv` fails, an exception is pending or Java returns null. -/
structure Upcalls where
  rawSignDigestWithPrivateKey : List UInt8 → Option (List UInt8)
  rsaDecryptWithPrivateKey : Int → List UInt8 → Option (List UInt8)

/-- `RSA_PKCS1_PADDING`. -/
def rsaPkcs1Padding : Int := 1

/-- `RsaMethodSignRaw` with the key's `KeyExData` (none when it or its Java key
is missing) and `max_out`. -/
def rsaMethodSignRaw (upcalls : Upcalls) (exData : Option KeyExData) (maxOut : Nat)
    (input : List UInt8) (padding : Int) : Except MethodError (List UInt8) :=
  if padding ≠ rsaPkcs1Padding then .error .unknownPaddingType
  else
    match exData with
    | none => .error .internalError
    | some exData =>
        match upcalls.rawSignDigestWithPrivateKey input with
        | none => .error .internalError
        | some result =>
            let expectedSize := rsaMethodSize exData
            if result.length > expectedSize then .error .internalError
            else if maxOut < expectedSize then .error .dataTooLarge
            else .ok (List.replicate (expectedSize - result.length) 0 ++ result)

/-- `RsaMethodDecrypt`: the padding goes to Java unchecked. -/
def rsaMethodDecrypt (upcalls : Upcalls) (exData : Option KeyExData) (maxOut : Nat)
    (input : List UInt8) (padding : Int) : Except MethodError (List UInt8) :=
  match exData with
  | none => .error .internalError
  | some _ =>
      match upcalls.rsaDecryptWithPrivateKey padding input with
      | none => .error .internalError
      | some cleartext =>
          if maxOut < cleartext.length then .error .dataTooLarge else .ok cleartext

/-- `RsaMethodEncrypt` and `RsaMethodVerifyRaw`: a wrapped key has no public operation. -/
def rsaMethodEncrypt : Except MethodError (List UInt8) :=
  .error .unknownAlgorithmType

def rsaMethodVerifyRaw : Except MethodError (List UInt8) :=
  .error .unknownAlgorithmType

/-- `EcdsaMethodSign`, with whether `EcKeyGetKey` finds a Java key and `ECDSA_size`
of the key. It fails with only a log line, so a failure is none. -/
def ecdsaMethodSign (upcalls : Upcalls) (privateKey : Bool) (ecdsaSize : Nat) (digest : List UInt8) :
    Option (List UInt8) :=
  if !privateKey then none
  else
    match upcalls.rawSignDigestWithPrivateKey digest with
    | none => none
    | some signature => if signature.length > ecdsaSize then none else some signature

def ecdsaMethodVerify : Except MethodError Unit :=
  .error .notImplemented

end Conscrypt.Bignum

/-!
## What a method writes
-/

/-! `RsaMethodSignRaw` succeeds exactly when Java signs and the padded signature
fits; what it writes follows from that. -/

namespace Conscrypt.Bignum

section
variable {upcalls : Upcalls} {exData : Option KeyExData} {maxOut : Nat} {input written : List UInt8}
  {padding : Int}

theorem rsaMethodSignRaw_eq_ok_iff :
    rsaMethodSignRaw upcalls exData maxOut input padding = .ok written ↔
      padding = rsaPkcs1Padding ∧ ∃ data signature, exData = some data ∧
        upcalls.rawSignDigestWithPrivateKey input = some signature ∧
        signature.length ≤ rsaMethodSize data ∧ rsaMethodSize data ≤ maxOut ∧
        written = List.replicate (rsaMethodSize data - signature.length) 0 ++ signature := by
  unfold rsaMethodSignRaw
  by_cases pkcs1 : padding = rsaPkcs1Padding
  · rcases exData with _ | data
    · simp [pkcs1]
    cases signed : upcalls.rawSignDigestWithPrivateKey input with
    | none => simp [pkcs1, signed]
    | some signature =>
        by_cases long : signature.length > rsaMethodSize data
        · simp [pkcs1, signed, long]
        by_cases small : maxOut < rsaMethodSize data
        · simp [pkcs1, signed, long, small]
        · simp [pkcs1, signed, long, small, eq_comm, Nat.le_of_not_lt long, Nat.le_of_not_lt small]
  · simp [pkcs1]

end

/-- Leading zero bytes add nothing to a big-endian value. -/
theorem bnBin2bn_replicate_zero_append (count : Nat) (bytes : List UInt8) :
    bnBin2bn (List.replicate count 0 ++ bytes) = bnBin2bn bytes := by
  induction count with
  | zero => rfl
  | succ count ih => simp [List.replicate_succ, bnBin2bn, ih]

end Conscrypt.Bignum

/-!
## Signing through a wrapped key
-/

/-! What the engine gets back from a key built by `getRSAPrivateKeyWrapper`: a
signature exactly as long as the modulus whose value is the one Java computed. -/

namespace Conscrypt.Bignum

/-- A raw RSA signature through a key built by `getRSAPrivateKeyWrapper` has
exactly `BN_num_bytes` of the modulus, fits in `max_out`, and is Java's signature
behind leading zeros, so it has the same value. -/
theorem wrapped_rsa_signature {engine : WrapperEngine} {modulusBytes : List UInt8} {exData : KeyExData}
    (built : getRSAPrivateKeyWrapper engine modulusBytes = .ok exData)
    {upcalls : Upcalls} {maxOut : Nat} {input written : List UInt8} {padding : Int}
    (signed : rsaMethodSignRaw upcalls (some exData) maxOut input padding = .ok written) :
    written.length = bnNumBytes (arrayToBignum modulusBytes).natAbs ∧ written.length ≤ maxOut ∧
      ∃ signature, upcalls.rawSignDigestWithPrivateKey input = some signature ∧
        written = List.replicate (written.length - signature.length) 0 ++ signature ∧
        bnBin2bn written = bnBin2bn signature := by
  obtain ⟨-, data, signature, same, answered, fits, room, rfl⟩ := rsaMethodSignRaw_eq_ok_iff.mp signed
  cases same
  have length : (List.replicate (rsaMethodSize exData - signature.length) 0 ++ signature).length =
      rsaMethodSize exData := by
    simp only [List.length_append, List.length_replicate]; omega
  have measured := arrayToBignumSize_ok (getRSAPrivateKeyWrapper_cachedSize built)
  exact ⟨length.trans measured, by rw [length]; exact room, signature, answered, by rw [length],
    bnBin2bn_replicate_zero_append _ _⟩

theorem wrapped_rsa_signature_padded :
    getRSAPrivateKeyWrapper ⟨true, true, true⟩ [0x00, 0xc5, 0x01] = .ok ⟨2⟩ ∧
      rsaMethodSignRaw ⟨fun _ => some [7], fun _ _ => none⟩ (some ⟨2⟩) 4 [1] 1 = .ok [0, 7] ∧
      [(0 : UInt8), 7].length = bnNumBytes (arrayToBignum [0x00, 0xc5, 0x01]).natAbs ∧ [(0 : UInt8), 7].length ≤ 4 ∧
      ∃ signature, some [(7 : UInt8)] = some signature ∧
        [(0 : UInt8), 7] = List.replicate ([(0 : UInt8), 7].length - signature.length) 0 ++ signature ∧
        bnBin2bn [0, 7] = bnBin2bn signature :=
  ⟨rfl, rfl, @wrapped_rsa_signature ⟨true, true, true⟩ [0x00, 0xc5, 0x01] ⟨2⟩ rfl
    ⟨fun _ => some [7], fun _ _ => none⟩ 4 [1] [0, 7] 1 rfl⟩

end Conscrypt.Bignum
