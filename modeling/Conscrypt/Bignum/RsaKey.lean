import Conscrypt.Bignum.Codec
import Conscrypt.Engine.Errors

/-!
# RSA keys from Java and back

`NativeCrypto_EVP_PKEY_new_RSA` builds an `RSA` from the `BigInteger`s of a Java
key, each passed as its two's-complement `byte[]`, and
`NativeCrypto_get_RSA_private_params` and `NativeCrypto_get_RSA_public_params`
hand the components back as arrays. The modulus and one of the two exponents must
be there; the other components are optional. A key with a private exponent and no
public one has blinding turned off. Every component comes back at the place of
its parameter, as `bignumToArray` of the value `arrayToBignum` read, and null
where null was passed; the public parameters of a key without a public exponent
raise a `NullPointerException`.
-/

set_option autoImplicit false

/-!
## The three functions
-/

/-! An `RSA` is its eight `BIGNUM*` and its flags. A Java array is none for null.
The allocations (`RSA_new`, `BN_bin2bn`, `EVP_PKEY_new`, `NewByteArray`,
`NewObjectArray`) are taken to succeed. -/

namespace Conscrypt.Bignum

/-- The components of an `RSA`, none for a NULL `BIGNUM*`, and whether
`RSA_FLAG_NO_BLINDING` is set. -/
structure RsaKey where
  n : Option Int
  e : Option Int
  d : Option Int
  p : Option Int
  q : Option Int
  dmp1 : Option Int
  dmq1 : Option Int
  iqmp : Option Int
  noBlinding : Bool
  deriving DecidableEq, Repr

/-- The arrays `NativeCrypto_EVP_PKEY_new_RSA` is given. -/
structure RsaArrays where
  n : Option (List UInt8)
  e : Option (List UInt8)
  d : Option (List UInt8)
  p : Option (List UInt8)
  q : Option (List UInt8)
  dmp1 : Option (List UInt8)
  dmq1 : Option (List UInt8)
  iqmp : Option (List UInt8)
  deriving DecidableEq, Repr

/-- The arrays in the order of the parameters, which is the order of the places of
`get_RSA_private_params`. -/
def RsaArrays.components (arrays : RsaArrays) : List (Option (List UInt8)) :=
  [arrays.n, arrays.e, arrays.d, arrays.p, arrays.q, arrays.dmp1, arrays.dmq1, arrays.iqmp]

/-- `arrayToBignum(env, source, &dest)`: for a null array `ScopedByteArrayRO` raises a
`NullPointerException` without a message, written `""`. -/
def arrayToBignumChecked : Option (List UInt8) → Except JavaException Int
  | none => .error (.nullPointer "")
  | some source => .ok (arrayToBignum source)

/-- `if (x != nullptr && !arrayToBignum(env, x, &rsa->x)) return 0;`. -/
def optionalBignum (source : Option (List UInt8)) : Except JavaException (Option Int) :=
  match source with
  | none => .ok none
  | some _ => (arrayToBignumChecked source).map some

/-- `NativeCrypto_EVP_PKEY_new_RSA`: the `RSA` it wraps. By the final test of
`rsa->n == nullptr || (rsa->e == nullptr && rsa->d == nullptr)`, `n` is set. -/
def evpPkeyNewRsa (arrays : RsaArrays) : Except JavaException RsaKey := do
  if arrays.e.isNone && arrays.d.isNone then throw (.illegalArgument "e == null && d == null")
  let n ← arrayToBignumChecked arrays.n
  let e ← optionalBignum arrays.e
  let d ← optionalBignum arrays.d
  let p ← optionalBignum arrays.p
  let q ← optionalBignum arrays.q
  let dmp1 ← optionalBignum arrays.dmp1
  let dmq1 ← optionalBignum arrays.dmq1
  let iqmp ← optionalBignum arrays.iqmp
  if e.isNone && d.isNone then throw (.runtime "Unable to convert BigInteger to BIGNUM")
  pure ⟨some n, e, d, p, q, dmp1, dmq1, iqmp, d.isSome && e.isNone⟩

/-- `bignumToArray(env, source, sourceName)`: a NULL `BIGNUM*` raises a
`NullPointerException` naming the component. -/
def bignumToArrayChecked (source : Option Int) (sourceName : String) : Except JavaException (List UInt8) :=
  match source with
  | none => .error (.nullPointer sourceName)
  | some source => .ok (bignumToArray source)

/-- `if (rsa->x != nullptr) { ... bignumToArray(env, rsa->x, "x") ... }`: the place is
left null when the component is not set. -/
def optionalArray (source : Option Int) (sourceName : String) : Except JavaException (Option (List UInt8)) :=
  match source with
  | none => .ok none
  | some _ => (bignumToArrayChecked source sourceName).map some

/-- `NativeCrypto_get_RSA_private_params` on a key holding `rsa`: the eight places of
the array it returns. -/
def getRsaPrivateParams (rsa : RsaKey) : Except JavaException (List (Option (List UInt8))) := do
  let n ← bignumToArrayChecked rsa.n "n"
  let e ← optionalArray rsa.e "e"
  let d ← optionalArray rsa.d "d"
  let p ← optionalArray rsa.p "p"
  let q ← optionalArray rsa.q "q"
  let dmp1 ← optionalArray rsa.dmp1 "dmp1"
  let dmq1 ← optionalArray rsa.dmq1 "dmq1"
  let iqmp ← optionalArray rsa.iqmp "iqmp"
  pure [some n, e, d, p, q, dmp1, dmq1, iqmp]

/-- `NativeCrypto_get_RSA_public_params` on a key holding `rsa`. -/
def getRsaPublicParams (rsa : RsaKey) : Except JavaException (List (Option (List UInt8))) := do
  let n ← bignumToArrayChecked rsa.n "n"
  let e ← bignumToArrayChecked rsa.e "e"
  pure [some n, some e]

end Conscrypt.Bignum

/-!
## A key and its parameters
-/

/-! Each optional component is read when present and written back when set, so the
composition maps every array to `bignumToArray (arrayToBignum ·)`, place by place. -/

namespace Conscrypt.Bignum

/-- What `get_RSA_private_params` returns for an array passed to `EVP_PKEY_new_RSA`. -/
def reencode (source : List UInt8) : List UInt8 :=
  bignumToArray (arrayToBignum source)

/-- The array returned has the value of the array passed. -/
@[simp]
theorem arrayToBignum_reencode (source : List UInt8) : arrayToBignum (reencode source) = arrayToBignum source := by
  rw [reencode, arrayToBignum_eq, bignumToArray_value]

@[simp]
theorem optionalBignum_eq (source : Option (List UInt8)) :
    optionalBignum source = pure (source.map arrayToBignum) := by
  cases source <;> rfl

@[simp]
theorem optionalArray_map (source : Option (List UInt8)) (sourceName : String) :
    optionalArray (source.map arrayToBignum) sourceName = pure (source.map reencode) := by
  cases source <;> rfl

theorem evpPkeyNewRsa_of_some {arrays : RsaArrays} {n : List UInt8} (modulus : arrays.n = some n)
    (exponent : (arrays.e.isSome || arrays.d.isSome) = true) :
    evpPkeyNewRsa arrays = pure ⟨some (arrayToBignum n), arrays.e.map arrayToBignum, arrays.d.map arrayToBignum,
      arrays.p.map arrayToBignum, arrays.q.map arrayToBignum, arrays.dmp1.map arrayToBignum,
      arrays.dmq1.map arrayToBignum, arrays.iqmp.map arrayToBignum, arrays.d.isSome && arrays.e.isNone⟩ := by
  have present : (arrays.e.isNone && arrays.d.isNone) = false := by
    revert exponent; cases arrays.e <;> cases arrays.d <;> simp
  have read : arrayToBignumChecked arrays.n = pure (arrayToBignum n) := by rw [modulus]; rfl
  simp only [evpPkeyNewRsa, present, read, optionalBignum_eq, Option.isNone_map', Option.isSome_map',
    Bool.false_eq_true, ↓reduceIte, pure_bind]

theorem evpPkeyNewRsa_of_no_modulus {arrays : RsaArrays} (modulus : arrays.n = none)
    (exponent : (arrays.e.isSome || arrays.d.isSome) = true) :
    evpPkeyNewRsa arrays = .error (.nullPointer "") := by
  have present : (arrays.e.isNone && arrays.d.isNone) = false := by
    revert exponent; cases arrays.e <;> cases arrays.d <;> simp
  simp only [evpPkeyNewRsa, present, modulus, arrayToBignumChecked, Bool.false_eq_true, ↓reduceIte]
  rfl

theorem evpPkeyNewRsa_of_no_exponent {arrays : RsaArrays} (noPublic : arrays.e = none) (noPrivate : arrays.d = none) :
    evpPkeyNewRsa arrays = .error (.illegalArgument "e == null && d == null") := by
  simp [evpPkeyNewRsa, noPublic, noPrivate]; rfl

theorem getRsaPrivateParams_of_arrays (arrays : RsaArrays) (n : List UInt8) (noBlinding : Bool) :
    getRsaPrivateParams ⟨some (arrayToBignum n), arrays.e.map arrayToBignum, arrays.d.map arrayToBignum,
      arrays.p.map arrayToBignum, arrays.q.map arrayToBignum, arrays.dmp1.map arrayToBignum,
      arrays.dmq1.map arrayToBignum, arrays.iqmp.map arrayToBignum, noBlinding⟩ =
      .ok (some (reencode n) :: (arrays.components.tail.map (Option.map reencode))) := by
  simp [getRsaPrivateParams, bignumToArrayChecked, RsaArrays.components]; rfl

/-- A key `EVP_PKEY_new_RSA` builds needs an exponent and the modulus: without either
exponent it raises `IllegalArgumentException`, and without the modulus the
`NullPointerException` of `ScopedByteArrayRO`. With them, blinding is off exactly
when the private exponent comes without the public one; `get_RSA_private_params`
returns every component at the place of its parameter, as `bignumToArray` of the value
`arrayToBignum` read, and null where null was passed, so each array read back has the
value of the array passed; `get_RSA_public_params` returns the modulus and the public
exponent, or raises a `NullPointerException` naming `e` when the key has none. -/
theorem rsa_key_params_round_trip (arrays : RsaArrays) :
    (evpPkeyNewRsa arrays = .error (.illegalArgument "e == null && d == null") ↔
      arrays.e = none ∧ arrays.d = none) ∧
    ((arrays.e.isSome || arrays.d.isSome) = true → arrays.n = none →
      evpPkeyNewRsa arrays = .error (.nullPointer "")) ∧
    ∀ n, arrays.n = some n → (arrays.e.isSome || arrays.d.isSome) = true →
      ∃ key, evpPkeyNewRsa arrays = .ok key ∧ key.noBlinding = (arrays.d.isSome && arrays.e.isNone) ∧
        getRsaPrivateParams key = .ok (arrays.components.map (Option.map reencode)) ∧
        (getRsaPrivateParams key).map (List.map (Option.map arrayToBignum)) =
          .ok (arrays.components.map (Option.map arrayToBignum)) ∧
        getRsaPublicParams key = match arrays.e with
          | some e => .ok [some (reencode n), some (reencode e)]
          | none => .error (.nullPointer "e") := by
  refine ⟨⟨fun raised => ?_, fun ⟨noPublic, noPrivate⟩ => evpPkeyNewRsa_of_no_exponent noPublic noPrivate⟩,
    fun exponent modulus => evpPkeyNewRsa_of_no_modulus modulus exponent, fun n modulus exponent => ?_⟩
  · by_contra missing
    have exponent : (arrays.e.isSome || arrays.d.isSome) = true := by
      cases publicExponent : arrays.e <;> cases privateExponent : arrays.d <;> simp_all
    cases modulus : arrays.n with
    | none => rw [evpPkeyNewRsa_of_no_modulus modulus exponent] at raised; cases raised
    | some n => rw [evpPkeyNewRsa_of_some modulus exponent] at raised; cases raised
  · refine ⟨_, evpPkeyNewRsa_of_some modulus exponent, rfl, ?_, ?_, ?_⟩
    · rw [getRsaPrivateParams_of_arrays]
      simp [RsaArrays.components, modulus]
    · rw [getRsaPrivateParams_of_arrays]
      simp [RsaArrays.components, modulus, Except.map, Function.comp_def]
    · cases publicExponent : arrays.e <;> simp [getRsaPublicParams, bignumToArrayChecked, publicExponent] <;> rfl

end Conscrypt.Bignum
