import Conscrypt.Bignum.Codec
import Conscrypt.Engine.Errors

/-!
# The size of a wrapped RSA key

`arrayToBignumSize` measures a big-endian array without building a BIGNUM: it
refuses a set top bit and strips the leading zero bytes. `getRSAPrivateKeyWrapper`
stores that measurement as the key's `cached_size`, which `RsaMethodSize` reports
to the engine in place of `RSA_size`. The measurement agrees with
`BN_num_bytes` of the full conversion on every array it accepts.
-/

set_option autoImplicit false

/-!
## Measuring without converting
-/

/-! The shortcut and the byte count of the value it stands for. Leading zero
bytes add nothing to the value, and a non-zero first byte fixes the count. -/

namespace Conscrypt.Bignum

/-- `arrayToBignumSize`: an empty array has size 0, a set top bit is refused, and
otherwise `while (tmpSize > 0 && tmp[0] == 0)` strips the leading zero bytes. -/
def arrayToBignumSize (source : List UInt8) : Except JavaException Nat :=
  match source with
  | [] => .ok 0
  | first :: _ =>
      if first &&& 0x80 != 0 then .error (.runtime "Negative number")
      else .ok (source.dropWhile (· == 0)).length

/-- A value with a non-zero first byte needs all of its bytes. -/
theorem bnNumBytes_of_head_ne_zero {first : UInt8} (rest : List UInt8) (nonzero : first ≠ 0) :
    bnNumBytes (bnBin2bn (first :: rest)) = rest.length + 1 := by
  have leading : 1 ≤ first.toNat := Nat.pos_of_ne_zero fun zero => nonzero (UInt8.toNat.inj zero)
  have below := bnBin2bn_lt (first :: rest)
  have above : 256 ^ rest.length ≤ bnBin2bn (first :: rest) := by
    simp only [bnBin2bn]
    exact Nat.le_add_right_of_le (Nat.le_mul_of_pos_left _ leading)
  have positive : bnBin2bn (first :: rest) ≠ 0 := by
    have := Nat.one_le_pow rest.length 256 (by decide); omega
  have powers : ∀ n, 256 ^ n = 2 ^ (8 * n) := fun n => by rw [Nat.pow_mul]
  rw [powers] at above
  rw [List.length_cons, powers, Nat.mul_succ] at below
  have low := (Nat.le_log2 positive).mpr above
  have high := (Nat.log2_lt positive).mpr below
  simp only [bnNumBytes, positive, ↓reduceIte]
  omega

/-- `BN_num_bytes` of the value is the length left once the leading zero bytes are
stripped. -/
theorem bnNumBytes_eq_dropWhile_length :
    ∀ bytes : List UInt8, bnNumBytes (bnBin2bn bytes) = (bytes.dropWhile (· == 0)).length
  | [] => rfl
  | first :: rest => by
      by_cases zero : first = 0
      · subst zero
        simpa [bnBin2bn] using bnNumBytes_eq_dropWhile_length rest
      · simp [List.dropWhile_cons, zero, bnNumBytes_of_head_ne_zero rest zero]

/-- With the top bit clear, `arrayToBignum` reads the unsigned value. -/
theorem arrayToBignum_of_top_clear {source : List UInt8}
    (clear : ∀ first ∈ source.head?, first.toNat < 128) : arrayToBignum source = bnBin2bn source := by
  cases source with
  | nil => rfl
  | cons first rest =>
      have top : ¬ 128 ≤ first.toNat := Nat.not_le.mpr (clear first rfl)
      rw [arrayToBignum_eq]
      simp [twosComplementValue, top]

theorem arrayToBignumSize_of_top_clear {source : List UInt8}
    (clear : ∀ first ∈ source.head?, first.toNat < 128) :
    arrayToBignumSize source = .ok (bnNumBytes (arrayToBignum source).natAbs) := by
  rw [arrayToBignum_of_top_clear clear, Int.natAbs_ofNat, bnNumBytes_eq_dropWhile_length]
  cases source with
  | nil => rfl
  | cons first rest => simp [arrayToBignumSize, sign_bit_eq, Nat.not_le.mpr (clear first rfl)]

theorem arrayToBignumSize_of_top_set {first : UInt8} (rest : List UInt8) (top : 128 ≤ first.toNat) :
    arrayToBignumSize (first :: rest) = .error (.runtime "Negative number") := by
  simp [arrayToBignumSize, sign_bit_eq, top]

/-- Whatever `arrayToBignumSize` measures is `BN_num_bytes` of `arrayToBignum`. -/
theorem arrayToBignumSize_ok {source : List UInt8} {size : Nat}
    (measured : arrayToBignumSize source = .ok size) : size = bnNumBytes (arrayToBignum source).natAbs := by
  cases source with
  | nil => cases measured; rfl
  | cons first rest =>
      by_cases top : 128 ≤ first.toNat
      · rw [arrayToBignumSize_of_top_set rest top] at measured
        cases measured
      · rw [arrayToBignumSize_of_top_clear fun byte head => by cases head; omega] at measured
        exact (Except.ok.inj measured).symm

example : arrayToBignumSize [0, 0, 1, 2] = .ok 2 := rfl

end Conscrypt.Bignum

/-!
## The key wrapper
-/

/-! `NativeCrypto_getRSAPrivateKeyWrapper` measures the modulus first and fails
with the measurement's exception; only then does it call the engine. -/

namespace Conscrypt.Bignum

/-- The part of `KeyExData` that the engine reads back: `cached_size` (the other
field is a global reference to the Java key). -/
structure KeyExData where
  cachedSize : Nat
  deriving DecidableEq, Repr

/-- `RsaMethodSize`: the size of a wrapped key, as the engine's `RSA_size` sees it. -/
def rsaMethodSize (exData : KeyExData) : Nat :=
  exData.cachedSize

/-- Whether `RSA_new_method`, `EVP_PKEY_new` and `EVP_PKEY_assign_RSA` succeed. -/
structure WrapperEngine where
  rsaNew : Bool
  pkeyNew : Bool
  assignRsa : Bool
  deriving DecidableEq, Repr

/-- `NativeCrypto_getRSAPrivateKeyWrapper`, up to the key it returns: the data it
attaches to the new RSA object, or the exception it leaves pending. -/
def getRSAPrivateKeyWrapper (engine : WrapperEngine) (modulusBytes : List UInt8) :
    Except JavaException KeyExData :=
  match arrayToBignumSize modulusBytes with
  | .error exception => .error exception
  | .ok cachedSize =>
      if !engine.rsaNew then .error (.outOfMemory "Unable to allocate RSA key")
      else if !engine.pkeyNew then .error (.runtime "NativeCrypto_getRSAPrivateKeyWrapper failed")
      else if !engine.assignRsa then .error (.runtime "getRSAPrivateKeyWrapper failed")
      else .ok { cachedSize }

/-- A wrapper that was built stores what `arrayToBignumSize` measured. -/
theorem getRSAPrivateKeyWrapper_cachedSize {engine : WrapperEngine} {modulusBytes : List UInt8}
    {exData : KeyExData} (built : getRSAPrivateKeyWrapper engine modulusBytes = .ok exData) :
    arrayToBignumSize modulusBytes = .ok exData.cachedSize := by
  unfold getRSAPrivateKeyWrapper at built
  split at built
  · cases built
  · rename_i measured
    split_ifs at built
    cases built
    exact measured

/-- `arrayToBignumSize` agrees with `BN_num_bytes` of `arrayToBignum` on every
array that is empty or has its top bit clear, and refuses every other array; so
the size a wrapped RSA key reports is `BN_num_bytes` of its modulus. -/
theorem array_size_matches_bignum :
    (∀ source : List UInt8, (∀ first ∈ source.head?, first.toNat < 128) →
      arrayToBignumSize source = .ok (bnNumBytes (arrayToBignum source).natAbs) ∧
        bnNumBytes (arrayToBignum source).natAbs = (source.dropWhile (· == 0)).length) ∧
      (∀ first rest, 128 ≤ first.toNat →
        arrayToBignumSize (first :: rest) = .error (.runtime "Negative number")) ∧
      ∀ engine modulusBytes exData, getRSAPrivateKeyWrapper engine modulusBytes = .ok exData →
        rsaMethodSize exData = bnNumBytes (arrayToBignum modulusBytes).natAbs :=
  ⟨fun source clear => ⟨arrayToBignumSize_of_top_clear clear,
      by rw [arrayToBignum_of_top_clear clear, Int.natAbs_ofNat, bnNumBytes_eq_dropWhile_length]⟩,
    fun first rest top => arrayToBignumSize_of_top_set rest top,
    fun _ _ _ built => arrayToBignumSize_ok (getRSAPrivateKeyWrapper_cachedSize built)⟩

end Conscrypt.Bignum
