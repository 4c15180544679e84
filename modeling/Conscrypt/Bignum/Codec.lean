import Mathlib.Data.Nat.Bitwise

/-!
# Two's-complement BIGNUM codec

`arrayToBignum` and `bignumToArray`: the conversions between a Java `byte[]`
holding a big-endian two's-complement integer and an engine BIGNUM. Both run
the same byte-wise negate-and-carry loop. A BIGNUM is its signed value; the
engine's `BN_bin2bn`, `BN_bn2bin` and `BN_num_bytes` are given by their
documented meaning.
-/

set_option autoImplicit false

/-!
## Engine primitives
-/

/-! The BIGNUM calls the codec makes, on magnitudes. `bnBn2bin` writes exactly
the number of bytes it is given, most significant first. -/

namespace Conscrypt.Bignum

/-- `BN_bin2bn`: the unsigned big-endian value of a byte string. -/
def bnBin2bn : List UInt8 → Nat
  | [] => 0
  | byte :: rest => byte.toNat * 256 ^ rest.length + bnBin2bn rest

/-- `BN_num_bytes`: `(BN_num_bits + 7) / 8` bytes, none for zero. -/
def bnNumBytes (magnitude : Nat) : Nat :=
  if magnitude = 0 then 0 else (magnitude.log2 + 1 + 7) / 8

/-- `BN_bn2bin` into a buffer of `width` bytes, most significant first. -/
def bnBn2bin : Nat → Nat → List UInt8
  | 0, _ => []
  | width + 1, magnitude =>
      UInt8.ofNat (magnitude / 256 ^ width) :: bnBn2bin width (magnitude % 256 ^ width)

theorem bnBin2bn_lt : ∀ bytes : List UInt8, bnBin2bn bytes < 256 ^ bytes.length
  | [] => by simp [bnBin2bn]
  | byte :: rest => by
      have bounded : byte.toNat + 1 ≤ 256 := byte.toBitVec.isLt
      have scaled := Nat.mul_le_mul_right (256 ^ rest.length) bounded
      have tail := bnBin2bn_lt rest
      simp only [bnBin2bn, List.length_cons, Nat.pow_succ, Nat.add_mul] at scaled ⊢
      omega

theorem bnBn2bin_length : ∀ width magnitude, (bnBn2bin width magnitude).length = width
  | 0, _ => rfl
  | width + 1, magnitude => by simp [bnBn2bin, bnBn2bin_length width]

theorem bnBin2bn_bnBn2bin : ∀ width magnitude, magnitude < 256 ^ width →
    bnBin2bn (bnBn2bin width magnitude) = magnitude
  | 0, _, bounded => by simp only [bnBn2bin, bnBin2bn, Nat.pow_zero] at bounded ⊢; omega
  | width + 1, magnitude, bounded => by
      have leading : magnitude / 256 ^ width < 256 := by
        rw [Nat.div_lt_iff_lt_mul (Nat.pos_pow_of_pos _ (by decide))]
        simpa [Nat.pow_succ, Nat.mul_comm] using bounded
      simp only [bnBn2bin, bnBin2bn, bnBn2bin_length,
        UInt8.toNat_ofNat_of_lt leading,
        bnBin2bn_bnBn2bin width _ (Nat.mod_lt _ (Nat.pos_pow_of_pos _ (by decide)))]
      exact Nat.div_add_mod' magnitude _

/-- Decoding then encoding at the same width gives the bytes back. -/
theorem bnBn2bin_bnBin2bn : ∀ bytes : List UInt8, bnBn2bin bytes.length (bnBin2bn bytes) = bytes
  | [] => rfl
  | byte :: rest => by
      have below := bnBin2bn_lt rest
      have positive : 0 < 256 ^ rest.length := Nat.pos_pow_of_pos _ (by decide)
      have leading : (byte.toNat * 256 ^ rest.length + bnBin2bn rest) / 256 ^ rest.length = byte.toNat := by
        rw [Nat.add_comm, Nat.add_mul_div_right _ _ positive, Nat.div_eq_of_lt below, Nat.zero_add]
      have trailing : (byte.toNat * 256 ^ rest.length + bnBin2bn rest) % 256 ^ rest.length =
          bnBin2bn rest := by
        rw [Nat.add_comm, Nat.add_mul_mod_self_right, Nat.mod_eq_of_lt below]
      simp only [List.length_cons, bnBin2bn, bnBn2bin, leading, trailing,
        bnBn2bin_bnBin2bn rest, List.cons.injEq, and_true]
      exact UInt8.toNat.inj (UInt8.toNat_ofNat_of_lt byte.toBitVec.isLt)

theorem lt_pow_bnNumBytes (magnitude : Nat) : magnitude < 256 ^ bnNumBytes magnitude := by
  unfold bnNumBytes
  split
  · simp_all
  · calc magnitude < 2 ^ (magnitude.log2 + 1) := Nat.lt_log2_self
      _ ≤ 2 ^ (8 * ((magnitude.log2 + 1 + 7) / 8)) := Nat.pow_le_pow_right (by decide) (by omega)
      _ = 256 ^ ((magnitude.log2 + 1 + 7) / 8) := by rw [Nat.pow_mul]

end Conscrypt.Bignum

/-!
## The negate-and-carry loop
-/

/-! Both conversions negate a byte string in place, from the last byte to the
first, with a carry that starts set. On a string of `n` bytes the loop computes
`256 ^ n - value`, the carry out being set only for the all-zero string. -/

namespace Conscrypt.Bignum

/-- The loop body `bytes[i] ^= 0xFF; if (carry) carry = (++bytes[i]) == 0;`. -/
def negateByte (byte : UInt8) (carry : Bool) : UInt8 × Bool :=
  let flipped := byte ^^^ 0xFF
  if carry then (flipped + 1, flipped + 1 == 0) else (flipped, false)

/-- The loop `for (i = size - 1; i >= 0; i--)` entered with `carry = true`: the
bytes after the first are negated before it, and their carry reaches it. -/
def negateLoop : List UInt8 → List UInt8 × Bool
  | [] => ([], true)
  | byte :: rest =>
      let inner := negateLoop rest
      let outer := negateByte byte inner.2
      (outer.1 :: inner.1, outer.2)

private theorem xor_ff_toNat (byte : UInt8) : (byte ^^^ 0xFF).toNat = 255 - byte.toNat := by
  have flipped : (byte ^^^ 0xFF).toBitVec = ~~~ byte.toBitVec := by
    show byte.toBitVec ^^^ 0xFF#8 = _
    rw [show (0xFF#8) = BitVec.allOnes 8 by decide, BitVec.xor_allOnes]
  show (byte ^^^ 0xFF).toBitVec.toNat = 255 - byte.toBitVec.toNat
  rw [flipped, BitVec.toNat_not]

private theorem add_one_toNat (byte : UInt8) : (byte + 1).toNat = (byte.toNat + 1) % 256 := by
  show (byte.toBitVec + 1#8).toNat = _
  rw [BitVec.toNat_add]
  rfl

private theorem beq_zero_eq (byte : UInt8) : (byte == 0) = decide (byte.toNat = 0) := by
  by_cases zero : byte.toNat = 0
  · simp [(UInt8.toNat.inj zero : byte = 0), zero]
  · have : byte ≠ 0 := fun equal => zero (by simp [equal])
    simp [this, zero]

/-- One loop step adds the flipped byte and the carry in, and carries out what
overflows: `negated + 256 * carryOut = (255 - byte) + carryIn`. -/
theorem negateByte_spec (byte : UInt8) (carry : Bool) :
    (negateByte byte carry).1.toNat + (if (negateByte byte carry).2 then 256 else 0) +
      byte.toNat = 255 + (if carry then 1 else 0) := by
  have bounded : byte.toNat < 256 := byte.toBitVec.isLt
  have flipped := xor_ff_toNat byte
  cases carry with
  | false => simp only [negateByte, Bool.false_eq_true, ↓reduceIte, flipped]; omega
  | true =>
      simp only [negateByte, ↓reduceIte, beq_zero_eq, add_one_toNat, flipped, decide_eq_true_eq]
      split <;> omega

theorem negateLoop_length : ∀ bytes : List UInt8, (negateLoop bytes).1.length = bytes.length
  | [] => rfl
  | _ :: rest => by simp [negateLoop, negateLoop_length rest]

/-- The loop computes `256 ^ n - value`; the carry out stands for `256 ^ n`. -/
theorem negateLoop_spec : ∀ bytes : List UInt8,
    bnBin2bn (negateLoop bytes).1 + (if (negateLoop bytes).2 then 256 ^ bytes.length else 0) +
      bnBin2bn bytes = 256 ^ bytes.length
  | [] => rfl
  | byte :: rest => by
      have inner := negateLoop_spec rest
      have step := congrArg (· * 256 ^ rest.length) (negateByte_spec byte (negateLoop rest).2)
      simp only [negateLoop, bnBin2bn, List.length_cons, negateLoop_length, Nat.pow_succ] at inner step ⊢
      revert inner step
      cases (negateLoop rest).2 <;> cases (negateByte byte _).2 <;>
        simp only [Bool.false_eq_true, ↓reduceIte, Nat.add_mul] <;> omega

/-- A string whose value is positive never carries out of the first byte. -/
theorem negateLoop_value_of_pos {bytes : List UInt8} (positive : 0 < bnBin2bn bytes) :
    (negateLoop bytes).2 = false ∧
      bnBin2bn (negateLoop bytes).1 + bnBin2bn bytes = 256 ^ bytes.length := by
  have spec := negateLoop_spec bytes
  cases carry : (negateLoop bytes).2 <;> simp only [carry, Bool.false_eq_true, ↓reduceIte] at spec
  · exact ⟨rfl, by omega⟩
  · omega

end Conscrypt.Bignum

/-!
## Conversions
-/

/-! `arrayToBignum` reads the sign from the top bit of the first byte;
`bignumToArray` writes one leading byte beyond the magnitude, so that the top
bit is always free to hold the sign. -/

namespace Conscrypt.Bignum

/-- The big-endian two's-complement value of a Java `byte[]`, 0 when it is empty. -/
def twosComplementValue : List UInt8 → Int
  | [] => 0
  | first :: rest =>
      if 128 ≤ first.toNat then (bnBin2bn (first :: rest) : Int) - (256 ^ (rest.length + 1) : Nat)
      else bnBin2bn (first :: rest)

/-- `arrayToBignum`: an empty array is zero; otherwise a set top bit selects the
negated copy, whose magnitude `BN_set_negative` marks negative. -/
def arrayToBignum (source : List UInt8) : Int :=
  match source with
  | [] => 0
  | first :: _ =>
      let negative := first &&& 0x80 != 0
      let tmp := if negative then (negateLoop source).1 else source
      let ret := bnBin2bn tmp
      if negative then -(ret : Int) else ret

/-- `bignumToArray`: a zero-filled array of `BN_num_bytes + 1` bytes, the magnitude
written after the first byte, then negated with the top bit forced for a negative
value, or the first byte cleared otherwise. -/
def bignumToArray (source : Int) : List UInt8 :=
  let tmp := (0 : UInt8) :: bnBn2bin (bnNumBytes source.natAbs) source.natAbs
  if source < 0 then (negateLoop tmp).1.modifyHead (· ||| 0x80)
  else tmp.modifyHead fun _ => 0x00

private theorem and_80_toNat (byte : UInt8) : (byte &&& 0x80).toNat = byte.toNat / 128 % 2 * 128 := by
  show (byte.toBitVec &&& 0x80#8).toNat = _
  rw [BitVec.toNat_and]
  have bit := Nat.and_two_pow byte.toNat 7
  rw [Nat.testBit_to_div_mod] at bit
  change byte.toNat &&& 128 = _ at bit
  change byte.toNat &&& 128 = _
  rw [bit]
  by_cases bit7 : byte.toNat / 128 % 2 = 1
  · simp [bit7]
  · simp [bit7]; omega

/-- The sign test `(tmp[0] & 0x80) != 0` reads the top bit. -/
theorem sign_bit_eq (byte : UInt8) : (byte &&& 0x80 != 0) = decide (128 ≤ byte.toNat) := by
  have bounded : byte.toNat < 256 := byte.toBitVec.isLt
  have masked := and_80_toNat byte
  by_cases top : 128 ≤ byte.toNat
  · have : byte &&& 0x80 ≠ 0 := fun zero => by rw [zero] at masked; simp at masked; omega
    simp [this, top]
  · have : byte &&& 0x80 = 0 := UInt8.toNat.inj (by rw [masked]; simp; omega)
    simp [this, top]

theorem arrayToBignum_eq (source : List UInt8) :
    arrayToBignum source = twosComplementValue source := by
  cases source with
  | nil => rfl
  | cons first rest =>
      simp only [arrayToBignum, twosComplementValue, sign_bit_eq, decide_eq_true_eq]
      by_cases top : 128 ≤ first.toNat
      · have unit := Nat.one_le_pow rest.length 256 (by decide)
        have leading := Nat.mul_le_mul_right (256 ^ rest.length) top
        have positive : 0 < bnBin2bn (first :: rest) := by simp only [bnBin2bn]; omega
        have negated := (negateLoop_value_of_pos positive).2
        simp only [top, ↓reduceIte, List.length_cons] at negated ⊢
        omega
      · simp [top]

theorem bignumToArray_length (source : Int) :
    (bignumToArray source).length = bnNumBytes source.natAbs + 1 := by
  unfold bignumToArray
  split <;> simp [negateLoop_length, bnBn2bin_length]

/-- Negating `0 :: magnitude bytes` leaves `0xFF` in front: the forced top bit
changes nothing, and the value read back is `-magnitude`. -/
private theorem negated_value {width magnitude : Nat} (positive : 0 < magnitude)
    (bounded : magnitude < 256 ^ width) :
    twosComplementValue ((negateLoop (0 :: bnBn2bin width magnitude)).1.modifyHead (· ||| 0x80)) =
      -(magnitude : Int) := by
  have value : bnBin2bn (0 :: bnBn2bin width magnitude) = magnitude := by
    simp [bnBin2bn, bnBin2bn_bnBn2bin width magnitude bounded]
  have negated := (negateLoop_value_of_pos (value ▸ positive)).2
  rw [value] at negated
  have length := negateLoop_length (0 :: bnBn2bin width magnitude)
  simp only [List.length_cons, bnBn2bin_length] at negated length
  generalize (negateLoop (0 :: bnBn2bin width magnitude)).1 = out at negated length
  cases out with
  | nil => simp at length
  | cons first rest =>
      simp only [List.length_cons, Nat.add_right_cancel_iff] at length
      simp only [bnBin2bn, length, Nat.pow_succ] at negated
      have restBound := length ▸ bnBin2bn_lt rest
      have firstBound : first.toNat < 256 := first.toBitVec.isLt
      have high : 254 * 256 ^ width < first.toNat * 256 ^ width := by omega
      have full : first.toNat = 255 := by have := Nat.lt_of_mul_lt_mul_right high; omega
      have forced : first ||| 0x80 = first := by
        rw [(UInt8.toNat.inj full : first = 255)]; decide
      simp only [List.modifyHead, forced, twosComplementValue, bnBin2bn, length, full] at negated ⊢
      simp only [Nat.reduceLeDiff, ↓reduceIte, Nat.pow_succ]
      omega

theorem bignumToArray_value (source : Int) :
    twosComplementValue (bignumToArray source) = source := by
  have bounded := lt_pow_bnNumBytes source.natAbs
  unfold bignumToArray
  split
  · rename_i negative
    rw [negated_value (by omega) bounded, Int.ofNat_natAbs_of_nonpos (by omega), Int.neg_neg]
  · rename_i nonnegative
    simp only [List.modifyHead, twosComplementValue, bnBin2bn,
      bnBin2bn_bnBn2bin _ _ bounded]
    simp only [show (0 : UInt8).toNat = 0 by rfl, Nat.zero_mul, Nat.zero_add, Nat.not_le,
      show 0 < 128 by decide, ↓reduceIte]
    exact Int.natAbs_of_nonneg (by omega)

/-- The codec's law: `arrayToBignum` reads the two's-complement value of any
array, `bignumToArray` writes `BN_num_bytes(|x|) + 1` bytes holding `x`, so the
round trip is the identity on every integer. -/
theorem twos_complement_codec :
    (∀ source : List UInt8, arrayToBignum source = twosComplementValue source) ∧
      (∀ source : Int, (bignumToArray source).length = bnNumBytes source.natAbs + 1 ∧
        twosComplementValue (bignumToArray source) = source) ∧
      ∀ source : Int, arrayToBignum (bignumToArray source) = source :=
  ⟨arrayToBignum_eq, fun source => ⟨bignumToArray_length source, bignumToArray_value source⟩,
    fun source => (arrayToBignum_eq _).trans (bignumToArray_value source)⟩

end Conscrypt.Bignum
