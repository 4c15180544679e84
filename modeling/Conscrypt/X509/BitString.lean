import Mathlib.Data.List.GetD
import Mathlib.Data.Nat.Bitwise
import Conscrypt.X509.AltNames

/-!
# Bit strings as Java boolean arrays

A certificate's issuer and subject unique identifiers and its key usage are
`ASN1_BIT_STRING`s; `NativeCrypto_get_X509_issuerUID`, `_subjectUID` and
`_ex_kusage` hand them to Java through `ASN1BitStringToBooleanArray`, which sizes a
boolean array at eight entries a byte less the unused bits the engine recorded
in `flags`, and fills entry `i` with `ASN1_BIT_STRING_get_bit(bitStr, i)`, bit `i`
counted from the most significant bit of the first byte. The size is computed in
an `int`, which overflows from `2 ^ 28` bytes on.
-/

set_option autoImplicit false

/-!
## The conversion
-/

/-! The engine decodes a BIT STRING with `c2i_ASN1_BIT_STRING`, which reads the
count of unused bits from the first content byte, keeps it in the low three bits
of `flags` with `ASN1_STRING_FLAG_BITS_LEFT`, and clears those bits of the last
byte. -/

namespace Conscrypt.X509

/-- An `ASN1_BIT_STRING` as `ASN1BitStringToBooleanArray` reads it: its bytes and its
`flags`. -/
structure Asn1BitString where
  data : List UInt8
  flags : Nat
  deriving DecidableEq, Repr

/-- `ASN1_STRING_FLAG_BITS_LEFT`. -/
def asn1StringFlagBitsLeft : Nat := 0x08

/-- `ASN1_BIT_STRING_get_bit(a, n)`: `(a->data[n / 8] & (1 << (7 - (n & 0x07)))) != 0`,
0 past the data. -/
def asn1BitStringGetBit (bitStr : Asn1BitString) (n : Nat) : Bool :=
  match bitStr.data[n / 8]? with
  | some byte => byte.toNat &&& 1 <<< (7 - n % 8) != 0
  | none => false

/-- The `size` `ASN1BitStringToBooleanArray` asks `NewBooleanArray` for:
`bitStr->length * 8`, less the unused bits, in `int` arithmetic. -/
def booleanArraySize (bitStr : Asn1BitString) : Int :=
  let size := wrapInt32 (bitStr.data.length * 8)
  if bitStr.flags &&& asn1StringFlagBitsLeft ≠ 0 then wrapInt32 (size - ((bitStr.flags &&& 0x07 : Nat) : Int))
  else size

/-- `ASN1BitStringToBooleanArray`: none when `NewBooleanArray` returns null, as it does
for a negative size. -/
def asn1BitStringToBooleanArray (bitStr : Asn1BitString) : Option (List Bool) :=
  if booleanArraySize bitStr < 0 then none
  else some ((List.range (booleanArraySize bitStr).toNat).map (asn1BitStringGetBit bitStr))

/-- What the three getters find for a certificate: the `issuerUID` and `subjectUID`
of its `cert_info`, and what `X509_get_ext_d2i(x509, NID_key_usage, ...)` decodes. -/
structure CertificateBits where
  issuerUID : Option Asn1BitString
  subjectUID : Option Asn1BitString
  keyUsage : Option Asn1BitString

/-- The getters of a certificate's bit strings: a null reference raises, an absent bit
string is null. -/
def getX509BitString (field : CertificateBits → Option Asn1BitString) (x509 : Option CertificateBits) :
    Except JavaException (Option (List Bool)) :=
  match x509 with
  | none => .error (.nullPointer "x509 == null")
  | some x509 =>
      match field x509 with
      | none => .ok none
      | some bitStr => .ok (asn1BitStringToBooleanArray bitStr)

/-- `NativeCrypto_get_X509_issuerUID`. -/
def getX509IssuerUID : Option CertificateBits → Except JavaException (Option (List Bool)) :=
  getX509BitString CertificateBits.issuerUID

/-- `NativeCrypto_get_X509_subjectUID`. -/
def getX509SubjectUID : Option CertificateBits → Except JavaException (Option (List Bool)) :=
  getX509BitString CertificateBits.subjectUID

/-- `NativeCrypto_get_X509_ex_kusage`. -/
def getX509ExKusage : Option CertificateBits → Except JavaException (Option (List Bool)) :=
  getX509BitString CertificateBits.keyUsage

/-- `s[len - 1] &= (0xff << padding)` on the bytes of a bit string. -/
def clearUnusedBits (padding : Nat) : List UInt8 → List UInt8
  | [] => []
  | [last] => [UInt8.ofNat (last.toNat &&& 0xff <<< padding)]
  | byte :: rest => byte :: clearUnusedBits padding rest

/-- `c2i_ASN1_BIT_STRING` on the contents of a BIT STRING, into a new bit string. -/
def c2iAsn1BitString : List UInt8 → Option Asn1BitString
  | [] => none
  | padding :: bytes =>
      if 7 < padding.toNat then none
      else some ⟨clearUnusedBits padding.toNat bytes, asn1StringFlagBitsLeft ||| padding.toNat⟩

end Conscrypt.X509

/-!
## DER bit strings
-/

/-! The DER contents of a list of bits: the count of unused bits, then the bits
eight a byte from the most significant, the unused ones zero. The engine's
decoding and the conversion give the bits back, and the only bit strings the
conversion cannot size are those with no bytes but some unused bits. -/

namespace Conscrypt.X509

/-- The byte whose bits, most significant first, are the first eight of `bits`,
zeros past their end. -/
def byteOfBits (bits : List Bool) : UInt8 :=
  UInt8.ofNat (((List.range 8).map (bits.getD · false)).foldl (fun acc bit => 2 * acc + bit.toNat) 0)

/-- `count` bytes of bits, eight a byte, most significant first. -/
def packBytes : Nat → List Bool → List UInt8
  | 0, _ => []
  | count + 1, bits => byteOfBits (bits.take 8) :: packBytes count (bits.drop 8)

/-- The contents of the DER BIT STRING of `bits`: the count of unused bits, then the
bits packed eight a byte, the unused ones zero. -/
def encodeBitString (bits : List Bool) : List UInt8 :=
  UInt8.ofNat ((8 - bits.length % 8) % 8) :: packBytes ((bits.length + 7) / 8) bits

/-- The test of `ASN1_BIT_STRING_get_bit` reads one bit. -/
theorem and_one_shiftLeft_ne_zero (x j : Nat) : (x &&& 1 <<< j != 0) = x.testBit j := by
  have bits : x &&& 1 <<< j = if x.testBit j then 2 ^ j else 0 := by
    apply Nat.eq_of_testBit_eq
    intro i
    simp only [Nat.testBit_and, Nat.one_shiftLeft, Nat.testBit_two_pow]
    by_cases same : j = i
    · subst same; split_ifs with set <;> simp [set]
    · split_ifs <;> simp [same]
  rw [bits]
  split_ifs with set <;> simp [set, Nat.two_pow_pos]

theorem testBit_double_add (acc : Nat) (bit : Bool) (j : Nat) :
    (2 * acc + bit.toNat).testBit j = if j = 0 then bit else acc.testBit (j - 1) := by
  cases j with
  | zero => cases bit <;> simp [Nat.testBit_zero]; omega
  | succ j =>
      rw [Nat.testBit_succ]
      have : (2 * acc + bit.toNat) / 2 = acc := by cases bit <;> simp; omega
      simp [this]

theorem testBit_foldl (bits : List Bool) (acc j : Nat) :
    (bits.foldl (fun acc bit => 2 * acc + bit.toNat) acc).testBit j =
      if j < bits.length then bits.getD (bits.length - 1 - j) false else acc.testBit (j - bits.length) := by
  induction bits generalizing acc with
  | nil => simp
  | cons bit bits ih =>
      rw [List.foldl_cons, ih, testBit_double_add]
      simp only [List.length_cons]
      rcases Nat.lt_trichotomy j bits.length with below | rfl | above
      · rw [if_pos below, if_pos (Nat.lt_succ_of_lt below),
          show bits.length + 1 - 1 - j = (bits.length - 1 - j) + 1 by omega, List.getD_cons_succ]
      · simp
      · simp [show ¬ j < bits.length by omega, show ¬ j < bits.length + 1 by omega,
          show j - bits.length ≠ 0 by omega, Nat.sub_sub]

theorem foldl_lt (bits : List Bool) (acc : Nat) :
    bits.foldl (fun acc bit => 2 * acc + bit.toNat) acc < (acc + 1) * 2 ^ bits.length := by
  induction bits generalizing acc with
  | nil => simp
  | cons bit bits ih =>
      rw [List.foldl_cons, List.length_cons, Nat.pow_succ]
      calc _ < (2 * acc + bit.toNat + 1) * 2 ^ bits.length := ih _
        _ ≤ 2 * (acc + 1) * 2 ^ bits.length := Nat.mul_le_mul_right _ (by cases bit <;> simp <;> omega)
        _ = (acc + 1) * (2 ^ bits.length * 2) := by rw [Nat.mul_comm 2, Nat.mul_assoc, Nat.mul_comm 2]

/-- Bit `7 - k` of `byteOfBits bits` is `bits[k]`, and it has no bits above the eighth. -/
theorem byteOfBits_testBit (bits : List Bool) (j : Nat) :
    (byteOfBits bits).toNat.testBit j = if j < 8 then bits.getD (7 - j) false else false := by
  have below := foldl_lt ((List.range 8).map (bits.getD · false)) 0
  simp only [List.length_map, List.length_range, Nat.zero_add, Nat.one_mul] at below
  rw [byteOfBits, UInt8.toNat_ofNat_of_lt below, testBit_foldl]
  simp only [List.length_map, List.length_range, Nat.zero_testBit]
  split_ifs with small
  · simp [List.getD_eq_getElem?_getD, show 8 - 1 - j < 8 by omega]
  · rfl

theorem packBytes_length (count : Nat) (bits : List Bool) : (packBytes count bits).length = count := by
  induction count generalizing bits with
  | zero => rfl
  | succ count ih => simp [packBytes, ih]

theorem packBytes_getElem? (count : Nat) (bits : List Bool) (q : Nat) :
    (packBytes count bits)[q]? = if q < count then some (byteOfBits ((bits.drop (8 * q)).take 8)) else none := by
  induction count generalizing bits q with
  | zero => simp [packBytes]
  | succ count ih =>
      cases q with
      | zero => simp [packBytes]
      | succ q => simp [packBytes, ih, List.drop_drop, Nat.mul_succ, Nat.add_comm]

/-- The bits a packed byte gives back. -/
theorem packBytes_getBit {count : Nat} {bits : List Bool} (flags : Nat) {i : Nat} (inside : i / 8 < count) :
    asn1BitStringGetBit ⟨packBytes count bits, flags⟩ i = bits.getD i false := by
  have offset : 8 * (i / 8) + i % 8 = i := Nat.div_add_mod i 8
  simp only [asn1BitStringGetBit, packBytes_getElem?, if_pos inside, and_one_shiftLeft_ne_zero,
    byteOfBits_testBit, if_pos (show 7 - i % 8 < 8 by omega), show 7 - (7 - i % 8) = i % 8 by omega]
  simp only [List.getD_eq_getElem?_getD, List.getElem?_take, if_pos (Nat.mod_lt i (by decide : 8 > 0)),
    List.getElem?_drop, offset]

/-- Clearing the low `padding` bits of a packed byte changes nothing when its
chunk leaves them unused. -/
theorem byteOfBits_clear {chunk : List Bool} {padding : Nat} (fits : chunk.length + padding ≤ 8) :
    UInt8.ofNat ((byteOfBits chunk).toNat &&& 0xff <<< padding) = byteOfBits chunk := by
  have same : (byteOfBits chunk).toNat &&& 0xff <<< padding = (byteOfBits chunk).toNat := by
    apply Nat.eq_of_testBit_eq
    intro j
    rw [Nat.testBit_and, Nat.testBit_shiftLeft, show (0xff : Nat) = 2 ^ 8 - 1 from rfl,
      Nat.testBit_two_pow_sub_one, byteOfBits_testBit]
    split_ifs with small
    · by_cases low : j < padding
      · simp [low, List.getElem?_eq_none (show chunk.length ≤ 7 - j by omega)]
      · simp [show padding ≤ j by omega, show j - padding < 8 by omega]
    · simp
  rw [same]
  exact UInt8.toNat.inj (UInt8.toNat_ofNat_of_lt (byteOfBits chunk).toBitVec.isLt)

theorem clearUnusedBits_of_last {padding : Nat} {bytes : List UInt8}
    (unused : ∀ last ∈ bytes.getLast?, UInt8.ofNat (last.toNat &&& 0xff <<< padding) = last) :
    clearUnusedBits padding bytes = bytes := by
  induction bytes with
  | nil => rfl
  | cons byte rest ih =>
      cases rest with
      | nil => simpa [clearUnusedBits] using unused byte rfl
      | cons next rest =>
          simp only [clearUnusedBits, List.cons.injEq, true_and]
          exact ih fun last member => unused last (by simpa [List.getLast?_cons_cons] using member)

private theorem flags_bits_left : ∀ padding < 8,
    (asn1StringFlagBitsLeft ||| padding) &&& asn1StringFlagBitsLeft ≠ 0 ∧
      (asn1StringFlagBitsLeft ||| padding) &&& 0x07 = padding := by
  decide

/-- Below `2 ^ 28` bytes the `int` arithmetic does not wrap. -/
theorem booleanArraySize_of_lt {bitStr : Asn1BitString} (short : bitStr.data.length < 2 ^ 28) :
    booleanArraySize bitStr = bitStr.data.length * 8 -
      if bitStr.flags &&& asn1StringFlagBitsLeft ≠ 0 then ((bitStr.flags &&& 0x07 : Nat) : Int) else 0 := by
  have unused : bitStr.flags &&& 0x07 ≤ 7 := Nat.and_le_right
  have product : wrapInt32 (bitStr.data.length * 8) = bitStr.data.length * 8 :=
    wrapInt32_of_isInt32 ⟨by omega, by omega⟩
  unfold booleanArraySize
  split_ifs
  · rw [product, wrapInt32_of_isInt32 ⟨by omega, by omega⟩]
  · rw [product, Int.sub_zero]

/-- A list of bits encoded as a DER BIT STRING of fewer than `2 ^ 28` bytes and decoded
by the engine reaches Java as the same bits. -/
theorem toBooleanArray_encodeBitString (bits : List Bool) (fits : bits.length + 8 ≤ 2 ^ 31) :
    (c2iAsn1BitString (encodeBitString bits)).bind asn1BitStringToBooleanArray = some bits := by
  have paddingToNat : (UInt8.ofNat ((8 - bits.length % 8) % 8)).toNat = (8 - bits.length % 8) % 8 :=
    UInt8.toNat_ofNat_of_lt (Nat.lt_of_lt_of_le (Nat.mod_lt _ (by decide)) (by decide))
  have cleared : clearUnusedBits ((8 - bits.length % 8) % 8) (packBytes ((bits.length + 7) / 8) bits) =
      packBytes ((bits.length + 7) / 8) bits := by
    apply clearUnusedBits_of_last
    intro last member
    rw [List.getLast?_eq_getElem?, packBytes_length, packBytes_getElem?] at member
    split_ifs at member with inside
    · cases member
      apply byteOfBits_clear
      simp only [List.length_take, List.length_drop]
      omega
    · cases member
  obtain ⟨flagged, low⟩ := flags_bits_left _ (show (8 - bits.length % 8) % 8 < 8 by omega)
  have size : booleanArraySize ⟨packBytes ((bits.length + 7) / 8) bits,
      asn1StringFlagBitsLeft ||| (8 - bits.length % 8) % 8⟩ = bits.length := by
    rw [booleanArraySize_of_lt (by simp only [packBytes_length]; omega)]
    simp only [packBytes_length, if_pos flagged, low]
    omega
  simp only [encodeBitString, c2iAsn1BitString, paddingToNat, if_neg (show ¬ 7 < (8 - bits.length % 8) % 8 by omega),
    cleared, Option.some_bind, asn1BitStringToBooleanArray, size, if_neg (Int.not_lt.mpr (Int.natCast_nonneg _)),
    Int.toNat_ofNat, Option.some.injEq]
  apply List.ext_getElem (by simp)
  intro i inside _
  simp only [List.getElem_map, List.getElem_range]
  rw [packBytes_getBit _ (by simp at inside; omega), List.getD_eq_getElem]

/-- The size is negative exactly when the bit string has no bytes but records
unused bits, below `2 ^ 28` bytes. -/
theorem booleanArraySize_neg_iff {bitStr : Asn1BitString} (short : bitStr.data.length < 2 ^ 28) :
    booleanArraySize bitStr < 0 ↔
      bitStr.data = [] ∧ bitStr.flags &&& asn1StringFlagBitsLeft ≠ 0 ∧ bitStr.flags &&& 0x07 ≠ 0 := by
  have unused : bitStr.flags &&& 0x07 ≤ 7 := Nat.and_le_right
  rw [booleanArraySize_of_lt short]
  cases data : bitStr.data <;> split_ifs <;>
    simp only [List.length_nil, List.length_cons, Nat.cast_zero, Nat.cast_add, Nat.cast_one, true_and,
      reduceCtorEq, false_and, iff_false] <;> omega

/-- Past `2 ^ 28` bytes and up to `2 ^ 29` the product passes `2 ^ 31 - 1` and wraps to
a negative size. -/
theorem booleanArraySize_neg_of_overflow {bitStr : Asn1BitString} (long : 2 ^ 28 < bitStr.data.length)
    (short : bitStr.data.length < 2 ^ 29) : booleanArraySize bitStr < 0 := by
  have unused : bitStr.flags &&& 0x07 ≤ 7 := Nat.and_le_right
  simp only [booleanArraySize, wrapInt32]
  split_ifs <;> omega

/-- From `2 ^ 29` bytes the product wraps past `2 ^ 32` back to a small size. -/
theorem booleanArraySize_of_wrap {bitStr : Asn1BitString} (long : 2 ^ 29 ≤ bitStr.data.length)
    (short : bitStr.data.length < 2 ^ 29 + 2 ^ 28) (noneLeft : bitStr.flags &&& asn1StringFlagBitsLeft = 0) :
    booleanArraySize bitStr = ((bitStr.data.length - 2 ^ 29) * 8 : Nat) := by
  simp only [booleanArraySize, wrapInt32, noneLeft, ne_eq, not_true_eq_false, ↓reduceIte]
  omega

end Conscrypt.X509
