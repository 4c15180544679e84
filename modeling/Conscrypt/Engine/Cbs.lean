import Conscrypt.Bignum.Codec

/-!
# DER elements as BoringSSL reads them

The OCSP code walks DER with BoringSSL's `CBS` functions. A `CBS` is the byte
slice still to be read. `CBS_get_any_asn1_element` reads one element in the DER
forms the BoringSSL of this code accepts: a single-byte tag (tag number below
31) and a definite length, in short form below 128 and otherwise in the fewest
big-endian bytes, at most four. With a 64-bit `size_t` the header arithmetic
cannot overflow. `derElement` writes that form; reading it back gives the tag,
the contents and the bytes after it, and every element the reader accepts was
written so.
-/

set_option autoImplicit false

/-!
## The reader
-/

/-! The `CBS` functions the OCSP code calls. A failed call leaves its caller
nothing to read on, so a result is the value read and the rest, or none. -/

namespace Conscrypt

/-- `CBS_get_bytes`: the first `len` bytes and the rest, when there are that many. -/
def cbsGetBytes (cbs : List UInt8) (len : Nat) : Option (List UInt8 × List UInt8) :=
  if len ≤ cbs.length then some (cbs.take len, cbs.drop len) else none

/-- `cbs_get_u`: `len` bytes read most significant first. -/
def cbsGetU (cbs : List UInt8) (len : Nat) : Option (Nat × List UInt8) :=
  (cbsGetBytes cbs len).map fun (bytes, rest) => (Bignum.bnBin2bn bytes, rest)

/-- `CBS_get_any_asn1_element` in DER mode: the tag, the header length, the whole
element and the rest. A long-form length must need all of its one to four bytes
and be at least 128. -/
def cbsGetAnyAsn1Element (cbs : List UInt8) : Option (UInt8 × Nat × List UInt8 × List UInt8) :=
  match cbs with
  | tag :: lengthByte :: header =>
      if tag &&& 0x1f = 0x1f then none
      else if lengthByte &&& 0x80 = 0 then
        (cbsGetBytes cbs (lengthByte.toNat + 2)).map fun (element, rest) => (tag, 2, element, rest)
      else
        let numBytes := (lengthByte &&& 0x7f).toNat
        if numBytes = 0 ∨ numBytes > 4 then none
        else
          match cbsGetU header numBytes with
          | none => none
          | some (len32, _) =>
              if len32 < 128 then none
              else if len32 >>> ((numBytes - 1) * 8) = 0 then none
              else
                (cbsGetBytes cbs (len32 + 2 + numBytes)).map fun (element, rest) =>
                  (tag, 2 + numBytes, element, rest)
  | _ => none

/-- `CBS_get_asn1`: the contents of the next element, which must have tag `tagValue`. -/
def cbsGetAsn1 (cbs : List UInt8) (tagValue : UInt8) : Option (List UInt8 × List UInt8) :=
  match cbsGetAnyAsn1Element cbs with
  | some (tag, headerLen, element, rest) =>
      if tag = tagValue then some (element.drop headerLen, rest) else none
  | none => none

/-- `CBS_peek_asn1_tag`. -/
def cbsPeekAsn1Tag (cbs : List UInt8) (tagValue : UInt8) : Bool :=
  cbs.head? == some tagValue

/-- `CBS_get_optional_asn1`: the contents when the next element has tag `tag`,
none (and nothing read) when it does not. -/
def cbsGetOptionalAsn1 (cbs : List UInt8) (tag : UInt8) : Option (Option (List UInt8) × List UInt8) :=
  if cbsPeekAsn1Tag cbs tag then (cbsGetAsn1 cbs tag).map fun (contents, rest) => (some contents, rest)
  else some (none, cbs)

/-- `CBS_ASN1_CONSTRUCTED`. -/
def cbsAsn1Constructed : UInt8 := 0x20

/-- `CBS_ASN1_CONTEXT_SPECIFIC`. -/
def cbsAsn1ContextSpecific : UInt8 := 0x80

def cbsAsn1Integer : UInt8 := 0x02

def cbsAsn1OctetString : UInt8 := 0x04

def cbsAsn1Object : UInt8 := 0x06

def cbsAsn1Enumerated : UInt8 := 0x0a

/-- `CBS_ASN1_SEQUENCE`: `0x10 | CBS_ASN1_CONSTRUCTED`. -/
def cbsAsn1Sequence : UInt8 := 0x10 ||| cbsAsn1Constructed

end Conscrypt

/-!
## The DER form
-/

/-! A length below 128 is one byte; a longer one is `0x80 + n` followed by its
`n` bytes, the first of them non-zero. Below `2^32`, `n` is one to four. -/

namespace Conscrypt

/-- The length octets of `len`. -/
def derLength (len : Nat) : List UInt8 :=
  if len < 128 then [UInt8.ofNat len]
  else UInt8.ofNat (0x80 + Bignum.bnNumBytes len) :: Bignum.bnBn2bin (Bignum.bnNumBytes len) len

/-- The identifier and length octets of an element. -/
def derHeader (tag : UInt8) (len : Nat) : List UInt8 :=
  tag :: derLength len

/-- The DER element with tag `tag` around `contents`. -/
def derElement (tag : UInt8) (contents : List UInt8) : List UInt8 :=
  derHeader tag contents.length ++ contents

theorem derElement_length (tag : UInt8) (contents : List UInt8) :
    (derElement tag contents).length = (derHeader tag contents.length).length + contents.length :=
  List.length_append _ _

theorem derHeader_length_pos (tag : UInt8) (len : Nat) : 2 ≤ (derHeader tag len).length := by
  unfold derHeader derLength
  split <;> simp

theorem bnNumBytes_pos {len : Nat} (positive : 0 < len) : 0 < Bignum.bnNumBytes len := by
  simp only [Bignum.bnNumBytes, Nat.pos_iff_ne_zero.mp positive, ↓reduceIte]
  omega

theorem bnNumBytes_le_four {len : Nat} (short : len < 2 ^ 32) : Bignum.bnNumBytes len ≤ 4 := by
  unfold Bignum.bnNumBytes
  split
  · omega
  · have := (Nat.log2_lt ‹_›).mpr short
    omega

/-- The first of the `bnNumBytes` bytes of a positive length is not zero. -/
theorem pow_pred_bnNumBytes_le {len : Nat} (positive : 0 < len) :
    2 ^ ((Bignum.bnNumBytes len - 1) * 8) ≤ len := by
  have nonzero : len ≠ 0 := Nat.pos_iff_ne_zero.mp positive
  calc 2 ^ ((Bignum.bnNumBytes len - 1) * 8)
      ≤ 2 ^ len.log2 := Nat.pow_le_pow_right (by decide) (by simp [Bignum.bnNumBytes, nonzero]; omega)
    _ ≤ len := Nat.log2_self_le nonzero

private theorem and_7f_toNat (byte : UInt8) : (byte &&& 0x7f).toNat = byte.toNat % 128 := by
  show (byte.toBitVec &&& 0x7f#8).toNat = _
  rw [BitVec.toNat_and]
  exact Nat.and_pow_two_sub_one_eq_mod byte.toNat 7

private theorem and_80_eq_zero {byte : UInt8} : byte &&& 0x80 = 0 ↔ byte.toNat < 128 := by
  have sign := Bignum.sign_bit_eq byte
  constructor
  · intro zero
    rw [zero] at sign
    simpa using sign
  · intro low
    have clear : (byte &&& 0x80 != 0) = false := by rw [sign]; exact decide_eq_false (by omega)
    simpa using clear

end Conscrypt

/-!
## Reading back
-/

/-! The reader is the inverse of `derElement`: it takes back exactly the element
and leaves what follows it. -/

namespace Conscrypt

theorem cbsGetBytes_append (front rest : List UInt8) :
    cbsGetBytes (front ++ rest) front.length = some (front, rest) := by
  simp [cbsGetBytes]

private theorem read_short {tag : UInt8} (low : tag &&& 0x1f ≠ 0x1f) {contents : List UInt8}
    (small : contents.length < 128) (rest : List UInt8) :
    cbsGetAnyAsn1Element (tag :: UInt8.ofNat contents.length :: (contents ++ rest)) =
      some (tag, 2, tag :: UInt8.ofNat contents.length :: contents, rest) := by
  have lengthByte : (UInt8.ofNat contents.length).toNat = contents.length :=
    UInt8.toNat_ofNat_of_lt (show contents.length < 256 by omega)
  have whole : cbsGetBytes (tag :: UInt8.ofNat contents.length :: (contents ++ rest)) (contents.length + 2) =
      some (tag :: UInt8.ofNat contents.length :: contents, rest) :=
    cbsGetBytes_append (tag :: UInt8.ofNat contents.length :: contents) rest
  simp only [cbsGetAnyAsn1Element, low, ↓reduceIte, and_80_eq_zero.mpr (lengthByte ▸ small), lengthByte,
    whole, Option.map_some']

private theorem read_long {tag : UInt8} (low : tag &&& 0x1f ≠ 0x1f) {contents : List UInt8} {n : Nat}
    (large : 128 ≤ contents.length) (short : contents.length < 2 ^ 32)
    (count : n = Bignum.bnNumBytes contents.length) (rest : List UInt8) :
    cbsGetAnyAsn1Element
        (tag :: UInt8.ofNat (0x80 + n) :: (Bignum.bnBn2bin n contents.length ++ (contents ++ rest))) =
      some (tag, 2 + n, tag :: UInt8.ofNat (0x80 + n) :: (Bignum.bnBn2bin n contents.length ++ contents),
        rest) := by
  have positive := bnNumBytes_pos (show 0 < contents.length by omega)
  have four := bnNumBytes_le_four short
  have lengthByte : (UInt8.ofNat (0x80 + n)).toNat = 128 + n := UInt8.toNat_ofNat_of_lt (show 0x80 + n < 256 by omega)
  have lengthBytes : cbsGetU (Bignum.bnBn2bin n contents.length ++ (contents ++ rest)) n =
      some (contents.length, contents ++ rest) := by
    have read := cbsGetBytes_append (Bignum.bnBn2bin n contents.length) (contents ++ rest)
    rw [Bignum.bnBn2bin_length] at read
    simp only [cbsGetU, read, Option.map_some', Option.some.injEq, Prod.mk.injEq, and_true]
    rw [count]
    exact Bignum.bnBin2bn_bnBn2bin _ _ (Bignum.lt_pow_bnNumBytes _)
  have leading : contents.length >>> ((n - 1) * 8) ≠ 0 := by
    rw [Nat.shiftRight_eq_div_pow, count]
    exact Nat.pos_iff_ne_zero.mp (Nat.div_pos (pow_pred_bnNumBytes_le (by omega)) (Nat.two_pow_pos _))
  have whole : cbsGetBytes (tag :: UInt8.ofNat (0x80 + n) :: (Bignum.bnBn2bin n contents.length ++ (contents ++ rest)))
      (contents.length + 2 + n) =
      some (tag :: UInt8.ofNat (0x80 + n) :: (Bignum.bnBn2bin n contents.length ++ contents), rest) := by
    have read := cbsGetBytes_append (tag :: UInt8.ofNat (0x80 + n) :: (Bignum.bnBn2bin n contents.length ++ contents)) rest
    simp only [List.cons_append, List.append_assoc, List.length_cons, List.length_append,
      Bignum.bnBn2bin_length] at read
    rwa [show n + contents.length + 1 + 1 = contents.length + 2 + n by omega] at read
  simp only [cbsGetAnyAsn1Element, low, ↓reduceIte, and_80_eq_zero, lengthByte, and_7f_toNat,
    show ¬ 128 + n < 128 by omega, show (128 + n) % 128 = n by omega, show ¬ (n = 0 ∨ n > 4) by omega,
    lengthBytes, show ¬ contents.length < 128 by omega, leading, whole, Option.map_some']

/-- An element in DER form is read back whole, whatever follows it. -/
theorem cbsGetAnyAsn1Element_derElement {tag : UInt8} (low : tag &&& 0x1f ≠ 0x1f) {contents : List UInt8}
    (short : contents.length < 2 ^ 32) (rest : List UInt8) :
    cbsGetAnyAsn1Element (derElement tag contents ++ rest) =
      some (tag, (derHeader tag contents.length).length, derElement tag contents, rest) := by
  by_cases small : contents.length < 128
  · have header : derHeader tag contents.length = [tag, UInt8.ofNat contents.length] := by
      simp [derHeader, derLength, small]
    simp only [derElement, header, List.cons_append, List.singleton_append, List.length_cons,
      List.length_nil]
    exact read_short low small rest
  · have header : derHeader tag contents.length = tag :: UInt8.ofNat (0x80 + Bignum.bnNumBytes contents.length) ::
        Bignum.bnBn2bin (Bignum.bnNumBytes contents.length) contents.length := by
      simp [derHeader, derLength, small]
    simp only [derElement, header, List.cons_append, List.append_assoc, List.length_cons,
      Bignum.bnBn2bin_length, show Bignum.bnNumBytes contents.length + 1 + 1 = 2 + Bignum.bnNumBytes contents.length
        by omega]
    exact read_long low (by omega) short rfl rest

/-- `CBS_get_asn1` on an element in DER form with the tag it asks for. -/
theorem cbsGetAsn1_derElement {tag : UInt8} (low : tag &&& 0x1f ≠ 0x1f) {contents : List UInt8}
    (short : contents.length < 2 ^ 32) (rest : List UInt8) :
    cbsGetAsn1 (derElement tag contents ++ rest) tag = some (contents, rest) := by
  rw [cbsGetAsn1, cbsGetAnyAsn1Element_derElement low short rest]
  simp [derElement]

theorem cbsGetAsn1_derElement_nil {tag : UInt8} (low : tag &&& 0x1f ≠ 0x1f) {contents : List UInt8}
    (short : contents.length < 2 ^ 32) : cbsGetAsn1 (derElement tag contents) tag = some (contents, []) := by
  simpa using cbsGetAsn1_derElement low short []

theorem cbsGetAsn1_nil (tag : UInt8) : cbsGetAsn1 [] tag = none := rfl

/-- `CBS_get_optional_asn1` takes an element with the tag it asks for. -/
theorem cbsGetOptionalAsn1_derElement {tag : UInt8} (low : tag &&& 0x1f ≠ 0x1f) {contents : List UInt8}
    (short : contents.length < 2 ^ 32) (rest : List UInt8) :
    cbsGetOptionalAsn1 (derElement tag contents ++ rest) tag = some (some contents, rest) := by
  have head : (derElement tag contents ++ rest).head? = some tag := rfl
  simp [cbsGetOptionalAsn1, cbsPeekAsn1Tag, head, cbsGetAsn1_derElement low short rest]

/-- `CBS_get_optional_asn1` reads nothing when the next byte is another tag. -/
theorem cbsGetOptionalAsn1_absent {cbs : List UInt8} {tag : UInt8} (absent : cbs.head? ≠ some tag) :
    cbsGetOptionalAsn1 cbs tag = some (none, cbs) := by
  simp [cbsGetOptionalAsn1, cbsPeekAsn1Tag, absent]

/-- `CBS_get_optional_asn1` reads nothing when the next element has another tag. -/
theorem cbsGetOptionalAsn1_other {tag other : UInt8} (differs : other ≠ tag) (contents rest : List UInt8) :
    cbsGetOptionalAsn1 (derElement other contents ++ rest) tag =
      some (none, derElement other contents ++ rest) :=
  cbsGetOptionalAsn1_absent fun head => differs (Option.some.inj head)

theorem cbsGetOptionalAsn1_other_nil {tag other : UInt8} (differs : other ≠ tag) (contents : List UInt8) :
    cbsGetOptionalAsn1 (derElement other contents) tag = some (none, derElement other contents) :=
  cbsGetOptionalAsn1_absent fun head => differs (Option.some.inj head)

theorem cbsGetOptionalAsn1_nil (tag : UInt8) : cbsGetOptionalAsn1 [] tag = some (none, []) := rfl

end Conscrypt

/-!
## What the reader accepts
-/

/-! The converse of reading back: the reader takes nothing but DER. A long-form
length is at least 128 and its first byte is not zero, so it is the one
`derLength` writes; together the two directions say that the reader accepts an
element exactly when it is `derElement` of its contents. -/

namespace Conscrypt

theorem cbsGetBytes_split {cbs front rest : List UInt8} {len : Nat}
    (read : cbsGetBytes cbs len = some (front, rest)) : front ++ rest = cbs ∧ front.length = len := by
  unfold cbsGetBytes at read
  split at read
  · cases read
    exact ⟨List.take_append_drop _ _, by simp; omega⟩
  · cases read

private theorem ofNat_toNat (byte : UInt8) : UInt8.ofNat byte.toNat = byte :=
  UInt8.toNat.inj (UInt8.toNat_ofNat_of_lt byte.toBitVec.isLt)

theorem bnNumBytes_eq_of_bounds {len n : Nat} (positive : 0 < n) (low : 2 ^ ((n - 1) * 8) ≤ len)
    (high : len < 2 ^ (n * 8)) : Bignum.bnNumBytes len = n := by
  have lenPositive : 0 < len := Nat.lt_of_lt_of_le (Nat.two_pow_pos _) low
  have above := pow_pred_bnNumBytes_le lenPositive
  have below := Bignum.lt_pow_bnNumBytes len
  rw [show (256 : Nat) = 2 ^ 8 from rfl, ← Nat.pow_mul, Nat.mul_comm] at below
  rcases Nat.lt_trichotomy (Bignum.bnNumBytes len) n with fewer | same | more
  · have := Nat.pow_le_pow_right (show 0 < 2 by decide) (show Bignum.bnNumBytes len * 8 ≤ (n - 1) * 8 by omega)
    omega
  · exact same
  · have := Nat.pow_le_pow_right (show 0 < 2 by decide) (show n * 8 ≤ (Bignum.bnNumBytes len - 1) * 8 by omega)
    omega

private theorem take_header {tag lengthByte : UInt8} {header element rest : List UInt8} {len : Nat}
    (read : cbsGetBytes (tag :: lengthByte :: header) (len + 2) = some (element, rest)) :
    ∃ body, element = tag :: lengthByte :: body ∧ body.length = len ∧ header = body ++ rest := by
  obtain ⟨whole, length⟩ := cbsGetBytes_split read
  rcases element with _ | ⟨first, _ | ⟨second, body⟩⟩
  · simp at length
  · simp at length
  · simp only [List.cons_append, List.cons.injEq] at whole
    obtain ⟨rfl, rfl, rfl⟩ := whole
    exact ⟨body, rfl, by simpa using length, rfl⟩

/-- What `CBS_get_any_asn1_element` accepts is an element in DER form: a tag of
the low form and a length in the fewest bytes. -/
theorem cbsGetAnyAsn1Element_canonical {cbs element rest : List UInt8} {tag : UInt8} {headerLen : Nat}
    (read : cbsGetAnyAsn1Element cbs = some (tag, headerLen, element, rest)) :
    ∃ contents, tag &&& 0x1f ≠ 0x1f ∧ contents.length < 2 ^ 32 ∧ element = derElement tag contents ∧
      headerLen = (derHeader tag contents.length).length ∧ cbs = element ++ rest := by
  unfold cbsGetAnyAsn1Element at read
  split at read
  next tag0 lengthByte header =>
    by_cases high : tag0 &&& 0x1f = 0x1f
    · simp only [high, ↓reduceIte] at read; cases read
    by_cases short : lengthByte &&& 0x80 = 0
    · simp only [high, short, ↓reduceIte] at read
      obtain ⟨⟨front, back⟩, bytes, same⟩ := Option.map_eq_some'.mp read
      simp only [Prod.mk.injEq] at same
      obtain ⟨rfl, rfl, rfl, rfl⟩ := same
      obtain ⟨body, rfl, length, rfl⟩ := take_header bytes
      have small : lengthByte.toNat < 128 := and_80_eq_zero.mp short
      refine ⟨body, high, by omega, ?_, ?_, rfl⟩
      · simp [derElement, derHeader, derLength, length, small, ofNat_toNat]
      · simp [derHeader, derLength, length, small]
    · simp only [high, short, ↓reduceIte] at read
      have top : 128 ≤ lengthByte.toNat := Nat.le_of_not_lt (mt and_80_eq_zero.mpr short)
      have count : (lengthByte &&& 0x7f).toNat = lengthByte.toNat - 128 := by
        rw [and_7f_toNat]; have : lengthByte.toNat < 256 := lengthByte.toBitVec.isLt; omega
      generalize (lengthByte &&& 0x7f).toNat = n at read count
      by_cases bad : n = 0 ∨ n > 4
      · simp only [bad, ↓reduceIte] at read; cases read
      simp only [bad, ↓reduceIte] at read
      cases lengthRead : cbsGetU header n with
      | none => simp only [lengthRead] at read; cases read
      | some parsed =>
        obtain ⟨len32, after⟩ := parsed
        by_cases few : len32 < 128
        · simp only [lengthRead, few, ↓reduceIte] at read; cases read
        by_cases zero : len32 >>> ((n - 1) * 8) = 0
        · simp only [lengthRead, few, zero, ↓reduceIte] at read; cases read
        simp only [lengthRead, few, zero, ↓reduceIte] at read
        obtain ⟨⟨front, back⟩, bytes, same⟩ := Option.map_eq_some'.mp read
        simp only [Prod.mk.injEq] at same
        obtain ⟨rfl, rfl, rfl, rfl⟩ := same
        rw [show len32 + 2 + n = n + len32 + 2 by omega] at bytes
        obtain ⟨body, rfl, length, rfl⟩ := take_header bytes
        obtain ⟨⟨lenBytes, rest'⟩, lenBytesRead, lenSame⟩ := Option.map_eq_some'.mp lengthRead
        simp only [Prod.mk.injEq] at lenSame
        obtain ⟨rfl, rfl⟩ := lenSame
        obtain ⟨lenWhole, lenLength⟩ := cbsGetBytes_split lenBytesRead
        have layout : body = lenBytes ++ body.drop n := by
          have := congrArg (List.take n) lenWhole
          rw [List.take_append_of_le_length (by omega), List.take_append_of_le_length (by omega),
            ← lenLength, List.take_length] at this
          rw [this, lenLength, List.take_append_drop]
        have below := Bignum.bnBin2bn_lt lenBytes
        rw [lenLength, show (256 : Nat) = 2 ^ 8 from rfl, ← Nat.pow_mul, Nat.mul_comm] at below
        have above : 2 ^ ((n - 1) * 8) ≤ Bignum.bnBin2bn lenBytes := by
          rw [Nat.shiftRight_eq_div_pow] at zero
          exact Nat.le_of_not_lt fun lt => zero (Nat.div_eq_of_lt lt)
        have width := bnNumBytes_eq_of_bounds (by omega) above below
        have lengthByteEq : UInt8.ofNat (0x80 + n) = lengthByte :=
          UInt8.toNat.inj (by rw [UInt8.toNat_ofNat_of_lt (show 0x80 + n < 256 by omega)]; omega)
        have contentsLength : (body.drop n).length = Bignum.bnBin2bn lenBytes := by simp; omega
        have wide : Bignum.bnBin2bn lenBytes < 2 ^ 32 :=
          Nat.lt_of_lt_of_le below (Nat.pow_le_pow_right (by decide) (by omega))
        refine ⟨body.drop n, high, contentsLength ▸ wide, ?_, ?_, rfl⟩
        · rw [derElement, derHeader, derLength, contentsLength, if_neg few, width, lengthByteEq, ← lenLength,
            Bignum.bnBn2bin_bnBin2bn, List.cons_append, List.cons_append, lenLength, ← layout]
        · simp [derHeader, derLength, contentsLength, few, width, Bignum.bnBn2bin_length]; omega
  next => cases read

/-- `CBS_get_any_asn1_element` succeeds exactly on the DER form of an element with
a low tag and contents shorter than `2 ^ 32` bytes, and then returns the element
and what follows it. -/
theorem cbsGetAnyAsn1Element_eq_some_iff {cbs element rest : List UInt8} {tag : UInt8} {headerLen : Nat} :
    cbsGetAnyAsn1Element cbs = some (tag, headerLen, element, rest) ↔
      ∃ contents, tag &&& 0x1f ≠ 0x1f ∧ contents.length < 2 ^ 32 ∧ element = derElement tag contents ∧
        headerLen = (derHeader tag contents.length).length ∧ cbs = element ++ rest := by
  constructor
  · exact cbsGetAnyAsn1Element_canonical
  · rintro ⟨contents, low, short, rfl, rfl, rfl⟩
    exact cbsGetAnyAsn1Element_derElement low short rest

end Conscrypt

/-!
## What a read consumes
-/

/-! A read splits its input into the element and the rest, and an element has at
least its two header bytes, so a loop of reads ends. -/

namespace Conscrypt

/-- An element read is a prefix of the input, at least as long as its header of two
bytes or more. -/
theorem cbsGetAnyAsn1Element_split {cbs element rest : List UInt8} {tag : UInt8} {headerLen : Nat}
    (read : cbsGetAnyAsn1Element cbs = some (tag, headerLen, element, rest)) :
    element ++ rest = cbs ∧ 2 ≤ headerLen ∧ headerLen ≤ element.length := by
  obtain ⟨contents, -, -, rfl, rfl, rfl⟩ := cbsGetAnyAsn1Element_canonical read
  exact ⟨rfl, derHeader_length_pos tag contents.length, by rw [derElement_length]; omega⟩

theorem cbsGetAsn1_rest_lt {cbs contents rest : List UInt8} {tag : UInt8}
    (read : cbsGetAsn1 cbs tag = some (contents, rest)) : rest.length < cbs.length := by
  unfold cbsGetAsn1 at read
  split at read
  · rename_i element _ split
    split_ifs at read
    cases read
    obtain ⟨whole, header, within⟩ := cbsGetAnyAsn1Element_split split
    rw [← whole, List.length_append]
    omega
  · cases read

end Conscrypt
