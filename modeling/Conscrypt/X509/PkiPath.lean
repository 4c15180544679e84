import Mathlib.Data.List.Forall2
import Conscrypt.Engine.Cbs
import Conscrypt.Engine.Errors

/-!
# Certificate paths as a DER SEQUENCE

`NativeCrypto_ASN1_seq_pack_X509` writes a certificate path (the PkiPath
encoding of `OpenSSLX509CertPath`) as one DER SEQUENCE holding the certificates'
encodings one after another, and `NativeCrypto_ASN1_seq_unpack_X509_bio` reads
one back from a BIO: `BIO_read_asn1` takes the first element, `CBS_get_asn1`
opens the SEQUENCE, and a loop takes one SEQUENCE element at a time and asks
`d2i_X509` to read all of it. The engine's certificate codec is a parameter.
What the reader accepts is exactly such a SEQUENCE, and when the codec reads back
what it writes, unpacking what was packed gives the same certificates in the
same order, as long as the encoding fits the reader's 256 MiB bound, which the
writer does not check.
-/

set_option autoImplicit false

/-!
## The engine's side
-/

/-! `CBS_get_asn1_element`, `BIO_read_asn1` and `CBB_add_asn1` with `CBB_finish`,
modelled by behaviour on the DER forms of the `CBS` reader. An indefinite length,
which `CBS_get_asn1` refuses, is refused here already by `BIO_read_asn1`. -/

namespace Conscrypt

/-- `CBS_get_asn1_element`: the next element, header included, which must have tag
`tagValue`, and the rest. -/
def cbsGetAsn1Element (cbs : List UInt8) (tagValue : UInt8) : Option (List UInt8 × List UInt8) :=
  match cbsGetAnyAsn1Element cbs with
  | some (tag, _, element, rest) => if tag = tagValue then some (element, rest) else none
  | none => none

/-- `BIO_read_asn1(bio, &out, &out_len, max_len)` on the bytes the BIO holds: the first
element, header included, when it is no longer than `maxLen`. -/
def bioReadAsn1 (bio : List UInt8) (maxLen : Nat) : Option (List UInt8) :=
  match cbsGetAnyAsn1Element bio with
  | some (_, _, element, _) => if element.length ≤ maxLen then some element else none
  | none => none

/-- `CBB_add_asn1` and `CBB_finish`: the element with tag `tag` around `contents`; `CBB`
refuses contents above `0xfffffffe` bytes. -/
def cbbAsn1 (tag : UInt8) (contents : List UInt8) : Option (List UInt8) :=
  if contents.length ≤ 0xfffffffe then some (derElement tag contents) else none

theorem cbsGetAsn1Element_rest_lt {cbs element rest : List UInt8} {tag : UInt8}
    (read : cbsGetAsn1Element cbs tag = some (element, rest)) : rest.length < cbs.length := by
  unfold cbsGetAsn1Element at read
  split at read
  · rename_i split
    split_ifs at read
    cases read
    obtain ⟨whole, header, within⟩ := cbsGetAnyAsn1Element_split split
    rw [← whole, List.length_append]
    omega
  · cases read

end Conscrypt

/-!
## The two functions
-/

/-! A certificate is whatever the codec makes of it; the path functions only move
the encodings. -/

namespace Conscrypt.X509

/-- The engine's certificate codec as the path functions call it: `i2d_X509`'s
encoding, none for a negative length, and `d2i_X509` on a slice: the certificate and
how many bytes it read. -/
structure X509Codec (Cert : Type) where
  i2d : Cert → Option (List UInt8)
  d2i : List UInt8 → Option (Cert × Nat)

/-- The exception `NativeCrypto_ASN1_seq_unpack_X509_bio` raises: the engine's queued
error through `throwExceptionIfNecessary`, or `throwParsingException`'s
`OpenSSLX509CertificateFactory$ParsingException`. -/
inductive UnpackException where
  | engine (error : EngineError)
  | parsing (message : String)
  deriving DecidableEq, Repr

section

variable {Cert : Type} (codec : X509Codec Cert)

/-- The loop of `NativeCrypto_ASN1_seq_pack_X509`: each certificate's encoding added to
`seq_contents` in turn; null as soon as `i2d_X509` fails on one. -/
def addCertificates (contents : List UInt8) : List Cert → Option (List UInt8)
  | [] => some contents
  | cert :: certs =>
      match codec.i2d cert with
      | none => none
      | some der => addCertificates (contents ++ der) certs

/-- `NativeCrypto_ASN1_seq_pack_X509`: the bytes of the array it returns, none for null.
No exception is raised when a certificate cannot be encoded. -/
def asn1SeqPackX509 (certs : List Cert) : Option (List UInt8) :=
  (addCertificates codec [] certs).bind (cbbAsn1 cbsAsn1Sequence)

/-- The `while (CBS_len(&sequence) > 0)` loop of `NativeCrypto_ASN1_seq_unpack_X509_bio`:
the certificates of the SEQUENCE's contents, in order. -/
def unpackCertificates (sequence : List UInt8) : Except UnpackException (List Cert) :=
  if 0 < sequence.length then
    match _read : cbsGetAsn1Element sequence cbsAsn1Sequence with
    | none => .error (.parsing "Error reading X.509 data")
    | some (child, rest) =>
        match codec.d2i child with
        | some (cert, consumed) =>
            if consumed = child.length then (unpackCertificates rest).map (cert :: ·)
            else .error (.parsing "Error reading X.509 data")
        | none => .error (.parsing "Error reading X.509 data")
  else .ok []
termination_by sequence.length
decreasing_by exact cbsGetAsn1Element_rest_lt _read

/-- The `max_len` `NativeCrypto_ASN1_seq_unpack_X509_bio` gives `BIO_read_asn1`: 256 MiB. -/
def maxPathLength : Nat := 256 * 1024 * 1024

/-- `NativeCrypto_ASN1_seq_unpack_X509_bio` on a BIO holding `bio`; `queued` is what the
engine queued when `BIO_read_asn1` fails. -/
def asn1SeqUnpackX509Bio (bio : List UInt8) (queued : Option EngineError) :
    Except UnpackException (List Cert) :=
  match bioReadAsn1 bio maxPathLength with
  | none =>
      .error (match queued with
        | some error => .engine error
        | none => .parsing "Error reading X.509 data")
  | some data =>
      match cbsGetAsn1 data cbsAsn1Sequence with
      | none => .error (.parsing "Error reading X.509 data")
      | some (sequence, _) => unpackCertificates codec sequence

end

end Conscrypt.X509

/-!
## What the reader accepts
-/

/-! The reader takes a DER SEQUENCE at the front of the BIO, and the SEQUENCE's
contents must split, whole and in order, into one DER SEQUENCE per certificate
that `d2i_X509` reads to its last byte. -/

namespace Conscrypt

theorem cbsGetAsn1Element_derElement {tag : UInt8} (low : tag &&& 0x1f ≠ 0x1f) {contents : List UInt8}
    (short : contents.length < 2 ^ 32) (rest : List UInt8) :
    cbsGetAsn1Element (derElement tag contents ++ rest) tag = some (derElement tag contents, rest) := by
  simp [cbsGetAsn1Element, cbsGetAnyAsn1Element_derElement low short rest]

theorem cbsGetAsn1Element_canonical {cbs element rest : List UInt8} {tag : UInt8}
    (read : cbsGetAsn1Element cbs tag = some (element, rest)) :
    ∃ contents, contents.length < 2 ^ 32 ∧ element = derElement tag contents ∧ cbs = element ++ rest := by
  unfold cbsGetAsn1Element at read
  split at read
  · rename_i found
    split_ifs at read with same
    cases read
    obtain ⟨contents, -, short, rfl, -, whole⟩ := cbsGetAnyAsn1Element_canonical found
    exact ⟨contents, short, by rw [same], whole⟩
  · cases read

theorem bioReadAsn1_eq_some {bio data : List UInt8} {maxLen : Nat} :
    bioReadAsn1 bio maxLen = some data ↔
      ∃ tag contents rest, tag &&& 0x1f ≠ 0x1f ∧ contents.length < 2 ^ 32 ∧ data = derElement tag contents ∧
        bio = data ++ rest ∧ data.length ≤ maxLen := by
  constructor
  · unfold bioReadAsn1
    split
    · rename_i tag _ element rest found
      intro read
      split_ifs at read with fits
      cases read
      obtain ⟨contents, low, short, rfl, -, whole⟩ := cbsGetAnyAsn1Element_canonical found
      exact ⟨tag, contents, rest, low, short, rfl, whole, fits⟩
    · intro read; cases read
  · rintro ⟨tag, contents, rest, low, short, rfl, rfl, fits⟩
    simp [bioReadAsn1, cbsGetAnyAsn1Element_derElement low short rest, fits]

/-- `CBS_ASN1_SEQUENCE` has a one-byte tag. -/
theorem cbsAsn1Sequence_low : cbsAsn1Sequence &&& 0x1f ≠ 0x1f := by decide

end Conscrypt

namespace Conscrypt.X509

section

variable {Cert : Type} (codec : X509Codec Cert)

/-- `der` is one DER SEQUENCE that `d2i_X509` reads whole into `cert`. -/
def CertElement (der : List UInt8) (cert : Cert) : Prop :=
  (∃ body, body.length < 2 ^ 32 ∧ der = derElement cbsAsn1Sequence body) ∧ codec.d2i der = some (cert, der.length)

variable {codec}

theorem unpackCertificates_nil : unpackCertificates codec [] = .ok [] := by
  rw [unpackCertificates]; rfl

theorem unpackCertificates_of_missing {sequence : List UInt8} (nonempty : 0 < sequence.length)
    (missing : cbsGetAsn1Element sequence cbsAsn1Sequence = none) :
    unpackCertificates codec sequence = .error (.parsing "Error reading X.509 data") := by
  rw [unpackCertificates, if_pos nonempty]
  split
  · rfl
  · rename_i found; rw [missing] at found; cases found

theorem unpackCertificates_of_found {sequence child rest : List UInt8}
    (found : cbsGetAsn1Element sequence cbsAsn1Sequence = some (child, rest)) :
    unpackCertificates codec sequence =
      match codec.d2i child with
      | some (cert, consumed) =>
          if consumed = child.length then (unpackCertificates codec rest).map (cert :: ·)
          else .error (.parsing "Error reading X.509 data")
      | none => .error (.parsing "Error reading X.509 data") := by
  rw [unpackCertificates, if_pos (Nat.zero_lt_of_lt (cbsGetAsn1Element_rest_lt found))]
  split
  · rename_i missing; rw [found] at missing; cases missing
  · rename_i read; rw [found] at read; cases read; rfl

theorem unpackCertificates_cons {der : List UInt8} {cert : Cert} (element : CertElement codec der cert)
    (rest : List UInt8) :
    unpackCertificates codec (der ++ rest) = (unpackCertificates codec rest).map (cert :: ·) := by
  obtain ⟨⟨body, short, rfl⟩, read⟩ := element
  rw [unpackCertificates_of_found (cbsGetAsn1Element_derElement cbsAsn1Sequence_low short rest), read]
  simp

theorem unpackCertificates_flatten {ders : List (List UInt8)} {certs : List Cert}
    (elements : List.Forall₂ (CertElement codec) ders certs) :
    unpackCertificates codec ders.flatten = .ok certs := by
  induction elements with
  | nil => exact unpackCertificates_nil
  | cons element _ ih => rw [List.flatten_cons, unpackCertificates_cons element, ih]; rfl

theorem unpackCertificates_eq_ok {sequence : List UInt8} {certs : List Cert}
    (unpacked : unpackCertificates codec sequence = .ok certs) :
    ∃ ders, sequence = ders.flatten ∧ List.Forall₂ (CertElement codec) ders certs := by
  induction sequence using unpackCertificates.induct codec generalizing certs with
  | case1 _ nonempty missing =>
      rw [unpackCertificates_of_missing nonempty missing] at unpacked; cases unpacked
  | case2 _ _ child rest found cert decoded ih =>
      simp only [unpackCertificates_of_found found, decoded, ↓reduceIte] at unpacked
      obtain ⟨certs, rested, rfl⟩ : ∃ certs', unpackCertificates codec rest = .ok certs' ∧ cert :: certs' = certs := by
        cases rested : unpackCertificates codec rest with
        | error _ => rw [rested] at unpacked; cases unpacked
        | ok certs' => rw [rested] at unpacked; exact ⟨certs', rfl, Except.ok.inj unpacked⟩
      obtain ⟨ders, rfl, elements⟩ := ih rested
      obtain ⟨body, short, rfl, rfl⟩ := cbsGetAsn1Element_canonical found
      exact ⟨_ :: ders, rfl, .cons ⟨⟨body, short, rfl⟩, decoded⟩ elements⟩
  | case3 _ _ child _ found _ _ decoded short =>
      simp only [unpackCertificates_of_found found, decoded, short, ↓reduceIte] at unpacked; cases unpacked
  | case4 _ _ child _ found undecoded =>
      rw [unpackCertificates_of_found found, undecoded] at unpacked; cases unpacked
  | case5 sequence empty =>
      obtain rfl : sequence = [] := List.eq_nil_of_length_eq_zero (by omega)
      rw [unpackCertificates_nil] at unpacked
      cases unpacked
      exact ⟨[], rfl, .nil⟩

theorem cbsGetAsn1_derElement_eq_some {tag tagValue : UInt8} (low : tag &&& 0x1f ≠ 0x1f) {contents sequence rest : List UInt8}
    (short : contents.length < 2 ^ 32) (opened : cbsGetAsn1 (derElement tag contents) tagValue = some (sequence, rest)) :
    tag = tagValue ∧ sequence = contents := by
  have read := cbsGetAnyAsn1Element_derElement low short []
  rw [List.append_nil] at read
  simp only [cbsGetAsn1, read] at opened
  split_ifs at opened with same
  cases opened
  exact ⟨same, by simp [derElement]⟩

theorem asn1SeqUnpackX509Bio_derElement {ders : List (List UInt8)} {certs : List Cert}
    (elements : List.Forall₂ (CertElement codec) ders certs)
    (fits : (derElement cbsAsn1Sequence ders.flatten).length ≤ maxPathLength) (rest : List UInt8)
    (queued : Option EngineError) :
    asn1SeqUnpackX509Bio codec (derElement cbsAsn1Sequence ders.flatten ++ rest) queued = .ok certs := by
  have short : ders.flatten.length < 2 ^ 32 := by
    rw [derElement_length] at fits
    unfold maxPathLength at fits
    omega
  simp only [asn1SeqUnpackX509Bio, bioReadAsn1_eq_some.mpr ⟨_, _, rest, cbsAsn1Sequence_low, short, rfl, rfl, fits⟩,
    cbsGetAsn1_derElement_nil cbsAsn1Sequence_low short]
  exact unpackCertificates_flatten elements

theorem asn1SeqUnpackX509Bio_eq_ok {bio : List UInt8} {queued : Option EngineError} {certs : List Cert}
    (unpacked : asn1SeqUnpackX509Bio codec bio queued = .ok certs) :
    ∃ ders rest, bio = derElement cbsAsn1Sequence ders.flatten ++ rest ∧
      (derElement cbsAsn1Sequence ders.flatten).length ≤ maxPathLength ∧ List.Forall₂ (CertElement codec) ders certs := by
  unfold asn1SeqUnpackX509Bio at unpacked
  split at unpacked
  · cases unpacked
  · rename_i read
    obtain ⟨tag, contents, rest, low, short, rfl, rfl, fits⟩ := bioReadAsn1_eq_some.mp read
    split at unpacked
    · cases unpacked
    · rename_i opened
      obtain ⟨rfl, rfl⟩ := cbsGetAsn1_derElement_eq_some low short opened
      obtain ⟨ders, rfl, elements⟩ := unpackCertificates_eq_ok unpacked
      exact ⟨ders, rest, rfl, fits, elements⟩

/-- What `NativeCrypto_ASN1_seq_unpack_X509_bio` returns certificates for is exactly a DER
SEQUENCE at the front of the BIO, of at most 256 MiB, whose contents split, whole and in
order, into one DER SEQUENCE per returned certificate that `d2i_X509` reads to its last
byte; what follows the SEQUENCE in the BIO is not read. -/
theorem seq_unpack_accepts_der_paths (bio : List UInt8) (queued : Option EngineError) (certs : List Cert) :
    asn1SeqUnpackX509Bio codec bio queued = .ok certs ↔
      ∃ ders rest, bio = derElement cbsAsn1Sequence ders.flatten ++ rest ∧
        (derElement cbsAsn1Sequence ders.flatten).length ≤ maxPathLength ∧
        List.Forall₂ (CertElement codec) ders certs :=
  ⟨asn1SeqUnpackX509Bio_eq_ok, fun ⟨_, rest, same, fits, elements⟩ =>
    same ▸ asn1SeqUnpackX509Bio_derElement elements fits rest queued⟩

end

end Conscrypt.X509

/-!
## Packing and unpacking
-/

/-! The writer puts each certificate's encoding into the SEQUENCE as `i2d_X509` gives
it. With a codec that reads back what it writes, the reader returns the packed
certificates, as long as the SEQUENCE fits its 256 MiB bound. -/

namespace Conscrypt.X509

section

variable {Cert : Type} {codec : X509Codec Cert}

/-- The codec reads back what it writes: each encoding is one DER SEQUENCE that
`d2i_X509` reads whole into the same certificate. -/
def X509Codec.ReadsBack (codec : X509Codec Cert) : Prop :=
  ∀ cert der, codec.i2d cert = some der → CertElement codec der cert

theorem addCertificates_eq_some {contents packed : List UInt8} {certs : List Cert}
    (added : addCertificates codec contents certs = some packed) :
    ∃ ders, packed = contents ++ ders.flatten ∧ List.Forall₂ (fun der cert => codec.i2d cert = some der) ders certs := by
  induction certs generalizing contents with
  | nil => cases added; exact ⟨[], by simp, .nil⟩
  | cons cert certs ih =>
      simp only [addCertificates] at added
      split at added
      · cases added
      · rename_i der encoded
        obtain ⟨ders, rfl, encodings⟩ := ih added
        exact ⟨der :: ders, by simp, .cons encoded encodings⟩

/-- Unpacking what `NativeCrypto_ASN1_seq_pack_X509` wrote gives back the certificates
in order, whatever follows in the BIO, when the codec reads back what it writes and the
encoding is within the reader's 256 MiB bound. -/
theorem seq_pack_unpack_round_trip (readsBack : codec.ReadsBack) {certs : List Cert} {packed : List UInt8}
    (pack : asn1SeqPackX509 codec certs = some packed) (fits : packed.length ≤ maxPathLength)
    (rest : List UInt8) (queued : Option EngineError) :
    asn1SeqUnpackX509Bio codec (packed ++ rest) queued = .ok certs := by
  obtain ⟨contents, added, finished⟩ := Option.bind_eq_some.mp pack
  obtain ⟨ders, rfl, encodings⟩ := addCertificates_eq_some added
  unfold cbbAsn1 at finished
  split_ifs at finished
  cases finished
  rw [List.nil_append] at fits ⊢
  exact asn1SeqUnpackX509Bio_derElement (List.Forall₂.imp (fun der cert => readsBack cert der) encodings) fits rest queued

end

/-- A codec whose certificates are the contents of their SEQUENCE. -/
def contentsCodec : X509Codec (List UInt8) where
  i2d body := if body.length < 2 ^ 32 then some (derElement cbsAsn1Sequence body) else none
  d2i der := (cbsGetAsn1 der cbsAsn1Sequence).map fun (body, rest) => (body, der.length - rest.length)

theorem contentsCodec_readsBack : contentsCodec.ReadsBack := by
  intro body der encoded
  simp only [contentsCodec] at encoded
  split_ifs at encoded with short
  cases encoded
  exact ⟨⟨body, short, rfl⟩, by simp [contentsCodec, cbsGetAsn1_derElement_nil cbsAsn1Sequence_low short]⟩

theorem seq_pack_unpack_round_trip_two :
    contentsCodec.ReadsBack ∧
      asn1SeqPackX509 contentsCodec [[1], [2, 3]] = some [0x30, 7, 0x30, 1, 1, 0x30, 2, 2, 3] ∧
      [0x30, 7, 0x30, 1, 1, 0x30, 2, 2, 3].length ≤ maxPathLength ∧
      asn1SeqUnpackX509Bio contentsCodec ([0x30, 7, 0x30, 1, 1, 0x30, 2, 2, 3] ++ [0x30]) none = .ok [[1], [2, 3]] :=
  ⟨contentsCodec_readsBack, by decide, by decide,
    seq_pack_unpack_round_trip contentsCodec_readsBack (by decide) (by decide) [0x30] none⟩

end Conscrypt.X509
