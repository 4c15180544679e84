import Conscrypt.Engine.Cbs

/-!
# The stapled OCSP response

`NativeCrypto_get_ocsp_single_extension` walks an OCSPResponse (RFC 6960) with
`CBS` reads: to the BasicOCSPResponse, to its SingleResponses, to the first one
whose CertID names the certificate and its issuer, and to that response's
extensions, which it hands to `d2i_X509_EXTENSIONS`. On the DER encoding of
every response, whatever bytes follow it, the walk hands over exactly the
extensions of the first matching SingleResponse.
-/

set_option autoImplicit false

/-!
## The walk
-/

/-! One helper per level of the response. A read that fails ends the call with
null and no exception; a SingleResponse whose CertID is not a SEQUENCE is
skipped. The engine calls that compare a CertID with the certificates are given
by what they return. -/

namespace Conscrypt.X509

/-- What `ocsp_cert_id_matches_certificate` learns from the engine about the
certificate and its issuer. -/
structure CertIdOracle where
  /-- `c2i_ASN1_INTEGER` of a serial number's contents compared by `ASN1_INTEGER_cmp`
  with `X509_get_serialNumber(x509)`; false when the contents do not parse. -/
  serialMatches : List UInt8 → Bool
  /-- For the digest `EVP_get_digestbynid(OBJ_cbs2nid(&hash))` finds, what
  `X509_NAME_digest` gives for the issuer's subject and `EVP_Digest` for its key
  bits, each none when the call fails; none when no digest is found. -/
  digests : List UInt8 → Option (Option (List UInt8) × Option (List UInt8))

/-- `ocsp_cert_id_matches_certificate` on the contents of a CertID. -/
def ocspCertIdMatchesCertificate (oracle : CertIdOracle) (certId : List UInt8) : Bool :=
  (do
    let (hashAlgorithm, certId) ← cbsGetAsn1 certId cbsAsn1Sequence
    let (hash, _) ← cbsGetAsn1 hashAlgorithm cbsAsn1Object
    let (issuerNameHash, certId) ← cbsGetAsn1 certId cbsAsn1OctetString
    let (issuerKeyHash, certId) ← cbsGetAsn1 certId cbsAsn1OctetString
    let (serial, _) ← cbsGetAsn1 certId cbsAsn1Integer
    let (nameDigest, keyDigest) ← if oracle.serialMatches serial then oracle.digests hash else none
    pure (nameDigest == some issuerNameHash && keyDigest == some issuerKeyHash)).getD false

/-- `find_ocsp_single_response` on the contents of a SEQUENCE OF SingleResponse:
the contents of the first SingleResponse whose CertID matches. -/
def findOcspSingleResponse (oracle : CertIdOracle) (responses : List UInt8) : Option (List UInt8) :=
  if 0 < responses.length then
    match _read : cbsGetAsn1 responses cbsAsn1Sequence with
    | none => none
    | some (singleResponse, rest) =>
        match cbsGetAsn1 singleResponse cbsAsn1Sequence with
        | none => findOcspSingleResponse oracle rest
        | some (certId, _) =>
            if ocspCertIdMatchesCertificate oracle certId then some singleResponse
            else findOcspSingleResponse oracle rest
  else none
termination_by responses.length
decreasing_by all_goals exact cbsGetAsn1_rest_lt _read

/-- The DER contents of `id-pkix-ocsp-basic` (1.3.6.1.5.5.7.48.1.1), the object
`OBJ_cbs2nid` maps to `NID_id_pkix_OCSP_basic`. -/
def idPkixOcspBasic : List UInt8 :=
  [0x2b, 0x06, 0x01, 0x05, 0x05, 0x07, 0x30, 0x01, 0x01]

/-- `get_ocsp_basic_response` on the contents of an OCSPResponse: the contents of
its BasicOCSPResponse. -/
def getOcspBasicResponse (ocspResponse : List UInt8) : Option (List UInt8) := do
  let (_, ocspResponse) ← cbsGetAsn1 ocspResponse cbsAsn1Enumerated
  let (taggedResponseBytes, _) ←
    cbsGetAsn1 ocspResponse (cbsAsn1ContextSpecific ||| cbsAsn1Constructed ||| 0)
  let (responseBytes, _) ← cbsGetAsn1 taggedResponseBytes cbsAsn1Sequence
  let (responseType, responseBytes) ← cbsGetAsn1 responseBytes cbsAsn1Object
  let (response, _) ← cbsGetAsn1 responseBytes cbsAsn1OctetString
  if responseType ≠ idPkixOcspBasic then none
  else (cbsGetAsn1 response cbsAsn1Sequence).map Prod.fst

/-- `get_ocsp_single_responses`: past the optional version, the responderID and
producedAt, the contents of the SEQUENCE OF SingleResponse. -/
def getOcspSingleResponses (basicResponse : List UInt8) : Option (List UInt8) := do
  let (responseData, _) ← cbsGetAsn1 basicResponse cbsAsn1Sequence
  let (_, responseData) ←
    cbsGetOptionalAsn1 responseData (cbsAsn1ContextSpecific ||| cbsAsn1Constructed ||| 0)
  let (_, _, _, responseData) ← cbsGetAnyAsn1Element responseData
  let (_, _, _, responseData) ← cbsGetAnyAsn1Element responseData
  (cbsGetAsn1 responseData cbsAsn1Sequence).map Prod.fst

/-- `get_ocsp_single_response_extensions`: past the certID, certStatus, thisUpdate
and the optional nextUpdate, the contents of `[1]`. -/
def getOcspSingleResponseExtensions (singleResponse : List UInt8) : Option (List UInt8) := do
  let (_, _, _, singleResponse) ← cbsGetAnyAsn1Element singleResponse
  let (_, _, _, singleResponse) ← cbsGetAnyAsn1Element singleResponse
  let (_, _, _, singleResponse) ← cbsGetAnyAsn1Element singleResponse
  let (_, singleResponse) ←
    cbsGetOptionalAsn1 singleResponse (cbsAsn1ContextSpecific ||| cbsAsn1Constructed ||| 0)
  (cbsGetAsn1 singleResponse (cbsAsn1ContextSpecific ||| cbsAsn1Constructed ||| 1)).map Prod.fst

/-- An `X509_EXTENSION` as `X509Type_get_ext_oid` reads it: its object and the
contents of its value. -/
structure X509Extension where
  object : List UInt8
  value : List UInt8
  deriving DecidableEq, Repr

/-- `X509Type_get_ext_oid` on `X509_EXTENSIONS`, with what `OBJ_txt2obj` makes of the
OID string (none when it fails): the first extension with that object, as
`i2d_ASN1_OCTET_STRING` encodes its value. -/
def x509TypeGetExtOid (exts : List X509Extension) (object : Option (List UInt8)) :
    Option (List UInt8) := do
  let object ← object
  let ext ← exts.find? (·.object == object)
  pure (derElement cbsAsn1OctetString ext.value)

/-- `NativeCrypto_get_ocsp_single_extension` on the bytes of `ocspData`, with
`d2i_X509_EXTENSIONS` given by what it returns: the encoded extension value, or
null. -/
def getOcspSingleExtension (oracle : CertIdOracle)
    (d2iX509Extensions : List UInt8 → Option (List X509Extension)) (object : Option (List UInt8))
    (ocspData : List UInt8) : Option (List UInt8) := do
  let (ocspResponse, _) ← cbsGetAsn1 ocspData cbsAsn1Sequence
  let basicResponse ← getOcspBasicResponse ocspResponse
  let responses ← getOcspSingleResponses basicResponse
  let singleResponse ← findOcspSingleResponse oracle responses
  let extensions ← getOcspSingleResponseExtensions singleResponse
  let x509Exts ← d2iX509Extensions extensions
  x509TypeGetExtOid x509Exts object

end Conscrypt.X509

/-!
## The responses
-/

/-! The OCSPResponse of RFC 6960 with what each field holds as bytes: the
contents of a primitive field, the DER of a structured one the walk does not
enter. `fields` is the contents of a SEQUENCE, `encode` the element. -/

namespace Conscrypt.X509

/-- `[n]` constructed, as the walk writes `CBS_ASN1_CONTEXT_SPECIFIC | CBS_ASN1_CONSTRUCTED | n`. -/
def explicitTag (n : UInt8) : UInt8 :=
  cbsAsn1ContextSpecific ||| cbsAsn1Constructed ||| n

/-- An OPTIONAL element: nothing when absent. -/
def optionalElement (tag : UInt8) : Option (List UInt8) → List UInt8
  | none => []
  | some contents => derElement tag contents

def generalizedTime : UInt8 := 0x18

def bitString : UInt8 := 0x03

/-- A CertID: the hash algorithm's object and what follows it in the
AlgorithmIdentifier, the two issuer hashes and the serial number's contents. -/
structure CertId where
  hashAlgorithm : List UInt8
  hashParameters : List UInt8
  issuerNameHash : List UInt8
  issuerKeyHash : List UInt8
  serialNumber : List UInt8
  deriving DecidableEq, Repr

def CertId.fields (certId : CertId) : List UInt8 :=
  derElement cbsAsn1Sequence (derElement cbsAsn1Object certId.hashAlgorithm ++ certId.hashParameters) ++
    derElement cbsAsn1OctetString certId.issuerNameHash ++ derElement cbsAsn1OctetString certId.issuerKeyHash ++
    derElement cbsAsn1Integer certId.serialNumber

/-- The CertID names the certificate and its issuer: the serial numbers agree and,
for the digest the algorithm names, both issuer hashes are the engine's digests. -/
def CertId.matches (certId : CertId) (oracle : CertIdOracle) : Bool :=
  oracle.serialMatches certId.serialNumber &&
    match oracle.digests certId.hashAlgorithm with
    | some (nameDigest, keyDigest) =>
        nameDigest == some certId.issuerNameHash && keyDigest == some certId.issuerKeyHash
    | none => false

/-- `good [0] IMPLICIT NULL`, `revoked [1] IMPLICIT RevokedInfo`, `unknown [2] IMPLICIT NULL`. -/
inductive CertStatus where
  | good
  | revoked (revokedInfo : List UInt8)
  | unknown
  deriving DecidableEq, Repr

def CertStatus.tag : CertStatus → UInt8
  | .good => cbsAsn1ContextSpecific ||| 0
  | .revoked _ => explicitTag 1
  | .unknown => cbsAsn1ContextSpecific ||| 2

def CertStatus.contents : CertStatus → List UInt8
  | .revoked revokedInfo => revokedInfo
  | _ => []

structure SingleResponse where
  certId : CertId
  certStatus : CertStatus
  thisUpdate : List UInt8
  nextUpdate : Option (List UInt8)
  singleExtensions : Option (List UInt8)
  deriving DecidableEq, Repr

def SingleResponse.fields (single : SingleResponse) : List UInt8 :=
  derElement cbsAsn1Sequence single.certId.fields ++
    derElement single.certStatus.tag single.certStatus.contents ++
    derElement generalizedTime single.thisUpdate ++
    optionalElement (explicitTag 0) (single.nextUpdate.map (derElement generalizedTime)) ++
    optionalElement (explicitTag 1) single.singleExtensions

def SingleResponse.encode (single : SingleResponse) : List UInt8 :=
  derElement cbsAsn1Sequence single.fields

/-- `byName [1] Name` or `byKey [2] KeyHash`. -/
inductive ResponderId where
  | byName (name : List UInt8)
  | byKey (keyHash : List UInt8)
  deriving DecidableEq, Repr

def ResponderId.tag : ResponderId → UInt8
  | .byName _ => explicitTag 1
  | .byKey _ => explicitTag 2

def ResponderId.contents : ResponderId → List UInt8
  | .byName name => name
  | .byKey keyHash => derElement cbsAsn1OctetString keyHash

structure ResponseData where
  version : Option (List UInt8)
  responderId : ResponderId
  producedAt : List UInt8
  responses : List SingleResponse
  responseExtensions : Option (List UInt8)
  deriving DecidableEq, Repr

def ResponseData.fields (data : ResponseData) : List UInt8 :=
  optionalElement (explicitTag 0) data.version ++
    derElement data.responderId.tag data.responderId.contents ++
    derElement generalizedTime data.producedAt ++
    derElement cbsAsn1Sequence (data.responses.map SingleResponse.encode).flatten ++
    optionalElement (explicitTag 1) data.responseExtensions

structure BasicOcspResponse where
  tbsResponseData : ResponseData
  signatureAlgorithm : List UInt8
  signature : List UInt8
  certs : Option (List UInt8)
  deriving DecidableEq, Repr

def BasicOcspResponse.fields (basic : BasicOcspResponse) : List UInt8 :=
  derElement cbsAsn1Sequence basic.tbsResponseData.fields ++
    derElement cbsAsn1Sequence basic.signatureAlgorithm ++ derElement bitString basic.signature ++
    optionalElement (explicitTag 0) basic.certs

/-- ResponseBytes: the response type and, inside the OCTET STRING, the DER of the
BasicOCSPResponse. -/
structure ResponseBytes where
  responseType : List UInt8
  response : BasicOcspResponse
  deriving DecidableEq, Repr

def ResponseBytes.fields (responseBytes : ResponseBytes) : List UInt8 :=
  derElement cbsAsn1Object responseBytes.responseType ++
    derElement cbsAsn1OctetString (derElement cbsAsn1Sequence responseBytes.response.fields)

structure OcspResponse where
  responseStatus : List UInt8
  responseBytes : Option ResponseBytes
  deriving DecidableEq, Repr

def OcspResponse.fields (response : OcspResponse) : List UInt8 :=
  derElement cbsAsn1Enumerated response.responseStatus ++
    optionalElement (explicitTag 0) (response.responseBytes.map (derElement cbsAsn1Sequence ·.fields))

def OcspResponse.encode (response : OcspResponse) : List UInt8 :=
  derElement cbsAsn1Sequence response.fields

/-- The extensions of the first SingleResponse of a basic response whose CertID
names the certificate and its issuer. -/
def OcspResponse.singleExtensions (response : OcspResponse) (oracle : CertIdOracle) :
    Option (List UInt8) := do
  let responseBytes ← response.responseBytes
  if responseBytes.responseType ≠ idPkixOcspBasic then none
  else
    let single ← responseBytes.response.tbsResponseData.responses.find? (·.certId.matches oracle)
    single.singleExtensions

end Conscrypt.X509

/-!
## Reading the encodings
-/

/-! Each helper of the walk, on the fields of the structure it reads, returns
what the structure holds. Every element is then shorter than `2 ^ 32` bytes, the
longest length the reader takes. -/

namespace Conscrypt.X509

theorem ocspCertIdMatchesCertificate_fields (oracle : CertIdOracle) (certId : CertId)
    (short : certId.fields.length < 2 ^ 32) :
    ocspCertIdMatchesCertificate oracle certId.fields = certId.matches oracle := by
  simp only [CertId.fields, List.length_append, derElement_length] at short
  simp (disch := first | decide | omega | (simp only [List.length_append, derElement_length]; omega)) only
    [ocspCertIdMatchesCertificate, CertId.fields, List.append_assoc, cbsGetAsn1_derElement,
    cbsGetAsn1_derElement_nil, Option.bind_eq_bind, Option.some_bind]
  unfold CertId.matches
  cases oracle.serialMatches certId.serialNumber <;> simp
  cases oracle.digests certId.hashAlgorithm <;> simp

theorem getOcspSingleResponseExtensions_fields (single : SingleResponse)
    (short : single.fields.length < 2 ^ 32) :
    getOcspSingleResponseExtensions single.fields = single.singleExtensions := by
  obtain ⟨certId, status, thisUpdate, nextUpdate, extensions⟩ := single
  have statusLow : status.tag &&& 0x1f ≠ 0x1f := by cases status <;> simp only [CertStatus.tag] <;> decide
  cases nextUpdate <;> cases extensions <;>
    simp only [SingleResponse.fields, List.length_append, derElement_length, optionalElement, Option.map] at short <;>
    simp (disch := first | assumption | decide | omega | (simp only [List.length_append, derElement_length] at *; omega)) only
      [getOcspSingleResponseExtensions, SingleResponse.fields, optionalElement, explicitTag, Option.map,
      List.append_assoc, List.nil_append, cbsGetAnyAsn1Element_derElement, Option.bind_eq_bind, Option.some_bind,
      cbsGetOptionalAsn1_derElement, cbsGetOptionalAsn1_other, cbsGetOptionalAsn1_other_nil, cbsGetOptionalAsn1_nil,
      cbsGetAsn1_derElement, cbsGetAsn1_derElement_nil, cbsGetAsn1_nil, Option.map_some', Option.map_none']

theorem getOcspSingleResponses_fields (basic : BasicOcspResponse) (short : basic.fields.length < 2 ^ 32) :
    getOcspSingleResponses basic.fields = some (basic.tbsResponseData.responses.map SingleResponse.encode).flatten := by
  obtain ⟨⟨version, responderId, producedAt, responses, extensions⟩, signatureAlgorithm, signature, certs⟩ := basic
  have responderLow : responderId.tag &&& 0x1f ≠ 0x1f := by cases responderId <;> simp only [ResponderId.tag] <;> decide
  have responderOther : responderId.tag ≠ cbsAsn1ContextSpecific ||| cbsAsn1Constructed ||| 0 := by cases responderId <;> simp only [ResponderId.tag] <;> decide
  cases version <;> cases extensions <;>
    simp only [BasicOcspResponse.fields, ResponseData.fields, List.length_append, derElement_length,
      optionalElement, explicitTag] at short <;>
    simp (disch := first | assumption | decide | omega | (simp only [List.length_append, derElement_length] at *; omega)) only
      [getOcspSingleResponses, BasicOcspResponse.fields, ResponseData.fields, optionalElement, explicitTag,
      List.append_assoc, List.nil_append, cbsGetAnyAsn1Element_derElement, Option.bind_eq_bind, Option.some_bind,
      cbsGetOptionalAsn1_derElement, cbsGetOptionalAsn1_other, cbsGetAsn1_derElement, cbsGetAsn1_derElement_nil,
      Option.map_some']

theorem getOcspBasicResponse_fields (response : OcspResponse) (short : response.fields.length < 2 ^ 32) :
    getOcspBasicResponse response.fields = response.responseBytes.bind fun responseBytes =>
      if responseBytes.responseType ≠ idPkixOcspBasic then none else some responseBytes.response.fields := by
  obtain ⟨status, _ | ⟨responseType, basic⟩⟩ := response
  all_goals
    simp only [OcspResponse.fields, ResponseBytes.fields, optionalElement, Option.map, List.length_append,
      derElement_length] at short
  on_goal 2 => obtain rfl | basicType := em (responseType = idPkixOcspBasic)
  all_goals
    simp (disch := first | assumption | decide | omega | (simp only [List.length_append, derElement_length] at *; omega)) only
      [getOcspBasicResponse, OcspResponse.fields, ResponseBytes.fields, optionalElement, explicitTag, Option.map,
      List.append_assoc, Option.bind_eq_bind, Option.some_bind, Option.none_bind, cbsGetAsn1_derElement,
      cbsGetAsn1_derElement_nil, cbsGetAsn1_nil, Option.map_some', List.append_nil, ne_eq, not_true_eq_false,
      not_false_eq_true, ↓reduceIte, *]

theorem findOcspSingleResponse_nil (oracle : CertIdOracle) : findOcspSingleResponse oracle [] = none := by
  rw [findOcspSingleResponse]; rfl

theorem findOcspSingleResponse_encode (oracle : CertIdOracle) (responses : List SingleResponse)
    (short : ∀ single ∈ responses, single.encode.length < 2 ^ 32) :
    findOcspSingleResponse oracle (responses.map SingleResponse.encode).flatten =
      (responses.find? (·.certId.matches oracle)).map SingleResponse.fields := by
  induction responses with
  | nil => exact findOcspSingleResponse_nil oracle
  | cons single responses ih =>
      have fieldsShort : single.fields.length < 2 ^ 32 := by
        have bound := short single (.head _)
        simp only [SingleResponse.encode, derElement_length] at bound; omega
      have certIdShort : single.certId.fields.length < 2 ^ 32 := by
        simp only [SingleResponse.fields, List.length_append, derElement_length] at fieldsShort; omega
      have outer : cbsGetAsn1 (single.encode ++ (responses.map SingleResponse.encode).flatten) cbsAsn1Sequence =
          some (single.fields, (responses.map SingleResponse.encode).flatten) :=
        cbsGetAsn1_derElement (by decide) fieldsShort _
      obtain ⟨tail, inner⟩ : ∃ tail, cbsGetAsn1 single.fields cbsAsn1Sequence = some (single.certId.fields, tail) :=
        ⟨_, by simp only [SingleResponse.fields, List.append_assoc]; exact cbsGetAsn1_derElement (by decide) certIdShort _⟩
      have nonempty : 0 < (single.encode ++ (responses.map SingleResponse.encode).flatten).length := by
        simp only [SingleResponse.encode, List.length_append, derElement_length]
        have := derHeader_length_pos cbsAsn1Sequence single.fields.length
        omega
      rw [List.map_cons, List.flatten_cons, findOcspSingleResponse, if_pos nonempty]
      split
      next absent => cases outer.symm.trans absent
      next read =>
        obtain ⟨⟩ := outer.symm.trans read
        simp only [inner, ocspCertIdMatchesCertificate_fields oracle _ certIdShort, List.find?_cons]
        cases single.certId.matches oracle
        · exact ih fun single within => short single (.tail _ within)
        · rfl

end Conscrypt.X509

/-!
## The walk on a response
-/

/-! The walk returns what the response says: nothing unless the response carries
basic ResponseBytes, and otherwise the extension asked for among the extensions
of the first SingleResponse that names the certificate. -/

namespace Conscrypt.X509

theorem BasicOcspResponse.responses_length_le (basic : BasicOcspResponse) :
    (basic.tbsResponseData.responses.map SingleResponse.encode).flatten.length ≤ basic.fields.length := by
  simp only [BasicOcspResponse.fields, ResponseData.fields, List.length_append, derElement_length]
  omega

theorem getOcspSingleExtension_encode (oracle : CertIdOracle)
    (d2iX509Extensions : List UInt8 → Option (List X509Extension)) (object : Option (List UInt8))
    (response : OcspResponse) (trailing : List UInt8) (short : response.encode.length < 2 ^ 32) :
    getOcspSingleExtension oracle d2iX509Extensions object (response.encode ++ trailing) =
      (response.singleExtensions oracle).bind fun extensions =>
        (d2iX509Extensions extensions).bind fun exts => x509TypeGetExtOid exts object := by
  have fieldsShort : response.fields.length < 2 ^ 32 := by
    simp only [OcspResponse.encode, derElement_length] at short; omega
  have outer : cbsGetAsn1 (response.encode ++ trailing) cbsAsn1Sequence = some (response.fields, trailing) :=
    cbsGetAsn1_derElement (by decide) fieldsShort trailing
  simp only [getOcspSingleExtension, outer, Option.bind_eq_bind, Option.some_bind,
    getOcspBasicResponse_fields response fieldsShort, OcspResponse.singleExtensions]
  obtain ⟨status, _ | ⟨responseType, basic⟩⟩ := response
  · rfl
  by_cases basicType : responseType = idPkixOcspBasic
  · have basicShort : basic.fields.length < 2 ^ 32 := by
      simp only [OcspResponse.fields, ResponseBytes.fields, optionalElement, Option.map, List.length_append,
        derElement_length] at fieldsShort
      omega
    have responsesShort : ∀ single ∈ basic.tbsResponseData.responses, single.encode.length < 2 ^ 32 :=
      fun single within => Nat.lt_of_le_of_lt
        ((List.sublist_flatten_of_mem (List.mem_map_of_mem _ within)).length_le.trans basic.responses_length_le)
        basicShort
    simp only [basicType, ne_eq, not_true_eq_false, ↓reduceIte, Option.some_bind,
      getOcspSingleResponses_fields basic basicShort, findOcspSingleResponse_encode oracle _ responsesShort]
    cases found : basic.tbsResponseData.responses.find? (·.certId.matches oracle) with
    | none => rfl
    | some single =>
        have singleShort : single.fields.length < 2 ^ 32 := by
          have := responsesShort single (List.mem_of_find?_eq_some found)
          simp only [SingleResponse.encode, derElement_length] at this; omega
        simp only [Option.map_some', Option.some_bind, getOcspSingleResponseExtensions_fields single singleShort]
  · simp only [basicType, ne_eq, not_false_eq_true, ↓reduceIte, Option.some_bind, Option.none_bind]

/-- A successful basic response with one SingleResponse that carries extensions. -/
def sampleOcspResponse : OcspResponse where
  responseStatus := [0]
  responseBytes := some
    { responseType := idPkixOcspBasic
      response :=
        { tbsResponseData :=
            { version := none
              responderId := .byKey [7]
              producedAt := []
              responses :=
                [{ certId := ⟨[1], [], [2], [3], [4]⟩, certStatus := .good, thisUpdate := []
                   nextUpdate := none, singleExtensions := some [5] }]
              responseExtensions := none }
          signatureAlgorithm := []
          signature := []
          certs := none } }

theorem getOcspSingleExtension_sampleOcspResponse :
    sampleOcspResponse.encode.length < 2 ^ 32 ∧
      getOcspSingleExtension ⟨fun _ => true, fun _ => some (some [2], some [3])⟩ (fun _ => some [⟨[6], [8]⟩])
          (some [6]) (sampleOcspResponse.encode ++ [9]) =
        some (derElement cbsAsn1OctetString [8]) :=
  ⟨by decide, (getOcspSingleExtension_encode _ _ _ _ _ (by decide)).trans rfl⟩

end Conscrypt.X509
