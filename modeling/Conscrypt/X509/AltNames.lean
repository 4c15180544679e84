import Mathlib.Data.List.Basic
import Conscrypt.Engine.Errors

/-!
# Subject and issuer alternative names

`NativeCrypto_get_X509_GENERAL_NAME_stack` converts each `GENERAL_NAME` of a
certificate's alternative-name stack with `GENERAL_NAME_to_jobject`, writes the
non-null results into an array with two counters, `j` and `count`, and copies
the array down when some results were null. A conversion that leaves an
exception pending ends the whole call with null.
-/

set_option autoImplicit false

/-!
## Names and their conversion
-/

/-! A `GENERAL_NAME` is given by the data `GENERAL_NAME_to_jobject` reads from its
union, and the engine calls it makes by what they return. Strings reach Java
through `NewStringUTF`, which reads up to the first NUL. -/

namespace Conscrypt.X509

/-- The three `GENERAL_NAME` types that carry an IA5 string. -/
inductive Ia5Kind where
  | email
  | dns
  | uri
  deriving DecidableEq, Repr

/-- What an `i2d_GENERAL_NAME` call gives: the DER bytes, or a failure with what
the engine queued. -/
inductive Encoding where
  | der (bytes : List UInt8)
  | failed (queued : Option EngineError)
  deriving DecidableEq, Repr

/-- A `GENERAL_NAME`, by the case of `GENERAL_NAME_to_jobject` it takes. -/
inductive GeneralName where
  /-- `GEN_EMAIL`, `GEN_DNS`, `GEN_URI`: the `ASN1_STRING_length` bytes of the
  string, and whether `ASN1_PRINTABLE_type` classifies them as a T61String. -/
  | ia5 (kind : Ia5Kind) (data : List UInt8) (t61 : Bool)
  /-- `GEN_DIRNAME`: what `X509_NAME_print_ex` writes in RFC 2253 form. -/
  | dirName (printed : List UInt8)
  /-- `GEN_IPADD`: the address bytes, and the text `inet_ntop` makes of them. -/
  | ipAdd (address : List UInt8) (presentation : List UInt8)
  /-- `GEN_RID`: what `OBJ_obj2txt` returns and writes into the 128-byte buffer,
  and the engine's error queue. -/
  | rid (ret : Int) (output : List UInt8) (queued : Option EngineError)
  /-- `GEN_OTHERNAME`, `GEN_X400` and the `default` case, DER-encoded. -/
  | otherName (encoding : Encoding)
  | x400 (encoding : Encoding)
  | ediParty (encoding : Encoding)
  deriving DecidableEq, Repr

/-- `gen->type`. -/
def GeneralName.type : GeneralName → Int
  | .otherName _ => 0
  | .ia5 .email _ _ => 1
  | .ia5 .dns _ _ => 2
  | .x400 _ => 3
  | .dirName _ => 4
  | .ediParty _ => 5
  | .ia5 .uri _ _ => 6
  | .ipAdd _ _ => 7
  | .rid _ _ _ => 8

/-- A Java object a conversion returns. -/
inductive JavaObject where
  /-- A `String` made by `NewStringUTF` from these bytes. -/
  | string (utf : List UInt8)
  /-- A `byte[]` holding these bytes. -/
  | bytes (array : List UInt8)
  deriving DecidableEq, Repr

/-- `strlen`: the bytes before the first NUL. -/
def strlen (cString : List UInt8) : Nat :=
  (cString.takeWhile (· != 0)).length

/-- `NewStringUTF`: a string of the bytes before the first NUL. -/
def newStringUTF (cString : List UInt8) : JavaObject :=
  .string (cString.takeWhile (· != 0))

/-- `throwExceptionIfNecessary` followed by `return nullptr`: the queued error, or
null with nothing pending. -/
def nullAfterEngineError (queued : Option EngineError) : Except JavaException (Option JavaObject) :=
  match throwExceptionIfNecessary queued with
  | some exception => .error exception
  | none => .ok none

/-- `ASN1_OBJECT_to_OID_string` with a 128-byte buffer. -/
def asn1ObjectToOidString (ret : Int) (output : List UInt8) (queued : Option EngineError) :
    Except JavaException (Option JavaObject) :=
  if ret < 0 then nullAfterEngineError queued
  else if 128 ≤ ret then .error (.runtime "ASN1_OBJECT_to_OID_string buffer too small")
  else .ok (some (newStringUTF output))

/-- `ASN1ToByteArray` with `i2d_GENERAL_NAME` on a non-null name. -/
def asn1ToByteArray : Encoding → Except JavaException (Option JavaObject)
  | .der bytes => .ok (some (.bytes bytes))
  | .failed queued => nullAfterEngineError queued

/-- `GENERAL_NAME_to_jobject`: a value, null, or null with an exception pending.
The engine keeps a NUL after an `ASN1_STRING`'s data, which `strlen` and
`NewStringUTF` read. -/
def generalNameToJobject : GeneralName → Except JavaException (Option JavaObject)
  | .ia5 _ data t61 =>
      if data.length = strlen (data ++ [0]) ∧ t61 = false then .ok (some (newStringUTF (data ++ [0])))
      else .error (.certificateParsing "Invalid dNSName encoding")
  | .dirName printed => .ok (some (newStringUTF (printed ++ [0])))
  | .ipAdd address presentation =>
      if address.length = 4 ∨ address.length = 16 then .ok (some (newStringUTF (presentation ++ [0])))
      else .ok none
  | .rid ret output queued => asn1ObjectToOidString ret output queued
  | .otherName encoding | .x400 encoding | .ediParty encoding => asn1ToByteArray encoding

end Conscrypt.X509

/-!
## What each conversion gives
-/

/-! The length test `len == strlen(data)` holds exactly when the stated bytes hold
no NUL. An IA5 name raises, an IP address of a length other than 4 or 16 is
null, and an engine failure is null, raising only when the engine queued an
error. -/

namespace Conscrypt.X509

theorem strlen_append_zero (data : List UInt8) : strlen (data ++ [0]) = data.length ↔ 0 ∉ data := by
  induction data with
  | nil => simp [strlen]
  | cons byte rest ih =>
      by_cases zero : byte = 0
      · subst zero; simp [strlen]
      · simp only [strlen, List.cons_append, List.takeWhile_cons, bne_iff_ne, ne_eq, zero,
          not_false_eq_true, decide_True, ↓reduceIte, List.length_cons, Nat.add_right_cancel_iff,
          List.mem_cons, false_or] at ih ⊢
        simpa [Ne.symm zero] using ih

theorem newStringUTF_of_no_nul {data : List UInt8} (clean : 0 ∉ data) :
    newStringUTF (data ++ [0]) = .string data := by
  simp only [newStringUTF, JavaObject.string.injEq]
  rw [List.takeWhile_append_of_pos (fun byte mem => by simpa using ne_of_mem_of_not_mem mem clean)]
  simp

/-- An IA5 name converts to its own bytes, or raises when a NUL stands before its
stated length or the engine classifies it as a T61String. -/
theorem generalNameToJobject_ia5 (kind : Ia5Kind) (data : List UInt8) (t61 : Bool) :
    generalNameToJobject (.ia5 kind data t61) =
      if 0 ∈ data ∨ t61 = true then .error (.certificateParsing "Invalid dNSName encoding")
      else .ok (some (.string data)) := by
  by_cases clean : 0 ∈ data
  · have long : data.length ≠ strlen (data ++ [0]) := fun same => (strlen_append_zero data).mp same.symm clean
    simp [generalNameToJobject, long, clean]
  · cases t61 <;> simp [generalNameToJobject, (strlen_append_zero data).mpr clean, clean,
      newStringUTF_of_no_nul clean]

/-- A conversion is null without an exception only for an IP address of a length
other than 4 or 16, or an engine failure with nothing queued. -/
theorem generalNameToJobject_null {gen : GeneralName} (dropped : generalNameToJobject gen = .ok none) :
    (∃ address presentation, gen = .ipAdd address presentation ∧ address.length ≠ 4 ∧ address.length ≠ 16) ∨
      (∃ ret output, gen = .rid ret output none ∧ ret < 0) ∨
      gen = .otherName (.failed none) ∨ gen = .x400 (.failed none) ∨ gen = .ediParty (.failed none) := by
  have quiet : ∀ {queued}, nullAfterEngineError queued = .ok none → queued = none := by
    intro queued failed
    cases queued <;> simp_all [nullAfterEngineError, throwExceptionIfNecessary]
  cases gen with
  | ia5 kind data t61 =>
      rw [generalNameToJobject_ia5] at dropped
      split_ifs at dropped
      cases dropped
  | dirName printed => cases dropped
  | ipAdd address presentation =>
      simp only [generalNameToJobject] at dropped
      split_ifs at dropped with valid
      · cases dropped
      · exact .inl ⟨address, presentation, rfl, fun four => valid (.inl four), fun six => valid (.inr six)⟩
  | rid ret output queued =>
      simp only [generalNameToJobject, asn1ObjectToOidString] at dropped
      split_ifs at dropped with negative
      · exact .inr (.inl ⟨ret, output, by rw [quiet dropped], negative⟩)
      all_goals cases dropped
  | otherName encoding | x400 encoding | ediParty encoding =>
      cases encoding with
      | der bytes => cases dropped
      | failed queued => simp [quiet dropped]

/-- A conversion raises only for an IA5 name with a NUL before its length or a T61
classification, a registered ID whose text needs 128 bytes or more, or an engine
failure with an error queued. -/
theorem generalNameToJobject_error {gen : GeneralName} {exception : JavaException}
    (raised : generalNameToJobject gen = .error exception) :
    (∃ kind data t61, gen = .ia5 kind data t61 ∧ (0 ∈ data ∨ t61 = true) ∧
        exception = .certificateParsing "Invalid dNSName encoding") ∨
      (∃ ret output queued, gen = .rid ret output queued ∧ 128 ≤ ret ∧
        exception = .runtime "ASN1_OBJECT_to_OID_string buffer too small") ∨
      ∃ error, exception = .engine error := by
  have engine : ∀ queued, nullAfterEngineError queued = .error exception → ∃ error, exception = .engine error := by
    intro queued failed
    cases queued <;> simp [nullAfterEngineError, throwExceptionIfNecessary] at failed
    exact ⟨_, failed.symm⟩
  cases gen with
  | ia5 kind data t61 =>
      rw [generalNameToJobject_ia5] at raised
      split_ifs at raised with bad
      cases raised
      exact .inl ⟨kind, data, t61, rfl, bad, rfl⟩
  | dirName printed => cases raised
  | ipAdd address presentation =>
      simp only [generalNameToJobject] at raised
      split_ifs at raised
  | rid ret output queued =>
      simp only [generalNameToJobject, asn1ObjectToOidString] at raised
      split_ifs at raised with negative long
      · exact .inr (.inr (engine queued raised))
      · cases raised
        exact .inr (.inl ⟨ret, output, queued, rfl, long, rfl⟩)
  | otherName encoding | x400 encoding | ediParty encoding =>
      cases encoding with
      | der bytes => cases raised
      | failed queued => exact .inr (.inr (engine queued raised))

end Conscrypt.X509

/-!
## The stack
-/

/-! The loop writes the value for name `i` at index `j`; a null result decrements
both `j` and `count`, so `j` is the number of values written so far. The final
copy keeps the first `count` slots. -/

namespace Conscrypt.X509

/-- An element of the returned array: `{Integer.valueOf(gen->type), value}`. -/
abbrev Item := Int × JavaObject

/-- The alternative-name stacks of an `X509` certificate: `x509->altname`, which
`X509_check_ca` caches, and what `X509_get_ext_d2i` decodes for
`NID_issuer_alt_name`. -/
structure Certificate where
  altname : Option (List GeneralName)
  issuerAltName : Option (List GeneralName)
  deriving DecidableEq, Repr

def gnStackSubjectAltName : Int := 1

def gnStackIssuerAltName : Int := 2

/-- The loop `for (int i = 0, j = 0; i < origCount; i++, j++)` from name `i` on,
with `j`, `count` and the array `joa`. -/
def fillNames : List GeneralName → Int → Int → List (Option Item) →
    Except JavaException (Int × List (Option Item))
  | [], _, count, joa => .ok (count, joa)
  | gen :: rest, j, count, joa =>
      match generalNameToJobject gen with
      | .error exception => .error exception
      | .ok none => fillNames rest (j - 1 + 1) (count - 1) joa
      | .ok (some value) => fillNames rest (j + 1) count (joa.set j.toNat (some (gen.type, value)))

/-- `NativeCrypto_get_X509_GENERAL_NAME_stack` once the stack is chosen. -/
def stackToArray (gnStack : Option (List GeneralName)) : Except JavaException (Option (List (Option Item))) :=
  let count : Int := match gnStack with
    | none => -1
    | some names => names.length
  match gnStack with
  | none => .ok none
  | some names =>
      if count ≤ 0 then .ok none
      else
        let origCount := count
        match fillNames names 0 count (List.replicate origCount.toNat none) with
        | .error exception => .error exception
        | .ok (count, joa) =>
            if count = 0 then .ok none
            else if origCount ≠ count then
              .ok (some ((List.range count.toNat).map fun i => joa.getD i none))
            else .ok (some joa)

/-- `NativeCrypto_get_X509_GENERAL_NAME_stack`. -/
def getX509GeneralNameStack (x509 : Option Certificate) (type : Int) :
    Except JavaException (Option (List (Option Item))) :=
  match x509 with
  | none => .error (.nullPointer "x509 == null")
  | some x509 =>
      if type = gnStackSubjectAltName then stackToArray x509.altname
      else if type = gnStackIssuerAltName then stackToArray x509.issuerAltName
      else .ok none

/-- The stack a `type` argument selects, none for an unknown type. -/
def Certificate.generalNames (x509 : Certificate) (type : Int) : Option (List GeneralName) :=
  if type = gnStackSubjectAltName then x509.altname
  else if type = gnStackIssuerAltName then x509.issuerAltName
  else none

/-- The pair the array holds for a name converted to a non-null value. -/
def GeneralName.item (gen : GeneralName) : Option Item :=
  match generalNameToJobject gen with
  | .ok (some value) => some (gen.type, value)
  | _ => none

/-- The pairs the loop keeps, or the first exception a conversion raises. -/
def keptNames : List GeneralName → Except JavaException (List Item)
  | [] => .ok []
  | gen :: rest =>
      match generalNameToJobject gen with
      | .error exception => .error exception
      | .ok none => keptNames rest
      | .ok (some value) => (keptNames rest).map ((gen.type, value) :: ·)

end Conscrypt.X509

/-!
## The counters
-/

/-! Over the loop, the array is the values kept so far followed by untouched
slots, `j` is the number of values kept and `count` drops by the number of nulls. -/

namespace Conscrypt.X509

theorem keptNames_length_le : ∀ {names : List GeneralName} {kept : List Item},
    keptNames names = .ok kept → kept.length ≤ names.length
  | [], _, done => by cases done; rfl
  | gen :: rest, kept, done => by
      simp only [keptNames] at done
      split at done
      · cases done
      · exact Nat.le_succ_of_le (keptNames_length_le done)
      · cases tail : keptNames rest with
        | error exception => rw [tail] at done; cases done
        | ok tail' =>
            rw [tail] at done
            cases done
            exact Nat.succ_le_succ (keptNames_length_le tail)

private theorem set_after_kept (pre : List (Option Item)) (item : Item) (room : Nat) :
    (pre ++ List.replicate (room + 1) none).set pre.length (some item) =
      (pre ++ [some item]) ++ List.replicate room none := by
  simp [List.set_append_right, List.replicate_succ]

theorem fillNames_eq : ∀ (names : List GeneralName) (pre : List (Option Item)) (count : Int) (room : Nat),
    names.length ≤ room →
    fillNames names pre.length count (pre ++ List.replicate room none) =
      (keptNames names).map fun kept =>
        (count - (names.length - kept.length : Nat),
          pre ++ kept.map some ++ List.replicate (room - kept.length) none)
  | [], pre, count, room, _ => by simp [fillNames, keptNames, Except.map]
  | gen :: rest, pre, count, room, fits => by
      simp only [fillNames, keptNames]
      split
      · rfl
      · rw [show (pre.length : Int) - 1 + 1 = pre.length by omega,
          fillNames_eq rest pre (count - 1) room (by simp at fits; omega)]
        cases tail : keptNames rest with
        | error exception => rfl
        | ok kept =>
            have shorter := keptNames_length_le tail
            simp only [Except.map, List.length_cons, Except.ok.injEq, Prod.mk.injEq, and_true]
            omega
      · obtain ⟨room, rfl⟩ : ∃ left, room = left + 1 := ⟨room - 1, by simp at fits; omega⟩
        rw [show (pre.length : Int).toNat = pre.length by simp, set_after_kept,
          show (pre.length : Int) + 1 = (pre ++ [some (gen.type, _)]).length by simp,
          fillNames_eq rest _ count room (by simpa using fits)]
        cases tail : keptNames rest with
        | error exception => rfl
        | ok kept =>
            have shorter := keptNames_length_le tail
            simp only [Except.map, List.length_cons, List.map_cons, List.append_assoc,
              List.singleton_append, Except.ok.injEq, Prod.mk.injEq]
            exact ⟨by omega, by rw [Nat.add_sub_add_right]⟩

/-- The copy loop `for (i = 0; i < count; i++)` keeps the values in front. -/
theorem copy_kept (kept : List Item) (room : Nat) :
    (List.range kept.length).map (fun i => (kept.map some ++ List.replicate room none).getD i none) =
      kept.map some := by
  apply List.ext_getElem (by simp)
  intro i inRange _
  simp only [List.length_map, List.length_range] at inRange
  rw [List.getElem_map, List.getElem_range, List.getD_eq_getElem?_getD,
    List.getElem?_append_left (by simpa using inRange)]
  simp [inRange]

/-- On a non-empty stack, the call returns the first exception a conversion
raises, otherwise the kept pairs in order, or null when none was kept. -/
theorem stackToArray_eq {names : List GeneralName} (nonEmpty : names ≠ []) :
    stackToArray (some names) =
      match keptNames names with
      | .error exception => .error exception
      | .ok kept => .ok (if kept = [] then none else some (kept.map some)) := by
  have positive : 0 < names.length := List.length_pos.mpr nonEmpty
  have filled := fillNames_eq names [] names.length names.length le_rfl
  simp only [List.nil_append, List.length_nil] at filled
  change fillNames names 0 _ _ = _ at filled
  simp only [stackToArray, Int.toNat_ofNat, show ¬ (names.length : Int) ≤ 0 by omega, ↓reduceIte, filled]
  cases tail : keptNames names with
  | error exception => rfl
  | ok kept =>
      have shorter := keptNames_length_le tail
      have counted : (names.length : Int) - (names.length - kept.length : Nat) = kept.length := by omega
      simp only [Except.map, counted]
      by_cases empty : kept = []
      · subst empty; rfl
      · have some : (kept.length : Int) ≠ 0 := by
          have := List.length_pos.mpr empty; omega
        rw [if_neg some, if_neg empty]
        by_cases full : kept.length = names.length
        · rw [if_neg (by omega)]; simp [full]
        · rw [if_pos (by omega), Int.toNat_ofNat, copy_kept]

end Conscrypt.X509

/-!
## First exception, or the kept pairs
-/

/-! `keptNames` gives what the call returns: the first exception in stack order,
and without one the names whose value is non-null, in order. -/

namespace Conscrypt.X509

theorem keptNames_of_converted : ∀ {names : List GeneralName},
    (∀ gen ∈ names, (generalNameToJobject gen).toBool = true) →
    keptNames names = .ok (names.filterMap GeneralName.item)
  | [], _ => rfl
  | gen :: rest, converted => by
      have tail := keptNames_of_converted fun other mem => converted other (List.mem_cons_of_mem gen mem)
      have head := converted gen (List.mem_cons_self gen rest)
      cases result : generalNameToJobject gen with
      | error exception => simp [result, Except.toBool] at head
      | ok value =>
          cases value <;> simp [keptNames, GeneralName.item, result, tail, Except.map]

theorem keptNames_first_exception {gen : GeneralName} {exception : JavaException} (post : List GeneralName)
    (raised : generalNameToJobject gen = .error exception) :
    ∀ pre : List GeneralName, (∀ earlier ∈ pre, (generalNameToJobject earlier).toBool = true) →
      keptNames (pre ++ gen :: post) = .error exception
  | [], _ => by simp [keptNames, raised]
  | earlier :: pre, converted => by
      have tail := keptNames_first_exception post raised pre fun other mem =>
        converted other (List.mem_cons_of_mem earlier mem)
      have head := converted earlier (List.mem_cons_self earlier pre)
      cases result : generalNameToJobject earlier with
      | error exception => simp [result, Except.toBool] at head
      | ok value => cases value <;> simp [keptNames, result, tail, Except.map]

end Conscrypt.X509

/-!
## The call on a stack
-/

/-! Besides a malformed IA5 name, a registered ID whose text does not fit the
128-byte buffer, or an engine failure with an error queued, also ends the call
with null, even when every IA5 name is well formed. -/

namespace Conscrypt.X509

theorem getX509GeneralNameStack_selected {x509 : Certificate} {type : Int} {names : List GeneralName}
    (selected : x509.generalNames type = some names) :
    getX509GeneralNameStack (some x509) type = stackToArray (some names) := by
  simp only [Certificate.generalNames] at selected
  simp only [getX509GeneralNameStack]
  split_ifs at selected ⊢ <;> rw [selected]

/-- A well-formed DNS name followed by a registered ID whose dotted text needs 130
bytes. -/
def longOidNames : List GeneralName :=
  [.ia5 .dns [97] false, .rid 130 [] none]

/-- Every IA5 name of `longOidNames` is well formed and one name converts to a
value, yet the call returns null with a `RuntimeException` pending. -/
theorem long_registered_id_drops_stack :
    (∀ kind data t61, GeneralName.ia5 kind data t61 ∈ longOidNames → 0 ∉ data ∧ t61 = false) ∧
      longOidNames.filterMap GeneralName.item = [(2, .string [97])] ∧
      getX509GeneralNameStack (some ⟨some longOidNames, none⟩) gnStackSubjectAltName =
        .error (.runtime "ASN1_OBJECT_to_OID_string buffer too small") := by
  refine ⟨fun kind data t61 mem => ?_, by decide, rfl⟩
  simp only [longOidNames, List.mem_cons, GeneralName.ia5.injEq, reduceCtorEq, List.not_mem_nil,
    or_false] at mem
  obtain ⟨-, rfl, rfl⟩ := mem
  decide

/-- On every non-empty stack the call returns null with the exception of the first
name whose conversion raises one; when none raises, it returns the pairs of the
names converted to a non-null value, in stack order with no other slot, and null
when there are none. An IA5 name raises exactly when a NUL stands before its
stated length or it is classified as a T61String; otherwise only a registered ID
whose text needs 128 bytes or more, or an engine failure with an error queued,
raises. The names dropped without an exception are the IP addresses of a length
other than 4 or 16 and the engine failures with nothing queued. -/
theorem general_name_stack_result (x509 : Certificate) (type : Int) (names : List GeneralName)
    (selected : x509.generalNames type = some names) (nonEmpty : names ≠ []) :
    (∀ pre gen post exception, names = pre ++ gen :: post →
        (∀ earlier ∈ pre, (generalNameToJobject earlier).toBool = true) →
        generalNameToJobject gen = .error exception →
        getX509GeneralNameStack (some x509) type = .error exception) ∧
      ((∀ gen ∈ names, (generalNameToJobject gen).toBool = true) →
        getX509GeneralNameStack (some x509) type =
          .ok (if names.filterMap GeneralName.item = [] then none
            else some ((names.filterMap GeneralName.item).map some))) ∧
      (∀ kind data t61, generalNameToJobject (.ia5 kind data t61) =
        if 0 ∈ data ∨ t61 = true then .error (.certificateParsing "Invalid dNSName encoding")
        else .ok (some (.string data))) ∧
      (∀ gen exception, generalNameToJobject gen = .error exception →
        (∃ kind data t61, gen = .ia5 kind data t61 ∧ (0 ∈ data ∨ t61 = true) ∧
            exception = .certificateParsing "Invalid dNSName encoding") ∨
          (∃ ret output queued, gen = .rid ret output queued ∧ 128 ≤ ret ∧
            exception = .runtime "ASN1_OBJECT_to_OID_string buffer too small") ∨
          ∃ error, exception = .engine error) ∧
      ∀ gen, generalNameToJobject gen = .ok none →
        (∃ address presentation, gen = .ipAdd address presentation ∧ address.length ≠ 4 ∧
            address.length ≠ 16) ∨
          (∃ ret output, gen = .rid ret output none ∧ ret < 0) ∨
          gen = .otherName (.failed none) ∨ gen = .x400 (.failed none) ∨ gen = .ediParty (.failed none) := by
  rw [getX509GeneralNameStack_selected selected, stackToArray_eq nonEmpty]
  refine ⟨fun pre gen post exception split converted raised => ?_, fun converted => ?_,
    generalNameToJobject_ia5, fun _ _ raised => generalNameToJobject_error raised,
    fun _ dropped => generalNameToJobject_null dropped⟩
  · rw [split, keptNames_first_exception post raised pre converted]
  · rw [keptNames_of_converted converted]

/-- A subject stack with an IP address of 3 bytes between two DNS names, and an
issuer stack whose third name, an e-mail address, holds a NUL after two
well-formed names. -/
def mixedNames : Certificate :=
  ⟨some [.ia5 .dns [97] false, .ipAdd [10, 0, 0] [], .ia5 .dns [98] false],
    some [.ia5 .dns [97] false, .ia5 .uri [98] false, .ia5 .email [99, 0] false]⟩

theorem general_name_stack_result_mixed :
    (mixedNames.generalNames gnStackSubjectAltName =
        some [.ia5 .dns [97] false, .ipAdd [10, 0, 0] [], .ia5 .dns [98] false] ∧
      [GeneralName.ia5 .dns [97] false, .ipAdd [10, 0, 0] [], .ia5 .dns [98] false] ≠ [] ∧
      getX509GeneralNameStack (some mixedNames) gnStackSubjectAltName =
        .ok (some [some (2, .string [97]), some (2, .string [98])])) ∧
    (mixedNames.generalNames gnStackIssuerAltName =
        some [.ia5 .dns [97] false, .ia5 .uri [98] false, .ia5 .email [99, 0] false] ∧
      [GeneralName.ia5 .dns [97] false, .ia5 .uri [98] false, .ia5 .email [99, 0] false] ≠ [] ∧
      getX509GeneralNameStack (some mixedNames) gnStackIssuerAltName =
        .error (.certificateParsing "Invalid dNSName encoding")) :=
  ⟨⟨rfl, by decide, by
      rw [(general_name_stack_result mixedNames gnStackSubjectAltName _ rfl (by decide)).2.1 (by decide)]
      rfl⟩,
    ⟨rfl, by decide,
      (general_name_stack_result mixedNames gnStackIssuerAltName _ rfl (by decide)).1
        [.ia5 .dns [97] false, .ia5 .uri [98] false] (.ia5 .email [99, 0] false) [] _ rfl (by decide) rfl⟩⟩

end Conscrypt.X509
