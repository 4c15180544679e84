import Conscrypt.X509.AltNames

/-!
# The object identifiers of a certificate's extensions

`get_X509Type_ext_oids`, shared by certificates, CRLs and revoked entries, makes
two passes over the extensions with `X509v3_get_ext_by_critical`: the first counts
those whose criticality is the one asked for and sizes the Java array, the second
converts each one's object with `ASN1_OBJECT_to_OID_string` and stores it at the
next index. A conversion that fails ends the call with null.
-/

set_option autoImplicit false

/-!
## The two passes
-/

/-! The engine's search scans from the position after `lastpos` for the next
extension whose `critical` flag answers `crit`, an `ASN1_BOOLEAN` that is -1 when
the field is absent and 0xff when it is true. -/

namespace Conscrypt.X509

/-- An `ASN1_OBJECT`, by what `OBJ_obj2txt` returns and writes for it, with the
engine's error queue. -/
structure Asn1Object where
  ret : Int
  output : List UInt8
  queued : Option EngineError
  deriving DecidableEq, Repr

/-- `ASN1_OBJECT_to_OID_string(env, obj)`. -/
def Asn1Object.oidString (obj : Asn1Object) : Except JavaException (Option JavaObject) :=
  asn1ObjectToOidString obj.ret obj.output obj.queued

/-- An `X509_EXTENSION` as `get_X509Type_ext_oids` reads it: its `critical` flag and
its object. -/
structure ExtensionEntry where
  critical : Int
  object : Asn1Object
  deriving DecidableEq, Repr

/-- The test of `X509v3_get_ext_by_critical`:
`(ex->critical > 0 && crit) || (ex->critical <= 0 && !crit)`. -/
def criticalMatches (crit : Int) (ext : ExtensionEntry) : Bool :=
  (decide (0 < ext.critical) && crit != 0) || (decide (ext.critical ≤ 0) && crit == 0)

/-- The scan of `X509v3_get_ext_by_critical` from index `pos`. -/
def extByCriticalFrom (exts : List ExtensionEntry) (crit : Int) (pos : Nat) : Int :=
  if h : pos < exts.length then
    if criticalMatches crit exts[pos] then pos else extByCriticalFrom exts crit (pos + 1)
  else -1
termination_by exts.length - pos

/-- `X509v3_get_ext_by_critical(sk, crit, lastpos)`: the index of the next extension
after `lastpos` whose flag answers `crit`, or -1. -/
def x509v3GetExtByCritical (exts : List ExtensionEntry) (crit lastPos : Int) : Int :=
  extByCriticalFrom exts crit (max (lastPos + 1) 0).toNat

theorem extByCriticalFrom_bounds (exts : List ExtensionEntry) (crit : Int) (pos : Nat) :
    extByCriticalFrom exts crit pos = -1 ∨
      (pos ≤ extByCriticalFrom exts crit pos ∧ extByCriticalFrom exts crit pos < exts.length) := by
  induction pos using extByCriticalFrom.induct exts crit with
  | case1 pos h found => rw [extByCriticalFrom, dif_pos h, if_pos found]; omega
  | case2 pos h _ ih => rw [extByCriticalFrom, dif_pos h, if_neg ‹_›]; omega
  | case3 pos h => rw [extByCriticalFrom, dif_neg h]; simp

/-- A found index lies after `lastpos` and inside the stack. -/
theorem x509v3GetExtByCritical_bounds {exts : List ExtensionEntry} {crit lastPos : Int}
    (found : x509v3GetExtByCritical exts crit lastPos ≠ -1) :
    lastPos < x509v3GetExtByCritical exts crit lastPos ∧ 0 ≤ x509v3GetExtByCritical exts crit lastPos ∧
      x509v3GetExtByCritical exts crit lastPos < exts.length := by
  unfold x509v3GetExtByCritical at *
  rcases extByCriticalFrom_bounds exts crit (max (lastPos + 1) 0).toNat with none | ⟨low, high⟩
  · exact absurd none found
  · omega

/-- The first loop of `get_X509Type_ext_oids`: the count it reaches from `lastPos`. -/
def countExtensions (exts : List ExtensionEntry) (critical lastPos : Int) (count : Nat) : Nat :=
  if h : x509v3GetExtByCritical exts critical lastPos = -1 then count
  else countExtensions exts critical (x509v3GetExtByCritical exts critical lastPos) (count + 1)
termination_by (exts.length - lastPos).toNat
decreasing_by have := x509v3GetExtByCritical_bounds h; omega

/-- The second loop: the strings it stores at `count++` from `lastPos` on, in order,
or null with what the failed conversion left pending. -/
def fillExtensionOids (exts : List ExtensionEntry) (critical lastPos : Int) :
    Except JavaException (Option (List JavaObject)) :=
  if h : x509v3GetExtByCritical exts critical lastPos = -1 then .ok (some [])
  else
    have bounds := x509v3GetExtByCritical_bounds h
    match (exts[(x509v3GetExtByCritical exts critical lastPos).toNat]).object.oidString with
    | .error exception => .error exception
    | .ok none => .ok none
    | .ok (some extOid) =>
        (fillExtensionOids exts critical (x509v3GetExtByCritical exts critical lastPos)).map
          (Option.map (extOid :: ·))
termination_by (exts.length - lastPos).toNat
decreasing_by omega

/-- `SetObjectArrayElement(joa, count++, extOid)` for each string in turn. -/
def setObjectArrayElements (array : List (Option JavaObject)) (objects : List JavaObject) :
    List (Option JavaObject) :=
  objects.enum.foldl (fun array (index, object) => array.set index (some object)) array

/-- `get_X509Type_ext_oids(x509Ref, critical)` on the extensions of a certificate, CRL
or revoked entry (none for a null reference). -/
def getX509TypeExtOids (x509 : Option (List ExtensionEntry)) (critical : Int) :
    Except JavaException (Option (List (Option JavaObject))) :=
  match x509 with
  | none => .error (.nullPointer "x509 == null")
  | some exts =>
      let count := countExtensions exts critical (-1) 0
      match fillExtensionOids exts critical (-1) with
      | .error exception => .error exception
      | .ok none => .ok none
      | .ok (some extOids) => .ok (some (setObjectArrayElements (List.replicate count none) extOids))

end Conscrypt.X509

/-!
## What the passes find
-/

/-! Each search returns the next extension of the filtered stack, so the first
pass counts the extensions `List.filter` keeps and the second converts them in
order; the array the first sizes is exactly filled by the second. -/

namespace Conscrypt.X509

/-- The strings of the given extensions in order, up to the first conversion that
fails. -/
def oidStrings : List ExtensionEntry → Except JavaException (Option (List JavaObject))
  | [] => .ok (some [])
  | ext :: exts =>
      match ext.object.oidString with
      | .error exception => .error exception
      | .ok none => .ok none
      | .ok (some extOid) => (oidStrings exts).map (Option.map (extOid :: ·))

theorem extByCriticalFrom_none {exts : List ExtensionEntry} {crit : Int} {pos : Nat}
    (none : extByCriticalFrom exts crit pos = -1) : (exts.drop pos).filter (criticalMatches crit) = [] := by
  induction pos using extByCriticalFrom.induct exts crit with
  | case1 pos h found => rw [extByCriticalFrom, dif_pos h, if_pos found] at none; omega
  | case2 pos h missed ih =>
      rw [extByCriticalFrom, dif_pos h, if_neg missed] at none
      rw [List.drop_eq_getElem_cons h, List.filter_cons_of_neg missed, ih none]
  | case3 pos h => rw [List.drop_of_length_le (by omega)]; rfl

theorem extByCriticalFrom_some {exts : List ExtensionEntry} {crit : Int} {pos found : Nat}
    (some : extByCriticalFrom exts crit pos = found) :
    ∃ h : found < exts.length, (exts.drop pos).filter (criticalMatches crit) =
      exts[found] :: (exts.drop (found + 1)).filter (criticalMatches crit) := by
  induction pos using extByCriticalFrom.induct exts crit with
  | case1 pos h matched =>
      rw [extByCriticalFrom, dif_pos h, if_pos matched] at some
      obtain rfl : pos = found := by omega
      exact ⟨h, by rw [List.drop_eq_getElem_cons h, List.filter_cons_of_pos matched]⟩
  | case2 pos h missed ih =>
      rw [extByCriticalFrom, dif_pos h, if_neg missed] at some
      obtain ⟨bound, rest⟩ := ih some
      exact ⟨bound, by rw [List.drop_eq_getElem_cons h, List.filter_cons_of_neg missed, rest]⟩
  | case3 pos h => rw [extByCriticalFrom, dif_neg h] at some; omega

/-- One search: -1 when no extension after `lastpos` answers, else the index of
the first that does. -/
theorem x509v3GetExtByCritical_filter (exts : List ExtensionEntry) (crit lastPos : Int) :
    (x509v3GetExtByCritical exts crit lastPos = -1 ∧
      (exts.drop (lastPos + 1).toNat).filter (criticalMatches crit) = []) ∨
    ∃ found : Nat, x509v3GetExtByCritical exts crit lastPos = found ∧ ∃ h : found < exts.length,
      (exts.drop (lastPos + 1).toNat).filter (criticalMatches crit) =
        exts[found] :: (exts.drop (found + 1)).filter (criticalMatches crit) := by
  have first : (max (lastPos + 1) 0).toNat = (lastPos + 1).toNat := by omega
  unfold x509v3GetExtByCritical
  rw [first]
  rcases extByCriticalFrom_bounds exts crit (lastPos + 1).toNat with none | ⟨low, -⟩
  · exact .inl ⟨none, extByCriticalFrom_none none⟩
  · obtain ⟨found, eq⟩ : ∃ found : Nat, extByCriticalFrom exts crit (lastPos + 1).toNat = found :=
      ⟨_, (Int.toNat_of_nonneg (by omega)).symm⟩
    exact .inr ⟨found, eq, extByCriticalFrom_some eq⟩

theorem countExtensions_eq (exts : List ExtensionEntry) (critical lastPos : Int) (count : Nat) :
    countExtensions exts critical lastPos count =
      count + ((exts.drop (lastPos + 1).toNat).filter (criticalMatches critical)).length := by
  induction lastPos, count using countExtensions.induct exts critical with
  | case1 lastPos count none =>
      rw [countExtensions, dif_pos none]
      rcases x509v3GetExtByCritical_filter exts critical lastPos with ⟨-, empty⟩ | ⟨found, eq, -⟩
      · simp [empty]
      · omega
  | case2 lastPos count some ih =>
      rw [countExtensions, dif_neg some, ih]
      rcases x509v3GetExtByCritical_filter exts critical lastPos with ⟨none, -⟩ | ⟨found, eq, bound, split⟩
      · exact absurd none some
      · have next : ((found : Int) + 1).toNat = found + 1 := by omega
        rw [eq, split, List.length_cons, next]
        omega

private theorem found_getElem {exts : List ExtensionEntry} {critical lastPos : Int} {found : Nat}
    (eq : x509v3GetExtByCritical exts critical lastPos = found) (h₁ : found < exts.length)
    (h₂ : (x509v3GetExtByCritical exts critical lastPos).toNat < exts.length) :
    exts[(x509v3GetExtByCritical exts critical lastPos).toNat] = exts[found] := by
  simp only [eq, Int.toNat_ofNat]

/-- A search that finds an extension splits the rest of the stack at it. -/
theorem x509v3GetExtByCritical_found {exts : List ExtensionEntry} {crit lastPos : Int}
    (some : x509v3GetExtByCritical exts crit lastPos ≠ -1) :
    ∃ found : Nat, x509v3GetExtByCritical exts crit lastPos = found ∧ ∃ h : found < exts.length,
      (exts.drop (lastPos + 1).toNat).filter (criticalMatches crit) =
        exts[found] :: (exts.drop (found + 1)).filter (criticalMatches crit) := by
  rcases x509v3GetExtByCritical_filter exts crit lastPos with ⟨none, -⟩ | found
  · exact absurd none some
  · exact found

theorem fillExtensionOids_eq (exts : List ExtensionEntry) (critical lastPos : Int) :
    fillExtensionOids exts critical lastPos =
      oidStrings ((exts.drop (lastPos + 1).toNat).filter (criticalMatches critical)) := by
  induction lastPos using fillExtensionOids.induct exts critical with
  | case1 lastPos none =>
      rw [fillExtensionOids, dif_pos none]
      rcases x509v3GetExtByCritical_filter exts critical lastPos with ⟨-, empty⟩ | ⟨found, eq, -⟩
      · rw [empty]; rfl
      · omega
  | case2 lastPos some bounds exception failed =>
      obtain ⟨found, eq, bound, split⟩ := x509v3GetExtByCritical_found some
      rw [found_getElem eq bound] at failed
      rw [fillExtensionOids, dif_neg some]
      dsimp only
      rw [found_getElem eq bound, split, oidStrings, failed]
  | case3 lastPos some bounds failed =>
      obtain ⟨found, eq, bound, split⟩ := x509v3GetExtByCritical_found some
      rw [found_getElem eq bound] at failed
      rw [fillExtensionOids, dif_neg some]
      dsimp only
      rw [found_getElem eq bound, split, oidStrings, failed]
  | case4 lastPos some bounds extOid converted ih =>
      obtain ⟨found, eq, bound, split⟩ := x509v3GetExtByCritical_found some
      have next : ((found : Int) + 1).toNat = found + 1 := by omega
      rw [found_getElem eq bound] at converted
      rw [eq, next] at ih
      rw [fillExtensionOids, dif_neg some]
      dsimp only
      rw [found_getElem eq bound, split, oidStrings, converted]
      simp only [eq, ih]

theorem oidStrings_length {exts : List ExtensionEntry} {extOids : List JavaObject}
    (converted : oidStrings exts = .ok (some extOids)) : extOids.length = exts.length := by
  induction exts generalizing extOids with
  | nil => cases converted; rfl
  | cons ext exts ih =>
      simp only [oidStrings] at converted
      split at converted
      · cases converted
      · cases converted
      · rcases rest : oidStrings exts with _ | _ | tail <;> simp [rest, Except.map] at converted
        simp [← converted, ih rest]

/-- The writes at `count++` fill an array sized for them, from its first slot on. -/
theorem setObjectArrayElements_replicate (objects : List JavaObject) :
    setObjectArrayElements (List.replicate objects.length none) objects = objects.map some := by
  have fill : ∀ (pre : List (Option JavaObject)) (objects : List JavaObject),
      (objects.enumFrom pre.length).foldl (fun array (index, object) => array.set index (some object))
        (pre ++ List.replicate objects.length none) = pre ++ objects.map some := by
    intro pre objects
    induction objects generalizing pre with
    | nil => simp
    | cons object objects ih =>
        have := ih (pre ++ [some object])
        simp only [List.length_append, List.length_singleton, List.append_assoc, List.singleton_append] at this
        simp [List.enumFrom_cons, List.replicate_succ, this]
  simpa using fill [] objects

/-- `get_X509Type_ext_oids` returns an array with one slot for each extension whose
criticality is the one asked for, in the order of the stack, holding its OID
string; the first conversion that fails decides the call instead. -/
theorem ext_oids_match_criticality (exts : List ExtensionEntry) (critical : Int) :
    getX509TypeExtOids (some exts) critical =
      (oidStrings (exts.filter (criticalMatches critical))).map (Option.map (List.map some)) := by
  have counted := countExtensions_eq exts critical (-1) 0
  have filled := fillExtensionOids_eq exts critical (-1)
  simp only [show ((-1 : Int) + 1).toNat = 0 from rfl, List.drop_zero, Nat.zero_add] at counted filled
  simp only [getX509TypeExtOids, counted, filled]
  cases converted : oidStrings (exts.filter (criticalMatches critical)) with
  | error exception => rfl
  | ok result =>
      rcases result with _ | extOids
      · rfl
      · simp only [Except.map, Option.map_some', ← oidStrings_length converted, setObjectArrayElements_replicate]

end Conscrypt.X509

/-!
## Extended key usage
-/

/-! `NativeCrypto_get_X509_ex_xkusage` converts each key purpose of the extended
key usage extension with the same `ASN1_OBJECT_to_OID_string` but stores its
result without looking at it: a failed conversion leaves its slot null and the
loop goes on with the exception pending. -/

namespace Conscrypt.X509

/-- The exception a conversion raised, if any. -/
def raisedBy : Except JavaException (Option JavaObject) → Option JavaException
  | .error exception => some exception
  | .ok _ => none

/-- The string a conversion returned, null when it failed. -/
def returnedBy : Except JavaException (Option JavaObject) → Option JavaObject
  | .error _ => none
  | .ok oidStr => oidStr

/-- `NativeCrypto_get_X509_ex_xkusage`, with whether the reference is non-null and
the key purposes `X509_get_ext_d2i` decodes (none when the certificate has no such
extension): the exceptions raised, in order, and the array returned. -/
def getX509ExXkusage (x509 : Bool) (objArray : Option (List Asn1Object)) :
    List JavaException × Option (List (Option JavaObject)) :=
  if !x509 then ([.nullPointer "x509 == null"], none)
  else
    match objArray with
    | none => ([], none)
    | some objects =>
        let (raised, exKeyUsage) := objects.enum.foldl
          (fun (raised, array) (i, obj) =>
            (raised ++ (raisedBy obj.oidString).toList, array.set i (returnedBy obj.oidString)))
          ([], List.replicate objects.length none)
        (raised, some exKeyUsage)

end Conscrypt.X509
