import Mathlib.Data.List.Basic
import Conscrypt.Engine.Errors

/-!
# Ciphers and digests by name

`NativeCrypto_EVP_get_cipherbyname` and `NativeCrypto_EVP_get_digestbyname` map a
Java name to an engine object with a chain of `strcasecmp(alg, name) == 0` tests
over a fixed list of lower-case names. Both accept a name exactly when its ASCII
lower case is one of theirs. They differ on the names they do not know and on
null: the digest lookup raises `RuntimeException` for an unknown name and
`NullPointerException` for null, while the cipher lookup returns 0 without an
exception for an unknown name and does not check for null, so a null name reaches
`strcasecmp` as a null pointer.
-/

set_option autoImplicit false

/-!
## The lookups
-/

/-! A Java string reaches C through `ScopedUtfChars` as modified UTF-8, which has
no zero byte; a C string is its bytes before the terminating NUL. -/

namespace Conscrypt

/-- A C string: the bytes before its terminating NUL. -/
structure CString where
  bytes : List UInt8
  no_nul : 0 ∉ bytes

/-- `tolower` in the C locale. -/
def tolower (c : UInt8) : UInt8 :=
  if 65 ≤ c.toNat ∧ c.toNat ≤ 90 then UInt8.ofNat (c.toNat + 32) else c

/-- `strcasecmp` on the bytes of two C strings, the end of a list standing for its
NUL: the difference of the first bytes that differ after `tolower`. -/
def strcasecmp : List UInt8 → List UInt8 → Int
  | [], [] => 0
  | [], b :: _ => -((tolower b).toNat : Int)
  | a :: _, [] => (tolower a).toNat
  | a :: as, b :: bs =>
      if tolower a = tolower b then strcasecmp as bs else (tolower a).toNat - (tolower b).toNat

/-- The bytes of a name written in ASCII in the source. -/
def asciiBytes (s : String) : List UInt8 :=
  s.toList.map fun c => c.toNat.toUInt8

/-- The chain of `if (strcasecmp(alg, name) == 0)` tests: the entry of the first name
that matches. -/
def lookupByName {α : Type} (alg : CString) : List (String × α) → Option α
  | [] => none
  | (name, value) :: table => if strcasecmp alg.bytes (asciiBytes name) = 0 then some value
      else lookupByName alg table

/-- The names `NativeCrypto_EVP_get_cipherbyname` tries, in order, with the engine
function each selects. -/
def cipherByName : List (String × String) :=
  [("rc4", "EVP_rc4"), ("des-cbc", "EVP_des_cbc"), ("des-ede-cbc", "EVP_des_ede_cbc"),
    ("des-ede3-cbc", "EVP_des_ede3_cbc"), ("aes-128-ecb", "EVP_aes_128_ecb"),
    ("aes-128-cbc", "EVP_aes_128_cbc"), ("aes-128-ctr", "EVP_aes_128_ctr"),
    ("aes-128-gcm", "EVP_aes_128_gcm"), ("aes-192-ecb", "EVP_aes_192_ecb"),
    ("aes-192-cbc", "EVP_aes_192_cbc"), ("aes-192-ctr", "EVP_aes_192_ctr"),
    ("aes-192-gcm", "EVP_aes_192_gcm"), ("aes-256-ecb", "EVP_aes_256_ecb"),
    ("aes-256-cbc", "EVP_aes_256_cbc"), ("aes-256-ctr", "EVP_aes_256_ctr"),
    ("aes-256-gcm", "EVP_aes_256_gcm")]

/-- The names `NativeCrypto_EVP_get_digestbyname` tries, in order. -/
def digestByName : List (String × String) :=
  [("md4", "EVP_md4"), ("md5", "EVP_md5"), ("sha1", "EVP_sha1"), ("sha224", "EVP_sha224"),
    ("sha256", "EVP_sha256"), ("sha384", "EVP_sha384"), ("sha512", "EVP_sha512")]

/-- What a lookup gives Java: the engine object, or a plain return value with the
exception left pending, or a null pointer handed to `strcasecmp`. -/
inductive ByNameOutcome where
  | found (engine : String)
  | returned (ret : Int) (exception : Option JavaException)
  | nullDereference
  deriving DecidableEq, Repr

/-- `NativeCrypto_EVP_get_cipherbyname`, none for a null `algorithm`. `ScopedUtfChars`
raises for null and gives a null `c_str()`, which the function passes on. -/
def evpGetCipherbyname (algorithm : Option CString) : ByNameOutcome :=
  match algorithm with
  | none => .nullDereference
  | some alg =>
      match lookupByName alg cipherByName with
      | some cipher => .found cipher
      | none => .returned 0 none

/-- `NativeCrypto_EVP_get_digestbyname`; the `NullPointerException` it raises for null
has no message, written `""`. -/
def evpGetDigestbyname (algorithm : Option CString) : ByNameOutcome :=
  match algorithm with
  | none => .returned (-1) (some (.nullPointer ""))
  | some alg =>
      match lookupByName alg digestByName with
      | some md => .found md
      | none => .returned 0 (some (.runtime "Hash algorithm not found"))

end Conscrypt

/-!
## Matching ignores case
-/

/-! `strcasecmp` returns 0 exactly when the two strings agree after `tolower`, so a
chain over lower-case names finds the entry whose name is the lower case of the
argument. -/

namespace Conscrypt

theorem tolower_toNat_pos {c : UInt8} (nonzero : c ≠ 0) : 0 < (tolower c).toNat := by
  unfold tolower
  split_ifs with upper
  · rw [UInt8.toNat_ofNat_of_lt (show c.toNat + 32 < 256 by omega)]; omega
  · exact Nat.pos_of_ne_zero fun zero => nonzero (UInt8.toNat.inj zero)

theorem toNat_sub_ne_zero {a b : UInt8} (differs : a ≠ b) : (a.toNat : Int) - b.toNat ≠ 0 := by
  have : a.toNat ≠ b.toNat := fun same => differs (UInt8.toNat.inj same)
  omega

theorem strcasecmp_eq_zero_iff {a b : List UInt8} (aNoNul : 0 ∉ a) (bNoNul : 0 ∉ b) :
    strcasecmp a b = 0 ↔ a.map tolower = b.map tolower := by
  induction a, b using strcasecmp.induct with
  | case1 => simp [strcasecmp]
  | case2 b _ =>
      have := tolower_toNat_pos (fun zero => bNoNul (zero ▸ List.mem_cons_self _ _))
      simp only [strcasecmp, List.map_nil, List.map_cons, reduceCtorEq, iff_false]
      omega
  | case3 a _ =>
      have := tolower_toNat_pos (fun zero => aNoNul (zero ▸ List.mem_cons_self _ _))
      simp only [strcasecmp, List.map_nil, List.map_cons, reduceCtorEq, iff_false]
      omega
  | case4 a as b bs same ih =>
      simp only [strcasecmp, same, ↓reduceIte, List.map_cons, List.cons.injEq, true_and]
      exact ih (fun within => aNoNul (List.mem_cons_of_mem _ within))
        (fun within => bNoNul (List.mem_cons_of_mem _ within))
  | case5 a as b bs differs =>
      simp only [strcasecmp, differs, ↓reduceIte, List.map_cons, List.cons.injEq, false_and, iff_false]
      exact toNat_sub_ne_zero differs

/-- The names of a table are lower-case ASCII without NUL. -/
def LowerNames {α : Type} (table : List (String × α)) : Prop :=
  ∀ entry ∈ table, 0 ∉ asciiBytes entry.1 ∧ (asciiBytes entry.1).map tolower = asciiBytes entry.1

instance {α : Type} (table : List (String × α)) : Decidable (LowerNames table) :=
  inferInstanceAs (Decidable (∀ entry ∈ table, _ ∧ _))

theorem lookupByName_eq {α : Type} {table : List (String × α)} (lower : LowerNames table) (alg : CString) :
    lookupByName alg table = (table.find? fun entry => asciiBytes entry.1 == alg.bytes.map tolower).map Prod.snd := by
  induction table with
  | nil => rfl
  | cons entry table ih =>
      obtain ⟨name, value⟩ := entry
      obtain ⟨noNul, lowerCase⟩ := lower _ (List.mem_cons_self _ _)
      have agrees : strcasecmp alg.bytes (asciiBytes name) = 0 ↔ asciiBytes name = alg.bytes.map tolower := by
        rw [strcasecmp_eq_zero_iff alg.no_nul noNul, lowerCase, eq_comm]
      rw [lookupByName, List.find?_cons]
      by_cases found : asciiBytes name = alg.bytes.map tolower
      · rw [if_pos (agrees.mpr found)]; simp [found]
      · rw [if_neg (mt agrees.mp found), ih fun entry within => lower entry (List.mem_cons_of_mem _ within),
          beq_false_of_ne found]

theorem cipherByName_lowerNames : LowerNames cipherByName := by decide

theorem digestByName_lowerNames : LowerNames digestByName := by decide

/-- Both lookups accept a name exactly when its ASCII lower case is one of their names,
and return that name's engine object. For any other name the digest lookup raises
`RuntimeException` and the cipher lookup returns 0 with no exception; for null the
digest lookup raises `NullPointerException` and returns -1, while the cipher lookup
hands a null pointer to `strcasecmp`. -/
theorem by_name_lookups_ignore_case :
    (∀ alg : CString, evpGetCipherbyname (some alg) =
      match cipherByName.find? (fun entry => asciiBytes entry.1 == alg.bytes.map tolower) with
      | some entry => .found entry.2
      | none => .returned 0 none) ∧
    (∀ alg : CString, evpGetDigestbyname (some alg) =
      match digestByName.find? (fun entry => asciiBytes entry.1 == alg.bytes.map tolower) with
      | some entry => .found entry.2
      | none => .returned 0 (some (.runtime "Hash algorithm not found"))) ∧
    evpGetCipherbyname none = .nullDereference ∧
    evpGetDigestbyname none = .returned (-1) (some (.nullPointer "")) := by
  refine ⟨fun alg => ?_, fun alg => ?_, rfl, rfl⟩
  · rw [evpGetCipherbyname, lookupByName_eq cipherByName_lowerNames]
    cases cipherByName.find? _ <;> rfl
  · rw [evpGetDigestbyname, lookupByName_eq digestByName_lowerNames]
    cases digestByName.find? _ <;> rfl

example : evpGetCipherbyname (some ⟨asciiBytes "AES-128-Gcm", by decide⟩) = .found "EVP_aes_128_gcm" := by
  decide

end Conscrypt
