import Mathlib.Algebra.Order.BigOperators.Group.List
import Mathlib.Algebra.Order.Ring.Nat
import Conscrypt.Engine.Errors

/-!
# The cipher-list string

`NativeCrypto_SSL_set_cipher_lists` builds `"!SSLv2:s_1:...:s_k"` for the engine
in two passes over the Java array: the first adds up the length in `size_t`,
testing each addition for a wrap, and the second writes into a heap buffer of
that length. When the total fits in `size_t`, the first pass takes no overflow
branch, the second writes exactly the buffer's bytes, in order, and the final
consistency test passes; when it does not, the call raises before it allocates.
With a 64-bit `size_t` every array a Java caller can pass fits; with the 32-bit
`size_t` of the 32-bit ABIs the library is also built for, an array repeating
one suite often enough does not.
-/

set_option autoImplicit false

/-!
## The two passes
-/

/-! Lengths are `size_t`, which wraps modulo `2 ^ 32` or `2 ^ 64` by the ABI. A
cipher suite is the modified UTF-8 that `ScopedUtfChars` reads, and a write into
the buffer is its index and byte. -/

namespace Conscrypt.Ssl

/-- The width of `size_t` on the ABIs the library is built for. -/
inductive SizeT where
  | bits32
  | bits64
  deriving DecidableEq, Repr

/-- `size_t` arithmetic is modulo this. -/
def SizeT.modulus : SizeT → Nat
  | .bits32 => 2 ^ 32
  | .bits64 => 2 ^ 64

/-- `noSSLv2`, `"!SSLv2"`. -/
def noSSLv2 : List UInt8 := [33, 83, 83, 76, 118, 50]

/-- The separating `':'`. -/
def colon : UInt8 := 58

/-- `memcpy(&buffer[dest], src, size)`: the bytes of `src` written from `dest` on. -/
def memcpy (dest : Nat) (src : List UInt8) : List (Nat × UInt8) :=
  (List.range' dest src.length).zip src

/-- `"Overflow in cipher suite strings"`. -/
def cipherOverflow : JavaException :=
  .illegalArgument "Overflow in cipher suite strings"

/-- The first loop: for each suite, test and add 1 for its colon, then test and add
its `c.size()`. -/
def measureCipherSuites (sizeT : SizeT) (cipherStringLen : Nat) : List (List UInt8) → Except JavaException Nat
  | [] => .ok cipherStringLen
  | c :: rest =>
      if (cipherStringLen + 1) % sizeT.modulus < cipherStringLen then .error cipherOverflow
      else
        let cipherStringLen := (cipherStringLen + 1) % sizeT.modulus
        if (cipherStringLen + c.length) % sizeT.modulus < cipherStringLen then .error cipherOverflow
        else measureCipherSuites sizeT ((cipherStringLen + c.length) % sizeT.modulus) rest

/-- The second loop from index `j`: `cipherString[j++] = ':'`, then `memcpy` of the
suite and `j += c.size()`. The final `j` and the writes, in order. -/
def writeCipherSuites (j : Nat) : List (List UInt8) → Nat × List (Nat × UInt8)
  | [] => (j, [])
  | c :: rest =>
      let (j', writes) := writeCipherSuites (j + 1 + c.length) rest
      (j', (j, colon) :: memcpy (j + 1) c ++ writes)

/-- From the measurement to `cipherString[j++] = 0`: the buffer length, the final
`j`, and every write into the buffer, or the exception of an overflow branch. -/
def buildCipherString (sizeT : SizeT) (cipherSuites : List (List UInt8)) :
    Except JavaException (Nat × Nat × List (Nat × UInt8)) :=
  match measureCipherSuites sizeT noSSLv2.length cipherSuites with
  | .error exception => .error exception
  | .ok cipherStringLen =>
      if (cipherStringLen + 1) % sizeT.modulus < cipherStringLen then .error cipherOverflow
      else
        let cipherStringLen := (cipherStringLen + 1) % sizeT.modulus
        let (j, writes) := writeCipherSuites noSSLv2.length cipherSuites
        .ok (cipherStringLen, j + 1, memcpy 0 noSSLv2 ++ writes ++ [(j, 0)])

/-- The heap buffer of `length` bytes after `writes`, made in order; none for a byte
never written. -/
def bufferContents (length : Nat) (writes : List (Nat × UInt8)) : List (Option UInt8) :=
  writes.foldl (fun buffer write => buffer.set write.1 (some write.2)) (List.replicate length none)

/-- What the engine does: whether `SSL_set_cipher_list` accepts a string, and how
many ciphers `SSL_get_ciphers` lists after `SSL_set_cipher_list(ssl, "")`. -/
structure CipherEngine where
  accepts : List (Option UInt8) → Bool
  ciphersAfterEmpty : Nat

/-- What `NativeCrypto_SSL_set_cipher_lists` leaves behind: the buffer it hands to
`SSL_set_cipher_list`, if it gets that far, and the exception pending. -/
structure CipherListCall where
  handed : Option (List (Option UInt8))
  exception : Option JavaException
  deriving DecidableEq, Repr

/-- `NativeCrypto_SSL_set_cipher_lists`, for a non-null or null `SSL*` and array.
`new char[cipherStringLen]` is taken to succeed. -/
def setCipherLists (engine : CipherEngine) (sizeT : SizeT) (ssl : Bool) (cipherSuites : Option (List (List UInt8))) :
    CipherListCall :=
  if !ssl then ⟨none, some (.nullPointer "ssl == null")⟩
  else
    match cipherSuites with
    | none => ⟨none, some (.nullPointer "cipherSuites == null")⟩
    | some [] =>
        ⟨some [some 0], if engine.ciphersAfterEmpty ≠ 0 then
          some (.runtime "SSL_set_cipher_list did not update ciphers!") else none⟩
    | some cipherSuites =>
        match buildCipherString sizeT cipherSuites with
        | .error exception => ⟨none, some exception⟩
        | .ok (cipherStringLen, j, writes) =>
            if j ≠ cipherStringLen then ⟨none, some (.illegalArgument "Internal error")⟩
            else
              let cipherString := bufferContents cipherStringLen writes
              ⟨some cipherString, if engine.accepts cipherString then none
                else some (.illegalArgument "Illegal cipher suite strings.")⟩

end Conscrypt.Ssl

/-!
## What the passes compute
-/

/-! Without a wrap the first pass adds `1 + |c|` for every suite, and the second
pass is one `memcpy` of the colon-separated suites. Writes made in order from a
buffer's start fill it with their bytes. -/

namespace Conscrypt.Ssl

/-- The string the buffer is meant to hold: `"!SSLv2"`, then `':'` and each suite,
then a NUL. -/
def expectedCipherString (suites : List (List UInt8)) : List UInt8 :=
  noSSLv2 ++ (suites.map (colon :: ·)).flatten ++ [0]

theorem memcpy_cons (dest : Nat) (byte : UInt8) (rest : List UInt8) :
    memcpy dest (byte :: rest) = (dest, byte) :: memcpy (dest + 1) rest := by
  simp [memcpy, List.range'_succ]

theorem memcpy_append (dest : Nat) (front back : List UInt8) :
    memcpy dest (front ++ back) = memcpy dest front ++ memcpy (dest + front.length) back := by
  unfold memcpy
  rw [List.length_append, Nat.add_comm front.length back.length, ← List.range'_append_1]
  exact List.zip_append (by simp)

theorem flatten_length (suites : List (List UInt8)) :
    ((suites.map (colon :: ·)).flatten).length = (suites.map fun c => 1 + c.length).sum := by
  induction suites with
  | nil => rfl
  | cons c rest ih =>
      simp only [List.map_cons, List.flatten_cons, List.length_append, List.length_cons, List.sum_cons, ih]
      omega

theorem expectedCipherString_length (suites : List (List UInt8)) :
    (expectedCipherString suites).length = 6 + (suites.map fun c => 1 + c.length).sum + 1 := by
  simp only [expectedCipherString, List.length_append, flatten_length, List.length_singleton]
  rfl

theorem SizeT.seven_lt_modulus (sizeT : SizeT) : 7 < sizeT.modulus := by
  cases sizeT <;> decide

theorem measureCipherSuites_eq (sizeT : SizeT) : ∀ (suites : List (List UInt8)) (start : Nat),
    start + (suites.map fun c => 1 + c.length).sum < sizeT.modulus →
    measureCipherSuites sizeT start suites = .ok (start + (suites.map fun c => 1 + c.length).sum)
  | [], start, _ => by simp [measureCipherSuites]
  | c :: rest, start, fits => by
      simp only [List.map_cons, List.sum_cons] at fits
      have colonFits : (start + 1) % sizeT.modulus = start + 1 := Nat.mod_eq_of_lt (by omega)
      have suiteFits : (start + 1 + c.length) % sizeT.modulus = start + 1 + c.length :=
        Nat.mod_eq_of_lt (by omega)
      simp only [measureCipherSuites, colonFits, suiteFits, show ¬ start + 1 < start by omega,
        show ¬ start + 1 + c.length < start + 1 by omega, ↓reduceIte, List.map_cons, List.sum_cons]
      rw [measureCipherSuites_eq sizeT rest _ (by omega)]
      congr 1
      omega

/-- When the total reaches the modulus, some addition of the first pass wraps and is
caught, provided each suite's own size fits in `size_t`. -/
theorem measureCipherSuites_overflow (sizeT : SizeT) : ∀ (suites : List (List UInt8)) (start : Nat),
    0 < start → start < sizeT.modulus → (∀ c ∈ suites, c.length < sizeT.modulus) →
    sizeT.modulus ≤ start + (suites.map fun c => 1 + c.length).sum →
    measureCipherSuites sizeT start suites = .error cipherOverflow
  | [], start, _, fits, _, over => by simp at over; omega
  | c :: rest, start, positive, fits, addressable, over => by
      have small := addressable c (List.mem_cons_self c rest)
      simp only [List.map_cons, List.sum_cons] at over
      by_cases colonWraps : start + 1 = sizeT.modulus
      · have wrapped : (start + 1) % sizeT.modulus < start := by rw [colonWraps, Nat.mod_self]; exact positive
        simp only [measureCipherSuites, wrapped, ↓reduceIte]
      · have colonFits : (start + 1) % sizeT.modulus = start + 1 := Nat.mod_eq_of_lt (by omega)
        by_cases suiteWraps : sizeT.modulus ≤ start + 1 + c.length
        · have wrapped : (start + 1 + c.length) % sizeT.modulus = start + 1 + c.length - sizeT.modulus := by
            rw [Nat.mod_eq_sub_mod suiteWraps, Nat.mod_eq_of_lt (by omega)]
          simp only [measureCipherSuites, colonFits, wrapped, show ¬ start + 1 < start by omega,
            show start + 1 + c.length - sizeT.modulus < start + 1 by omega, ↓reduceIte]
        · have suiteFits : (start + 1 + c.length) % sizeT.modulus = start + 1 + c.length :=
            Nat.mod_eq_of_lt (by omega)
          simp only [measureCipherSuites, colonFits, suiteFits, show ¬ start + 1 < start by omega,
            show ¬ start + 1 + c.length < start + 1 by omega, ↓reduceIte]
          exact measureCipherSuites_overflow sizeT rest _ (by omega) (by omega)
            (fun other mem => addressable other (List.mem_cons_of_mem c mem)) (by omega)

theorem writeCipherSuites_eq : ∀ (suites : List (List UInt8)) (j : Nat),
    writeCipherSuites j suites =
      (j + ((suites.map (colon :: ·)).flatten).length, memcpy j (suites.map (colon :: ·)).flatten)
  | [], j => by simp [writeCipherSuites, memcpy]
  | c :: rest, j => by
      simp only [writeCipherSuites, writeCipherSuites_eq rest, List.map_cons, List.flatten_cons,
        List.cons_append, memcpy_cons, memcpy_append]
      refine Prod.ext ?_ rfl
      simp only [List.length_append, List.length_cons]
      omega

/-- Writes made in order from the end of a written front fill the next cells. -/
theorem memcpy_fills : ∀ (bytes : List UInt8) (front : List (Option UInt8)) (room : Nat),
    bytes.length ≤ room →
    (memcpy front.length bytes).foldl (fun buffer write => buffer.set write.1 (some write.2))
        (front ++ List.replicate room none) =
      front ++ bytes.map some ++ List.replicate (room - bytes.length) none
  | [], front, room, _ => by simp [memcpy]
  | byte :: rest, front, room, fits => by
      obtain ⟨room, rfl⟩ : ∃ left, room = left + 1 := ⟨room - 1, by simp at fits; omega⟩
      have written : (front ++ List.replicate (room + 1) none).set front.length (some byte) =
          (front ++ [some byte]) ++ List.replicate room none := by
        simp [List.set_append_right, List.replicate_succ]
      simp only [memcpy, List.length_cons, List.range'_succ, List.zip_cons_cons, List.foldl_cons]
      rw [written]
      have rest := memcpy_fills rest (front ++ [some byte]) room (by simpa using fits)
      simp only [memcpy, List.length_append, List.length_singleton] at rest
      rw [rest]
      simp

theorem bufferContents_memcpy (bytes : List UInt8) :
    bufferContents bytes.length (memcpy 0 bytes) = bytes.map some := by
  simpa using memcpy_fills bytes [] bytes.length le_rfl

/-- Without a wrap, the buffer is as long as the expected string, the second pass
ends on its last byte, and the writes are its bytes, in order, from index 0. -/
theorem buildCipherString_eq {sizeT : SizeT} {suites : List (List UInt8)}
    (fits : (expectedCipherString suites).length < sizeT.modulus) :
    buildCipherString sizeT suites =
      .ok ((expectedCipherString suites).length, (expectedCipherString suites).length,
        memcpy 0 (expectedCipherString suites)) := by
  rw [expectedCipherString_length] at fits ⊢
  have six : noSSLv2.length = 6 := rfl
  have measured := measureCipherSuites_eq sizeT suites noSSLv2.length (by rw [six]; omega)
  have nulFits : (noSSLv2.length + (suites.map fun c => 1 + c.length).sum + 1) % sizeT.modulus =
      noSSLv2.length + (suites.map fun c => 1 + c.length).sum + 1 := Nat.mod_eq_of_lt (by rw [six]; omega)
  simp only [buildCipherString, measured, nulFits, Nat.lt_irrefl, ↓reduceIte, writeCipherSuites_eq,
    flatten_length, show ¬ noSSLv2.length + (suites.map fun c => 1 + c.length).sum + 1 <
      noSSLv2.length + (suites.map fun c => 1 + c.length).sum by omega]
  simp only [expectedCipherString, memcpy_append, flatten_length, List.length_append]
  simp [noSSLv2, memcpy]

/-- The string for one suite repeated `k` times. -/
theorem expectedCipherString_replicate_length (k : Nat) (c : List UInt8) :
    (expectedCipherString (List.replicate k c)).length = 6 + k * (1 + c.length) + 1 := by
  rw [expectedCipherString_length, List.map_replicate, List.sum_replicate]
  rfl

/-- A total that does not fit in `size_t` ends the call in an overflow branch: in the
first pass, or at the final `+ 1` when the first pass ends one short of the modulus. -/
theorem buildCipherString_overflow {sizeT : SizeT} {suites : List (List UInt8)}
    (addressable : ∀ c ∈ suites, c.length < sizeT.modulus)
    (over : sizeT.modulus ≤ (expectedCipherString suites).length) :
    buildCipherString sizeT suites = .error cipherOverflow := by
  rw [expectedCipherString_length] at over
  have six : noSSLv2.length = 6 := rfl
  have wide := sizeT.seven_lt_modulus
  by_cases measureWraps : sizeT.modulus ≤ 6 + (suites.map fun c => 1 + c.length).sum
  · simp only [buildCipherString, measureCipherSuites_overflow sizeT suites noSSLv2.length (by rw [six]; omega)
      (by rw [six]; omega) addressable (by rw [six]; omega)]
  · have measured := measureCipherSuites_eq sizeT suites noSSLv2.length (by rw [six]; omega)
    have nulWraps : (noSSLv2.length + (suites.map fun c => 1 + c.length).sum + 1) % sizeT.modulus <
        noSSLv2.length + (suites.map fun c => 1 + c.length).sum := by
      rw [six, show 6 + (suites.map fun c => 1 + c.length).sum + 1 = sizeT.modulus by omega, Nat.mod_self]
      omega
    simp only [buildCipherString, measured, nulWraps, ↓reduceIte]

theorem setCipherLists_of_fits (engine : CipherEngine) {sizeT : SizeT} {suites : List (List UInt8)}
    (nonEmpty : suites ≠ []) (fits : (expectedCipherString suites).length < sizeT.modulus) :
    setCipherLists engine sizeT true (some suites) =
      ⟨some ((expectedCipherString suites).map some),
        if engine.accepts ((expectedCipherString suites).map some) then none
        else some (.illegalArgument "Illegal cipher suite strings.")⟩ := by
  obtain ⟨first, rest, rfl⟩ := List.exists_cons_of_ne_nil nonEmpty
  simp only [setCipherLists, Bool.not_true, Bool.false_eq_true, ↓reduceIte, buildCipherString_eq fits,
    ne_eq, not_true_eq_false, bufferContents_memcpy]

theorem setCipherLists_of_overflow (engine : CipherEngine) {sizeT : SizeT} {suites : List (List UInt8)}
    (nonEmpty : suites ≠ []) (addressable : ∀ c ∈ suites, c.length < sizeT.modulus)
    (over : sizeT.modulus ≤ (expectedCipherString suites).length) :
    setCipherLists engine sizeT true (some suites) = ⟨none, some cipherOverflow⟩ := by
  obtain ⟨first, rest, rfl⟩ := List.exists_cons_of_ne_nil nonEmpty
  simp only [setCipherLists, Bool.not_true, Bool.false_eq_true, ↓reduceIte, buildCipherString_overflow addressable over]

end Conscrypt.Ssl

/-!
## Arrays a Java caller can pass
-/

/-! A Java array has fewer than `2 ^ 31` elements and a Java string fewer than
`2 ^ 31` UTF-16 units, each at most three bytes of modified UTF-8; so with a 64-bit
`size_t` the total stays far below the modulus. A 32-bit `size_t` is reached by an
array holding one string many times. -/

namespace Conscrypt.Ssl

/-- The cipher suites of a `String[]` a Java caller can pass. -/
structure JavaCipherSuites where
  suites : List (List UInt8)
  fewSuites : suites.length < 2 ^ 31
  shortSuites : ∀ c ∈ suites, c.length ≤ 3 * (2 ^ 31 - 1)

theorem JavaCipherSuites.fits (array : JavaCipherSuites) :
    (expectedCipherString array.suites).length < SizeT.bits64.modulus := by
  have each : ∀ size ∈ array.suites.map (fun c => 1 + c.length), size ≤ 1 + 3 * (2 ^ 31 - 1) := by
    simp only [List.mem_map]
    rintro size ⟨c, mem, rfl⟩
    have := array.shortSuites c mem
    omega
  have total := List.sum_le_card_nsmul _ _ each
  rw [List.length_map] at total
  change _ ≤ array.suites.length * (1 + 3 * (2 ^ 31 - 1)) at total
  have bounded : array.suites.length * (1 + 3 * (2 ^ 31 - 1)) ≤ (2 ^ 31 - 1) * (1 + 3 * (2 ^ 31 - 1)) :=
    Nat.mul_le_mul_right _ (by have := array.fewSuites; omega)
  rw [expectedCipherString_length, SizeT.modulus]
  calc 6 + (array.suites.map fun c => 1 + c.length).sum + 1
      ≤ 7 + (2 ^ 31 - 1) * (1 + 3 * (2 ^ 31 - 1)) := by omega
    _ < 2 ^ 64 := by decide

/-- When the total `6 + Σ (1 + |s_i|) + 1` fits in `size_t`, the first pass measures
`6 + Σ (1 + |s_i|)` and the final test adds 1 without an overflow branch; the
second pass ends with `j` equal to the buffer's length, so `"Internal error"` is
never raised; every write is inside the buffer, and the buffer handed to
`SSL_set_cipher_list` is exactly `"!SSLv2"`, `":" ++ s_i` for each suite, and a
NUL. When the total does not fit, the call raises `"Overflow in cipher suite
strings"` and hands nothing to the engine. With a 64-bit `size_t` the total of
every array a Java caller can pass fits. -/
theorem cipher_string_matches_both_passes (engine : CipherEngine) (sizeT : SizeT) (array : JavaCipherSuites)
    (nonEmpty : array.suites ≠ []) (addressable : ∀ c ∈ array.suites, c.length < sizeT.modulus) :
    ((expectedCipherString array.suites).length < sizeT.modulus →
      measureCipherSuites sizeT noSSLv2.length array.suites =
          .ok (6 + (array.suites.map fun c => 1 + c.length).sum) ∧
        buildCipherString sizeT array.suites =
          .ok (6 + (array.suites.map fun c => 1 + c.length).sum + 1,
            6 + (array.suites.map fun c => 1 + c.length).sum + 1, memcpy 0 (expectedCipherString array.suites)) ∧
        (∀ write ∈ memcpy 0 (expectedCipherString array.suites),
          write.1 < 6 + (array.suites.map fun c => 1 + c.length).sum + 1) ∧
        setCipherLists engine sizeT true (some array.suites) =
          ⟨some ((expectedCipherString array.suites).map some),
            if engine.accepts ((expectedCipherString array.suites).map some) then none
            else some (.illegalArgument "Illegal cipher suite strings.")⟩) ∧
      (sizeT.modulus ≤ (expectedCipherString array.suites).length →
        setCipherLists engine sizeT true (some array.suites) = ⟨none, some cipherOverflow⟩) ∧
      (sizeT = .bits64 → (expectedCipherString array.suites).length < sizeT.modulus) := by
  refine ⟨fun fits => ?_, setCipherLists_of_overflow engine nonEmpty addressable,
    fun sixtyFour => sixtyFour ▸ array.fits⟩
  have built := buildCipherString_eq fits
  rw [expectedCipherString_length] at fits built
  refine ⟨measureCipherSuites_eq _ _ _ (by rw [show noSSLv2.length = 6 from rfl]; omega), built,
    fun write mem => ?_, setCipherLists_of_fits engine nonEmpty (by rwa [expectedCipherString_length])⟩
  have := List.of_mem_zip mem
  simp only [List.mem_range', expectedCipherString_length] at this
  omega

/-- Three suites, `"A"`, `"BC"` and `"D"`. -/
def threeSuites : JavaCipherSuites :=
  ⟨[[65], [66, 67], [68]], by decide, by decide⟩

/-- An engine that accepts every cipher string. -/
def acceptingEngine : CipherEngine :=
  ⟨fun _ => true, 0⟩

theorem cipher_string_matches_both_passes_three_suites :
    threeSuites.suites ≠ [] ∧ (∀ c ∈ threeSuites.suites, c.length < SizeT.bits32.modulus) ∧
      (expectedCipherString threeSuites.suites).length < SizeT.bits32.modulus ∧
      setCipherLists acceptingEngine .bits32 true (some threeSuites.suites) =
        ⟨some ((noSSLv2 ++ [colon, 65, colon, 66, 67, colon, 68, 0]).map some), none⟩ :=
  have nonEmpty : threeSuites.suites ≠ [] := by decide
  have addressable : ∀ c ∈ threeSuites.suites, c.length < SizeT.bits32.modulus := by decide
  have fits : (expectedCipherString threeSuites.suites).length < SizeT.bits32.modulus := by decide
  ⟨nonEmpty, addressable, fits,
    ((cipher_string_matches_both_passes acceptingEngine .bits32 threeSuites nonEmpty addressable).1 fits).2.2.2.trans
      rfl⟩

/-- One suite of `2 ^ 24` bytes, 256 times: the array holds one string 256 times, a
few megabytes of Java heap. -/
def repeatedSuite : JavaCipherSuites :=
  ⟨List.replicate 256 (List.replicate (2 ^ 24) 65), by rw [List.length_replicate]; decide,
    fun c mem => by rw [List.eq_of_mem_replicate mem, List.length_replicate]; decide⟩

/-- With a 32-bit `size_t`, an array a Java caller can pass takes the overflow branch
of the first pass. -/
theorem cipher_list_overflows_on_32_bit :
    repeatedSuite.suites ≠ [] ∧ (∀ c ∈ repeatedSuite.suites, c.length < SizeT.bits32.modulus) ∧
      setCipherLists acceptingEngine .bits32 true (some repeatedSuite.suites) = ⟨none, some cipherOverflow⟩ := by
  have nonEmpty : repeatedSuite.suites ≠ [] := List.cons_ne_nil _ _
  have addressable : ∀ c ∈ repeatedSuite.suites, c.length < SizeT.bits32.modulus := fun c mem => by
    rw [List.eq_of_mem_replicate mem, List.length_replicate]; decide
  have over : SizeT.bits32.modulus ≤ (expectedCipherString repeatedSuite.suites).length := by
    rw [repeatedSuite, expectedCipherString_replicate_length, List.length_replicate]
    decide
  exact ⟨nonEmpty, addressable, setCipherLists_of_overflow acceptingEngine nonEmpty addressable over⟩

end Conscrypt.Ssl
