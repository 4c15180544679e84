import Mathlib.Data.List.Basic
import Conscrypt.Engine.Errors

/-!
# Calendar fields of a GeneralizedTime

`NativeCrypto_ASN1_TIME_to_Calendar` reads the six fields of
`YYYYMMDDHHMMSS` back to front with `get_ASN1_TIME_data`, which writes a NUL at
the end of a field, reads the field with `atoi` and puts the byte back. On a
buffer whose first 14 bytes are digits every field is read exactly and the
buffer ends as it began.
-/

set_option autoImplicit false

/-!
## `atoi`
-/

/-! C's `atoi` on a byte string: blanks, an optional sign, then the longest run of
decimal digits. A run of digits followed by a NUL reads as its decimal value. -/

namespace Conscrypt.X509

/-- `isspace` in the C locale. -/
def isSpace (byte : UInt8) : Bool :=
  byte == 32 || (9 ≤ byte && byte ≤ 13)

/-- `isdigit`. -/
def isDigit (byte : UInt8) : Bool :=
  48 ≤ byte && byte ≤ 57

/-- The decimal value of a run of digits. -/
def decimalValue (digits : List UInt8) : Nat :=
  digits.foldl (fun value digit => 10 * value + (digit.toNat - 48)) 0

example : decimalValue [50, 48, 50, 54] = 2026 := by decide

/-- `atoi`. -/
def atoi (cString : List UInt8) : Int :=
  match cString.dropWhile isSpace with
  | [] => 0
  | first :: rest =>
      if first = 45 then -(decimalValue (rest.takeWhile isDigit))
      else if first = 43 then decimalValue (rest.takeWhile isDigit)
      else decimalValue ((first :: rest).takeWhile isDigit)

/-- A digit is neither a blank nor a sign. -/
theorem isDigit_not_blank {byte : UInt8} (digit : isDigit byte = true) :
    isSpace byte = false ∧ byte ≠ 45 ∧ byte ≠ 43 := by
  simp only [isDigit, Bool.and_eq_true, decide_eq_true_eq] at digit
  have low : 48 ≤ byte.toNat := digit.1
  have value : ∀ code : UInt8, byte = code → 48 ≤ code.toNat := fun code same => same ▸ low
  refine ⟨?_, fun same => absurd (value _ same) (by decide), fun same => absurd (value _ same) (by decide)⟩
  simp only [isSpace, Bool.or_eq_false_iff, beq_eq_false_iff_ne, ne_eq, Bool.and_eq_false_imp,
    decide_eq_true_eq, decide_eq_false_iff_not]
  exact ⟨fun same => absurd (value _ same) (by decide),
    fun _ high => absurd (Nat.le_trans low (show byte.toNat ≤ 13 from high)) (by decide)⟩

/-- A run of digits ended by a NUL reads as its decimal value. -/
theorem atoi_digits {digits : List UInt8} (allDigits : ∀ byte ∈ digits, isDigit byte = true)
    (rest : List UInt8) : atoi (digits ++ 0 :: rest) = decimalValue digits := by
  have taken : (digits ++ 0 :: rest).takeWhile isDigit = digits := by
    rw [List.takeWhile_append_of_pos allDigits]
    simp [isDigit]
  cases digits with
  | nil => simp [atoi, isSpace, isDigit, decimalValue]
  | cons first others =>
      obtain ⟨notSpace, notMinus, notPlus⟩ := isDigit_not_blank (allDigits first (List.mem_cons_self _ _))
      simp only [atoi, List.cons_append, List.dropWhile_cons, notSpace, Bool.false_eq_true, ↓reduceIte,
        notMinus, notPlus]
      rw [← List.cons_append, taken]

end Conscrypt.X509

/-!
## One field
-/

/-! `get_ASN1_TIME_data(&p, &out, len)` with the digits of a field just before `p`:
the field is read, `p` moves back over it, and the byte at the old `p` is put
back. -/

namespace Conscrypt.X509

/-- `get_ASN1_TIME_data`: on the buffer, with `*data` the index `data`, it returns
the buffer after the call, the new `*data` and `*output`. -/
def getAsn1TimeData (buffer : List UInt8) (data len : Nat) : List UInt8 × Nat × Int :=
  let c := buffer.getD data 0
  let buffer := buffer.set data 0
  let data := data - len
  let output := atoi (buffer.drop data)
  (buffer.set (data + len) c, data, output)

private theorem set_own {buffer : List UInt8} {index : Nat} (within : index < buffer.length) :
    buffer.set index buffer[index] = buffer :=
  List.ext_getElem (by simp) fun i _ _ => by rw [List.getElem_set]; split <;> simp_all

/-- The NUL written at `data` ends the `len` bytes before it. -/
theorem drop_set_nul {buffer : List UInt8} {data len : Nat} (within : data < buffer.length)
    (room : len ≤ data) :
    (buffer.set data 0).drop (data - len) =
      (buffer.drop (data - len)).take len ++ 0 :: buffer.drop (data + 1) := by
  apply List.ext_getElem?
  intro i
  have taken : ((buffer.drop (data - len)).take len).length = len := by simp; omega
  rw [List.getElem?_drop, List.getElem?_set]
  by_cases front : i < len
  · rw [List.getElem?_append_left (by omega), List.getElem?_take, if_pos front, List.getElem?_drop,
      if_neg (by omega)]
  · rw [List.getElem?_append_right (by omega), taken]
    by_cases nul : i = len
    · rw [if_pos (by omega), if_pos within, nul, Nat.sub_self, List.getElem?_cons_zero]
    · obtain ⟨k, rfl⟩ : ∃ k, i = len + 1 + k := ⟨i - len - 1, by omega⟩
      rw [if_neg (by omega), show len + 1 + k - len = k + 1 by omega, List.getElem?_cons_succ,
        List.getElem?_drop]
      congr 1; omega

/-- The `len` digits before `data` are read as their decimal value, and the buffer
is restored. -/
theorem getAsn1TimeData_digits {buffer : List UInt8} {data len : Nat} (within : data < buffer.length)
    (room : len ≤ data) (digits : ∀ i, data - len ≤ i → i < data → isDigit (buffer.getD i 0) = true) :
    getAsn1TimeData buffer data len =
      (buffer, data - len, (decimalValue ((buffer.drop (data - len)).take len) : Int)) := by
  have allDigits : ∀ byte ∈ (buffer.drop (data - len)).take len, isDigit byte = true := by
    intro byte mem
    obtain ⟨i, bound, rfl⟩ := List.getElem_of_mem mem
    simp only [List.length_take, List.length_drop] at bound
    simpa [List.getD_eq_getElem?_getD, List.getElem?_eq_getElem (show data - len + i < buffer.length by omega)]
      using digits (data - len + i) (by omega) (by omega)
  simp only [getAsn1TimeData, drop_set_nul within room, atoi_digits allDigits, Nat.sub_add_cancel room,
    List.set_set, List.getD_eq_getElem?_getD, List.getElem?_eq_getElem within, Option.getD_some,
    set_own within]

end Conscrypt.X509

/-!
## The six fields
-/

/-! `NativeCrypto_ASN1_TIME_to_Calendar` starts at index 14 and reads seconds,
minutes, hours, day, month and year, each field ending where the one before it
began. -/

namespace Conscrypt.X509

/-- The `ASN1_GENERALIZEDTIME` that `ASN1_TIME_to_generalizedtime` returns: its
`length`, and the bytes from `data[0]` as far as they can be read (the NUL the
engine keeps after the string included), none for a null `data`. -/
structure GeneralizedTime where
  length : Int
  data : Option (List UInt8)
  deriving DecidableEq, Repr

/-- An `ASN1_TIME`, by what `ASN1_TIME_to_generalizedtime` makes of it. -/
structure Asn1Time where
  generalized : Option GeneralizedTime
  deriving DecidableEq, Repr

/-- The arguments of `Calendar.set(year, month, date, hourOfDay, minute, second)`. -/
structure CalendarSet where
  year : Int
  month : Int
  date : Int
  hourOfDay : Int
  minute : Int
  second : Int
  deriving DecidableEq, Repr

/-- `NativeCrypto_ASN1_TIME_to_Calendar`: the `Calendar.set` call it makes and
the `gen->data` buffer after it, or the exception it leaves pending. -/
def asn1TimeToCalendar (asn1Time : Option Asn1Time) : Except JavaException (CalendarSet × List UInt8) :=
  match asn1Time with
  | none => .error (.nullPointer "asn1Time == null")
  | some asn1Time =>
      match asn1Time.generalized with
      | none => .error (.nullPointer "asn1Time == null")
      | some gen =>
          if gen.length < 14 then .error (.nullPointer "gen->length < 14 || gen->data == null")
          else
            match gen.data with
            | none => .error (.nullPointer "gen->length < 14 || gen->data == null")
            | some buffer =>
                let (buffer, p, sec) := getAsn1TimeData buffer 14 2
                let (buffer, p, min) := getAsn1TimeData buffer p 2
                let (buffer, p, hour) := getAsn1TimeData buffer p 2
                let (buffer, p, mday) := getAsn1TimeData buffer p 2
                let (buffer, p, mon) := getAsn1TimeData buffer p 2
                let (buffer, _, year) := getAsn1TimeData buffer p 4
                .ok (⟨year, mon - 1, mday, hour, min, sec⟩, buffer)

/-- On a GeneralizedTime whose first 14 bytes are digits, with a byte at index 14,
`Calendar.set` receives the six decimal fields of `YYYYMMDDHHMMSS`, the month
less one, and the buffer is left as it was. -/
theorem calendar_fields_read_exactly (asn1Time : Asn1Time) (gen : GeneralizedTime) (buffer : List UInt8)
    (converted : asn1Time.generalized = some gen) (data : gen.data = some buffer) (long : 14 ≤ gen.length)
    (terminated : 14 < buffer.length) (digits : ∀ i < 14, isDigit (buffer.getD i 0) = true) :
    asn1TimeToCalendar (some asn1Time) =
      .ok (⟨decimalValue (buffer.take 4), decimalValue ((buffer.drop 4).take 2) - 1,
        decimalValue ((buffer.drop 6).take 2), decimalValue ((buffer.drop 8).take 2),
        decimalValue ((buffer.drop 10).take 2), decimalValue ((buffer.drop 12).take 2)⟩, buffer) := by
  have field : ∀ data len, data ≤ 14 → len ≤ data → getAsn1TimeData buffer data len =
      (buffer, data - len, (decimalValue ((buffer.drop (data - len)).take len) : Int)) :=
    fun data len inside room => getAsn1TimeData_digits (by omega) room fun i _ below => digits i (by omega)
  simp only [asn1TimeToCalendar, converted, data, show ¬ gen.length < 14 by omega, ↓reduceIte]
  simp (disch := decide) only [field]
  rfl

/-- `20261108123456Z` and the NUL after it. -/
def sampleTime : List UInt8 :=
  [50, 48, 50, 54, 49, 49, 48, 56, 49, 50, 51, 52, 53, 54, 90, 0]

theorem calendar_fields_read_exactly_sample :
    (⟨some ⟨15, some sampleTime⟩⟩ : Asn1Time).generalized = some ⟨15, some sampleTime⟩ ∧
      (⟨15, some sampleTime⟩ : GeneralizedTime).data = some sampleTime ∧ 14 ≤ (15 : Int) ∧
      14 < sampleTime.length ∧ (∀ i < 14, isDigit (sampleTime.getD i 0) = true) ∧
      asn1TimeToCalendar (some ⟨some ⟨15, some sampleTime⟩⟩) = .ok (⟨2026, 10, 8, 12, 34, 56⟩, sampleTime) :=
  ⟨rfl, rfl, by decide, by decide, by decide,
    (calendar_fields_read_exactly _ _ sampleTime rfl rfl (by decide) (by decide) (by decide)).trans rfl⟩

end Conscrypt.X509
