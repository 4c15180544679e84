import Mathlib.Data.List.Basic
import Mathlib.Data.Int.Defs

/-!
# The BIO over a Java InputStream

`NativeCrypto_create_BIO_InputStream` gives the engine a BIO whose reads call
back into Java: `BIO_InputStream::read_internal` allocates a Java array of the
requested length, calls `read` (or `readLine` for `gets`) on the stream and copies
what Java reports back into the engine's buffer. Java's `-1` sets the stream's
end-of-stream flag, which `BIO_CTRL_EOF` reports, and becomes a read of 0 bytes;
`bio_stream_read` turns that 0 into a retryable `-1` when the stream is not
finite. `gets` ends the line with a NUL at the index the read returned, so a
failed upcall, which returns `-1`, writes its NUL one byte before the buffer.
-/

set_option autoImplicit false

/-!
## One read
-/

/-! A read returns the new state of the stream, its result, and the bytes it
writes into the engine's buffer by index. -/

namespace Conscrypt.Bio

/-- `BIO_InputStream`: its end-of-stream flag `mEof` and `isFinite_`. -/
structure BioInputStream where
  eof : Bool
  isFinite : Bool
  deriving DecidableEq, Repr

/-- What an upcall of `read_internal` gets: none when `getJNIEnv` fails, an exception
is already pending, or the Java method throws; otherwise the count the method
returns and the contents of the array it was given. -/
abbrev Answer := Option (Int × List UInt8)

/-- The stream after a read, its result, and the bytes written at `buf`. -/
structure ReadResult where
  stream : BioInputStream
  result : Int
  writes : List (Int × UInt8)
  deriving DecidableEq, Repr

/-- `BIO_InputStream::read_internal(buf, len, method)`. `NewByteArray` fails on a
negative length; `GetByteArrayRegion` copies nothing when Java reports more than
the array holds. -/
def readInternal (stream : BioInputStream) (len : Int) (answer : Answer) : ReadResult :=
  if len < 0 then ⟨stream, -1, []⟩
  else
    match answer with
    | none => ⟨stream, -1, []⟩
    | some (read, javaBytes) =>
        if read = -1 then ⟨{ stream with eof := true }, 0, []⟩
        else if read > 0 then
          ⟨stream, read,
            if read ≤ len then (List.range read.toNat).map fun (index : Nat) => ((index : Int), javaBytes.getD index 0)
            else []⟩
        else ⟨stream, read, []⟩

/-- `BIO_InputStream::PEM_LINE_LENGTH`: a PEM line of 64, a CR and a NUL. -/
def pemLineLength : Int := 66

/-- `BIO_InputStream::gets`: at most `PEM_LINE_LENGTH - 1` bytes through `readLine`, then
`buf[read] = '\0'`. -/
def BioInputStream.gets (stream : BioInputStream) (len : Int) (answer : Answer) : ReadResult :=
  let len := if len > pemLineLength then pemLineLength else len
  let line := readInternal stream (len - 1) answer
  { line with writes := line.writes ++ [(line.result, 0)] }

/-- What `bio_stream_read` returns, with the retry flag it leaves on the BIO. -/
structure BioRead where
  stream : BioInputStream
  result : Int
  retryRead : Bool
  writes : List (Int × UInt8)
  deriving DecidableEq, Repr

/-- `bio_stream_read`: a read of 0 bytes is the end for a finite stream and a
retryable `-1` otherwise. -/
def bioStreamRead (stream : BioInputStream) (len : Int) (answer : Answer) : BioRead :=
  let read := readInternal stream len answer
  if read.result = 0 then
    if stream.isFinite then ⟨read.stream, 0, false, read.writes⟩
    else ⟨read.stream, -1, true, read.writes⟩
  else ⟨read.stream, read.result, false, read.writes⟩

/-- `BIO_CTRL_EOF`. -/
def bioCtrlEof : Int := 2

/-- `BIO_CTRL_FLUSH`. -/
def bioCtrlFlush : Int := 11

/-- `bio_stream_ctrl`, with what `BIO_Stream::flush` returns. -/
def bioStreamCtrl (stream : BioInputStream) (cmd : Int) (flushed : Int) : Int :=
  if cmd = bioCtrlEof then if stream.eof then 1 else 0
  else if cmd = bioCtrlFlush then flushed
  else 0

end Conscrypt.Bio

/-!
## End of stream over a run
-/

/-! The flag only goes up: a read or `gets` sets it when its upcall reaches Java
and Java answers `-1`, and nothing clears it. Over any run of operations the flag,
and so `BIO_CTRL_EOF`, says whether such an answer came. -/

namespace Conscrypt.Bio

/-- An operation the engine performs on the BIO. -/
inductive Op where
  | read (len : Int) (answer : Answer)
  | gets (len : Int) (answer : Answer)
  | ctrl (cmd flushed : Int)

/-- The stream after an operation. -/
def Op.apply (stream : BioInputStream) : Op → BioInputStream
  | .read len answer => (bioStreamRead stream len answer).stream
  | .gets len answer => (stream.gets len answer).stream
  | .ctrl _ _ => stream

/-- The upcall of a read of `len` bytes reaches Java and Java reports the end. -/
def seesEnd (len : Int) (answer : Answer) : Bool :=
  decide (0 ≤ len) && answer.map Prod.fst == some (-1)

/-- The operation's upcall reports the end of the stream. -/
def Op.seesEnd : Op → Bool
  | .read len answer => Bio.seesEnd len answer
  | .gets len answer => Bio.seesEnd ((if len > pemLineLength then pemLineLength else len) - 1) answer
  | .ctrl _ _ => false

/-- The engine's operations one after another. -/
def run (stream : BioInputStream) (ops : List Op) : BioInputStream :=
  ops.foldl Op.apply stream

theorem readInternal_stream (stream : BioInputStream) (len : Int) (answer : Answer) :
    (readInternal stream len answer).stream = { stream with eof := stream.eof || seesEnd len answer } := by
  obtain ⟨eof, isFinite⟩ := stream
  unfold readInternal seesEnd
  by_cases negative : len < 0
  · simp [negative, show ¬ 0 ≤ len by omega]
  rcases answer with _ | ⟨read, javaBytes⟩
  · simp [negative]
  by_cases ended : read = -1
  · simp [negative, ended, show 0 ≤ len by omega]
  by_cases positive : read > 0 <;> simp [negative, ended, positive]

theorem Op.apply_stream (stream : BioInputStream) (op : Op) :
    op.apply stream = { stream with eof := stream.eof || op.seesEnd } := by
  cases op with
  | read len answer =>
      simp only [Op.apply, bioStreamRead, Op.seesEnd]
      split_ifs <;> exact readInternal_stream stream len answer
  | gets len answer => exact readInternal_stream stream _ answer
  | ctrl cmd flushed => simp [Op.apply, Op.seesEnd]

theorem run_stream (stream : BioInputStream) (ops : List Op) :
    run stream ops = { stream with eof := stream.eof || ops.any Op.seesEnd } := by
  induction ops generalizing stream with
  | nil => simp [run]
  | cons op ops ih =>
      simp only [run, List.foldl_cons] at ih ⊢
      rw [ih, Op.apply_stream]
      simp [Bool.or_assoc]

/-- After any run, `BIO_CTRL_EOF` answers 1 exactly when the stream started at its
end or an upcall of the run reached Java and got `-1`; the run never changes
whether the stream is finite, and `bio_stream_read` on a stream that is not finite
never returns 0. -/
theorem end_of_stream_reported :
    (∀ (stream : BioInputStream) (ops : List Op) (flushed : Int),
      bioStreamCtrl (run stream ops) bioCtrlEof flushed = if stream.eof || ops.any Op.seesEnd then 1 else 0) ∧
    (∀ (stream : BioInputStream) (ops : List Op), (run stream ops).isFinite = stream.isFinite) ∧
    ∀ (stream : BioInputStream) (len : Int) (answer : Answer), stream.isFinite = false →
      (bioStreamRead stream len answer).result ≠ 0 := by
  refine ⟨fun stream ops flushed => ?_, fun stream ops => by rw [run_stream], fun stream len answer infinite => ?_⟩
  · simp [bioStreamCtrl, run_stream]
  · simp only [bioStreamRead, infinite]
    split_ifs with zero <;> simp_all

end Conscrypt.Bio
