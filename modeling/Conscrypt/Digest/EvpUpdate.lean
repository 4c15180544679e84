import Conscrypt.Engine.Errors
import Mathlib.Data.List.Basic

/-!
# Chunked digest update

`evpUpdate` feeds a slice of a Java `byte[]` to an engine update function
(`EVP_DigestUpdate`, `EVP_DigestSignUpdate` or `EVP_DigestVerifyUpdate`)
through one of three branches: a 1 KiB stack buffer, a streaming buffer of at
most 64 KiB, or the array's own elements. The update function is an oracle
whose answer may depend on the position of the call and on the bytes.
-/

set_option autoImplicit false

/-!
## The update function and the slice
-/

/-! A run is recorded as the list of calls made, each with the answer the
engine gave. Only a zero result is a failure, as `!update_func_result` reads. -/

namespace Conscrypt.Digest

/-- One `update_func` answer: its result and the engine's error queue after it. -/
structure UpdateResult where
  result : Int
  queued : Option EngineError
  deriving DecidableEq, Repr

/-- `update_func` seen from `evpUpdate`: the answer to the call at a given
position in the run, on the bytes it is passed. -/
abbrev UpdateFunc := Nat → List UInt8 → UpdateResult

/-- The calls made so far with their answers, `update_func_result` (`-1` before
any call) and the engine's error queue. -/
structure Feed where
  log : List (List UInt8 × UpdateResult)
  result : Int
  queued : Option EngineError

/-- The state before the first call: `int update_func_result = -1;`. -/
def Feed.start : Feed := ⟨[], -1, none⟩

/-- One `update_func` call on `bytes`. -/
def Feed.call (update : UpdateFunc) (feed : Feed) (bytes : List UInt8) : Feed :=
  let answer := update feed.log.length bytes
  ⟨feed.log ++ [(bytes, answer)], answer.result, answer.queued⟩

/-- The bytes `GetByteArrayRegion(array, offset, length)` copies out. -/
def slice (array : List UInt8) (offset length : Nat) : List UInt8 :=
  (array.drop offset).take length

/-- Every logged answer is the one `update_func` gives at that position. -/
def Answered (update : UpdateFunc) (log : List (List UInt8 × UpdateResult)) : Prop :=
  ∀ i (h : i < log.length), (log.get ⟨i, h⟩).2 = update i (log.get ⟨i, h⟩).1

theorem Feed.answered_call {update : UpdateFunc} {feed : Feed} (bytes : List UInt8)
    (answered : Answered update feed.log) : Answered update (feed.call update bytes).log := by
  intro i bound
  simp only [Feed.call, List.length_append, List.length_singleton] at bound
  simp only [Feed.call, List.get_eq_getElem]
  rcases Nat.lt_succ_iff_lt_or_eq.mp bound with before | last
  · simpa [List.getElem_append_left before] using answered i before
  · subst last; simp

theorem answered_nil (update : UpdateFunc) : Answered update [] := fun _ bound => absurd bound (by simp)

end Conscrypt.Digest

/-!
## The streaming loop
-/

/-! The 64 KiB branch's `while (remaining > 0)` loop. Each pass consumes at
least one byte, so `in_size` passes are enough: the fuel never runs out before
`remaining` does. -/

namespace Conscrypt.Digest

/-- The loop: copy `min(remaining, buf_size)` bytes, call `update_func`, stop
on failure, otherwise advance `in_offset` and shrink `remaining`. -/
def streamChunks (update : UpdateFunc) (array : List UInt8) (bufSize : Nat) :
    Nat → Nat → Nat → Feed → Feed
  | 0, _, _, feed => feed
  | fuel + 1, inOffset, remaining, feed =>
      if remaining > 0 then
        let chunkSize := if remaining ≥ bufSize then bufSize else remaining
        let fed := feed.call update (slice array inOffset chunkSize)
        if fed.result = 0 then fed
        else streamChunks update array bufSize fuel (inOffset + chunkSize) (remaining - chunkSize) fed
      else feed

/-- What one run of the loop adds to the log: non-empty calls of at most
`bufSize` bytes, successful except possibly the last, covering the slice when
all succeed, and the last answer kept in `update_func_result`. -/
structure Streamed (bufSize : Nat) (feed fed : Feed) (chunk : List UInt8) : Prop where
  fresh : ∃ added, fed.log = feed.log ++ added ∧
    (∀ entry ∈ added, 0 < entry.1.length ∧ entry.1.length ≤ bufSize) ∧
    (∀ entry ∈ added.dropLast, entry.2.result ≠ 0) ∧
    ((∀ entry ∈ added, entry.2.result ≠ 0) → (added.map Prod.fst).flatten = chunk) ∧
    (added = [] → fed = feed) ∧ (chunk ≠ [] → added ≠ []) ∧
    (∀ entry, added.getLast? = some entry →
      fed.result = entry.2.result ∧ fed.queued = entry.2.queued)

private theorem slice_split (array : List UInt8) (offset chunk remaining : Nat)
    (within : chunk ≤ remaining) :
    slice array offset remaining =
      slice array offset chunk ++ slice array (offset + chunk) (remaining - chunk) := by
  unfold slice
  conv_lhs => rw [show remaining = chunk + (remaining - chunk) by omega, List.take_add]
  simp [List.drop_drop, Nat.add_comm]

section Streamed

variable {update : UpdateFunc} {bufSize : Nat} {feed fed : Feed} {bytes : List UInt8}

/-- A run that makes no call. -/
theorem Streamed.idle (feed : Feed) : Streamed bufSize feed feed [] :=
  ⟨⟨[], by simp, by simp, by simp, by simp, fun _ => rfl, fun empty => absurd rfl empty, by simp⟩⟩

/-- A failed call ends the run, whatever was left of the slice. -/
theorem Streamed.failed (chunk : List UInt8) (size : 0 < bytes.length ∧ bytes.length ≤ bufSize)
    (fails : (feed.call update bytes).result = 0) :
    Streamed bufSize feed (feed.call update bytes) chunk := by
  refine ⟨⟨[(bytes, update feed.log.length bytes)], rfl, by simpa using size, by simp,
    fun succeeded => absurd fails (by simpa [Feed.call] using succeeded), by simp, by simp, ?_⟩⟩
  intro entry last
  simp only [List.getLast?_singleton, Option.some.injEq] at last
  subst last; exact ⟨rfl, rfl⟩

/-- A successful call on the first bytes, then a run over the rest of the slice. -/
theorem Streamed.cons {rest : List UInt8} (size : 0 < bytes.length ∧ bytes.length ≤ bufSize)
    (passes : (feed.call update bytes).result ≠ 0) (streamed : Streamed bufSize (feed.call update bytes) fed rest) :
    Streamed bufSize feed fed (bytes ++ rest) := by
  obtain ⟨added, logEq, sizes, stops, covers, empty, -, last⟩ := streamed.fresh
  refine ⟨⟨(bytes, update feed.log.length bytes) :: added, by rw [logEq]; simp [Feed.call],
    List.forall_mem_cons.mpr ⟨size, sizes⟩, ?_, fun succeeded => ?_, by simp, by simp, ?_⟩⟩
  · intro entry kept
    cases added with
    | nil => simp at kept
    | cons next others =>
        simp only [List.dropLast_cons₂, List.mem_cons] at kept
        rcases kept with rfl | kept
        · simpa [Feed.call] using passes
        · exact stops entry kept
  · simp only [List.map_cons, List.flatten_cons]
    rw [covers fun entry kept => succeeded entry (List.mem_cons_of_mem _ kept)]
  · intro entry final
    cases added with
    | nil =>
        simp only [List.getLast?_singleton, Option.some.injEq] at final
        subst final
        rw [empty rfl]
        exact ⟨rfl, rfl⟩
    | cons next others => exact last entry (by simpa [List.getLast?_cons_cons] using final)

end Streamed

theorem streamChunks_streamed (update : UpdateFunc) (array : List UInt8) {bufSize : Nat}
    (positive : 0 < bufSize) :
    ∀ fuel inOffset remaining (feed : Feed), remaining ≤ fuel →
      inOffset + remaining ≤ array.length →
      Streamed bufSize feed (streamChunks update array bufSize fuel inOffset remaining feed)
        (slice array inOffset remaining)
  | fuel, inOffset, 0, feed, _, _ => by
      have idle : streamChunks update array bufSize fuel inOffset 0 feed = feed := by
        cases fuel <;> simp [streamChunks]
      rw [idle, show slice array inOffset 0 = [] by simp [slice]]
      exact .idle feed
  | 0, _, _ + 1, _, enough, _ => by omega
  | fuel + 1, inOffset, remaining + 1, feed, enough, within => by
      set chunkSize := if remaining + 1 ≥ bufSize then bufSize else remaining + 1 with chunkEq
      have chunkPos : 0 < chunkSize := by rw [chunkEq]; split <;> omega
      have chunkLe : chunkSize ≤ remaining + 1 := by rw [chunkEq]; split <;> omega
      have chunkBuf : chunkSize ≤ bufSize := by rw [chunkEq]; split <;> omega
      have copied : (slice array inOffset chunkSize).length = chunkSize := by
        simp only [slice, List.length_take, List.length_drop]; omega
      have unfolded : streamChunks update array bufSize (fuel + 1) inOffset (remaining + 1) feed =
          if (feed.call update (slice array inOffset chunkSize)).result = 0 then
            feed.call update (slice array inOffset chunkSize)
          else streamChunks update array bufSize fuel (inOffset + chunkSize)
            (remaining + 1 - chunkSize) (feed.call update (slice array inOffset chunkSize)) := by
        simp only [streamChunks, chunkEq]; simp
      have entrySize : 0 < (slice array inOffset chunkSize).length ∧
          (slice array inOffset chunkSize).length ≤ bufSize := by omega
      rw [unfolded]
      split
      · exact .failed _ entrySize ‹_›
      · rw [slice_split array inOffset chunkSize (remaining + 1) chunkLe]
        exact .cons entrySize ‹_› (streamChunks_streamed update array positive fuel (inOffset + chunkSize)
          (remaining + 1 - chunkSize) _ (by omega) (by omega))

theorem streamChunks_answered (update : UpdateFunc) (array : List UInt8) (bufSize : Nat) :
    ∀ fuel inOffset remaining (feed : Feed), Answered update feed.log →
      Answered update (streamChunks update array bufSize fuel inOffset remaining feed).log
  | 0, _, _, _, answered => answered
  | fuel + 1, inOffset, remaining, feed, answered => by
      simp only [streamChunks]
      split_ifs
      all_goals first
        | exact answered
        | exact feed.answered_call _ answered
        | exact streamChunks_answered update array bufSize fuel _ _ _ (feed.answered_call _ answered)

end Conscrypt.Digest

/-!
## `evpUpdate`
-/

/-! The argument checks, then the branch chosen by
`isGetByteArrayElementsLikelyToReturnACopy(array_size)` (a JVM heuristic absent
from the sources, taken as a parameter) and by the slice length. -/

namespace Conscrypt.Digest

/-- `fromContextObject`: the native reference held by a Java context object. -/
def fromContextObject (contextObject : Option Nat) : Except JavaException Nat :=
  match contextObject with
  | none => .error (.nullPointer "contextObject == null")
  | some 0 => .error (.nullPointer "ref == null")
  | some ref => .ok ref

/-- `ARRAY_CHUNK_INVALID(array_len, chunk_offset, chunk_len)`. -/
def arrayChunkInvalid (arrayLen : Nat) (chunkOffset chunkLen : Int) : Bool :=
  chunkOffset < 0 || chunkOffset > arrayLen || chunkLen < 0 || chunkLen > (arrayLen : Int) - chunkOffset

/-- The three branches on a valid non-empty slice: the stack buffer for at most
1024 bytes, the streaming buffer of `min(in_size, 65536)` bytes, or one call on
the pinned elements; `none` when `GetByteArrayElements` returns null. -/
def updateBranch (update : UpdateFunc) (likelyCopy elementsAvailable : Bool)
    (array : List UInt8) (inOffset inSize : Nat) : Option Feed :=
  if likelyCopy then
    if inSize ≤ 1024 then some (Feed.start.call update (slice array inOffset inSize))
    else
      let bufSize := if inSize ≥ 65536 then 65536 else inSize
      some (streamChunks update array bufSize inSize inOffset inSize Feed.start)
  else if elementsAvailable then some (Feed.start.call update (slice array inOffset inSize))
  else none

/-- What an `evpUpdate` call did: its `update_func` calls with their answers, and
the exception it left pending. -/
structure Run where
  log : List (List UInt8 × UpdateResult)
  exception : Option JavaException

/-- `evpUpdate`: the context and array checks, `ARRAY_CHUNK_INVALID`, the empty
slice, then a branch; a zero `update_func_result` raises what the queue holds. -/
def evpUpdate (update : UpdateFunc) (likelyCopy elementsAvailable : Bool)
    (evpMdCtxRef : Option Nat) (inJavaBytes : Option (List UInt8)) (inOffset inLength : Int) :
    Run :=
  match fromContextObject evpMdCtxRef, inJavaBytes with
  | .error thrown, _ => ⟨[], some thrown⟩
  | .ok _, none => ⟨[], some (.nullPointer "inBytes")⟩
  | .ok _, some array =>
      if arrayChunkInvalid array.length inOffset inLength then
        ⟨[], some (.arrayIndexOutOfBounds "inBytes")⟩
      else if inLength = 0 then ⟨[], none⟩
      else
        match updateBranch update likelyCopy elementsAvailable array inOffset.toNat inLength.toNat with
        | none => ⟨[], some (.outOfMemory "Unable to obtain elements of inBytes")⟩
        | some fed => ⟨fed.log, if fed.result = 0 then throwExceptionIfNecessary fed.queued else none⟩

/-- The digest input promised for a valid slice `chunk`, with the corrections
the code makes by design: the direct branch makes one call of the whole slice,
and a failure raises only what the engine queued. -/
structure FeedsSlice (update : UpdateFunc) (likelyCopy elementsAvailable : Bool)
    (chunk : List UInt8) (run : Run) : Prop where
  empty : chunk = [] → run.log = [] ∧ run.exception = none
  answered : Answered update run.log
  sizes : ∀ entry ∈ run.log, 0 < entry.1.length ∧ (likelyCopy = true → entry.1.length ≤ 65536)
  direct : likelyCopy = false → run.log.length ≤ 1
  stops : ∀ entry ∈ run.log.dropLast, entry.2.result ≠ 0
  covers : (∀ entry ∈ run.log, entry.2.result ≠ 0) →
    (likelyCopy = true ∨ elementsAvailable = true) → (run.log.map Prod.fst).flatten = chunk
  raises : ∀ entry, run.log.getLast? = some entry →
    run.exception = if entry.2.result = 0 then throwExceptionIfNecessary entry.2.queued else none
  unpinned : run.log = [] → chunk ≠ [] →
    run.exception = some (.outOfMemory "Unable to obtain elements of inBytes")

private theorem feedsSlice_of_called {update : UpdateFunc} {likelyCopy elementsAvailable : Bool}
    {chunk : List UInt8} {fed : Feed} (nonempty : chunk ≠ []) (answered : Answered update fed.log)
    (sizes : ∀ entry ∈ fed.log, 0 < entry.1.length ∧ (likelyCopy = true → entry.1.length ≤ 65536))
    (direct : likelyCopy = false → fed.log.length ≤ 1)
    (stops : ∀ entry ∈ fed.log.dropLast, entry.2.result ≠ 0)
    (covers : (∀ entry ∈ fed.log, entry.2.result ≠ 0) → (fed.log.map Prod.fst).flatten = chunk)
    (called : fed.log ≠ [])
    (last : ∀ entry, fed.log.getLast? = some entry →
      fed.result = entry.2.result ∧ fed.queued = entry.2.queued) :
    FeedsSlice update likelyCopy elementsAvailable chunk
      ⟨fed.log, if fed.result = 0 then throwExceptionIfNecessary fed.queued else none⟩ where
  empty := fun cleared => absurd cleared nonempty
  answered := answered
  sizes := sizes
  direct := direct
  stops := stops
  covers := fun succeeded _ => covers succeeded
  raises := fun entry final => by obtain ⟨result, queued⟩ := last entry final; simp only [result, queued]
  unpinned := fun cleared => absurd cleared called

private theorem single_call_feeds {update : UpdateFunc} {likelyCopy elementsAvailable : Bool}
    {chunk : List UInt8} (nonempty : chunk ≠ []) (small : likelyCopy = true → chunk.length ≤ 65536) :
    FeedsSlice update likelyCopy elementsAvailable chunk
      ⟨(Feed.start.call update chunk).log, if (Feed.start.call update chunk).result = 0 then
        throwExceptionIfNecessary (Feed.start.call update chunk).queued else none⟩ :=
  feedsSlice_of_called nonempty (Feed.answered_call chunk (answered_nil update))
    (by simpa [Feed.call, Feed.start, List.length_pos] using ⟨nonempty, small⟩)
    (by simp [Feed.call, Feed.start]) (by simp [Feed.call, Feed.start])
    (by simp [Feed.call, Feed.start]) (by simp [Feed.call, Feed.start])
    (by simp [Feed.call, Feed.start])

private theorem stream_feeds {update : UpdateFunc} {elementsAvailable : Bool} {array : List UInt8}
    {inOffset inSize : Nat} (large : 1024 < inSize) (within : inOffset + inSize ≤ array.length) :
    let fed := streamChunks update array (if inSize ≥ 65536 then 65536 else inSize) inSize
      inOffset inSize Feed.start
    FeedsSlice update true elementsAvailable (slice array inOffset inSize)
      ⟨fed.log, if fed.result = 0 then throwExceptionIfNecessary fed.queued else none⟩ := by
  dsimp only
  have positive : 0 < if inSize ≥ 65536 then 65536 else inSize := by split <;> omega
  have capped : (if inSize ≥ 65536 then 65536 else inSize) ≤ 65536 := by split <;> omega
  have nonempty : slice array inOffset inSize ≠ [] := by
    rw [← List.length_pos]; simp only [slice, List.length_take, List.length_drop]; omega
  obtain ⟨added, logEq, sizes, stops, covers, -, called, last⟩ :=
    (streamChunks_streamed update array positive inSize inOffset inSize Feed.start le_rfl within).fresh
  rw [show Feed.start.log = [] from rfl, List.nil_append] at logEq
  refine feedsSlice_of_called nonempty
    (streamChunks_answered update array _ inSize inOffset inSize Feed.start (answered_nil update))
    ?_ (by simp) ?_ ?_ ?_ ?_ <;> rw [logEq]
  · exact fun entry kept => ⟨(sizes entry kept).1, fun _ => (sizes entry kept).2.trans capped⟩
  · exact stops
  · exact covers
  · exact called nonempty
  · exact last

/-- The direct branch hands the whole slice to one `update_func` call. -/
theorem evpUpdate_direct_log (update : UpdateFunc) (ref : Nat) (array : List UInt8)
    (inOffset inLength : Int) (live : ref ≠ 0)
    (valid : arrayChunkInvalid array.length inOffset inLength = false) (nonzero : inLength ≠ 0) :
    (evpUpdate update false true (some ref) (some array) inOffset inLength).log =
      [(slice array inOffset.toNat inLength.toNat,
        update 0 (slice array inOffset.toNat inLength.toNat))] := by
  obtain ⟨r, rfl⟩ := Nat.exists_eq_succ_of_ne_zero live
  simp [evpUpdate, fromContextObject, valid, nonzero, updateBranch, Feed.call, Feed.start]

/-- On every valid slice, each of the three branches feeds the digest as
`FeedsSlice` says, for every answer of the engine. -/
theorem evpUpdate_feedsSlice (update : UpdateFunc) (likelyCopy elementsAvailable : Bool)
    (ref : Nat) (array : List UInt8) (inOffset inLength : Int) (live : ref ≠ 0)
    (valid : arrayChunkInvalid array.length inOffset inLength = false) :
    FeedsSlice update likelyCopy elementsAvailable (slice array inOffset.toNat inLength.toNat)
      (evpUpdate update likelyCopy elementsAvailable (some ref) (some array) inOffset inLength) := by
  simp only [arrayChunkInvalid, Bool.or_eq_false_iff, decide_eq_false_iff_not] at valid
  obtain ⟨⟨⟨nonneg, inside⟩, lengthNonneg⟩, fits⟩ := valid
  have within : inOffset.toNat + inLength.toNat ≤ array.length := by omega
  have length : (slice array inOffset.toNat inLength.toNat).length = inLength.toNat := by
    simp only [slice, List.length_take, List.length_drop]; omega
  obtain ⟨r, rfl⟩ := Nat.exists_eq_succ_of_ne_zero live
  simp only [evpUpdate, fromContextObject, arrayChunkInvalid, Bool.or_eq_true, decide_eq_true_eq]
  rw [if_neg (by omega)]
  by_cases zero : inLength = 0
  · rw [if_pos zero]
    have cleared : slice array inOffset.toNat inLength.toNat = [] := by
      rw [← List.length_eq_zero, length]; omega
    rw [cleared]
    exact ⟨fun _ => ⟨rfl, rfl⟩, answered_nil update, by simp, by simp, by simp, by simp, by simp,
      fun _ absent => absurd rfl absent⟩
  · rw [if_neg zero]
    have nonempty : slice array inOffset.toNat inLength.toNat ≠ [] := by
      rw [← List.length_pos, length]; omega
    unfold updateBranch
    cases likelyCopy with
    | true =>
        by_cases small : inLength.toNat ≤ 1024
        · simp only [↓reduceIte, small]
          exact single_call_feeds nonempty (fun _ => by omega)
        · simp only [↓reduceIte, small]
          exact stream_feeds (by omega) within
    | false =>
        cases elementsAvailable with
        | true =>
            simp only [Bool.false_eq_true, ↓reduceIte]
            exact single_call_feeds nonempty (fun absurdity => absurd absurdity (by decide))
        | false =>
            simp only [Bool.false_eq_true, ↓reduceIte]
            exact ⟨fun cleared => absurd cleared nonempty, answered_nil update, by simp, by simp,
              by simp, fun _ choice => by simp at choice, by simp, fun _ _ => rfl⟩

theorem evpUpdate_feedsSlice_three_bytes :
    (1 : Nat) ≠ 0 ∧ arrayChunkInvalid [1, 2, 3].length 0 2 = false ∧
      FeedsSlice (fun _ _ => ⟨1, none⟩) true true (slice [1, 2, 3] (0 : Int).toNat (2 : Int).toNat)
        (evpUpdate (fun _ _ => ⟨1, none⟩) true true (some 1) (some [1, 2, 3]) 0 2) :=
  ⟨by decide, by decide, evpUpdate_feedsSlice _ _ _ 1 _ 0 2 (by decide) (by decide)⟩

/-- The unamended reading fails twice: the direct branch passes a 65537-byte
slice in a single call, and a failed call that queued no engine error leaves
no exception pending. -/
theorem evpUpdate_direct_call_exceeds_64k :
    ((evpUpdate (fun _ _ => ⟨1, none⟩) false true (some 1) (some (List.replicate 65537 0)) 0 65537).log.map
        fun entry => entry.1.length) = [65537] ∧
      (evpUpdate (fun _ _ => ⟨0, none⟩) true true (some 1) (some [7]) 0 1).exception = none := by
  constructor
  · have valid : arrayChunkInvalid (List.replicate 65537 (0 : UInt8)).length 0 65537 = false := by
      rw [List.length_replicate]; decide
    rw [evpUpdate_direct_log _ 1 _ 0 65537 (by decide) valid (by decide)]
    simp only [slice, List.map_cons, List.map_nil, List.length_take, List.length_drop,
      List.length_replicate]
    rfl
  · decide

end Conscrypt.Digest
