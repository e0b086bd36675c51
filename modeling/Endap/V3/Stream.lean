import Endap.Library.CText
import Endap.Library.Lines
import Endap.V3.Api

/-!
# The lines of a listing

The listing function prints one line of JSON for each record of its page into
an array of 128 bytes, and collects the lines in a stream buffer of 512 bytes
that it gives to its sink when the next line does not fit.

A line has at most 112 bytes, whatever the record.  So no line is cut, each
fits into the stream buffer, and the sink receives whole lines.
-/

namespace Endap.V3

open Endap.Library
open Endap.Library.Lines

def v3ApiStreamBufferSize : Nat := 512

/-- `sizeof(line)`. -/
def lineSize : Nat := 128

/-- The text that `snprintf` prints for a record. -/
def ndjsonLine (record : ResourceRecord) : List UInt8 :=
  CText.bytes "\x7b\"id\":\"" ++ decimal record.id.toNat ++
    (CText.bytes "\",\"k\":\"" ++ decimal record.key.toNat) ++
    (CText.bytes "\",\"s\":" ++ decimal record.status.toNat) ++
    (CText.bytes ",\"t\":" ++ decimal record.lastSeenTick.toNat) ++
    (CText.bytes ",\"d\":" ++ decimal record.desiredState.toNat) ++
    (CText.bytes ",\"r\":" ++ decimal record.reportedState.toNat) ++
    CText.bytes "\x7d\n"

/-- The variables of `v3_api_stream_catalog_ndjson`: the stream buffer, with
what the sink received, and `last_id`. -/
structure ApiStream where
  streamBuf : Buffer UInt8
  lastId : UInt64

/-- One iteration of the loop of `v3_api_stream_catalog_ndjson`; `line` is
what the array of the line holds before. -/
def apiStreamBody (catalog : CatalogPool) (line : Nat → Nat → UInt8)
    (stream : ApiStream) (index : Nat) : ApiStream :=
  match catalog.getByIndex index with
  -- Not reached: the loop stays below `total`.
  | none => stream
  | some record =>
      let text := ndjsonLine record
      let len : Int := text.length
      if len < 0 then stream
      else
        { streamBuf :=
            stream.streamBuf.collect v3ApiStreamBufferSize
              (printed lineSize 0 text (line index)) len.toNat
          lastId := record.id }

/-- The indices of the loop of `v3_api_stream_catalog_ndjson`. -/
def apiIndices (catalog : CatalogPool) (cursor : ApiCursor) : List Nat :=
  let startIndex := apiStartIndex catalog cursor.afterId
  List.range' startIndex
    (min catalog.count (startIndex + cursor.limit.toNat) - startIndex)

/-- `v3_api_stream_catalog_ndjson`; `cells` and `line` are what the arrays
hold before they are written.  It returns `lastId`. -/
def v3ApiStreamCatalogNdjson (hasSink : Bool)
    (cursor : Option ApiCursor) (catalog : CatalogPool)
    (cells : Nat → UInt8) (line : Nat → Nat → UInt8) : ApiStream :=
  let entered : ApiStream := ⟨Buffer.fresh cells, 0⟩
  match hasSink, cursor with
  | true, some cursor =>
      let looped :=
        (apiIndices catalog cursor).foldl (apiStreamBody catalog line) entered
      { looped with streamBuf := looped.streamBuf.finish }
  | _, _ => entered

/-! ## One line -/

theorem decimal_uint64 (word : UInt64) : (decimal word.toNat).length ≤ 20 :=
  decimal_length_le (by decide) (Nat.lt_of_lt_of_le word.toNat_lt (by decide))

theorem decimal_uint32 (word : UInt32) : (decimal word.toNat).length ≤ 10 :=
  decimal_length_le (by decide) (Nat.lt_of_lt_of_le word.toNat_lt (by decide))

theorem decimal_uint16 (word : UInt16) : (decimal word.toNat).length ≤ 5 :=
  decimal_length_le (by decide) (Nat.lt_of_lt_of_le word.toNat_lt (by decide))

theorem ndjsonLine_length_le (record : ResourceRecord) :
    (ndjsonLine record).length ≤ 112 := by
  have id := decimal_uint64 record.id
  have key := decimal_uint64 record.key
  have status := decimal_uint16 record.status
  have tick := decimal_uint32 record.lastSeenTick
  have desired := decimal_uint32 record.desiredState
  have reported := decimal_uint32 record.reportedState
  have frame :
      (CText.bytes "\x7b\"id\":\"").length = 7 ∧
      (CText.bytes "\",\"k\":\"").length = 7 ∧
      (CText.bytes "\",\"s\":").length = 6 ∧
      (CText.bytes ",\"t\":").length = 5 ∧
      (CText.bytes ",\"d\":").length = 5 ∧
      (CText.bytes ",\"r\":").length = 5 ∧
      (CText.bytes "\x7d\n").length = 2 := by
    decide
  simp only [ndjsonLine, List.length_append]
  omega

theorem ndjsonLine_length_lt (record : ResourceRecord) :
    (ndjsonLine record).length < lineSize :=
  Nat.lt_of_le_of_lt (ndjsonLine_length_le record) (by decide)

theorem ndjsonLine_ends (record : ResourceRecord) :
    ∃ content, ndjsonLine record = content ++ [10] ∧ 10 ∉ content := by
  have last : CText.bytes "\x7d\n" = CText.bytes "\x7d" ++ [10] := by
    decide
  have frame :
      (10 : UInt8) ∉ CText.bytes "\x7b\"id\":\"" ∧
      10 ∉ CText.bytes "\",\"k\":\"" ∧ 10 ∉ CText.bytes "\",\"s\":" ∧
      10 ∉ CText.bytes ",\"t\":" ∧ 10 ∉ CText.bytes ",\"d\":" ∧
      10 ∉ CText.bytes ",\"r\":" ∧ 10 ∉ CText.bytes "\x7d" := by
    decide
  rw [ndjsonLine, last, ← List.append_assoc]
  refine ⟨_, rfl, ?_⟩
  simp only [List.mem_append, not_or, frame, newline_notMem_decimal,
    not_false_eq_true, and_self]

theorem ndjsonLine_length_pos (record : ResourceRecord) :
    0 < (ndjsonLine record).length := by
  rcases ndjsonLine_ends record with ⟨content, isLine, -⟩
  rw [isLine]
  simp

/-! ## The loop -/

section

variable {catalog : CatalogPool}

theorem apiIndices_records (cursor : ApiCursor) :
    (apiIndices catalog cursor).map catalog.pool =
      apiStreamed catalog cursor := by
  rw [apiStreamed, CatalogPool.records, ArrayList.listed, ← List.map_drop,
    ← List.map_take, List.range_eq_range', List.drop_range',
    Nat.mul_one, Nat.zero_add, apiIndices]
  congr 1
  rcases
    Nat.le_total
      (catalog.count - apiStartIndex catalog cursor.afterId)
      cursor.limit.toNat with few | many
  · rw [List.take_range'_of_length_le few]
    congr 1
    omega
  · rw [List.take_range'_of_length_ge many]
    congr 1
    omega

theorem apiIndices_lt {cursor : ApiCursor} {index : Nat}
    (member : index ∈ apiIndices catalog cursor) :
    index < catalog.count := by
  rcases List.mem_range'_1.mp member with ⟨after, before⟩
  omega

theorem apiStreamBody_eq
    (line : Nat → Nat → UInt8) (stream : ApiStream) {index : Nat}
    (inside : index < catalog.count) :
    apiStreamBody catalog line stream index =
      { streamBuf :=
          stream.streamBuf.collect v3ApiStreamBufferSize
            (printed lineSize 0 (ndjsonLine (catalog.pool index)) (line index))
            (ndjsonLine (catalog.pool index)).length
        lastId := (catalog.pool index).id } := by
  have isRecord : catalog.getByIndex index = some (catalog.pool index) :=
    CatalogPool.getByIndex_eq_some_iff.mpr ⟨inside, rfl⟩
  rw [apiStreamBody, isRecord]
  exact if_neg (Int.not_lt_of_ge (Int.natCast_nonneg _))

theorem apiStream_holds
    (cells : Nat → UInt8) (line : Nat → Nat → UInt8) {indices : List Nat}
    (inside : ∀ index ∈ indices, index < catalog.count) :
    let records := indices.map catalog.pool
    let looped :=
      indices.foldl (apiStreamBody catalog line) ⟨Buffer.fresh cells, 0⟩
    looped.streamBuf.Holds v3ApiStreamBufferSize (records.map ndjsonLine) ∧
    looped.lastId = apiLastId records := by
  induction indices using List.reverseRecOn with
  | nil => exact ⟨Buffer.holds_fresh (by decide) cells, rfl⟩
  | append_singleton earlier index induction =>
      intro records looped
      have visited := induction fun other member =>
        inside other (List.mem_append_left _ member)
      have isLooped :
          looped =
            apiStreamBody catalog line
              (earlier.foldl (apiStreamBody catalog line)
                ⟨Buffer.fresh cells, 0⟩)
              index := by
        simp only [looped, List.foldl_append, List.foldl_cons, List.foldl_nil]
      have isRecords :
          records = earlier.map catalog.pool ++ [catalog.pool index] := by
        simp only [records, List.map_append, List.map_cons, List.map_nil]
      have fits := ndjsonLine_length_lt (catalog.pool index)
      have next :=
        visited.1.collect
          (printed lineSize 0 (ndjsonLine (catalog.pool index)) (line index))
          (ndjsonLine_length_pos (catalog.pool index))
          (Nat.lt_trans fits (by decide))
      rw [printed_listed fits] at next
      rw [isLooped, isRecords, apiStreamBody_eq line _ (inside index (by simp))]
      refine ⟨?_, ?_⟩
      · rw [List.map_append]
        exact next
      · simp only [apiLastId, List.foldl_append, List.foldl_cons,
          List.foldl_nil]

/--
For every catalog and every cursor, the chunks given to the sink make up the
lines of the records of the page, in their order; each chunk consists of whole
lines and is shorter than the stream buffer.  No record has a line that the
line array cuts, and nothing is written behind the stream buffer.
-/
theorem v3ApiStreamCatalogNdjson_wholeLines
    (catalog : CatalogPool) (cursor : ApiCursor) (cells : Nat → UInt8)
    (line : Nat → Nat → UInt8) :
    let streamed :=
      v3ApiStreamCatalogNdjson true (some cursor) catalog cells line
    let lines := (apiStreamed catalog cursor).map ndjsonLine
    streamed.streamBuf.given.flatten = lines.flatten ∧
    (∀ chunk ∈ streamed.streamBuf.given,
      chunk.length ≤ v3ApiStreamBufferSize - 1) ∧
    (∃ groups : List (List (List UInt8)),
      groups.flatten = lines ∧
      streamed.streamBuf.given = groups.map List.flatten) ∧
    (∀ record, (ndjsonLine record).length < lineSize) ∧
    (∀ write ∈ streamed.streamBuf.writes,
      write.1 + write.2 ≤ v3ApiStreamBufferSize) ∧
    streamed.lastId = apiLastId (apiStreamed catalog cursor) := by
  intro streamed lines
  have inside : ∀ index ∈ apiIndices catalog cursor, index < catalog.count :=
    fun _ member => apiIndices_lt member
  have looped := apiStream_holds cells line inside
  rw [apiIndices_records] at looped
  rcases looped.1.finish with ⟨whole, short, inside⟩
  have whole :
      ∃ groups : List (List (List UInt8)),
        groups.flatten = lines ∧
        streamed.streamBuf.given = groups.map List.flatten :=
    whole
  refine ⟨?_, ?_, whole, ndjsonLine_length_lt, ?_, looped.2⟩
  · rcases whole with ⟨groups, isLines, isGiven⟩
    rw [isGiven, ← isLines, List.flatten_flatten]
  · intro chunk member
    exact Nat.le_pred_of_lt (short chunk member)
  · intro write member
    exact Nat.le_of_lt (inside write member)

end

end Endap.V3
