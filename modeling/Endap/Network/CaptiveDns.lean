import Endap.Library.Dns

/-!
# The name server of the captive portal

While the device is its own access point it answers every query with its own
address.  The reply is made in place: the request is copied, its flags and its
number of answers are overwritten, and one record is appended behind all
bytes of the request.

The record is thus the last one of the reply, while the counts of the records
that came with the query stay as they were.  It is read as the answer when the
query had no records; a query that has some, such as one with the options of
an extended client, gets its own first record back as the answer.
-/

namespace Endap.Network

open Endap.Library
open Endap.Library.Dns

def dnsBuf : Nat := 512

/-- The record that is appended: the name at the beginning of the first
question has the address 192.168.4.1. -/
def redirectBytes : List UInt8 :=
  [0xC0, 0x0C, 0x00, 0x01, 0x00, 0x01, 0x00, 0x00, 0x00, 0x3C, 0x00, 0x04,
    192, 168, 4, 1]

/-- One round of the loop of `dns_task`: what is sent for a datagram.  The
part of the datagram that does not fit the buffer is lost. -/
def dnsTaskRound (datagram : List UInt8) : Option (List UInt8) :=
  let rxBuffer := datagram.take dnsBuf
  let r := rxBuffer.length
  if r < 12 then none
  else
    let response := (((rxBuffer.set 2 0x81).set 3 0x80).set 6 0x00).set 7 0x01
    if dnsBuf ≤ r + 16 then none
    else some (response ++ redirectBytes)

/-! ## The reply as a message -/

/-- The record that is appended. -/
def redirect : Record where
  name := { labels := [], ending := .pointer 12 (by decide) }
  kind := 1
  category := 1
  ttl := 60
  data := ⟨[192, 168, 4, 1], by decide⟩

theorem redirect_write : recordFormat.write redirect = redirectBytes := by
  decide

/-- The records of a message in order. -/
def records (message : Message) : List Record :=
  message.answers.1 ++ (message.authority.1 ++ message.additional.1)

/-- The records of the reply in order. -/
def repliedRecords (query : Message) : List Record :=
  records query ++ [redirect]

/-- What a client reads: the counts decide which records stand where. -/
def captiveAnswer (query : Message) : Message :=
  let later := (repliedRecords query).drop 1
  { id := query.id
    flags := 0x8180
    questions := query.questions
    answers :=
      ⟨(repliedRecords query).take 1,
        (List.length_take_le _ _).trans_lt (by decide)⟩
    authority :=
      ⟨later.take query.authority.1.length,
        (List.length_take_le _ _).trans_lt query.authority.2⟩
    additional :=
      ⟨(later.drop query.authority.1.length).take
          query.additional.1.length,
        (List.length_take_le _ _).trans_lt query.additional.2⟩ }

/-- The records that no count covers. -/
def surplus (query : Message) : List Record :=
  (((repliedRecords query).drop 1).drop query.authority.1.length).drop
    query.additional.1.length

theorem sectionsFormat_write {header : Header}
    (message : { message : Message // message.header = header }) :
    (sectionsFormat header).write message =
      message.1.questions.1.flatMap questionFormat.write ++
        (message.1.answers.1.flatMap recordFormat.write ++
          (message.1.authority.1.flatMap recordFormat.write ++
            message.1.additional.1.flatMap recordFormat.write)) :=
  rfl

theorem messageFormat_write (message : Message) :
    messageFormat.write message =
      headerLayout.write message.header ++
        (message.questions.1.flatMap questionFormat.write ++
          (records message).flatMap recordFormat.write) := by
  rw [records, List.flatMap_append, List.flatMap_append]
  exact
    congrArg (headerLayout.write message.header ++ ·)
      (sectionsFormat_write ⟨message, rfl⟩)

theorem headerLayout_write (header : Header) :
    headerLayout.write header =
      [UInt8.ofNat (header.id.toNat / 256), UInt8.ofNat header.id.toNat,
        UInt8.ofNat (header.flags.toNat / 256),
        UInt8.ofNat header.flags.toNat,
        UInt8.ofNat (header.questionCount.toNat / 256),
        UInt8.ofNat header.questionCount.toNat,
        UInt8.ofNat (header.answerCount.toNat / 256),
        UInt8.ofNat header.answerCount.toNat,
        UInt8.ofNat (header.authorityCount.toNat / 256),
        UInt8.ofNat header.authorityCount.toNat,
        UInt8.ofNat (header.additionalCount.toNat / 256),
        UInt8.ofNat header.additionalCount.toNat] :=
  rfl

/-- The header after the bytes that `dns_task` overwrites. -/
theorem headerLayout_set (header : Header) (rest : List UInt8) :
    ((((headerLayout.write header ++ rest).set 2 0x81).set 3 0x80).set 6
          0x00).set 7 0x01 =
      headerLayout.write
          { header with
            flags := 0x8180
            answerCount := 1 } ++
        rest := by
  have flagsHigh :
      UInt8.ofNat ((0x8180 : UInt16).toNat / 256) = 0x81 := by decide
  have flagsLow : UInt8.ofNat (0x8180 : UInt16).toNat = 0x80 := by decide
  have oneHigh : UInt8.ofNat ((1 : UInt16).toNat / 256) = 0x00 := by decide
  have oneLow : UInt8.ofNat (1 : UInt16).toNat = 0x01 := by decide
  rw [headerLayout_write, headerLayout_write]
  dsimp only
  rw [flagsHigh, flagsLow, oneHigh, oneLow]
  rfl

theorem repliedRecords_length (query : Message) :
    (repliedRecords query).length =
      query.answers.1.length + query.authority.1.length +
        query.additional.1.length + 1 := by
  simp only [repliedRecords, records, List.length_append,
    List.length_singleton, Nat.add_assoc]

theorem captiveAnswer_header (query : Message) :
    (captiveAnswer query).header =
      { query.header with
        flags := 0x8180
        answerCount := 1 } := by
  have length := repliedRecords_length query
  have answers : ((repliedRecords query).take 1).length = 1 := by
    rw [List.length_take]
    omega
  have authority :
      (((repliedRecords query).drop 1).take query.authority.1.length).length =
        query.authority.1.length := by
    rw [List.length_take, List.length_drop]
    omega
  have additional :
      ((((repliedRecords query).drop 1).drop query.authority.1.length).take
          query.additional.1.length).length =
        query.additional.1.length := by
    rw [List.length_take, List.length_drop, List.length_drop]
    omega
  simp only [captiveAnswer, Message.header, Counted.count, answers, authority,
    additional]
  rfl

theorem captiveAnswer_records (query : Message) :
    records (captiveAnswer query) ++ surplus query =
      repliedRecords query := by
  simp only [records, captiveAnswer, surplus, List.append_assoc]
  rw [List.take_append_drop, List.take_append_drop, List.take_append_drop]

theorem dnsTaskRound_write
    {query : Message} (fits : (messageFormat.write query).length < 496) :
    dnsTaskRound (messageFormat.write query) =
      some
        (messageFormat.write (captiveAnswer query) ++
          (surplus query).flatMap recordFormat.write) := by
  have size := headerLayout.write_length query.header
  have isTwelve : headerLayout.size = 12 := rfl
  have whole :
      (messageFormat.write query).take dnsBuf = messageFormat.write query :=
    List.take_of_length_le (fits.le.trans (by decide))
  have long : ¬ (messageFormat.write query).length < 12 := by
    rw [messageFormat_write, List.length_append]
    omega
  have short : ¬ dnsBuf ≤ (messageFormat.write query).length + 16 := by
    show ¬ 512 ≤ _
    omega
  simp only [dnsTaskRound, whole, if_neg long, if_neg short]
  rw [messageFormat_write query, messageFormat_write (captiveAnswer query)]
  rw [headerLayout_set, captiveAnswer_header, ← redirect_write]
  have whole := captiveAnswer_records query
  rw [repliedRecords] at whole
  have bytes := congrArg (List.flatMap recordFormat.write) whole
  rw [List.flatMap_append, List.flatMap_append, List.flatMap_singleton] at bytes
  rw [List.append_assoc, List.append_assoc, List.append_assoc,
    List.append_assoc, bytes]
  rfl

theorem dnsTaskRound_isSome (datagram : List UInt8) :
    (dnsTaskRound datagram).isSome ↔
    12 ≤ datagram.length ∧ datagram.length < 496 := by
  have size : dnsBuf = 512 := rfl
  simp only [dnsTaskRound, List.length_take, size]
  split_ifs with short long
  · simp only [Option.isSome_none, Bool.false_eq_true, false_iff]
    omega
  · simp only [Option.isSome_none, Bool.false_eq_true, false_iff]
    omega
  · simp only [Option.isSome_some, true_iff]
    omega

theorem captiveAnswer_redirects (query : Message) :
    (captiveAnswer query).answers.1 = [redirect] ↔
    ∀ record ∈ (records query).head?, record = redirect := by
  have first :
      (captiveAnswer query).answers.1 =
        (records query ++ [redirect]).take 1 := rfl
  rw [first]
  cases records query with
  | _ => simp

/--
The reply to a query reads as a message with the id and the questions of the
query, in which the records of the query, followed by that of the device, are
distributed over the sections by the counts of the query, except that one
record is the answer.  The address of the device is read as the answer exactly
when the query carries no record, or one like it.  Exactly the datagrams from
12 to 495 bytes are answered.
-/
theorem query_answered (query : Message) :
    ((dnsTaskRound (messageFormat.write query)).isSome ↔
        (messageFormat.write query).length < 496) ∧
      (∀ reply ∈ dnsTaskRound (messageFormat.write query),
        messageFormat.read reply =
          some
            (captiveAnswer query, (surplus query).flatMap recordFormat.write)) ∧
        ((captiveAnswer query).answers.1 = [redirect] ↔
        ∀ record ∈ (records query).head?, record = redirect) := by
  refine ⟨?_, ?_, captiveAnswer_redirects query⟩
  · rw [dnsTaskRound_isSome]
    refine ⟨And.right, fun short => ⟨?_, short⟩⟩
    rw [messageFormat_write, List.length_append, headerLayout.write_length]
    exact Nat.le_add_right 12 _
  · intro reply isReply
    have fits : (messageFormat.write query).length < 496 :=
      ((dnsTaskRound_isSome _).mp (Option.isSome_of_mem isReply)).2
    rw [dnsTaskRound_write fits] at isReply
    cases isReply
    exact messageFormat.read_write _ _

end Endap.Network
