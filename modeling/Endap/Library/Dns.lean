import Endap.Library.Format

/-!
# Messages of the domain name system

A message is a header with four counts, followed by as many questions and
records: the answers, the records of the authority and the additional ones.  A
name is a sequence of labels that ends at the root or goes on at an earlier
place of the message.

Every message is read back from its bytes, whatever follows them.
-/

namespace Endap.Library.Dns

/-! ## Names -/

/-- A label of a name. -/
abbrev Label := { bytes : List UInt8 // 0 < bytes.length ∧ bytes.length < 64 }

/-- Where a name ends, or where in the message it goes on. -/
inductive Ending where
  | root
  | pointer (offset : Nat) (inside : offset < 16384)

/-- A name. -/
structure Name where
  labels : List Label
  ending : Ending

def Label.write (label : Label) : List UInt8 :=
  UInt8.ofNat label.1.length :: label.1

def Ending.write : Ending → List UInt8
  | .root => [0]
  | .pointer offset _ =>
      [UInt8.ofNat (192 + offset / 256), UInt8.ofNat offset]

def Name.write (name : Name) : List UInt8 :=
  name.labels.flatMap Label.write ++ name.ending.write

/-- Read a name of fewer labels than the fuel. -/
def readName : Nat → List UInt8 → Option (Name × List UInt8)
  | 0, _ => none
  | _ + 1, [] => none
  | fuel + 1, first :: bytes =>
      if isRoot : first.toNat = 0 then
        some ({ labels := [], ending := .root }, bytes)
      else if short : first.toNat < 64 then
        if enough : first.toNat ≤ bytes.length then
          (readName fuel (bytes.drop first.toNat)).map fun name =>
            let label : Label :=
              ⟨bytes.take first.toNat, by
                rw [List.length_take_of_le enough]
                exact ⟨Nat.pos_of_ne_zero isRoot, short⟩⟩
            ({ name.1 with labels := label :: name.1.labels }, name.2)
        else none
      else if 192 ≤ first.toNat then
        match bytes with
        | [] => none
        | second :: bytes =>
            let ending :=
              Ending.pointer ((first.toNat - 192) * 256 + second.toNat) (by
                have high := first.toNat_lt
                have low := second.toNat_lt
                omega)
            some ({ labels := [], ending := ending }, bytes)
      else none

theorem Label.length_toNat (label : Label) :
    (UInt8.ofNat label.1.length).toNat = label.1.length :=
  UInt8.toNat_ofNat_of_lt' (Nat.lt_trans label.2.2 (by decide))

theorem readName_write (name : Name) (rest : List UInt8) {fuel : Nat}
    (enough : name.labels.length < fuel) :
    readName fuel (name.write ++ rest) = some (name, rest) := by
  rcases name with ⟨labels, ending⟩
  induction labels generalizing fuel with
  | nil =>
      match fuel with
      | 0 => cases enough
      | fuel + 1 =>
          cases ending with
          | root => rfl
          | pointer offset inside =>
              have high :
                  (UInt8.ofNat (192 + offset / 256)).toNat =
                    192 + offset / 256 :=
                UInt8.toNat_ofNat_of_lt' (by show _ < 256; omega)
              have notRoot :
                  ¬ (UInt8.ofNat (192 + offset / 256)).toNat = 0 := by omega
              have notShort :
                  ¬ (UInt8.ofNat (192 + offset / 256)).toNat < 64 := by omega
              have isPointer :
                  192 ≤ (UInt8.ofNat (192 + offset / 256)).toNat := by omega
              have offsets :
                  ((UInt8.ofNat (192 + offset / 256)).toNat - 192) * 256 +
                      (UInt8.ofNat offset).toNat =
                    offset := by
                rw [high, UInt8.toNat_ofNat']
                omega
              simp only [Name.write, Ending.write, List.flatMap_nil,
                List.nil_append, List.cons_append, readName, dif_neg notRoot,
                dif_neg notShort, if_pos isPointer, offsets]
  | cons label labels induction =>
      match fuel with
      | 0 => cases enough
      | fuel + 1 =>
          have length := label.length_toNat
          have notRoot : ¬ (UInt8.ofNat label.1.length).toNat = 0 := by
            have positive := label.2.1
            omega
          have short : (UInt8.ofNat label.1.length).toNat < 64 := by
            have bound := label.2.2
            omega
          have fits :
              (UInt8.ofNat label.1.length).toNat ≤
                (label.1 ++
                    (Name.write { labels := labels, ending := ending } ++
                      rest)).length := by
            rw [length, List.length_append]
            exact Nat.le_add_right _ _
          have later := induction (Nat.lt_of_succ_lt_succ enough)
          have bytes :
              Name.write { labels := label :: labels, ending := ending } ++
                  rest =
                UInt8.ofNat label.1.length ::
                  (label.1 ++
                    (Name.write { labels := labels, ending := ending } ++
                      rest)) := by
            simp only [Name.write, Label.write, List.flatMap_cons,
              List.cons_append, List.append_assoc]
          rw [bytes, readName, dif_neg notRoot, dif_pos short, dif_pos fits]
          simp only [length, List.drop_left, List.take_left, later,
            Option.map_some]

theorem Name.labels_lt_length (name : Name) (rest : List UInt8) :
    name.labels.length < (name.write ++ rest).length := by
  rcases name with ⟨labels, ending⟩
  have endingLength : 0 < ending.write.length := by
    cases ending with
    | root => exact Nat.one_pos
    | pointer offset inside => exact Nat.zero_lt_two
  have labelsLength : labels.length ≤ (labels.flatMap Label.write).length := by
    induction labels with
    | nil => exact Nat.le_refl 0
    | cons label labels induction =>
        rw [List.flatMap_cons, List.length_append, List.length_cons,
          Label.write, List.length_cons]
        omega
  simp only [Name.write, List.length_append]
  omega

/-- The format of names. -/
def nameFormat : Format Name where
  write := Name.write
  read bytes := readName bytes.length bytes
  read_write name rest := readName_write name rest (name.labels_lt_length rest)

/-! ## Questions and records -/

/-- Integers are sent with the most significant byte first. -/
def u16 : Layout UInt16 := Layout.u16.reversed

def u32 : Layout UInt32 := Layout.u32.reversed

structure Question where
  name : Name
  kind : UInt16
  category : UInt16

def questionFormat : Format Question :=
  (nameFormat.andThen (u16.andThen u16).format).retype
    (fun (name, kind, category) =>
      { name := name, kind := kind, category := category })
    (fun question => (question.name, question.kind, question.category))
    (fun _ => rfl)

/-- The data of a record. -/
abbrev RecordData := { data : List UInt8 // data.length < 65536 }

/-- The data follow their length. -/
def dataFormat : Format RecordData :=
  Format.dependent u16.format (fun data => UInt16.ofNat data.1.length)
    fun length =>
      (Format.bytes length.toNat).retype
        (fun data =>
          ⟨⟨data.1, by rw [data.2]; exact length.toNat_lt⟩, by
            rw [data.2, UInt16.ofNat_toNat]⟩)
        (fun data =>
          ⟨data.1.1, by
            have same := congrArg UInt16.toNat data.2
            rwa [UInt16.toNat_ofNat_of_lt' data.1.2] at same⟩)
        (fun _ => rfl)

structure Record where
  name : Name
  kind : UInt16
  category : UInt16
  ttl : UInt32
  data : RecordData

def recordFormat : Format Record :=
  (nameFormat.andThen
      ((u16.andThen (u16.andThen u32)).format.andThen dataFormat)).retype
    (fun (name, (kind, category, ttl), data) =>
      { name := name
        kind := kind
        category := category
        ttl := ttl
        data := data })
    (fun record =>
      (record.name, (record.kind, record.category, record.ttl), record.data))
    (fun _ => rfl)

/-! ## Messages -/

/-- The header: the id, the flags and the four counts. -/
structure Header where
  id : UInt16
  flags : UInt16
  questionCount : UInt16
  answerCount : UInt16
  authorityCount : UInt16
  additionalCount : UInt16

def headerLayout : Layout Header :=
  (u16.andThen
      (u16.andThen (u16.andThen (u16.andThen (u16.andThen u16))))).retype
    (fun (id, flags, questions, answers, authority, additional) =>
      { id := id
        flags := flags
        questionCount := questions
        answerCount := answers
        authorityCount := authority
        additionalCount := additional })
    (fun header =>
      (header.id, header.flags, header.questionCount, header.answerCount,
        header.authorityCount, header.additionalCount))
    (fun _ => rfl)

/-- A list whose length a count of the header can hold. -/
abbrev Counted (Value : Type) :=
  { values : List Value // values.length < 65536 }

def Counted.count {Value : Type} (values : Counted Value) : UInt16 :=
  UInt16.ofNat values.1.length

/-- A message. -/
structure Message where
  id : UInt16
  flags : UInt16
  questions : Counted Question
  answers : Counted Record
  authority : Counted Record
  additional : Counted Record

def Message.header (message : Message) : Header where
  id := message.id
  flags := message.flags
  questionCount := message.questions.count
  answerCount := message.answers.count
  authorityCount := message.authority.count
  additionalCount := message.additional.count

/-- As many values as a count says. -/
def countedFormat {Value : Type} (format : Format Value) (count : UInt16) :
    Format { values : Counted Value // values.count = count } :=
  (format.list count.toNat).retype
    (fun values =>
      ⟨⟨values.1, by rw [values.2]; exact count.toNat_lt⟩, by
        rw [Counted.count, values.2, UInt16.ofNat_toNat]⟩)
    (fun values =>
      ⟨values.1.1, by
        have same := congrArg UInt16.toNat values.2
        rwa [Counted.count, UInt16.toNat_ofNat_of_lt' values.1.2] at same⟩)
    (fun _ => rfl)

/-- What follows a header. -/
def sectionsFormat (header : Header) :
    Format { message : Message // message.header = header } :=
  ((countedFormat questionFormat header.questionCount).andThen
      ((countedFormat recordFormat header.answerCount).andThen
        ((countedFormat recordFormat header.authorityCount).andThen
          (countedFormat recordFormat header.additionalCount)))).retype
    (fun (questions, answers, authority, additional) =>
      ⟨{ id := header.id
         flags := header.flags
         questions := questions.1
         answers := answers.1
         authority := authority.1
         additional := additional.1 }, by
        rw [Message.header, questions.2, answers.2, authority.2, additional.2]⟩)
    (fun message =>
      (⟨message.1.questions, congrArg Header.questionCount message.2⟩,
        ⟨message.1.answers, congrArg Header.answerCount message.2⟩,
        ⟨message.1.authority, congrArg Header.authorityCount message.2⟩,
        ⟨message.1.additional, congrArg Header.additionalCount message.2⟩))
    (fun message => by
      rcases message with ⟨message, rfl⟩
      rfl)

/-- The format of messages. -/
def messageFormat : Format Message :=
  Format.dependent headerLayout.format Message.header sectionsFormat

end Endap.Library.Dns
