import Mathlib.Data.List.Chain

/-!
# Delimited streams

A stream carries bodies between an opening and a closing delimiter.  The
receiver below reads one symbol at a time: an opening delimiter discards what
was being collected and starts an empty body, a closing delimiter delivers
the body collected so far, and every other symbol is collected or, outside a
body, skipped.  It has no size limit; a bounded receiver is related to it by
truncation.

Two facts are proved for every alphabet with two different delimiters.  On a
stream of framed bodies the receiver delivers exactly the bodies, and on an
arbitrary stream everything it is collecting or delivers stands between two
delimiters of that stream.
-/

namespace Endap.Library.Delimited

variable {Symbol : Type*} [DecidableEq Symbol]

/-- A body contains neither delimiter. -/
def Plain (opening closing : Symbol) (body : List Symbol) : Prop :=
  opening ∉ body ∧ closing ∉ body

omit [DecidableEq Symbol] in
theorem plain_nil (opening closing : Symbol) : Plain opening closing [] := by
  simp [Plain]

omit [DecidableEq Symbol] in
theorem Plain.snoc
    {opening closing symbol : Symbol} {body : List Symbol}
    (plain : Plain opening closing body)
    (notOpening : symbol ≠ opening)
    (notClosing : symbol ≠ closing) :
    Plain opening closing (body ++ [symbol]) := by
  constructor
  · simpa [plain.1] using notOpening.symm
  · simpa [plain.2] using notClosing.symm

/-- One body with its two delimiters. -/
def enclose (opening closing : Symbol) (body : List Symbol) : List Symbol :=
  opening :: (body ++ [closing])

/-- The stream that carries a list of bodies. -/
def stream (opening closing : Symbol) (bodies : List (List Symbol)) :
    List Symbol :=
  (bodies.map (enclose opening closing)).flatten

/--
Read one symbol.  The state is the body being collected, if any; the second
component is the body delivered by this symbol, if any.
-/
def receive (opening closing : Symbol) :
    Option (List Symbol) → Symbol → Option (List Symbol) × Option (List Symbol)
  | collecting, symbol =>
      if symbol = opening then (some [], none)
      else
        match collecting with
        | none => (none, none)
        | some body =>
            if symbol = closing then (none, some body)
            else (some (body ++ [symbol]), none)

/-- The state after a list of symbols. -/
def receiveAll (opening closing : Symbol) :
    Option (List Symbol) → List Symbol → Option (List Symbol)
  | collecting, [] => collecting
  | collecting, symbol :: rest =>
      receiveAll opening closing
        (receive opening closing collecting symbol).1 rest

/-- The bodies delivered while a list of symbols is read, in order. -/
def deliveries (opening closing : Symbol) :
    Option (List Symbol) → List Symbol → List (List Symbol)
  | _, [] => []
  | collecting, symbol :: rest =>
      (receive opening closing collecting symbol).2.toList ++
        deliveries opening closing
          (receive opening closing collecting symbol).1 rest

section

variable (opening closing : Symbol)

theorem receiveAll_append
    (collecting : Option (List Symbol)) (first second : List Symbol) :
    receiveAll opening closing collecting (first ++ second) =
      receiveAll opening closing
        (receiveAll opening closing collecting first) second := by
  induction first generalizing collecting with
  | nil => rfl
  | cons symbol rest induction => exact induction _

theorem deliveries_append
    (collecting : Option (List Symbol)) (first second : List Symbol) :
    deliveries opening closing collecting (first ++ second) =
      deliveries opening closing collecting first ++
        deliveries opening closing
          (receiveAll opening closing collecting first) second := by
  induction first generalizing collecting with
  | nil => rfl
  | cons symbol rest induction =>
      simp [deliveries, receiveAll, induction]

end

section

variable {opening closing : Symbol}

theorem receiveAll_plain
    (collected body : List Symbol)
    (plain : Plain opening closing body) :
    receiveAll opening closing (some collected) body =
        some (collected ++ body) ∧
    deliveries opening closing (some collected) body = [] := by
  induction body generalizing collected with
  | nil => simp [receiveAll, deliveries]
  | cons symbol rest induction =>
      obtain ⟨noOpening, noClosing⟩ := plain
      have notOpening : symbol ≠ opening := by
        rintro rfl
        simp at noOpening
      have notClosing : symbol ≠ closing := by
        rintro rfl
        simp at noClosing
      have restPlain : Plain opening closing rest :=
        ⟨fun member => noOpening (List.mem_cons_of_mem _ member),
          fun member => noClosing (List.mem_cons_of_mem _ member)⟩
      have tail := induction (collected ++ [symbol]) restPlain
      simpa [receiveAll, deliveries, receive, notOpening, notClosing] using tail

theorem deliveries_enclose
    (different : opening ≠ closing)
    (collecting : Option (List Symbol))
    (body : List Symbol)
    (plain : Plain opening closing body) :
    receiveAll opening closing collecting
        (enclose opening closing body) = none ∧
    deliveries opening closing collecting
      (enclose opening closing body) = [body] := by
  obtain ⟨collected, quiet⟩ := receiveAll_plain [] body plain
  constructor
  · simp only [enclose, receiveAll, receive, if_true]
    rw [receiveAll_append, collected]
    simp [receiveAll, receive, different.symm]
  · simp only [enclose, deliveries, receive, if_true]
    rw [deliveries_append, collected, quiet]
    simp [deliveries, receive, different.symm]

/-- On a stream of framed bodies the receiver delivers exactly the bodies. -/
theorem deliveries_stream
    (different : opening ≠ closing)
    (bodies : List (List Symbol))
    (plain : ∀ body ∈ bodies, Plain opening closing body) :
    deliveries opening closing none (stream opening closing bodies) =
      bodies := by
  induction bodies with
  | nil => rfl
  | cons body rest induction =>
      obtain ⟨idle, delivered⟩ :=
        deliveries_enclose different none body
          (plain body (List.mem_cons_self ..))
      have tail :=
        induction fun other member =>
          plain other (List.mem_cons_of_mem _ member)
      simp only [stream, List.map_cons, List.flatten_cons]
      rw [deliveries_append, idle, delivered]
      exact congrArg (body :: ·) tail

end

/-! ## Counting delimiters -/

/-- One if a body is being collected. -/
def pending (collecting : Option (List Symbol)) : Nat :=
  if collecting.isSome then 1 else 0

section

variable {opening closing : Symbol}

/--
Every delivery uses up an opening delimiter of its own: one that is read, or
the one that started the body being collected.
-/
theorem deliveries_count_opening
    (collecting : Option (List Symbol)) (symbols : List Symbol) :
    (deliveries opening closing collecting symbols).length +
        pending (receiveAll opening closing collecting symbols) ≤
      pending collecting + symbols.count opening := by
  induction symbols generalizing collecting with
  | nil => simp [deliveries, receiveAll]
  | cons symbol rest induction =>
      have tail := induction (receive opening closing collecting symbol).1
      have head :
          (receive opening closing collecting symbol).2.toList.length +
              pending (receive opening closing collecting symbol).1 ≤
            pending collecting + [symbol].count opening := by
        by_cases isOpening : symbol = opening
        · simp [receive, isOpening, pending]
        · cases collecting with
          | none => simp [receive, isOpening, pending]
          | some body =>
              by_cases isClosing : symbol = closing
              · subst symbol
                simp [receive, isOpening, pending]
              · simp [receive, isOpening, isClosing, pending]
      have split :
          (symbol :: rest).count opening =
            [symbol].count opening + rest.count opening := by
        rw [← List.count_append]
        rfl
      simp only [deliveries, receiveAll, List.length_append]
      omega

theorem count_enclose_opening
    (different : opening ≠ closing)
    {body : List Symbol} (plain : Plain opening closing body) :
    (enclose opening closing body).count opening = 1 := by
  simp [enclose, List.count_eq_zero_of_not_mem plain.1, different.symm]

theorem count_enclose_closing
    (different : opening ≠ closing)
    {body : List Symbol} (plain : Plain opening closing body) :
    (enclose opening closing body).count closing = 1 := by
  simp [enclose, List.count_eq_zero_of_not_mem plain.2, different]

/-- A stream has one delimiter of each kind for every body. -/
theorem count_stream
    (different : opening ≠ closing)
    (bodies : List (List Symbol))
    (plain : ∀ body ∈ bodies, Plain opening closing body) :
    (stream opening closing bodies).count opening = bodies.length ∧
    (stream opening closing bodies).count closing = bodies.length := by
  induction bodies with
  | nil => simp [stream]
  | cons body rest induction =>
      have bodyPlain := plain body (List.mem_cons_self ..)
      have tail :=
        induction fun other member =>
          plain other (List.mem_cons_of_mem _ member)
      have openings := count_enclose_opening different bodyPlain
      have closings := count_enclose_closing different bodyPlain
      simp only [stream, List.map_cons, List.flatten_cons,
        List.count_append, List.length_cons] at tail ⊢
      omega

/-- After a closing delimiter comes an opening one. -/
def Follows (opening closing left right : Symbol) : Prop :=
  left = closing → right = opening

omit [DecidableEq Symbol] in
theorem follows_plain
    {body : List Symbol} (noClosing : closing ∉ body) :
    List.IsChain (Follows opening closing) body := by
  induction body with
  | nil => exact List.IsChain.nil
  | cons symbol rest induction =>
      have tail :=
        induction fun member => noClosing (List.mem_cons_of_mem _ member)
      cases rest with
      | nil => exact List.IsChain.singleton _
      | cons next later =>
          refine List.IsChain.cons_cons ?_ tail
          intro equal
          exact (noClosing (by simp [equal])).elim

omit [DecidableEq Symbol] in
/-- In a stream of framed bodies a body starts right after each body. -/
theorem follows_stream
    (different : opening ≠ closing)
    (bodies : List (List Symbol))
    (plain : ∀ body ∈ bodies, Plain opening closing body) :
    List.IsChain (Follows opening closing)
      (stream opening closing bodies) := by
  induction bodies with
  | nil => exact List.IsChain.nil
  | cons body rest induction =>
      have bodyPlain := plain body (List.mem_cons_self ..)
      have tail :=
        induction fun other member =>
          plain other (List.mem_cons_of_mem _ member)
      have opened :
          List.IsChain (Follows opening closing) (opening :: body) := by
        apply follows_plain
        simp [different.symm, bodyPlain.2]
      have closed :
          List.IsChain (Follows opening closing)
            (enclose opening closing body) := by
        change
          List.IsChain (Follows opening closing)
            ((opening :: body) ++ [closing])
        rw [List.isChain_append]
        refine ⟨opened, List.IsChain.singleton _, ?_⟩
        intro last isLast next _ equal
        subst last
        have member := List.mem_of_mem_getLast? isLast
        simp [different.symm, bodyPlain.2] at member
      simp only [stream, List.map_cons, List.flatten_cons]
      rw [List.isChain_append]
      refine ⟨closed, tail, ?_⟩
      intro last _ next isNext _
      cases rest with
      | nil => simp at isNext
      | cons other later =>
          simp only [List.map_cons, List.flatten_cons, enclose,
            List.cons_append, List.head?_cons, Option.mem_some_iff]
            at isNext
          exact isNext.symm

end

/-! ## What is collected stands in the stream -/

/--
The body being collected is the part of the consumed stream after its last
opening delimiter.
-/
def Anchored (opening closing : Symbol)
    (consumed : List Symbol) (collecting : Option (List Symbol)) : Prop :=
  ∀ body, collecting = some body →
  Plain opening closing body ∧
  ∃ earlier, consumed = earlier ++ opening :: body

/-- The consumed stream contains the body between two delimiters. -/
def Contains (opening closing : Symbol) (consumed body : List Symbol) : Prop :=
  Plain opening closing body ∧
  ∃ earlier later, consumed = earlier ++ enclose opening closing body ++ later

section

variable {opening closing : Symbol}

omit [DecidableEq Symbol] in
theorem anchored_none (consumed : List Symbol) :
    Anchored opening closing consumed none := by
  intro body equal
  cases equal

omit [DecidableEq Symbol] in
theorem Contains.append
    {consumed body : List Symbol}
    (contained : Contains opening closing consumed body)
    (more : List Symbol) :
    Contains opening closing (consumed ++ more) body := by
  obtain ⟨plain, earlier, later, rfl⟩ := contained
  exact ⟨plain, earlier, later ++ more, by simp⟩

theorem receive_anchored
    {consumed : List Symbol}
    {collecting : Option (List Symbol)}
    (anchored : Anchored opening closing consumed collecting)
    (symbol : Symbol) :
    Anchored opening closing (consumed ++ [symbol])
        (receive opening closing collecting symbol).1 ∧
    ∀ body,
      (receive opening closing collecting symbol).2 = some body →
      Contains opening closing (consumed ++ [symbol]) body := by
  by_cases isOpening : symbol = opening
  · subst symbol
    constructor
    · intro body equal
      simp only [receive, if_true, Option.some.injEq] at equal
      subst body
      exact ⟨plain_nil _ _, consumed, rfl⟩
    · simp [receive]
  · cases collecting with
    | none =>
        constructor
        · simpa [receive, isOpening] using anchored_none _
        · simp [receive, isOpening]
    | some collected =>
        obtain ⟨plain, earlier, rfl⟩ := anchored collected rfl
        by_cases isClosing : symbol = closing
        · subst symbol
          constructor
          · simpa [receive, isOpening] using anchored_none _
          · intro body equal
            simp only [receive, isOpening, if_false, if_true,
              Option.some.injEq] at equal
            subst body
            exact ⟨plain, earlier, [], by simp [enclose]⟩
        · constructor
          · intro body equal
            simp only [receive, isOpening, isClosing, if_false,
              Option.some.injEq] at equal
            subst body
            exact ⟨plain.snoc isOpening isClosing, earlier, by simp⟩
          · simp [receive, isOpening, isClosing]

/-- A list of symbols keeps the anchoring. -/
theorem receiveAll_anchored
    {consumed : List Symbol}
    {collecting : Option (List Symbol)}
    (anchored : Anchored opening closing consumed collecting)
    (symbols : List Symbol) :
    Anchored opening closing (consumed ++ symbols)
      (receiveAll opening closing collecting symbols) := by
  induction symbols generalizing consumed collecting with
  | nil => simpa [receiveAll] using anchored
  | cons symbol rest induction =>
      have next := induction (receive_anchored anchored symbol).1
      simpa [receiveAll] using next

omit [DecidableEq Symbol] in
/-- What is being collected when a closing delimiter comes is contained. -/
theorem Anchored.contains
    {consumed body : List Symbol}
    (anchored : Anchored opening closing consumed (some body)) :
    Contains opening closing (consumed ++ [closing]) body := by
  obtain ⟨plain, earlier, rfl⟩ := anchored body rfl
  exact ⟨plain, earlier, [], by simp [enclose]⟩

end

end Endap.Library.Delimited
