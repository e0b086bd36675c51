import Endap.Library.ArrayList
import Mathlib.Data.List.DropRight

/-!
# Queues that keep the newest

A queue of bounded capacity that makes room for a new item by discarding its
oldest one.  Whatever is put and taken, the queue holds the newest of the
items that were put after the last one taken, and the items taken are among
those put, in their order and each at most once.

The queue may be kept in a ring of cells with a tail and a count.
-/

namespace Endap.Library.Newest

variable {Item : Type*}

/-! ## The queue -/

/-- A new item; a full queue discards its oldest one. -/
def put (capacity : Nat) (waiting : List Item) (item : Item) : List Item :=
  if waiting.length = capacity then waiting.tail ++ [item]
  else waiting ++ [item]

/-- The last items of a list, at most so many. -/
def newest (capacity : Nat) (items : List Item) : List Item :=
  items.drop (items.length - capacity)

/-- What a queue makes of the items that were put and taken. -/
structure Keeps (capacity : Nat) (given taken waiting : List Item)
    (discarded : Nat) : Prop where
  parts :
    ∃ earlier since,
      given = earlier ++ since ∧ taken.Sublist earlier ∧
      earlier.getLast? = taken.getLast? ∧
      waiting = newest capacity since
  counts : given.length = taken.length + waiting.length + discarded

theorem newest_length (capacity : Nat) (items : List Item) :
    (newest capacity items).length = min items.length capacity := by
  rw [newest, List.length_drop]
  omega

/-- What has been discarded does not matter to the newest items. -/
theorem newest_newest_append (capacity : Nat) (items more : List Item) :
    newest capacity (newest capacity items ++ more) =
      newest capacity (items ++ more) := by
  have parts :
      newest capacity items ++ more =
        (items ++ more).drop (items.length - capacity) := by
    rw [List.drop_append_of_le_length (Nat.sub_le _ _), newest]
  have excess :
      items.length - capacity +
          (items.length + more.length - (items.length - capacity) - capacity) =
        items.length + more.length - capacity := by
    omega
  rw [parts, newest, newest, List.drop_drop, List.length_drop,
    List.length_append, excess]

theorem newest_snoc
    {capacity : Nat} (positive : 0 < capacity) (items : List Item)
    (item : Item) :
    newest capacity (items ++ [item]) =
      put capacity (newest capacity items) item := by
  rw [put, newest_length, newest, newest, List.length_append,
    List.length_singleton]
  split
  · next full =>
      rw [List.tail_drop, List.drop_append_of_le_length (by omega)]
      congr 2
      omega
  · next room =>
      have few : items.length < capacity := by omega
      rw [Nat.sub_eq_zero_of_le few, Nat.sub_eq_zero_of_le (Nat.le_of_lt few)]
      rfl

/-- Nothing was put yet. -/
theorem keeps_nil (capacity : Nat) : Keeps capacity ([] : List Item) [] [] 0 :=
  ⟨⟨[], [], rfl, List.Sublist.refl _, rfl, List.drop_nil.symm⟩, rfl⟩

section

variable {capacity discarded : Nat} {given taken waiting : List Item}

theorem Keeps.length_le
    (keeps : Keeps capacity given taken waiting discarded) :
    waiting.length ≤ capacity := by
  rcases keeps.parts with ⟨earlier, since, -, -, -, rfl⟩
  rw [newest_length]
  exact Nat.min_le_right _ _

/-- An item is put. -/
theorem Keeps.put
    (positive : 0 < capacity)
    (keeps : Keeps capacity given taken waiting discarded) (item : Item) :
    Keeps capacity (given ++ [item]) taken
      (Newest.put capacity waiting item)
      (if waiting.length = capacity then discarded + 1 else discarded) := by
  have counts := keeps.counts
  rcases keeps.parts with
    ⟨earlier, since, rfl, sublist, last, isWaiting⟩
  constructor
  · refine
      ⟨earlier, since ++ [item], List.append_assoc .., sublist, last, ?_⟩
    rw [newest_snoc positive, isWaiting]
  · rw [Newest.put]
    split
    · next full =>
        simp only [List.length_append, List.length_tail,
          List.length_singleton] at counts ⊢
        omega
    · simp only [List.length_append, List.length_singleton] at counts ⊢
      omega

/-- The oldest items are taken. -/
theorem Keeps.take
    (keeps : Keeps capacity given taken waiting discarded) (count : Nat) :
    Keeps capacity given (taken ++ waiting.take count)
      (waiting.drop count) discarded := by
  have counts := keeps.counts
  rcases keeps.parts with
    ⟨earlier, since, isGiven, sublist, last, isWaiting⟩
  have lengths :
      (waiting.take count).length + (waiting.drop count).length =
        waiting.length := by
    rw [← List.length_append, List.take_append_drop]
  constructor
  · cases isBatch : waiting.take count with
    | nil =>
        have rest : waiting.drop count = waiting := by
          rw [← List.nil_append (waiting.drop count), ← isBatch,
            List.take_append_drop]
        rw [List.append_nil, rest]
        exact ⟨earlier, since, isGiven, sublist, last, isWaiting⟩
    | cons item rest =>
        have isSince :
            since =
              since.take (since.length - capacity) ++ item :: rest ++
                waiting.drop count := by
          rw [← isBatch, List.append_assoc, List.take_append_drop,
            isWaiting, newest, List.take_append_drop]
        refine
          ⟨earlier ++ since.take (since.length - capacity) ++ item :: rest,
            waiting.drop count, ?_, ?_, ?_, ?_⟩
        · rw [isGiven]
          conv_lhs => rw [isSince]
          simp only [List.append_assoc]
        · exact
            (sublist.trans (List.sublist_append_left _ _)).append
              (List.Sublist.refl _)
        · simp only [List.getLast?_append, List.getLast?_cons, Option.some_or]
        · rw [newest, Nat.sub_eq_zero_of_le, List.drop_zero]
          have room := keeps.length_le
          rw [List.length_drop]
          omega
  · rw [List.length_append]
    omega

end

/-! ## Rings -/

/-- The items in a ring of cells, from the tail on. -/
def ringed (size : Nat) (cells : Nat → Item) (tail count : Nat) : List Item :=
  ArrayList.listed (fun distance => cells ((tail + distance) % size)) count

@[simp]
theorem ringed_length
    (size : Nat) (cells : Nat → Item) (tail count : Nat) :
    (ringed size cells tail count).length = count :=
  ArrayList.listed_length _ _

/-- Writing the cell behind the last item appends. -/
theorem ringed_push
    {size tail count : Nat} (room : count < size)
    (cells : Nat → Item) (item : Item) :
    ringed size
        (Function.update cells ((tail + count) % size) item) tail
        (count + 1) =
      ringed size cells tail count ++ [item] := by
  rw [ringed, ArrayList.listed_succ, Function.update_self]
  congr 1
  apply ArrayList.listed_congr
  intro distance inside
  refine Function.update_of_ne ?_ _ _
  intro same
  have round : (tail + count - (tail + distance)) % size = 0 :=
    Nat.sub_mod_eq_zero_of_mod_eq same.symm
  rw [Nat.add_sub_add_left, Nat.mod_eq_of_lt (by omega)] at round
  omega

/-- Moving the tail takes the oldest item. -/
theorem ringed_pop
    (size : Nat) (cells : Nat → Item) (tail count : Nat) :
    ringed size cells tail (count + 1) =
      cells (tail % size) ::
        ringed size cells ((tail + 1) % size) count := by
  rw [ringed, ArrayList.listed, List.range_succ_eq_map, List.map_cons,
    List.map_map, Nat.add_zero]
  congr 1
  apply List.map_congr_left
  intro distance _
  rw [Function.comp_apply, Nat.mod_add_mod]
  congr 2
  omega

/-- In a full ring the cell of the oldest item takes the new one. -/
theorem ringed_overwrite
    {size : Nat} (positive : 0 < size) (cells : Nat → Item) (tail : Nat)
    (item : Item) :
    ringed size (Function.update cells (tail % size) item)
        ((tail + 1) % size) size =
      (ringed size cells tail size).tail ++ [item] := by
  cases size with
  | zero => exact absurd positive (Nat.lt_irrefl 0)
  | succ rest =>
      have around :
          ((tail + 1) % (rest + 1) + rest) % (rest + 1) =
            tail % (rest + 1) := by
        rw [Nat.mod_add_mod, Nat.add_assoc, Nat.add_comm 1 rest,
          Nat.add_mod_right]
      have pushed :=
        @ringed_push _ (rest + 1) ((tail + 1) % (rest + 1)) rest
          (Nat.lt_succ_self rest) cells item
      rw [around] at pushed
      rw [pushed, ringed_pop, List.tail_cons]

/-- A ring after its oldest items were taken. -/
theorem ringed_drop
    (size : Nat) (cells : Nat → Item) {tail count : Nat}
    (fits : tail < size) {taken : Nat} (few : taken ≤ count) :
    (ringed size cells tail count).drop taken =
      ringed size cells ((tail + taken) % size) (count - taken) := by
  induction taken generalizing tail count with
  | zero => rw [List.drop_zero, Nat.add_zero, Nat.mod_eq_of_lt fits]; rfl
  | succ taken induction =>
      cases count with
      | zero => exact absurd few (Nat.not_succ_le_zero taken)
      | succ count =>
          rw [ringed_pop, List.drop_succ_cons,
            induction (Nat.mod_lt _ (Nat.zero_lt_of_lt fits))
              (Nat.le_of_succ_le_succ few),
            Nat.mod_add_mod, Nat.add_right_comm, Nat.add_assoc,
            Nat.add_sub_add_right]

end Endap.Library.Newest
