import TokenListing.Proofs.Calls
import TokenListing.Proofs.Stream.Failing

/-! # What reading takes from an input

A read takes from an input the bytes that it gives and no others, whether it is interrupted, fails
or comes to a pause. A patient read is a loop, and every round of it that leads to another one uses
up an item.
-/
namespace TokenListing.Input

/-- A round of a patient read. An interruption leads to another one. -/
def attempt (size : Nat) (input : Input) : Input ⊕ (Except Failure (List UInt8) × Input) :=
  match input.read size with
  | (.ok bytes, next) => .inr (.ok bytes, next)
  | (.error failure, next) =>
    if failure.kind = .interrupted then .inl next else .inr (.error failure, next)

theorem rounds_readPatiently (input : Input) (size : Nat) :
    ∃ count ≤ input.items.length + 1,
      Rounds (attempt size) input count (input.readPatiently size) := by
  fun_induction readPatiently input size with
  | case1 input bytes next hread =>
    exact ⟨1, Nat.le_add_left _ _, .last (by rw [attempt, hread])⟩
  | case2 input failure next hread interrupted ih =>
    obtain ⟨count, few, later⟩ := ih
    have less := length_items_of_read_error hread
    refine ⟨count + 1, by omega, .more ?_ later⟩
    rw [attempt, hread]
    exact if_pos interrupted
  | case3 input failure next hread passed =>
    refine ⟨1, Nat.le_add_left _ _, .last ?_⟩
    rw [attempt, hread]
    exact if_neg passed

/-- The number of bytes that the items still hold, even those after a pause. -/
def bytesAhead (input : Input) : Nat :=
  (input.items.flatMap Item.bytes).length

theorem bytes_dropSpent (items : List Item) :
    (dropSpent items).flatMap Item.bytes = items.flatMap Item.bytes := by
  fun_induction dropSpent items with
  | case1 rest ih => simpa [Item.bytes] using ih
  | case2 => rfl

theorem bytesAhead_read {input next : Input} {size : Nat} {answer : Except Failure (List UInt8)}
    (h : input.read size = (answer, next)) :
    next.bytesAhead + (answer.toOption.getD []).length = input.bytesAhead := by
  have kept := bytes_dropSpent input.items
  unfold read at h
  unfold bytesAhead
  rw [← kept]
  split at h
  next ended =>
    cases h
    rw [ended]
    rfl
  next run rest data =>
    cases h
    have parts :=
      congrArg List.length (List.take_append_drop (min (input.limit.getD size) size) run)
    rw [List.length_append] at parts
    simp only [data, List.flatMap_cons, Item.bytes, List.length_append, Except.toOption,
      Option.getD_some]
    omega
  next failure rest failed =>
    cases h
    rw [failed]
    rfl
  next rest pause =>
    cases h
    rw [pause]
    rfl

theorem bytesAhead_readPatiently {input next : Input} {size : Nat}
    {answer : Except Failure (List UInt8)} (h : input.readPatiently size = (answer, next)) :
    next.bytesAhead + (answer.toOption.getD []).length = input.bytesAhead := by
  fun_induction readPatiently input size with
  | case1 input bytes after hread =>
    cases h
    exact bytesAhead_read hread
  | case2 input failure after hread interrupted ih =>
    rw [ih h]
    exact bytesAhead_read hread
  | case3 input failure after hread passed =>
    cases h
    exact bytesAhead_read hread

end TokenListing.Input
