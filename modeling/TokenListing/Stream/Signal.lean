import TokenListing.Stream.Input

/-! # Signals of an input

How an input is cut into runs and where it is interrupted tells a patient reader nothing. What is
left are its signals: single bytes, failures and pauses. Whatever the size of its buffer, a patient
read takes signals from the front and leaves the others as they were.
-/
namespace TokenListing

/-- The least that can arrive from an input. -/
inductive Signal where
  | byte (byte : UInt8)
  | failure (failure : Failure)
  | pause
  deriving DecidableEq, Repr

namespace Input

/-- The signals of one item. An interruption is none. -/
def Item.signals : Item → List Signal
  | .data bytes => bytes.map .byte
  | .failure cause => if cause.kind = .interrupted then [] else [.failure cause]
  | .pause => [.pause]

def signals (input : Input) : List Signal :=
  input.items.flatMap Item.signals

theorem signals_dropSpent (items : List Item) :
    (dropSpent items).flatMap Item.signals = items.flatMap Item.signals := by
  fun_induction dropSpent items with
  | case1 rest ih => simpa [Item.signals] using ih
  | case2 => rfl

theorem signals_of_read_ok {input next : Input} {size : Nat} {bytes : List UInt8}
    (h : input.read size = (.ok bytes, next)) (nonempty : bytes ≠ []) :
    input.signals = bytes.map .byte ++ next.signals := by
  have kept := signals_dropSpent input.items
  unfold read at h
  unfold signals
  rw [← kept]
  split at h <;> simp only [Prod.mk.injEq, Except.ok.injEq, reduceCtorEq, false_and] at h
  · exact absurd h.1.symm nonempty
  next run rest heq =>
    obtain ⟨rfl, rfl⟩ := h
    simp only [heq, List.flatMap_cons, Item.signals, ← List.append_assoc, ← List.map_append,
      List.take_append_drop]
  · exact absurd h.1.symm nonempty

theorem signals_of_read_error {input next : Input} {size : Nat} {failure : Failure}
    (h : input.read size = (.error failure, next)) :
    input.signals = Item.signals (.failure failure) ++ next.signals := by
  have kept := signals_dropSpent input.items
  unfold read at h
  unfold signals
  rw [← kept]
  split at h <;> simp only [Prod.mk.injEq, Except.error.injEq, reduceCtorEq, false_and] at h
  next rest heq =>
    obtain ⟨rfl, rfl⟩ := h
    rw [heq, List.flatMap_cons]

theorem signals_of_readPatiently_ok {input next : Input} {size : Nat} {bytes : List UInt8}
    (h : input.readPatiently size = (.ok bytes, next)) (nonempty : bytes ≠ []) :
    input.signals = bytes.map .byte ++ next.signals := by
  fun_induction readPatiently input size with
  | case1 input found after hread =>
    simp only [Prod.mk.injEq, Except.ok.injEq] at h
    obtain ⟨rfl, rfl⟩ := h
    exact signals_of_read_ok hread nonempty
  | case2 input failure after hread interrupted ih =>
    rw [signals_of_read_error hread, ih h]
    simp [Item.signals, interrupted]
  | case3 => simp at h

theorem signals_of_readPatiently_error {input next : Input} {size : Nat} {failure : Failure}
    (h : input.readPatiently size = (.error failure, next)) :
    input.signals = .failure failure :: next.signals := by
  fun_induction readPatiently input size with
  | case1 => simp at h
  | case2 input failure after hread interrupted ih =>
    rw [signals_of_read_error hread, ih h]
    simp [Item.signals, interrupted]
  | case3 input failure after hread passed =>
    simp only [Prod.mk.injEq, Except.error.injEq] at h
    obtain ⟨rfl, rfl⟩ := h
    rw [signals_of_read_error hread]
    simp [Item.signals, passed]

end Input
end TokenListing
