import TokenListing.Proofs.Stream.Characters

/-! # Patient reads

A read brings no more bytes than its buffer holds. If the buffer and the limit of the input leave
room for a byte, a read that brings none has come to a pause or to the end of the input.
-/
namespace TokenListing.Input

theorem ne_nil_of_dropSpent {items rest : List Item} {run : List UInt8}
    (h : dropSpent items = .data run :: rest) : run ≠ [] := by
  fun_induction dropSpent items with
  | case1 rest ih => exact ih h
  | case2 items spent =>
    subst h
    intro empty
    exact spent rest (by rw [empty])

theorem limit_read (input : Input) (size : Nat) : (input.read size).2.limit = input.limit := by
  unfold read
  split <;> rfl

theorem length_of_read_ok {input next : Input} {size : Nat} {bytes : List UInt8}
    (h : input.read size = (.ok bytes, next)) : bytes.length ≤ size := by
  unfold read at h
  split at h <;> cases h
  · exact Nat.zero_le _
  · rw [List.length_take]
    exact Nat.le_trans (Nat.min_le_left _ _) (Nat.min_le_right _ _)
  · exact Nat.zero_le _

theorem nextByte_of_read_nil {input next : Input} {size : Nat} (room : 0 < size)
    (unblocked : input.limit ≠ some 0) (h : input.read size = (.ok [], next)) :
    Signal.nextByte input.signals = (.ok none, []) := by
  have kept := signals_dropSpent input.items
  unfold read at h
  unfold signals
  rw [← kept]
  split at h
  next heq =>
    rw [heq]
    rfl
  next run rest heq =>
    have some_bytes := ne_nil_of_dropSpent heq
    have count : 0 < min (input.limit.getD size) size := by
      cases hl : input.limit with
      | none => simpa using room
      | some limit =>
        have : limit ≠ 0 := fun zero => unblocked (by rw [hl, zero])
        simp only [Option.getD_some]
        omega
    have taken := congrArg (fun p : Except Failure (List UInt8) × Input => p.1) h
    simp only [Except.ok.injEq, List.take_eq_nil_iff] at taken
    rcases taken with zero | empty
    · omega
    · exact absurd empty some_bytes
  next => cases h
  next rest heq =>
    rw [heq]
    rfl

theorem limit_readPatiently (input : Input) (size : Nat) :
    (input.readPatiently size).2.limit = input.limit := by
  fun_induction readPatiently input size with
  | case1 input bytes next hread => rw [← limit_read input size, hread]
  | case2 input failure next hread interrupted ih => rw [ih, ← limit_read input size, hread]
  | case3 input failure next hread passed => rw [← limit_read input size, hread]

theorem length_of_readPatiently_ok {input next : Input} {size : Nat} {bytes : List UInt8}
    (h : input.readPatiently size = (.ok bytes, next)) : bytes.length ≤ size := by
  fun_induction readPatiently input size with
  | case1 input found after hread =>
    cases h
    exact length_of_read_ok hread
  | case2 input failure after hread interrupted ih => exact ih h
  | case3 => cases h

theorem nextByte_of_readPatiently_nil {input next : Input} {size : Nat} (room : 0 < size)
    (unblocked : input.limit ≠ some 0) (h : input.readPatiently size = (.ok [], next)) :
    Signal.nextByte input.signals = (.ok none, []) := by
  fun_induction readPatiently input size with
  | case1 input found after hread =>
    cases h
    exact nextByte_of_read_nil room unblocked hread
  | case2 input failure after hread interrupted ih =>
    have same : after.limit = input.limit := by rw [← limit_read input size, hread]
    rw [signals_of_read_error hread, Item.signals, if_pos interrupted]
    exact ih (same ▸ unblocked) h
  | case3 => cases h

end TokenListing.Input
