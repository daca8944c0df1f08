import TokenListing.Proofs.Stream.Bytes
import TokenListing.Proofs.Text.Utf8Unfinished

/-! # Characters before a failure

A character is read from the bytes of its sequence and at most one byte more, so what comes after
that does not count for it. A failure within a sequence takes the place of its character, and
nothing of the sequence is left then.
-/
namespace TokenListing.Signal
open Text.Utf8

theorem collect_append (lead : UInt8) (missing : Nat) (tail bytes : List UInt8)
    (more : List Signal)
    (settled : (continuation missing bytes).1.length = missing ∨
      (continuation missing bytes).2 ≠ []) :
    collect lead missing tail (bytes.map .byte ++ more) =
      (.ok (if (continuation missing bytes).1.length = missing then
          scalar lead (tail ++ (continuation missing bytes).1) else replacement),
        (continuation missing bytes).2.map .byte ++ more) := by
  induction missing generalizing tail bytes with
  | zero => simp [collect, continuation_zero]
  | succ missing ih =>
    cases bytes with
    | nil => simp [continuation_nil] at settled
    | cons first bytes =>
      rw [collect, List.map_cons, List.cons_append, nextByte]
      rw [continuation_succ_cons] at settled ⊢
      by_cases continued : isContinuation first = true
      · simp only [continued, if_true, List.length_cons, Nat.add_right_cancel_iff] at settled ⊢
        rw [ih (tail ++ [first]) bytes settled, List.append_assoc, List.singleton_append]
      · simp [continued]

theorem collect_failing (lead : UInt8) {missing : Nat} (tail : List UInt8) {bytes : List UInt8}
    (continued : ∀ byte ∈ bytes, isContinuation byte = true) (lacking : bytes.length < missing)
    (failure : Failure) (later : List Signal) :
    collect lead missing tail (bytes.map .byte ++ .failure failure :: later) =
      (.error failure, later) := by
  induction bytes generalizing missing tail with
  | nil =>
    obtain ⟨missing, rfl⟩ := Nat.exists_eq_succ_of_ne_zero (Nat.ne_of_gt lacking)
    simp [collect, nextByte]
  | cons first bytes ih =>
    obtain ⟨missing, rfl⟩ := Nat.exists_eq_succ_of_ne_zero (Nat.ne_zero_of_lt lacking)
    rw [List.forall_mem_cons] at continued
    rw [collect, List.map_cons, List.cons_append, nextByte]
    simp only [continued.1, if_true]
    exact ih _ continued.2 (Nat.lt_of_succ_lt_succ lacking)

/-- The first character is read from the bytes alone unless they end within its sequence. -/
theorem nextChar_append {lead : UInt8} {bytes : List UInt8}
    (ended : ¬ Unfinished (lead :: bytes)) (more : List Signal) :
    nextChar ((lead :: bytes).map .byte ++ more) =
      (.ok (some (decodeFirst lead bytes).1), (decodeFirst lead bytes).2.map .byte ++ more) := by
  rw [List.map_cons, List.cons_append, nextChar, nextByte]
  cases announced : width lead with
  | none => simp [Signal.decode, decodeFirst, announced]
  | some count =>
    have positive := one_le_width announced
    have full : (continuation (count - 1) bytes).1.length = count - 1 ↔
        (continuation (count - 1) bytes).1.length + 1 = count := by omega
    have settled : (continuation (count - 1) bytes).1.length = count - 1 ∨
        (continuation (count - 1) bytes).2 ≠ [] := by
      obtain ⟨tail, rest, rfl, continued, few, stopped⟩ := exists_continuation (count - 1) bytes
      rw [continuation_append continued few stopped]
      by_cases short : tail.length < count - 1
      · right
        rintro rfl
        rw [List.append_nil] at ended
        exact ended (.lacks announced (by omega) continued)
      · left
        exact Nat.le_antisymm few (Nat.le_of_not_lt short)
    simp [Signal.decode, decodeFirst, announced, collect_append _ _ _ _ _ settled, full]

theorem nextChar_of_parts {bytes kept lost : List UInt8} {lead : UInt8}
    (parts : Parts bytes (lead :: kept) lost) (more : List Signal) :
    nextChar ((lead :: kept).map .byte ++ (lost.map .byte ++ more)) =
        (.ok (some (decodeFirst lead kept).1),
          (decodeFirst lead kept).2.map .byte ++ (lost.map .byte ++ more)) ∧
      Parts ((decodeFirst lead kept).2 ++ lost) (decodeFirst lead kept).2 lost := by
  obtain ⟨ended, next⟩ := parts.next
  have read := nextChar_append ended more
  rw [decodeFirst_append_of_resumes parts.resumes] at read
  exact ⟨by simpa using read, next⟩

theorem nextChar_failing {bytes : List UInt8} (h : bytes = [] ∨ Unfinished bytes)
    (failure : Failure) (later : List Signal) :
    nextChar (bytes.map .byte ++ .failure failure :: later) = (.error failure, later) := by
  rcases h with rfl | lacks
  · rfl
  · obtain ⟨announced, lacking, continued⟩ := lacks
    have missing := Nat.lt_sub_of_add_lt lacking
    rw [List.map_cons, List.cons_append, nextChar, nextByte]
    simp [Signal.decode, announced, collect_failing _ [] continued missing]

end TokenListing.Signal

namespace TokenListing.Input.Item

/-- The item brings bytes or an interruption, so a patient reader goes on after it. -/
inductive Passes : Item → Prop where
  | data (bytes : List UInt8) : Passes (.data bytes)
  | interruption {failure : Failure} (passing : failure.kind = .interrupted) :
      Passes (.failure failure)

def bytes : Item → List UInt8
  | .data bytes => bytes
  | .failure _ => []
  | .pause => []

theorem Passes.signals {item : Item} (h : item.Passes) : item.signals = item.bytes.map .byte := by
  cases h with
  | data bytes => rfl
  | interruption passing => simp [Item.signals, passing, bytes]

theorem signals_of_passes {items : List Item} (h : ∀ item ∈ items, item.Passes) :
    items.flatMap Item.signals = (items.flatMap bytes).map .byte := by
  induction items with
  | nil => rfl
  | cons item items ih =>
    rw [List.forall_mem_cons] at h
    simp [h.1.signals, ih h.2]

end TokenListing.Input.Item

namespace TokenListing.Input

end TokenListing.Input
