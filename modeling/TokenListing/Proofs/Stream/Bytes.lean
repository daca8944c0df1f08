import TokenListing.Proofs.Stream.Characters
import TokenListing.Proofs.Text.Utf8Encoding
import TokenListing.Stream.Input

/-! # Signals that bring bytes

Signals without a failure before their end bring a list of bytes. Read as characters they are
what `decode` makes of that list, character by character.
-/
namespace TokenListing.Signal
open Text.Utf8

/-- The signals are the bytes and then the end: a pause, or no signal. -/
def Brings (signals : List Signal) (bytes : List UInt8) : Prop :=
  ∃ rest, signals = bytes.map .byte ++ rest ∧ nextByte rest = (.ok none, [])

theorem brings_nil : Brings [] [] :=
  ⟨[], rfl, rfl⟩

theorem Brings.nextByte_nil {signals : List Signal} (h : Brings signals []) :
    nextByte signals = (.ok none, []) := by
  obtain ⟨rest, rfl, ended⟩ := h
  exact ended

theorem Brings.nextByte_cons {signals : List Signal} {first : UInt8} {bytes : List UInt8}
    (h : Brings signals (first :: bytes)) :
    ∃ rest, nextByte signals = (.ok (some first), rest) ∧ Brings rest bytes := by
  obtain ⟨rest, rfl, ended⟩ := h
  exact ⟨bytes.map .byte ++ rest, rfl, rest, rfl, ended⟩

theorem continuation_zero (bytes : List UInt8) : continuation 0 bytes = ([], bytes) :=
  rfl

theorem continuation_nil (count : Nat) : continuation count [] = ([], []) := by
  simp [continuation]

theorem continuation_succ_cons (count : Nat) (first : UInt8) (bytes : List UInt8) :
    continuation (count + 1) (first :: bytes) =
      if isContinuation first then
        (first :: (continuation count bytes).1, (continuation count bytes).2)
      else ([], first :: bytes) := by
  by_cases more : isContinuation first
  · simp [continuation, more]
  · simp [continuation, more]

theorem Brings.collect {signals : List Signal} {bytes : List UInt8} (h : Brings signals bytes)
    (lead : UInt8) (missing : Nat) (tail : List UInt8) :
    ∃ rest, collect lead missing tail signals =
        (.ok (if (continuation missing bytes).1.length = missing then
          scalar lead (tail ++ (continuation missing bytes).1) else replacement), rest) ∧
      Brings rest (continuation missing bytes).2 := by
  induction missing generalizing signals bytes tail with
  | zero =>
    refine ⟨signals, ?_, h⟩
    simp [Signal.collect, continuation_zero]
  | succ missing ih =>
    cases bytes with
    | nil =>
      refine ⟨[], ?_, ?_⟩
      · simp [Signal.collect, h.nextByte_nil, continuation_nil]
      · rw [continuation_nil]
        exact brings_nil
    | cons first bytes =>
      obtain ⟨rest, next, more⟩ := h.nextByte_cons
      rw [Signal.collect, next, continuation_succ_cons]
      by_cases continued : isContinuation first
      · obtain ⟨after, collected, left⟩ := ih more (tail ++ [first])
        refine ⟨after, ?_, ?_⟩
        · simp [continued, collected]
        · simpa [continued] using left
      · refine ⟨signals, ?_, ?_⟩
        · simp [continued]
        · simpa [continued] using h

theorem one_le_width {lead : UInt8} {n : Nat} (h : width lead = some n) : 1 ≤ n := by
  have widths := (width_eq_some_iff lead n).mp h
  omega

theorem Brings.nextChar {signals : List Signal} {lead : UInt8} {bytes : List UInt8}
    (h : Brings signals (lead :: bytes)) :
    ∃ rest, nextChar signals = (.ok (some (decodeFirst lead bytes).1), rest) ∧
      Brings rest (decodeFirst lead bytes).2 := by
  obtain ⟨signals, next, more⟩ := h.nextByte_cons
  rw [Signal.nextChar, next]
  cases hw : width lead with
  | none =>
    refine ⟨signals, ?_, ?_⟩
    · simp [Signal.decode, decodeFirst, hw]
    · simpa [decodeFirst, hw] using more
  | some width =>
    obtain ⟨rest, collected, left⟩ := more.collect lead (width - 1) []
    have full : (continuation (width - 1) bytes).1.length = width - 1 ↔
        (continuation (width - 1) bytes).1.length + 1 = width := by
      have := one_le_width hw
      omega
    refine ⟨rest, ?_, ?_⟩
    · simp [Signal.decode, decodeFirst, hw, collected, full]
    · simpa [decodeFirst, hw] using left

theorem Brings.nextChar_nil {signals : List Signal} (h : Brings signals []) :
    Signal.nextChar signals = (.ok none, []) := by
  rw [Signal.nextChar, h.nextByte_nil]

/-- The contents of an input are the bytes that its signals bring. -/
theorem brings_contents {input : Input} {bytes : List UInt8} (h : input.contents = .ok bytes) :
    Brings input.signals bytes := by
  unfold Input.contents at h
  unfold Input.signals
  generalize input.items = items at h ⊢
  induction items generalizing bytes with
  | nil =>
    cases h
    exact brings_nil
  | cons item rest ih =>
    rw [List.flatMap_cons]
    cases item with
    | data run =>
      rw [Input.contents.go] at h
      cases more : Input.contents.go rest with
      | error failure =>
        rw [more] at h
        cases h
      | ok found =>
        rw [more] at h
        cases h
        obtain ⟨signals, same, ended⟩ := ih more
        exact ⟨signals, by rw [same, Input.Item.signals, List.map_append, List.append_assoc], ended⟩
    | failure cause =>
      rw [Input.contents.go] at h
      by_cases passed : cause.kind = .interrupted
      · rw [if_pos passed] at h
        rw [Input.Item.signals, if_pos passed]
        exact ih h
      · rw [if_neg passed] at h
        cases h
    | pause =>
      cases h
      exact ⟨_, rfl, rfl⟩

end TokenListing.Signal
