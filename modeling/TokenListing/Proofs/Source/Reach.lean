import TokenListing.Source.Taking
import TokenListing.Stream.Signal

/-! # How far an input is read

An operation of a source reads its input up to some signal. It goes past no failure: it passes none
if it succeeds, and if it fails the failure is the last signal that it read.
-/
namespace TokenListing

def Failure.ofAnswer? {α : Type} : Except Failure α → Option Failure
  | .error failure => some failure
  | .ok _ => none

namespace Input

/-- Reading led from an input to what is left of it. It met the failure, if there is one, last, and
no other. -/
def ReadTo (input : Input) (failure? : Option Failure) (left : Input) : Prop :=
  ∃ passed, input.signals = passed ++ (failure?.toList.map .failure ++ left.signals) ∧
    ∀ failure, .failure failure ∉ passed

theorem readTo_refl (input : Input) : input.ReadTo none input :=
  ⟨[], rfl, by simp⟩

variable {first second third : Input} {failure? : Option Failure}

theorem ReadTo.trans (h : first.ReadTo none second) (more : second.ReadTo failure? third) :
    first.ReadTo failure? third := by
  obtain ⟨front, split, clean⟩ := h
  obtain ⟨back, split', clean'⟩ := more
  refine ⟨front ++ back, ?_, ?_⟩
  · simp [split, split']
  · simp [clean, clean']

theorem failure_notMem_map (bytes : List UInt8) (failure : Failure) :
    Signal.failure failure ∉ bytes.map Signal.byte := by
  simp

theorem readTo_read_ok {input left : Input} {size : Nat} {bytes : List UInt8}
    (h : input.read size = (.ok bytes, left)) : input.ReadTo none left := by
  have kept := signals_dropSpent input.items
  unfold read at h
  unfold ReadTo signals
  rw [← kept]
  split at h
  next ended =>
    cases h
    exact ⟨[], by rw [ended]; rfl, by simp⟩
  next run rest data =>
    cases h
    refine ⟨(run.take (min (input.limit.getD size) size)).map .byte, ?_, failure_notMem_map _⟩
    rw [data]
    simp only [List.flatMap_cons, Item.signals, Option.toList_none, List.map_nil, List.nil_append,
      ← List.append_assoc, ← List.map_append, List.take_append_drop]
  next => cases h
  next rest pause =>
    cases h
    exact ⟨[.pause], by rw [pause]; rfl, by simp⟩

theorem readTo_readPatiently {input left : Input} {size : Nat}
    {answer : Except Failure (List UInt8)} (h : input.readPatiently size = (answer, left)) :
    input.ReadTo (Failure.ofAnswer? answer) left := by
  fun_induction readPatiently input size with
  | case1 input bytes next hread =>
    cases h
    exact readTo_read_ok hread
  | case2 input failure next hread interrupted ih =>
    have skipped : input.ReadTo none next := by
      refine ⟨[], ?_, by simp⟩
      rw [signals_of_read_error hread]
      simp [Item.signals, interrupted]
    exact skipped.trans (ih h)
  | case3 input failure next hread passed =>
    cases h
    refine ⟨[], ?_, by simp⟩
    rw [signals_of_read_error hread]
    simp [Item.signals, passed, Failure.ofAnswer?]

end Input

namespace Source

variable {source after : Source}

theorem input_drain {byte : Option UInt8} (h : source.drain = (byte, after)) :
    after.input = source.input := by
  unfold drain at h
  split at h <;> exact (Prod.mk.inj h).2 ▸ rfl

theorem readTo_refill {answer : Except Failure Unit} (h : source.refill = (answer, after)) :
    source.input.ReadTo (Failure.ofAnswer? answer) after.input := by
  unfold refill at h
  dsimp only at h
  split at h
  next hread =>
    cases h
    exact Input.readTo_readPatiently hread
  next hread =>
    cases h
    exact Input.readTo_readPatiently hread

theorem Passes.readTo {count : Nat} {answer : Except Failure (Option UInt8)}
    (h : Passes count source answer after) :
    source.input.ReadTo (Failure.ofAnswer? answer) after.input := by
  induction h with
  | out => exact Input.readTo_refl _
  | drained drains => exact input_drain drains ▸ Input.readTo_refl _
  | exhausted dry => exact input_drain dry ▸ Input.readTo_refl _
  | failed dry refills | nothing dry refills => exact input_drain dry ▸ readTo_refill refills
  | more dry refills _ ih => exact (input_drain dry ▸ readTo_refill refills).trans ih

theorem readTo_nextByte {answer : Except Failure (Option UInt8)}
    (h : source.nextByte = (answer, after)) :
    source.input.ReadTo (Failure.ofAnswer? answer) after.input := by
  cases gives_nextByte h with
  | aside => exact Input.readTo_refl _
  | passes _ passes => exact passes.readTo

theorem Collects.readTo {lead : UInt8} {missing : Nat} {tail : List UInt8}
    {answer : Except Failure Char} (h : Collects lead missing tail source answer after) :
    source.input.ReadTo (Failure.ofAnswer? answer) after.input := by
  induction h with
  | whole => exact Input.readTo_refl _
  | failed asks => exact readTo_nextByte asks
  | ended asks => exact readTo_nextByte asks
  | cut asks => exact readTo_nextByte asks
  | more asks _ _ ih => exact (readTo_nextByte asks).trans ih

theorem Decodes.readTo {lead : UInt8} {answer : Except Failure Char}
    (h : source.Decodes lead answer after) :
    source.input.ReadTo (Failure.ofAnswer? answer) after.input := by
  cases h with
  | alone => exact Input.readTo_refl _
  | announced _ collects => exact collects.readTo

theorem readTo_next {answer : Except Failure (Option Char)} (h : source.next = (answer, after)) :
    source.input.ReadTo (Failure.ofAnswer? answer) after.input := by
  cases takes_next h with
  | again => exact Input.readTo_refl _
  | failed _ asks => exact readTo_nextByte asks
  | ended _ asks => exact readTo_nextByte asks
  | broken _ asks decodes => exact (readTo_nextByte asks).trans decodes.readTo
  | decoded _ asks decodes => exact (readTo_nextByte asks).trans decodes.readTo

end Source
end TokenListing
