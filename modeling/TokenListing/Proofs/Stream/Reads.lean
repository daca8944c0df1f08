import TokenListing.Proofs.Stream.PatientRead

/-! # Reads one after another

An input is known by the answers to its reads. A patient read is a run of reads, all of which but
the last one are interrupted, so it delivers what its last read delivers.
-/
namespace TokenListing

abbrev Input.Answer := Except Failure (List UInt8)

namespace Input

def Answer.isInterruption : Answer → Bool
  | .error failure => failure.kind = .interrupted
  | .ok _ => false

/-- Reads into a buffer of this size get these answers and lead from one input to another. -/
inductive Reads (size : Nat) : Input → List Answer → Input → Prop where
  | refl (input : Input) : Reads size input [] input
  | cons {input next last : Input} {answer : Answer} {answers : List Answer}
      (first : input.read size = (answer, next)) (more : Reads size next answers last) :
      Reads size input (answer :: answers) last

variable {size : Nat} {input next last : Input} {answer : Answer} {answers others : List Answer}

theorem Reads.trans (h : input.Reads size answers next) (more : next.Reads size others last) :
    input.Reads size (answers ++ others) last := by
  induction h with
  | refl => exact more
  | cons first _ ih => exact .cons first (ih more)

/-- The answers to the first reads determine where they lead. -/
theorem Reads.rest (h : input.Reads size answers next)
    (all : input.Reads size (answers ++ others) last) : next.Reads size others last := by
  induction h with
  | refl => exact all
  | cons first _ ih =>
    cases all with
    | cons first' more' =>
      cases first.symm.trans first'
      exact ih more'

theorem Reads.counted (h : input.Reads size answers last) :
    last.reads = input.reads + answers.length := by
  induction h with
  | refl => rfl
  | @cons input next last answer answers first more ih =>
    have one : next.reads = input.reads + 1 := by
      have after := congrArg (fun p => p.2.reads) first
      unfold read at after
      split at after <;> exact after.symm
    simp only [ih, one, List.length_cons]
    omega

theorem Reads.length_le (h : input.Reads size answers last) {bytes : List UInt8}
    (given : .ok bytes ∈ answers) : bytes.length ≤ size := by
  induction h with
  | refl => cases given
  | cons first _ ih =>
    rcases List.mem_cons.mp given with rfl | later
    · exact length_of_read_ok first
    · exact ih later

def delivered (answers : List Answer) : List UInt8 :=
  answers.flatMap fun answer => answer.toOption.getD []

def sizes (answers : List Answer) : List Nat :=
  answers.filterMap fun answer => answer.toOption.map List.length

theorem delivered_append (answers others : List Answer) :
    delivered (answers ++ others) = delivered answers ++ delivered others :=
  List.flatMap_append

theorem sizes_append (answers others : List Answer) :
    sizes (answers ++ others) = sizes answers ++ sizes others :=
  List.filterMap_append

theorem Reads.sizes_le (h : input.Reads size answers last) :
    ∀ count ∈ sizes answers, count ≤ size := by
  intro count given
  obtain ⟨answer, among, counts⟩ := List.mem_filterMap.mp given
  cases answer with
  | error failure => cases counts
  | ok bytes =>
    cases counts
    exact h.length_le among

/-- The answers to the reads of a patient read. -/
def tries (input : Input) (size : Nat) : List Answer :=
  match _hread : input.read size with
  | (.ok bytes, _) => [.ok bytes]
  | (.error failure, next) =>
    .error failure :: if failure.kind = .interrupted then next.tries size else []
termination_by input.items.length
decreasing_by exact length_items_of_read_error _hread

theorem tries_eq (input : Input) (size : Nat) : input.tries size =
    match input.read size with
    | (.ok bytes, _) => [.ok bytes]
    | (.error failure, next) =>
      .error failure :: if failure.kind = .interrupted then next.tries size else [] := by
  rw [tries]
  split <;> simp [*]

/-- A patient read makes its reads and gives the answer to the last of them, the only one that is
no interruption. -/
structure Tried (size : Nat) (input : Input) (answer : Answer) (last : Input) : Prop where
  reads : input.Reads size (input.tries size) last
  split : ∃ skipped, input.tries size = skipped ++ [answer] ∧
    ∀ other ∈ skipped, other.isInterruption = true
  lasting : answer.isInterruption = false

theorem tried_readPatiently (h : input.readPatiently size = (answer, last)) :
    Tried size input answer last := by
  fun_induction readPatiently input size with
  | case1 input bytes next hread =>
    cases h
    have made := tries_eq input size
    rw [hread] at made
    exact ⟨made ▸ .cons hread (.refl _), ⟨[], made, by simp⟩, rfl⟩
  | case2 input failure next hread interrupted ih =>
    obtain ⟨reads, ⟨skipped, split, interruptions⟩, lasting⟩ := ih h
    have made := tries_eq input size
    simp only [hread, if_pos interrupted] at made
    refine ⟨made ▸ .cons hread reads, ⟨.error failure :: skipped, ?_, ?_⟩, lasting⟩
    · rw [made, split]
      rfl
    · simpa [Answer.isInterruption, interrupted] using interruptions
  | case3 input failure next hread passed =>
    cases h
    have made := tries_eq input size
    simp only [hread, if_neg passed] at made
    exact ⟨made ▸ .cons hread (.refl _), ⟨[], made, by simp⟩, by simpa [Answer.isInterruption]⟩

namespace Tried

theorem delivered_eq (h : Tried size input answer last) :
    delivered (input.tries size) = answer.toOption.getD [] := by
  obtain ⟨skipped, split, interruptions⟩ := h.split
  have nothing : delivered skipped = [] := by
    rw [delivered, List.flatMap_eq_nil_iff]
    intro other among
    cases other with
    | error failure => rfl
    | ok bytes => cases interruptions _ among
  rw [split, delivered_append, nothing]
  simp [delivered]

theorem sizes_eq (h : Tried size input answer last) :
    sizes (input.tries size) = (answer.toOption.map List.length).toList := by
  obtain ⟨skipped, split, interruptions⟩ := h.split
  have nothing : sizes skipped = [] := by
    rw [sizes, List.filterMap_eq_nil_iff]
    intro other among
    cases other with
    | error failure => rfl
    | ok bytes => cases interruptions _ among
  rw [split, sizes_append, nothing]
  cases answer <;> rfl

theorem count_eq (h : Tried size input answer last) :
    (input.tries size).countP (!·.isInterruption) = 1 := by
  obtain ⟨skipped, split, interruptions⟩ := h.split
  have none : skipped.countP (!·.isInterruption) = 0 := by
    rw [List.countP_eq_zero]
    intro other among
    simp [interruptions other among]
  simp [split, none, h.lasting]

end Tried

end Input
end TokenListing
