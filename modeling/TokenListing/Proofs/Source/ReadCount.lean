import TokenListing.Proofs.Source.Asking
import TokenListing.Proofs.Source.Draining
import TokenListing.Proofs.Stream.Failing

/-! # How many reads a source makes

A read takes as many bytes of a run as the buffer and the limit of the input allow, so every run has
its number of reads, wherever characters begin and end. An interruption is one read more, and so is
the one that brings nothing, after which there are no others. What was read and what is still to be
read make up the same number all the time.
-/
namespace TokenListing

namespace Input

/-- The reads that use up a run of bytes, `step` of them at a time. -/
def readsOfRun (step length : Nat) : Nat :=
  (length + step - 1) / step

theorem readsOfRun_zero {step : Nat} (positive : 0 < step) : readsOfRun step 0 = 0 := by
  unfold readsOfRun
  exact Nat.div_eq_of_lt (by omega)

theorem readsOfRun_sub {step length : Nat} (positive : 0 < step) (some_bytes : 0 < length) :
    readsOfRun step (length - step) + 1 = readsOfRun step length := by
  have all : length + step - 1 = length - 1 + step := by omega
  unfold readsOfRun
  rw [all, Nat.add_div_right _ positive]
  by_cases short : length < step
  · have last : length - step + step - 1 = step - 1 := by omega
    rw [last, Nat.div_eq_of_lt (by omega), Nat.div_eq_of_lt (by omega)]
  · have rest : length - step + step - 1 = length - 1 := by omega
    rw [rest]

def readsOf (step : Nat) : List Item → Nat
  | [] => 0
  | .data bytes :: rest => readsOfRun step bytes.length + readsOf step rest
  | .failure _ :: rest => readsOf step rest + 1
  | .pause :: _ => 0

theorem readsOf_dropSpent {step : Nat} (positive : 0 < step) (items : List Item) :
    readsOf step (dropSpent items) = readsOf step items := by
  fun_induction dropSpent items with
  | case1 rest ih =>
    have none := readsOfRun_zero positive
    simp [readsOf, ih, none]
  | case2 => rfl

/-- The most bytes of a run that a read into a buffer of this size takes. -/
def step (input : Input) (size : Nat) : Nat :=
  min (input.limit.getD size) size

/-- The reads into a buffer of this size before the one that brings nothing. -/
def readsAhead (input : Input) (size : Nat) : Nat :=
  readsOf (input.step size) input.items

variable {input next : Input} {size : Nat}

theorem step_pos (room : 0 < size) (unblocked : input.limit ≠ some 0) : 0 < input.step size := by
  unfold step
  cases found : input.limit with
  | none => simpa using room
  | some limit =>
    have : limit ≠ 0 := fun zero => unblocked (by rw [found, zero])
    simp only [Option.getD_some]
    omega

/-- The reads that were made, those that are still to be made before one brings nothing, and that
one. -/
def readsInAll (input : Input) (size : Nat) : Nat :=
  input.reads + input.readsAhead size + 1

theorem readsInAll_read {answer : Except Failure (List UInt8)} (room : 0 < size)
    (unblocked : input.limit ≠ some 0) (h : input.read size = (answer, next)) :
    (answer = .ok [] → next.reads = input.readsInAll size) ∧
      (answer ≠ .ok [] → next.readsInAll size = input.readsInAll size) := by
  have positive := step_pos room unblocked
  have same : next.limit = input.limit := by rw [← limit_read input size, h]
  have kept := readsOf_dropSpent positive input.items
  have still : next.step size = input.step size := by rw [step, step, same]
  unfold read at h
  simp only [readsInAll, readsAhead, still, ← kept]
  split at h
  next ended =>
    cases h
    simp [ended, readsOf]
  next run rest data =>
    cases h
    have some_bytes : 0 < run.length := List.length_pos_iff.mpr (ne_nil_of_dropSpent data)
    have used := readsOfRun_sub positive some_bytes
    have taken : run.take (input.step size) ≠ [] := by
      simp [Nat.ne_of_gt positive, ne_nil_of_dropSpent data]
    refine ⟨fun nothing => absurd (Except.ok.inj nothing) taken, fun _ => ?_⟩
    simp only [data, readsOf, List.length_drop, ← used]
    simp only [step]
    omega
  next failure rest failed =>
    cases h
    refine ⟨by simp, fun _ => ?_⟩
    simp only [failed, readsOf]
    omega
  next rest pause =>
    cases h
    simp [pause, readsOf]

theorem readsInAll_readPatiently {answer : Except Failure (List UInt8)} (room : 0 < size)
    (unblocked : input.limit ≠ some 0) (h : input.readPatiently size = (answer, next)) :
    (answer = .ok [] → next.reads = input.readsInAll size) ∧
      (answer ≠ .ok [] → next.readsInAll size = input.readsInAll size) := by
  fun_induction readPatiently input size with
  | case1 input bytes after hread =>
    cases h
    exact readsInAll_read room unblocked hread
  | case2 input failure after hread interrupted ih =>
    have same : after.limit = input.limit := by rw [← limit_read input size, hread]
    rw [← (readsInAll_read room unblocked hread).2 (by simp)]
    exact ih (same ▸ unblocked) h
  | case3 input failure after hread passed =>
    cases h
    exact readsInAll_read room unblocked hread

def Item.length? : Item → Option Nat
  | .data bytes => some bytes.length
  | .failure _ => none
  | .pause => none

def Item.isFailure : Item → Bool
  | .failure _ => true
  | _ => false

def readsOfRuns (step : Nat) (lengths : List Nat) : Nat :=
  lengths.foldr (fun length total => readsOfRun step length + total) 0

/-- Without a pause, the reads are those of every run and one for every failure. -/
theorem readsOf_passes {items : List Item} (passing : ∀ item ∈ items, item.Passes) (step : Nat) :
    readsOf step items =
      readsOfRuns step (items.filterMap Item.length?) + items.countP Item.isFailure := by
  induction items with
  | nil => rfl
  | cons item rest ih =>
    rw [List.forall_mem_cons] at passing
    have others := ih passing.2
    cases passing.1 with
    | data bytes =>
      simp [readsOf, others, Item.length?, Item.isFailure, readsOfRuns, Nat.add_assoc]
    | interruption passed =>
      rw [List.filterMap_cons_none rfl, List.countP_cons_of_pos rfl, readsOf, others,
        Nat.add_assoc]

theorem contents_of_passes {input : Input} (passing : ∀ item ∈ input.items, item.Passes) :
    input.contents = .ok (input.items.flatMap Item.bytes) := by
  unfold contents
  generalize input.items = items at passing ⊢
  induction items with
  | nil => rfl
  | cons item rest ih =>
    rw [List.forall_mem_cons] at passing
    have others := ih passing.2
    cases passing.1 with
    | data bytes => simp [contents.go, others, Except.map, Item.bytes]
    | interruption passed => simp [contents.go, others, passed, Item.bytes]

end Input

namespace Source

variable {source after : Source}

def readsInAll (source : Source) : Nat :=
  if source.exhausted then source.input.reads
  else source.input.readsInAll source.chunks.capacity

theorem readsInAll_ofInput (input : Input) (capacity : Nat) :
    (ofInput input capacity).readsInAll = input.readsInAll capacity := by
  simp [readsInAll, ofInput, ChunkPair.capacity, ChunkPair.empty, Chunk.empty]

theorem readsInAll_nextByte {answer : Except Failure (Option UInt8)} (sound : source.Sound)
    (h : source.nextByte = (answer, after)) : after.readsInAll = source.readsInAll := by
  have room := sound.chunks.room
  have same := (sound_nextByte sound.chunks h).2
  cases draws_nextByte sound.chunks h with
  | aside stray => rfl
  | waiting free drains => simp only [readsInAll, same]
  | exhausted free dry ended => rfl
  | failed free dry live read =>
    have kept := (Input.readsInAll_readPatiently room sound.unblocked read).2 (by simp)
    simpa [readsInAll, live] using kept
  | nothing free dry live read =>
    have last := (Input.readsInAll_readPatiently room sound.unblocked read).1 rfl
    simpa [readsInAll, live] using last
  | refilled free dry live read drains =>
    have kept := (Input.readsInAll_readPatiently room sound.unblocked read).2 (by simp)
    simpa [readsInAll, live, same] using kept

theorem carried_readsInAll (total : Nat) :
    Carried fun _ source => source.Sound ∧ source.readsInAll = total where
  byte before h :=
    ⟨(nextByte_used before.1 h).2.sound, (readsInAll_nextByte before.1 h).trans before.2⟩
  aside before _ := ⟨⟨before.1.chunks, before.1.unblocked⟩, before.2⟩
  moved before _ := ⟨⟨before.1.chunks, before.1.unblocked⟩, before.2⟩

theorem carried_exhausted (input : Input) :
    Carried fun _ source =>
      source.chunks.Sound ∧ source.exhausted = true ∧ source.input = input where
  byte := by
    rintro _ source after answer ⟨sound, met, same⟩ h
    refine ⟨(sound_nextByte sound h).1, ?_⟩
    cases draws_nextByte sound h with
    | aside stray => exact ⟨met, same⟩
    | waiting free drains => exact ⟨met, same⟩
    | exhausted free dry ended => exact ⟨met, same⟩
    | failed free dry live read => cases met.symm.trans live
    | nothing free dry live read => cases met.symm.trans live
    | refilled free dry live read drains => cases met.symm.trans live
  aside before _ := before
  moved before _ := before

theorem exhausted_of_next_none (sound : source.Sound) (h : source.next = (.ok none, after)) :
    after.exhausted = true := by
  cases takes_next h with
  | ended _ asks =>
    cases draws_nextByte sound.chunks asks with
    | exhausted free dry ended => exact ended
    | nothing free dry live read => rfl

/-- Draining makes the reads that there are in all, unless it fails. -/
theorem readsInAll_drained (sound : source.Sound) :
    source.drained.source.Sound ∧ source.drained.source.readsInAll = source.readsInAll ∧
      (source.drained.failure = none → source.drained.source.exhausted = true) := by
  have next_kept {source after : Source} {answer : Except Failure (Option Char)}
      (sound : source.Sound) (h : source.next = (answer, after)) :
      after.Sound ∧ after.readsInAll = source.readsInAll := by
    have kept := (carried_readsInAll source.readsInAll).reply
      (fun held before => ⟨before.1.withHeld held, before.2⟩) ⟨sound, rfl⟩ .next
    rwa [reply, h] at kept
  fun_induction drained source with
  | case1 source failure after hnext =>
    exact ⟨(next_kept sound hnext).1, (next_kept sound hnext).2, by simp⟩
  | case2 source after hnext =>
    exact ⟨(next_kept sound hnext).1, (next_kept sound hnext).2,
      fun _ => exhausted_of_next_none sound hnext⟩
  | case3 source char after hnext rest ih =>
    obtain ⟨kept, same⟩ := next_kept sound hnext
    obtain ⟨last, total, ended⟩ := ih kept
    exact ⟨last, total.trans same, ended⟩

/-- A source over runs of bytes and interruptions is drained by so many reads as its runs need, one
for every interruption, and one that brings nothing. However often it is called after that, it makes
no other. -/
theorem drained_reads {input : Input} {capacity : Nat} (room : 0 < capacity)
    (unblocked : input.limit ≠ some 0) (passing : ∀ item ∈ input.items, item.Passes) :
    let step := min (input.limit.getD capacity) capacity
    let drained := (ofInput input capacity).drained
    drained.failure = none ∧
      drained.source.input.reads = input.reads +
        Input.readsOfRuns step (input.items.filterMap Input.Item.length?) +
        input.items.countP Input.Item.isFailure + 1 ∧
      ∀ calls, (Calls.replies reply drained.source calls).2.input = drained.source.input := by
  intro step drained
  have sound := sound_ofInput room unblocked
  have ended := (reading_ofInput room unblocked (Input.contents_of_passes passing)).drained rfl
  obtain ⟨last, total, met⟩ := readsInAll_drained sound
  have exhausted := met ended.2
  refine ⟨ended.2, ?_, ?_⟩
  · rw [readsInAll, if_pos exhausted, readsInAll_ofInput] at total
    have runs := Input.readsOf_passes passing step
    rw [Nat.add_assoc input.reads, ← runs]
    exact total
  · intro calls
    exact ((carried_exhausted drained.source.input).replies (fun held before => before)
      ⟨last.chunks, exhausted, rfl⟩ calls).2.2

/-- Five bytes, none and two by reads of at most two, with an interruption within a character and
one at the end. -/
theorem drained_reads_cut_characters :
    let input : Input := {
      items := [.data [0xE2, 0x82, 0xAC, 0x61, 0xC3], .failure ⟨.interrupted, ""⟩, .data [],
        .data [0xA9, 0x62], .failure ⟨.interrupted, ""⟩]
      limit := some 2 }
    let drained := (ofInput input 3).drained
    0 < 3 ∧ input.limit ≠ some 0 ∧ (∀ item ∈ input.items, item.Passes) ∧
      drained.failure = none ∧ drained.source.input.reads = (3 + 0 + 1) + 2 + 1 ∧
      (Calls.replies reply drained.source [.next, .takeBack 'b', .next, .next]).2.input.reads =
        (3 + 0 + 1) + 2 + 1 := by
  intro input drained
  have room : 0 < 3 := by decide
  have unblocked : input.limit ≠ some 0 := by decide
  have passing : ∀ item ∈ input.items, item.Passes := by
    simpa [input] using ⟨.data _, .interruption rfl, .data _, .data _, .interruption rfl⟩
  obtain ⟨ended, reads, later⟩ := drained_reads room unblocked passing
  have counted : drained.source.input.reads = (3 + 0 + 1) + 2 + 1 := reads.trans (by decide)
  exact ⟨room, unblocked, passing, ended, counted, (congrArg Input.reads (later _)).trans counted⟩

end Source
end TokenListing
