import TokenListing.Proofs.Source.Tape
import TokenListing.Proofs.Stream.Reads

/-! # What a call asks for

A call for a character asks for its bytes one after the other, at most four of them, and between
two bytes it touches nothing but the slots. So what is kept when a byte is asked for is kept by the
call. Only a source that has no byte left is asked in vain, and then it reads.
-/
namespace TokenListing.Source

variable {source after : Source}

/-- The bytes that were read and not taken yet: the one set aside, then those of the chunks. -/
def waiting (source : Source) : List UInt8 :=
  source.stray.toList ++ source.chunks.unread

def byteReads (source : Source) : List Input.Answer :=
  if source.stray.isSome || source.chunks.drain.isSome || source.exhausted then []
  else source.input.tries source.chunks.capacity

section Byte
open Input (delivered)

variable {answer : Except Failure (Option UInt8)}

theorem sound_nextByte (sound : source.chunks.Sound) (h : source.nextByte = (answer, after)) :
    after.chunks.Sound ∧ after.chunks.capacity = source.chunks.capacity := by
  cases draws_nextByte sound h with
  | aside stray => exact ⟨sound, rfl⟩
  | waiting free drains => exact ChunkPair.sound_of_drain_some sound drains
  | exhausted free dry ended => exact ⟨sound, rfl⟩
  | failed free dry live read => exact ⟨sound, rfl⟩
  | nothing free dry live read =>
    exact ChunkPair.sound_supply sound (Input.length_of_readPatiently_ok read)
  | refilled free dry live read drains =>
    obtain ⟨full, same⟩ := ChunkPair.sound_supply sound (Input.length_of_readPatiently_ok read)
    obtain ⟨kept, same'⟩ := ChunkPair.sound_of_drain_some full drains
    exact ⟨kept, same'.trans same⟩

theorem reads_nextByte (sound : source.chunks.Sound) (h : source.nextByte = (answer, after)) :
    source.input.Reads source.chunks.capacity source.byteReads after.input := by
  cases draws_nextByte sound h with
  | aside stray => simpa [byteReads, stray] using Input.Reads.refl source.input
  | waiting free drains => simpa [byteReads, drains] using Input.Reads.refl source.input
  | exhausted free dry ended => simpa [byteReads, ended] using Input.Reads.refl source.input
  | failed free dry live read =>
    simpa [byteReads, free, dry, live] using (Input.tried_readPatiently read).reads
  | nothing free dry live read =>
    simpa [byteReads, free, dry, live] using (Input.tried_readPatiently read).reads
  | refilled free dry live read drains =>
    simpa [byteReads, free, dry, live] using (Input.tried_readPatiently read).reads

theorem dry_of_byteReads (sound : source.chunks.Sound) (reads : source.byteReads ≠ []) :
    source.waiting = [] ∧ source.exhausted = false := by
  rw [byteReads] at reads
  split at reads
  · exact absurd rfl reads
  next missing =>
    simp only [Bool.or_eq_true, not_or, Bool.not_eq_true, Option.isSome_eq_false_iff,
      Option.isNone_iff_eq_none] at missing
    obtain ⟨⟨free, dry⟩, live⟩ := missing
    exact ⟨by simp [waiting, free, ChunkPair.unread_of_drain_none sound dry], live⟩

theorem count_byteReads_le (source : Source) :
    source.byteReads.countP (!·.isInterruption) ≤ 1 := by
  rw [byteReads]
  split
  · exact Nat.zero_le _
  · exact Nat.le_of_eq (Input.tried_readPatiently rfl).count_eq

theorem waiting_nextByte (sound : source.chunks.Sound) (h : source.nextByte = (answer, after)) :
    source.waiting ++ delivered source.byteReads = answer.toOption.join.toList ++ after.waiting ∧
      (answer.toOption.join = none → after.waiting = []) ∧ after.stray = none := by
  cases draws_nextByte sound h with
  | aside stray =>
    refine ⟨?_, by simp [Except.toOption], rfl⟩
    simp [waiting, byteReads, delivered, stray, Except.toOption]
  | waiting free drains =>
    refine ⟨?_, by simp [Except.toOption], free⟩
    simp [waiting, byteReads, delivered, free, drains, Except.toOption,
      ChunkPair.unread_of_drain_some sound drains]
  | exhausted free dry ended =>
    have empty := ChunkPair.unread_of_drain_none sound dry
    refine ⟨?_, by simp [waiting, free, empty], free⟩
    simp [waiting, byteReads, delivered, free, ended, empty, Except.toOption]
  | failed free dry live read =>
    have empty := ChunkPair.unread_of_drain_none sound dry
    have brought := (Input.tried_readPatiently read).delivered_eq
    refine ⟨?_, by simp [waiting, free, empty], free⟩
    simp [waiting, byteReads, brought, free, dry, live, empty, Except.toOption]
  | nothing free dry live read =>
    have empty := ChunkPair.unread_of_drain_none sound dry
    have brought := (Input.tried_readPatiently read).delivered_eq
    have full := (ChunkPair.sound_supply sound (Input.length_of_readPatiently_ok read)).1
    have empty' := ChunkPair.unread_of_drain_none full (ChunkPair.drain_supply_nil dry)
    refine ⟨?_, by simp [waiting, free, empty'], free⟩
    simp [waiting, byteReads, brought, free, dry, live, empty, empty', Except.toOption]
  | refilled free dry live read drains =>
    have empty := ChunkPair.unread_of_drain_none sound dry
    have fits := Input.length_of_readPatiently_ok read
    have full := (ChunkPair.sound_supply sound fits).1
    have queued := ChunkPair.unread_supply (List.cons_ne_nil _ _) fits
    have left := queued.symm.trans (ChunkPair.unread_of_drain_some full drains)
    have brought := (Input.tried_readPatiently read).delivered_eq.trans left
    refine ⟨?_, by simp [Except.toOption], free⟩
    simp [waiting, byteReads, brought, free, dry, live, empty, Except.toOption]

end Byte

/-- The sources that are asked for a byte while the rest of a sequence is collected. -/
def collectDemands : Nat → Source → List Source
  | 0, _ => []
  | missing + 1, source =>
    source :: match source.continuation with
      | .inl (_, next) => collectDemands missing next
      | .inr _ => []

/-- The sources that a call asks for a byte, one after the other. -/
def demands (source : Source) : Call → List Source
  | .takeBack _ => []
  | .next =>
    if source.held.isSome then []
    else
      match source.nextByte with
      | (.ok (some lead), next) =>
        source :: collectDemands ((Text.Utf8.width lead).getD 1 - 1) next
      | _ => [source]

theorem length_collectDemands (missing : Nat) (source : Source) :
    (collectDemands missing source).length ≤ missing := by
  induction missing generalizing source with
  | zero => exact Nat.le_refl _
  | succ missing ih =>
    rw [collectDemands, List.length_cons]
    split
    next byte next _ => exact Nat.succ_le_succ (ih next)
    next => exact Nat.succ_le_succ (Nat.zero_le _)

theorem length_demands (source : Source) (call : Call) : (source.demands call).length ≤ 4 := by
  cases call with
  | takeBack char => exact Nat.zero_le _
  | next =>
    rw [demands]
    split
    · exact Nat.zero_le _
    · split
      next lead next _ =>
        have few := length_collectDemands ((Text.Utf8.width lead).getD 1 - 1) next
        have widths : (Text.Utf8.width lead).getD 1 ≤ 4 := by
          cases announced : Text.Utf8.width lead with
          | none => decide
          | some width =>
            have bounds := (Text.Utf8.width_eq_some_iff lead width).mp announced
            simp only [Option.getD_some]
            omega
        simp only [List.length_cons]
        omega
      · simp

/-- What holds of a source and of those that were asked before it, if asking for a byte keeps it
and the slots and the position do not count for it. -/
structure Carried (P : List Source → Source → Prop) : Prop where
  byte {asked : List Source} {source after : Source} {answer : Except Failure (Option UInt8)}
    (before : P asked source) (h : source.nextByte = (answer, after)) : P (asked ++ [source]) after
  aside {asked : List Source} {source : Source} (before : P asked source) (byte : UInt8) :
    P asked { source with stray := some byte }
  moved {asked : List Source} {source : Source} (before : P asked source) (position : Span) :
    P asked { source with position }

variable {P : List Source → Source → Prop} {asked : List Source}

theorem Carried.collect (carried : Carried P) {lead : UInt8} {missing : Nat} {tail : List UInt8}
    {answer : Except Failure Char} (h : Collects lead missing tail source answer after)
    (before : P asked source) : P (asked ++ collectDemands missing source) after := by
  induction h generalizing asked with
  | whole => simpa [collectDemands] using before
  | failed asks => simpa [collectDemands, continuation, asks] using carried.byte before asks
  | ended asks => simpa [collectDemands, continuation, asks] using carried.byte before asks
  | @cut _ _ _ _ byte asks apart =>
    have kept := carried.aside (carried.byte before asks) byte
    simpa [collectDemands, continuation, asks, apart] using kept
  | more asks continued _ ih =>
    simpa [collectDemands, continuation, asks, continued] using ih (carried.byte before asks)

theorem Carried.decode (carried : Carried P) {lead : UInt8} {answer : Except Failure Char}
    (h : source.Decodes lead answer after) (before : P asked source) :
    P (asked ++ collectDemands ((Text.Utf8.width lead).getD 1 - 1) source) after := by
  cases h with
  | alone unannounced => simpa [unannounced, collectDemands] using before
  | announced width collects => simpa [width] using carried.collect collects before

theorem Carried.next (carried : Carried P) {answer : Except Failure (Option Char)}
    (free : source.held = none) (before : P [] source) (h : source.next = (answer, after)) :
    P (source.demands .next) after := by
  rw [demands, free, Option.isSome_none, if_neg Bool.false_ne_true]
  cases takes_next h with
  | again held => cases free.symm.trans held
  | failed _ asks => simpa [asks] using carried.byte before asks
  | ended _ asks => simpa [asks] using carried.byte before asks
  | broken _ asks decodes =>
    simpa [asks] using carried.decode decodes (carried.byte before asks)
  | decoded _ asks decodes =>
    simpa [asks] using carried.moved (carried.decode decodes (carried.byte before asks)) _

theorem Carried.reply {P : Source → Prop} (carried : Carried fun _ => P)
    (slot : ∀ {source : Source} (held : Option Char), P source → P { source with held })
    (before : P source) (call : Call) : P (source.reply call).2 := by
  cases call with
  | takeBack char =>
    rw [Source.reply, takeBack]
    cases source.held with
    | some held => exact before
    | none => exact slot (some char) before
  | next =>
    rw [Source.reply]
    cases held : source.held with
    | some char =>
      rw [next_of_held held]
      exact slot none before
    | none => exact carried.next held before rfl

theorem Carried.replies {P : Source → Prop} (carried : Carried fun _ => P)
    (slot : ∀ {source : Source} (held : Option Char), P source → P { source with held })
    (before : P source) (calls : List Call) : P (Calls.replies Source.reply source calls).2 := by
  induction calls generalizing source with
  | nil => exact before
  | cons call calls ih => exact ih (carried.reply slot before call)

end TokenListing.Source
