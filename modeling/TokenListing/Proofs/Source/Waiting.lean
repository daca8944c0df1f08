import TokenListing.Proofs.Source.Asking
import TokenListing.Proofs.Text.Utf8Unfinished

/-! # What becomes of the bytes that are read

A byte that was delivered waits until a character is decoded from it or a failure interrupts its
sequence. A call for a character takes the bytes of the first character of those at hand and leaves
the others waiting, so that over all calls the bytes that were delivered are those that were used
and those that wait, in this order.
-/
namespace TokenListing.Source
open Text.Utf8
open Input (delivered delivered_append)

variable {source after : Source}

/-- While a sequence is collected, the bytes `more` are taken and `left` is left of those at
hand. -/
inductive Gathers (lead : UInt8) (missing : Nat) (tail : List UInt8) :
    Except Failure Char → List UInt8 → List UInt8 → Prop where
  | whole {more left : List UInt8} (filled : more.length = missing) :
      Gathers lead missing tail (.ok (scalar lead (tail ++ more))) more left
  | cut {more left : List UInt8} (lacking : more.length < missing) (ends : Resumes left) :
      Gathers lead missing tail (.ok replacement) more left
  | lost {failure : Failure} {more left : List UInt8} (lacking : more.length < missing)
      (nothing : left = []) : Gathers lead missing tail (.error failure) more left

theorem Gathers.cons {lead byte : UInt8} {missing : Nat} {tail more left : List UInt8}
    {answer : Except Failure Char}
    (h : Gathers lead missing (tail ++ [byte]) answer more left) :
    Gathers lead (missing + 1) tail answer (byte :: more) left := by
  cases h with
  | whole filled =>
    rw [List.append_assoc]
    exact .whole (congrArg (· + 1) filled)
  | cut lacking ends => exact .cut (Nat.succ_lt_succ lacking) ends
  | lost lacking nothing => exact .lost (Nat.succ_lt_succ lacking) nothing

theorem Collects.gathers {lead : UInt8} {missing : Nat} {tail : List UInt8}
    {answer : Except Failure Char} (h : Collects lead missing tail source answer after)
    (sound : source.chunks.Sound) :
    ∃ more, source.waiting ++ delivered ((collectDemands missing source).flatMap byteReads) =
        more ++ after.waiting ∧ (∀ byte ∈ more, isContinuation byte = true) ∧
      Gathers lead missing tail answer more after.waiting := by
  induction h with
  | whole tail source =>
    refine ⟨[], by simp [collectDemands, delivered], by simp, ?_⟩
    have whole : Gathers lead 0 tail (.ok (scalar lead (tail ++ []))) [] source.waiting :=
      .whole rfl
    rwa [List.append_nil] at whole
  | failed asks =>
    obtain ⟨taken, nothing, -⟩ := waiting_nextByte sound asks
    refine ⟨[], ?_, by simp, .lost (Nat.zero_lt_succ _) (nothing rfl)⟩
    simpa [collectDemands, continuation, asks, Except.toOption] using taken
  | ended asks =>
    obtain ⟨taken, nothing, -⟩ := waiting_nextByte sound asks
    have empty := nothing rfl
    refine ⟨[], ?_, by simp, ?_⟩
    · simpa [collectDemands, continuation, asks, Except.toOption] using taken
    · rw [empty]
      exact .cut (Nat.zero_lt_succ _) resumes_nil
  | @cut _ _ _ rest byte asks apart =>
    obtain ⟨taken, -, unset⟩ := waiting_nextByte sound asks
    have again : { rest with stray := some byte }.waiting = byte :: rest.waiting := by
      simp [waiting, unset]
    refine ⟨[], ?_, by simp, .cut (Nat.zero_lt_succ _) ?_⟩
    · simpa [collectDemands, continuation, asks, apart, again, Except.toOption] using taken
    · rw [again, resumes_cons]
      exact apart
  | @more _ _ _ rest _ byte _ asks continued _ ih =>
    obtain ⟨taken, -, -⟩ := waiting_nextByte sound asks
    obtain ⟨more, gathered, continuing, gathers⟩ := ih (sound_nextByte sound asks).1
    refine ⟨byte :: more, ?_, by simpa [continued] using continuing, gathers.cons⟩
    simp only [collectDemands, continuation, asks, if_pos continued]
    rw [List.flatMap_cons, delivered_append, ← List.append_assoc, taken, List.append_assoc,
      gathered]
    rfl

/-- A call for a character takes the bytes `used` and leaves `left` of those at hand. A character is
the first one that the bytes at hand are decoded to, and a failure takes a sequence that it
interrupts. -/
inductive Uses : Except Failure (Option Char) → List UInt8 → List UInt8 → Prop where
  | decoded {lead : UInt8} {tail left : List UInt8} {char : Char}
      (first : decodeFirst lead (tail ++ left) = (char, left)) :
      Uses (.ok (some char)) (lead :: tail) left
  | lost {failure : Failure} {used left : List UInt8} (broken : used = [] ∨ Unfinished used)
      (nothing : left = []) : Uses (.error failure) used left
  | ended {left : List UInt8} (nothing : left = []) : Uses (.ok none) [] left

theorem Gathers.uses {lead : UInt8} {count : Nat} {more left : List UInt8}
    {answer : Except Failure Char} (h : Gathers lead (count - 1) [] answer more left)
    (announced : width lead = some count) (continued : ∀ byte ∈ more, isContinuation byte = true) :
    Uses (answer.map some) (lead :: more) left := by
  have positive := Signal.one_le_width announced
  have first (few : more.length ≤ count - 1) (ended : more.length < count - 1 → Resumes left) :
      decodeFirst lead (more ++ left) =
        (if more.length + 1 = count then scalar lead more else replacement, left) := by
    simp [decodeFirst, announced, continuation_append continued few ended]
  cases h with
  | whole filled =>
    refine .decoded ?_
    rw [first (Nat.le_of_eq filled) (by omega), if_pos (by omega)]
    rfl
  | cut lacking ends =>
    refine .decoded ?_
    rw [first (Nat.le_of_lt lacking) fun _ => ends, if_neg (by omega)]
  | lost lacking nothing =>
    exact .lost (.inr (.lacks announced (by omega) continued)) nothing

theorem Decodes.uses {lead : UInt8} {answer : Except Failure Char}
    (h : source.Decodes lead answer after) (sound : source.chunks.Sound) :
    ∃ more, source.waiting ++ delivered
        ((collectDemands ((width lead).getD 1 - 1) source).flatMap byteReads) =
          more ++ after.waiting ∧ Uses (answer.map some) (lead :: more) after.waiting := by
  cases h with
  | alone unannounced =>
    refine ⟨[], by simp [unannounced, collectDemands, delivered], .decoded ?_⟩
    simp [decodeFirst, unannounced]
  | announced width collects =>
    rw [width]
    obtain ⟨more, gathered, continued, gathers⟩ := collects.gathers sound
    exact ⟨more, gathered, gathers.uses width continued⟩

theorem waiting_lead {lead : UInt8} {rest : Source} {more left : List UInt8}
    (sound : source.chunks.Sound) (free : source.held = none)
    (asks : source.nextByte = (.ok (some lead), rest))
    (gathered : rest.waiting ++ delivered
      ((collectDemands ((width lead).getD 1 - 1) rest).flatMap byteReads) = more ++ left) :
    source.waiting ++ delivered ((source.demands .next).flatMap byteReads) =
      lead :: more ++ left := by
  have taken := (waiting_nextByte sound asks).1
  simp only [demands, free, Option.isSome_none, if_neg Bool.false_ne_true, asks]
  rw [List.flatMap_cons, delivered_append, ← List.append_assoc, taken, List.append_assoc, gathered]
  rfl

/-- A call for a character that is not held takes the first bytes at hand. -/
theorem uses_next {answer : Except Failure (Option Char)} (sound : source.chunks.Sound)
    (free : source.held = none) (h : source.next = (answer, after)) :
    ∃ used, source.waiting ++ delivered ((source.demands .next).flatMap byteReads) =
        used ++ after.waiting ∧ Uses answer used after.waiting := by
  cases takes_next h with
  | again held => cases free.symm.trans held
  | failed _ asks =>
    obtain ⟨taken, nothing, -⟩ := waiting_nextByte sound asks
    refine ⟨[], ?_, .lost (.inl rfl) (nothing rfl)⟩
    simpa [demands, free, asks, Except.toOption] using taken
  | ended _ asks =>
    obtain ⟨taken, nothing, -⟩ := waiting_nextByte sound asks
    refine ⟨[], ?_, .ended (nothing rfl)⟩
    simpa [demands, free, asks, Except.toOption] using taken
  | broken _ asks decodes =>
    obtain ⟨more, gathered, uses⟩ := decodes.uses (sound_nextByte sound asks).1
    exact ⟨_, waiting_lead sound free asks gathered, uses⟩
  | decoded _ asks decodes =>
    obtain ⟨more, gathered, uses⟩ := decodes.uses (sound_nextByte sound asks).1
    exact ⟨_, waiting_lead sound free asks gathered, uses⟩

/-- A call takes these bytes: those of a character that it decodes or loses, and otherwise none. -/
inductive Spends (source : Source) : Call → List UInt8 → Prop where
  | asking {used : List UInt8} (free : source.held = none)
      (uses : Uses source.next.1 used source.next.2.waiting) : Spends source .next used
  | holding {char : Char} (held : source.held = some char) : Spends source .next []
  | takingBack (char : Char) : Spends source (.takeBack char) []

inductive SpendsAll : Source → List Call → List UInt8 → Prop where
  | nil (source : Source) : SpendsAll source [] []
  | cons {source : Source} {call : Call} {calls : List Call} {used others : List UInt8}
      (first : source.Spends call used) (more : SpendsAll (source.reply call).2 calls others) :
      SpendsAll source (call :: calls) (used ++ others)

theorem waiting_takeBack (source : Source) (char : Char) :
    (source.reply (.takeBack char)).2.waiting = source.waiting := by
  rw [reply, takeBack]
  cases source.held <;> rfl

/-- What a call does not take of the bytes at hand waits after it. -/
theorem spends_reply (sound : source.chunks.Sound) (call : Call) :
    ∃ used, source.waiting ++ delivered ((source.demands call).flatMap byteReads) =
        used ++ (source.reply call).2.waiting ∧ source.Spends call used := by
  cases call with
  | takeBack char =>
    refine ⟨[], ?_, .takingBack char⟩
    rw [waiting_takeBack]
    simp [demands, delivered]
  | next =>
    cases held : source.held with
    | some char =>
      refine ⟨[], ?_, .holding held⟩
      rw [reply, next_of_held held]
      simp [demands, held, delivered, waiting]
    | none =>
      obtain ⟨used, hand, uses⟩ := uses_next sound held rfl
      exact ⟨used, hand, .asking held uses⟩

end TokenListing.Source
