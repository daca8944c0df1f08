import TokenListing.Proofs.Source.Unbuffered
import TokenListing.Proofs.Stream.Bytes

/-! # Sources with a text to come

A source over an input that does not fail has a text to come: what its bytes decode to. Each call
hands out the next character of that text, and none after the last one.
-/
namespace TokenListing.Source

/-- The source holds no character, and these are the signals that it has not used. -/
structure Awaits (source : Source) (signals : List Signal) : Prop where
  sound : source.Sound
  free : source.held = none
  brings : source.signals = signals

theorem Awaits.next {source : Source} {signals rest : List Signal}
    {answer : Except Failure (Option Char)} (h : source.Awaits signals)
    (read : Signal.nextChar signals = (answer, rest)) :
    ∃ after, source.next = (answer, after) ∧ after.Awaits rest ∧
      after.position = source.position.after answer.toOption.join.toList := by
  obtain ⟨sound, free, rfl⟩ := h
  cases hnext : source.next with
  | mk answer' after =>
    obtain ⟨same, sound'⟩ := feed_next sound hnext
    have counted : source.feed.next = (answer, { source.feed with
        signals := rest
        position := source.position.after answer.toOption.join.toList }) := by
      have unheld : source.feed.held = none := free
      match answer with
      | .error failure => exact Feed.next_of_error unheld read
      | .ok none => exact Feed.next_of_none unheld read
      | .ok (some char) => exact Feed.next_of_some unheld read
    rw [counted] at same
    injection same with same feed
    subst same
    refine ⟨after, rfl, ⟨sound', ?_, ?_⟩, ?_⟩
    · exact (congrArg Feed.held feed).symm.trans free
    · exact (congrArg Feed.signals feed).symm
    · exact (congrArg Feed.position feed).symm

/-- Apart from a character it holds, the source will hand out `text` and then end. -/
structure Reading (source : Source) (text : List Char) : Prop where
  sound : source.Sound
  brings : ∃ bytes, Signal.Brings source.signals bytes ∧ text = Text.Utf8.decode bytes

theorem reading_ofInput {input : Input} {capacity : Nat} {bytes : List UInt8}
    (room : 0 < capacity) (unblocked : input.limit ≠ some 0)
    (delivered : input.contents = .ok bytes) :
    (ofInput input capacity).Reading (Text.Utf8.decode bytes) where
  sound := sound_ofInput room unblocked
  brings := by
    have same : (ofInput input capacity).signals = input.signals :=
      congrArg Feed.signals (feed_ofInput input capacity)
    exact ⟨bytes, same ▸ Signal.brings_contents delivered, rfl⟩

theorem Reading.congr {source other : Source} {text : List Char} (h : source.Reading text)
    (sound : other.Sound) (same : other.signals = source.signals) : other.Reading text :=
  ⟨sound, same ▸ h.brings⟩

theorem Reading.tell {source : Source} {text : List Char} (h : source.Reading text)
    (event : Event) : (source.tell event).Reading text :=
  h.congr (h.sound.tell event) rfl

theorem Reading.withHeld {source : Source} {text : List Char} (h : source.Reading text)
    (held : Option Char) : Reading { source with held } text :=
  h.congr (h.sound.withHeld held) rfl

theorem next_of_held {source : Source} {char : Char} (h : source.held = some char) :
    source.next = (.ok (some char), { source with held := none }) := by
  rw [next, h]

theorem Reading.next_cons {source : Source} {char : Char} {text : List Char}
    (h : source.Reading (char :: text)) (free : source.held = none) :
    ∃ after, source.next = (.ok (some char), after) ∧ after.Reading text ∧ after.held = none ∧
      after.position = source.position.advance char := by
  obtain ⟨bytes, brings, spelled⟩ := h.brings
  cases bytes with
  | nil =>
    rw [Text.Utf8.decode] at spelled
    cases spelled
  | cons lead bytes =>
    rw [Text.Utf8.decode] at spelled
    cases spelled
    obtain ⟨rest, read, left⟩ := brings.nextChar
    obtain ⟨after, found, awaits, position⟩ := Awaits.next ⟨h.sound, free, rfl⟩ read
    exact ⟨after, found, ⟨awaits.sound, _, awaits.brings ▸ left, rfl⟩, awaits.free, position⟩

theorem Reading.next_nil {source : Source} (h : source.Reading []) (free : source.held = none) :
    ∃ after, source.next = (.ok none, after) ∧ after.Reading [] ∧ after.held = none ∧
      after.position = source.position := by
  obtain ⟨bytes, brings, spelled⟩ := h.brings
  cases bytes with
  | cons lead bytes =>
    rw [Text.Utf8.decode] at spelled
    cases spelled
  | nil =>
    obtain ⟨after, found, awaits, position⟩ :=
      Awaits.next ⟨h.sound, free, rfl⟩ brings.nextChar_nil
    have left : Signal.Brings after.signals [] := awaits.brings ▸ Signal.brings_nil
    exact ⟨after, found, ⟨awaits.sound, _, left, spelled⟩, awaits.free, position⟩

theorem Reading.unique {source : Source} {text other : List Char} (h : source.Reading text)
    (h' : source.Reading other) : text = other := by
  -- A character that the source holds does not count, so it is taken out of the way.
  suffices same : ∀ free : Source, free.held = none → free.Reading text → free.Reading other →
      text = other from same _ rfl (h.withHeld none) (h'.withHeld none)
  clear h h'
  intro free unheld h h'
  induction text generalizing other free with
  | nil =>
    obtain ⟨after, found, -⟩ := h.next_nil unheld
    cases other with
    | nil => rfl
    | cons c other =>
      obtain ⟨after', found', -⟩ := h'.next_cons unheld
      cases found.symm.trans found'
  | cons c text ih =>
    obtain ⟨after, found, left, unheld', -⟩ := h.next_cons unheld
    cases other with
    | nil =>
      obtain ⟨after', found', -⟩ := h'.next_nil unheld
      cases found.symm.trans found'
    | cons d other =>
      obtain ⟨after', found', left', -⟩ := h'.next_cons unheld
      cases found.symm.trans found'
      exact congrArg (c :: ·) (ih after unheld' left left')

end TokenListing.Source
