import TokenListing.Proofs.Source.Tape

/-! # Sources that are alike

Two sources are alike if they differ in nothing but their chunks, what they told of so far, and
their refills. Every call keeps two of them alike and gets the same reply from both.
-/
namespace TokenListing

namespace Source

/-- Sources that are the same without their chunks, and that told the same after `earlier` and
`earlier'`. -/
structure Alike (earlier earlier' : List Event) (a b : Source) : Prop where
  left : a.Sound
  right : b.Sound
  feed : a.feed.silent = b.feed.silent
  told : ∃ news, a.told = earlier ++ news ∧ b.told = earlier' ++ news

variable {earlier earlier' : List Event} {a b : Source}

theorem Alike.next {after : Source} {answer : Except Failure (Option Char)}
    (h : Alike earlier earlier' a b) (hnext : a.next = (answer, after)) :
    ∃ other, b.next = (answer, other) ∧ Alike earlier earlier' after other := by
  obtain ⟨first, sound⟩ := feed_next h.left hnext
  obtain ⟨silent, kept⟩ := Feed.next_silent a.feed
  rw [first] at silent kept
  cases hother : b.next with
  | mk same other =>
    obtain ⟨second, sound'⟩ := feed_next h.right hother
    obtain ⟨silent', kept'⟩ := Feed.next_silent b.feed
    rw [second, ← h.feed, silent] at silent'
    rw [second] at kept'
    injection silent' with answers feeds
    dsimp only at answers
    subst answers
    obtain ⟨news, told, told'⟩ := h.told
    exact ⟨other, rfl, sound, sound', feeds, news, kept.trans told, kept'.trans told'⟩

theorem Alike.position (h : Alike earlier earlier' a b) : a.position = b.position :=
  congrArg Feed.position h.feed

theorem Alike.withHeld (h : Alike earlier earlier' a b) (held : Option Char) :
    Alike earlier earlier' { a with held } { b with held } where
  left := h.left.withHeld held
  right := h.right.withHeld held
  feed := congrArg (fun feed : Feed => { feed with held }) h.feed
  told := h.told

theorem told_tell (source : Source) (event : Event) :
    (source.tell event).told = source.told ++ [event].filter fun event => !event.isRefill :=
  congrArg Feed.events (feed_tell source event)

theorem Alike.tell (h : Alike earlier earlier' a b) (event : Event) :
    Alike earlier earlier' (a.tell event) (b.tell event) := by
  obtain ⟨news, told, told'⟩ := h.told
  refine ⟨h.left.tell event, h.right.tell event, h.feed,
    news ++ [event].filter fun event => !event.isRefill, ?_, ?_⟩
  · rw [told_tell, told, List.append_assoc]
  · rw [told_tell, told', List.append_assoc]

theorem alike_ofInput {a b : Input} {m n : Nat} (same : a.signals = b.signals) (hm : 0 < m)
    (hn : 0 < n) (ha : a.limit ≠ some 0) (hb : b.limit ≠ some 0) :
    Alike [] [] (ofInput a m) (ofInput b n) where
  left := sound_ofInput hm ha
  right := sound_ofInput hn hb
  feed := by rw [feed_ofInput, feed_ofInput, same]
  told := ⟨[], rfl, rfl⟩

theorem bisimulation_alike : Calls.Bisimulation reply reply (Alike earlier earlier') := by
  intro a b call h
  cases call with
  | next =>
    cases hnext : a.next with
    | mk answer after =>
      obtain ⟨other, found, alike⟩ := h.next hnext
      simp only [reply, hnext, found]
      exact ⟨trivial, alike⟩
  | takeBack char =>
    have held : a.held = b.held := congrArg Feed.held h.feed
    simp only [reply, takeBack, held]
    cases b.held with
    | some other => exact ⟨rfl, h⟩
    | none => exact ⟨rfl, h.withHeld (some char)⟩

end Source
end TokenListing
