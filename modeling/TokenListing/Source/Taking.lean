import TokenListing.Source

/-! # How a source comes by a character

A call for a character, the collection of a sequence within it and the passes for a byte can end in
a few ways. What such an operation does to a source is shown for each of these ways, without its
definition.
-/
namespace TokenListing.Source
open Text.Utf8

inductive Passes : Nat → Source → Except Failure (Option UInt8) → Source → Prop where
  | out (source : Source) : Passes 0 source (.ok none) source
  | drained {count : Nat} {source after : Source} {byte : UInt8}
      (drains : source.drain = (some byte, after)) :
      Passes (count + 1) source (.ok (some byte)) after
  | exhausted {count : Nat} {source after : Source} (dry : source.drain = (none, after)) :
      Passes (count + 1) source (.ok none) after
  | failed {count : Nat} {source rest after : Source} {failure : Failure}
      (dry : source.drain = (none, rest)) (refills : rest.refill = (.error failure, after)) :
      Passes (count + 1) source (.error failure) after
  | nothing {count : Nat} {source rest after : Source} (dry : source.drain = (none, rest))
      (refills : rest.refill = (.ok (), after)) : Passes (count + 1) source (.ok none) after
  | more {count : Nat} {source rest full after : Source} {answer : Except Failure (Option UInt8)}
      (dry : source.drain = (none, rest)) (refills : rest.refill = (.ok (), full))
      (later : Passes count full answer after) : Passes (count + 1) source answer after

/-- The ways in which a source answers a call for a byte. -/
inductive Gives (source : Source) : Except Failure (Option UInt8) → Source → Prop where
  | aside {byte : UInt8} (stray : source.stray = some byte) :
      Gives source (.ok (some byte)) { source with stray := none }
  | passes {answer : Except Failure (Option UInt8)} {after : Source} (free : source.stray = none)
      (passes : Passes 2 source answer after) : Gives source answer after

inductive Collects (lead : UInt8) :
    Nat → List UInt8 → Source → Except Failure Char → Source → Prop where
  | whole (tail : List UInt8) (source : Source) :
      Collects lead 0 tail source (.ok (scalar lead tail)) source
  | failed {missing : Nat} {tail : List UInt8} {source after : Source} {failure : Failure}
      (asks : source.nextByte = (.error failure, after)) :
      Collects lead (missing + 1) tail source (.error failure) after
  | ended {missing : Nat} {tail : List UInt8} {source after : Source}
      (asks : source.nextByte = (.ok none, after)) :
      Collects lead (missing + 1) tail source (.ok replacement) after
  | cut {missing : Nat} {tail : List UInt8} {source rest : Source} {byte : UInt8}
      (asks : source.nextByte = (.ok (some byte), rest)) (apart : isContinuation byte = false) :
      Collects lead (missing + 1) tail source (.ok replacement) { rest with stray := some byte }
  | more {missing : Nat} {tail : List UInt8} {source rest after : Source} {byte : UInt8}
      {answer : Except Failure Char} (asks : source.nextByte = (.ok (some byte), rest))
      (continued : isContinuation byte = true)
      (others : Collects lead missing (tail ++ [byte]) rest answer after) :
      Collects lead (missing + 1) tail source answer after

inductive Decodes (lead : UInt8) (source : Source) : Except Failure Char → Source → Prop where
  | alone (unannounced : width lead = none) : Decodes lead source (.ok replacement) source
  | announced {count : Nat} {answer : Except Failure Char} {after : Source}
      (width : width lead = some count)
      (collects : Collects lead (count - 1) [] source answer after) :
      Decodes lead source answer after

/-- The ways in which a source answers a call for a character. -/
inductive Takes (source : Source) : Except Failure (Option Char) → Source → Prop where
  | again {char : Char} (held : source.held = some char) :
      Takes source (.ok (some char)) { source with held := none }
  | failed {failure : Failure} {after : Source} (free : source.held = none)
      (asks : source.nextByte = (.error failure, after)) : Takes source (.error failure) after
  | ended {after : Source} (free : source.held = none)
      (asks : source.nextByte = (.ok none, after)) : Takes source (.ok none) after
  | broken {lead : UInt8} {failure : Failure} {rest after : Source} (free : source.held = none)
      (asks : source.nextByte = (.ok (some lead), rest))
      (decodes : rest.Decodes lead (.error failure) after) : Takes source (.error failure) after
  | decoded {lead : UInt8} {char : Char} {rest after : Source} (free : source.held = none)
      (asks : source.nextByte = (.ok (some lead), rest))
      (decodes : rest.Decodes lead (.ok char) after) :
      Takes source (.ok (some char)) { after with position := after.position.advance char }

variable {source after : Source} {lead : UInt8}

theorem passes_of_pass {count : Nat} {answer : Except Failure (Option UInt8)}
    (h : source.pass = .inr (answer, after)) : Passes (count + 1) source answer after := by
  rw [pass] at h
  split at h
  next drains =>
    cases h
    exact .drained drains
  next dry =>
    split at h
    · cases h
      exact .exhausted dry
    · split at h
      next refills =>
        cases h
        exact .failed dry refills
      next refills =>
        split at h
        · cases h
          exact .nothing dry refills
        · cases h

theorem drain_refill_of_pass (h : source.pass = .inl after) :
    ∃ rest, source.drain = (none, rest) ∧ rest.refill = (.ok (), after) := by
  rw [pass] at h
  split at h
  · cases h
  next rest dry =>
    split at h
    · cases h
    · split at h
      · cases h
      next refills =>
        split at h
        · cases h
        · cases h
          exact ⟨rest, dry, refills⟩

theorem passes_passes (count : Nat) (source : Source) :
    Passes count source ((source.passes count).1.getD (.ok none)) (source.passes count).2 := by
  induction count generalizing source with
  | zero => exact .out source
  | succ count ih =>
    rw [passes]
    split
    next full again =>
      obtain ⟨rest, dry, refills⟩ := drain_refill_of_pass again
      exact .more dry refills (ih full)
    next last => exact passes_of_pass last

theorem gives_nextByte {answer : Except Failure (Option UInt8)}
    (h : source.nextByte = (answer, after)) : source.Gives answer after := by
  rw [nextByte] at h
  split at h
  next stray =>
    cases h
    exact .aside stray
  next free =>
    cases h
    exact .passes free (passes_passes 2 source)

theorem collects_of_continuation {missing : Nat} {tail : List UInt8}
    {answer : Except Failure Char} (h : source.continuation = .inr (answer, after)) :
    Collects lead (missing + 1) tail source answer after := by
  rw [continuation] at h
  split at h
  next asks =>
    cases h
    exact .failed asks
  next asks =>
    cases h
    exact .ended asks
  next asks =>
    split at h
    · cases h
    next apart =>
      cases h
      exact .cut asks (Bool.not_eq_true _ ▸ apart)

theorem nextByte_of_continuation {byte : UInt8} (h : source.continuation = .inl (byte, after)) :
    source.nextByte = (.ok (some byte), after) ∧ isContinuation byte = true := by
  rw [continuation] at h
  split at h
  · cases h
  · cases h
  next asks =>
    split at h
    next continued =>
      cases h
      exact ⟨asks, continued⟩
    · cases h

theorem collects_collect {missing : Nat} {tail : List UInt8} {answer : Except Failure Char}
    (h : collect lead missing tail source = (answer, after)) :
    Collects lead missing tail source answer after := by
  induction missing generalizing tail source with
  | zero =>
    cases h
    exact .whole tail after
  | succ missing ih =>
    rw [collect] at h
    split at h
    next more =>
      obtain ⟨asks, continued⟩ := nextByte_of_continuation more
      exact .more asks continued (ih h)
    next last =>
      subst h
      exact collects_of_continuation last

theorem decodes_decode {answer : Except Failure Char} (h : source.decode lead = (answer, after)) :
    source.Decodes lead answer after := by
  rw [decode] at h
  split at h
  next unannounced =>
    cases h
    exact .alone unannounced
  next count width => exact .announced width (collects_collect h)

theorem takes_next {answer : Except Failure (Option Char)} (h : source.next = (answer, after)) :
    source.Takes answer after := by
  rw [next] at h
  split at h
  next held =>
    cases h
    exact .again held
  next free =>
    split at h
    next asks =>
      cases h
      exact .failed free asks
    next asks =>
      cases h
      exact .ended free asks
    next lead rest asks =>
      split at h
      next decodes =>
        cases h
        exact .broken free asks (decodes_decode decodes)
      next decodes =>
        cases h
        exact .decoded free asks (decodes_decode decodes)

end TokenListing.Source
