import TokenListing.Proofs.Lexer.Scan
import TokenListing.Proofs.Source.Alike
import TokenListing.Session

/-! # Buffering is not to be observed

A scan and a call of a lexer keep two sources alike and give the same on both, so nothing but a
refill tells how large the chunks are and how the input was cut into reads.
-/
namespace TokenListing

namespace Lexer
open Source (Alike)

variable {earlier earlier' : List Event}

theorem Scans.alike {state : State} {start : Span} {a last : Source} {asked : List Exchange}
    {answer : Answer} (scans : Scans state start a asked answer last) {b : Source}
    (h : Alike earlier earlier' a b) :
    ∃ other, Scans state start b asked answer other ∧ Alike earlier earlier' last other := by
  induction scans generalizing b with
  | failed asks =>
    obtain ⟨other, found, alike⟩ := h.next asks
    rw [alike.position]
    exact ⟨other, .failed found, alike⟩
  | ended asks =>
    obtain ⟨other, found, alike⟩ := h.next asks
    exact ⟨other, .ended found, alike⟩
  | advances asks step _ ih =>
    obtain ⟨next, found, alike⟩ := h.next asks
    obtain ⟨other, later, ended⟩ := ih alike
    exact ⟨other, .advances found step (alike.position ▸ later), ended⟩
  | settles asks step =>
    obtain ⟨other, found, alike⟩ := h.next asks
    rw [alike.position]
    exact ⟨other, .settles found step, alike⟩
  | @settlesBefore _ _ _ _ char _ asks step =>
    obtain ⟨other, found, alike⟩ := h.next asks
    refine ⟨_, ?_, alike.withHeld (some char)⟩
    rw [alike.position]
    exact .settlesBefore found step

theorem alike_scan {a b : Source} (h : Alike earlier earlier' a b) (state : State)
    (start : Span) : (scan state start a).1 = (scan state start b).1 ∧
      Alike earlier earlier' (scan state start a).2 (scan state start b).2 := by
  obtain ⟨other, scans, alike⟩ := (scans_scan state start a).alike h
  rw [scans.scan_eq]
  exact ⟨rfl, alike⟩

/-- Lexers over sources that are alike, with the same log and at the same end if at any. -/
structure Twins (earlier earlier' : List Event) (a b : Lexer) : Prop where
  source : Alike earlier earlier' a.source b.source
  log : a.log = b.log
  ending : a.ending = b.ending

theorem twins_settled {a b : Source} (h : Alike earlier earlier' a b) (log : Diagnostic.Log)
    (answer : Answer) : Twins earlier earlier' (settled a log answer) (settled b log answer) := by
  match answer with
  | .ok (some token) => exact ⟨h.tell _, rfl, rfl⟩
  | .ok none =>
    rw [settled, settled, h.position]
    exact ⟨h.tell _, rfl, rfl⟩
  | .error error => exact ⟨h.tell _, rfl, rfl⟩

theorem Twins.nextToken {a b : Lexer} (h : Twins earlier earlier' a b) :
    a.nextToken.1 = b.nextToken.1 ∧ Twins earlier earlier' a.nextToken.2 b.nextToken.2 := by
  cases ended : a.ending with
  | some ending =>
    obtain ⟨source, log, _⟩ := a
    obtain ⟨source', log', _⟩ := b
    cases ended
    cases h.ending
    exact ⟨rfl, h⟩
  | none =>
    obtain ⟨same, scanned⟩ := alike_scan h.source .start .start
    rw [nextToken_eq_scan ended, nextToken_eq_scan (h.ending ▸ ended), ← same, h.log]
    exact ⟨rfl, twins_settled scanned _ _⟩

theorem Twins.next {a b : Lexer} (h : Twins earlier earlier' a b) :
    a.next.1 = b.next.1 ∧ Twins earlier earlier' a.next.2 b.next.2 := by
  obtain ⟨same, after⟩ := h.nextToken
  have finished : a.isFinished = b.isFinished := congrArg Option.isSome h.ending
  unfold Lexer.next
  rw [finished]
  by_cases stopped : b.isFinished
  · rw [if_pos stopped, if_pos stopped]
    exact ⟨rfl, h⟩
  · rw [if_neg stopped, if_neg stopped]
    cases ha : a.nextToken with
    | mk answer left =>
      cases hb : b.nextToken with
      | mk answer' right =>
        rw [ha, hb] at same after
        dsimp only at same after
        subst same
        cases answer with
        | ok token => exact ⟨rfl, after⟩
        | error error => exact ⟨rfl, after⟩

theorem bisimulation_twins : Calls.Bisimulation reply reply (Twins earlier earlier') := by
  intro a b call h
  cases call with
  | nextToken => exact ⟨congrArg Reply.answer h.nextToken.1, h.nextToken.2⟩
  | next => exact ⟨congrArg Reply.item h.next.1, h.next.2⟩
  | position => exact ⟨congrArg Reply.position h.source.position, h⟩
  | isFinished => exact ⟨congrArg (fun e => Reply.finished (Option.isSome e)) h.ending, h⟩

end Lexer
end TokenListing
