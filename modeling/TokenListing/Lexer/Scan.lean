import TokenListing.Lexer.Machine
import TokenListing.Source.Progress

/-! # Scans

A scan runs the machine over the characters of a source until a token is settled. It goes by
rounds: each asks for a character, and one that settles a token without belonging to it is taken
back. What was asked and what the source replied is kept, so that it can be told from a scan
whether a character was ever refused.
-/
namespace TokenListing.Lexer

/-- What a call gives: a token, `none` at the end of the input, or an error. -/
abbrev Answer := Except LexError (Option Token)

def Verdict.answer (start : Span) : Verdict → Answer
  | token kind value => .ok (some ⟨kind, value, start⟩)
  | malformed malformation => .error (.malformed malformation start)

/-- A call of a source and its reply. -/
abbrev Exchange := Source.Call × Source.Reply

structure Scan where
  state : State
  /-- Where the token begins, unless the machine is between tokens. -/
  start : Span
  source : Source
  /-- What the source was asked so far, the latest first. -/
  exchanges : List Exchange

namespace Scan

def ofSource (source : Source) : Scan :=
  ⟨.start, .start, source, []⟩

/-- Asks the source, and keeps what was asked and replied. A scan changes its source in no other
way. -/
def ask (scan : Scan) (call : Source.Call) : Source.Reply × Scan :=
  let (reply, source) := scan.source.reply call
  (reply, { scan with source, exchanges := (call, reply) :: scan.exchanges })

def next (scan : Scan) : Except Failure (Option Char) × Scan :=
  match scan.ask .next with
  | (.char answer, scan) => (answer, scan)
  -- No source replies so to a call for a character.
  | (.takenBack _, scan) => (.ok none, scan)

def unread (scan : Scan) (char : Char) : Scan :=
  (scan.ask (.takeBack char)).2

/-- Reads a character. In the state `start` a token begins with the next character that is not
blank. -/
def round (scan : Scan) : Scan ⊕ (Answer × Scan) :=
  match scan.next with
  | (.error failure, scan) => .inr (.error (.unreadable failure scan.source.position), scan)
  | (.ok none, scan) =>
    .inr ((scan.state.onEnd.map (Verdict.answer scan.start)).getD (.ok none), scan)
  | (.ok (some char), scan) =>
    let start := if scan.state = .start then scan.source.position else scan.start
    match scan.state.onChar char with
    | .advance state => .inl { scan with state, start }
    | .settle verdict => .inr (verdict.answer start, scan)
    | .settleBefore verdict => .inr (verdict.answer start, scan.unread char)

section Round

variable {state : State} {start : Span} {source after : Source} {exchanges : List Exchange}

theorem round_of_error {failure : Failure} (h : source.next = (.error failure, after)) :
    round ⟨state, start, source, exchanges⟩ = .inr (.error (.unreadable failure after.position),
      ⟨state, start, after, (.next, .char (.error failure)) :: exchanges⟩) := by
  simp only [round, next, ask, Source.reply, h]

theorem round_of_none (h : source.next = (.ok none, after)) :
    round ⟨state, start, source, exchanges⟩ =
      .inr ((state.onEnd.map (Verdict.answer start)).getD (.ok none),
        ⟨state, start, after, (.next, .char (.ok none)) :: exchanges⟩) := by
  simp only [round, next, ask, Source.reply, h]

theorem round_of_some {char : Char} (h : source.next = (.ok (some char), after)) :
    round ⟨state, start, source, exchanges⟩ =
      let begins := if state = .start then after.position else start
      let asked := (.next, .char (.ok (some char))) :: exchanges
      match state.onChar char with
      | .advance following => .inl ⟨following, begins, after, asked⟩
      | .settle verdict => .inr (verdict.answer begins, ⟨state, start, after, asked⟩)
      | .settleBefore verdict =>
        .inr (verdict.answer begins, unread ⟨state, start, after, asked⟩ char) := by
  simp only [round, next, ask, Source.reply, h]

end Round

theorem pending_round {scan later : Scan} (h : scan.round = .inl later) :
    later.source.pending < scan.source.pending := by
  obtain ⟨state, start, source, exchanges⟩ := scan
  match hnext : source.next with
  | (.error failure, after) =>
    rw [round_of_error hnext] at h
    cases h
  | (.ok none, after) =>
    rw [round_of_none hnext] at h
    cases h
  | (.ok (some char), after) =>
    rw [round_of_some hnext] at h
    cases hstep : state.onChar char <;> rw [hstep] at h <;> cases h
    exact Source.pending_next_some hnext

def run (scan : Scan) : Answer × Scan :=
  match _hround : scan.round with
  | .inl later => later.run
  | .inr ended => ended
termination_by scan.source.pending
decreasing_by exact pending_round _hround

theorem run_of_inl {scan later : Scan} (h : scan.round = .inl later) : scan.run = later.run := by
  rw [run]
  split
  next h' => cases h.symm.trans h'; rfl
  next h' => cases h.symm.trans h'

theorem run_of_inr {scan : Scan} {ended : Answer × Scan} (h : scan.round = .inr ended) :
    scan.run = ended := by
  rw [run]
  split
  next h' => cases h.symm.trans h'
  next h' => cases h.symm.trans h'; rfl

theorem unread_of_free {state : State} {start : Span} {source : Source} {exchanges : List Exchange}
    (free : source.held = none) (char : Char) :
    unread ⟨state, start, source, exchanges⟩ char =
      ⟨state, start, { source with held := some char },
        (.takeBack char, .takenBack (.ok ())) :: exchanges⟩ := by
  simp only [unread, ask, Source.reply, Source.takeBack, free]

end Scan

/-- The ways in which a scan comes to an answer, with what it asks of its source on the way. -/
inductive Scans : State → Span → Source → List Exchange → Answer → Source → Prop where
  | failed {state : State} {start : Span} {source after : Source} {failure : Failure}
      (asks : source.next = (.error failure, after)) :
      Scans state start source [(.next, .char (.error failure))]
        (.error (.unreadable failure after.position)) after
  | ended {state : State} {start : Span} {source after : Source}
      (asks : source.next = (.ok none, after)) :
      Scans state start source [(.next, .char (.ok none))]
        ((state.onEnd.map (Verdict.answer start)).getD (.ok none)) after
  | advances {state following : State} {start : Span} {source after last : Source} {char : Char}
      {exchanges : List Exchange} {answer : Answer}
      (asks : source.next = (.ok (some char), after))
      (step : state.onChar char = .advance following)
      (later : Scans following (if state = .start then after.position else start) after exchanges
        answer last) :
      Scans state start source ((.next, .char (.ok (some char))) :: exchanges) answer last
  | settles {state : State} {start : Span} {source after : Source} {char : Char}
      {verdict : Verdict} (asks : source.next = (.ok (some char), after))
      (step : state.onChar char = .settle verdict) :
      Scans state start source [(.next, .char (.ok (some char)))]
        (verdict.answer (if state = .start then after.position else start)) after
  | settlesBefore {state : State} {start : Span} {source after : Source} {char : Char}
      {verdict : Verdict} (asks : source.next = (.ok (some char), after))
      (step : state.onChar char = .settleBefore verdict) :
      Scans state start source
        [(.next, .char (.ok (some char))), (.takeBack char, .takenBack (.ok ()))]
        (verdict.answer (if state = .start then after.position else start))
        { after with held := some char }

/-- Every scan goes in one of these ways. -/
theorem Scan.scans_run (scan : Scan) :
    ∃ asked, Scans scan.state scan.start scan.source asked scan.run.1 scan.run.2.source ∧
      scan.run.2.exchanges = asked.reverse ++ scan.exchanges := by
  fun_induction run scan with
  | case1 scan later leads ih =>
    obtain ⟨state, start, source, exchanges⟩ := scan
    obtain ⟨asked, scans, kept⟩ := ih
    match hnext : source.next with
    | (.error failure, after) => cases leads.symm.trans (round_of_error hnext)
    | (.ok none, after) => cases leads.symm.trans (round_of_none hnext)
    | (.ok (some char), after) =>
      rw [round_of_some hnext] at leads
      cases hstep : state.onChar char <;> rw [hstep] at leads <;> cases leads
      refine ⟨_, .advances hnext hstep scans, ?_⟩
      rw [kept, List.reverse_cons, List.append_assoc]
      rfl
  | case2 scan ended ends =>
    obtain ⟨state, start, source, exchanges⟩ := scan
    match hnext : source.next with
    | (.error failure, after) =>
      cases ends.symm.trans (round_of_error hnext)
      exact ⟨_, .failed hnext, rfl⟩
    | (.ok none, after) =>
      cases ends.symm.trans (round_of_none hnext)
      exact ⟨_, .ended hnext, rfl⟩
    | (.ok (some char), after) =>
      rw [round_of_some hnext] at ends
      cases hstep : state.onChar char <;> rw [hstep] at ends <;> cases ends
      · exact ⟨_, .settles hnext hstep, rfl⟩
      · rw [unread_of_free (Source.held_next hnext)]
        exact ⟨_, .settlesBefore hnext hstep, rfl⟩

end TokenListing.Lexer
