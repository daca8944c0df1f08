import TokenListing.Lexer.Progress
import TokenListing.Proofs.Calls

/-! # Calls and scans step by step

A lexer is asked for tokens in two ways, and for its position and whether it is finished at any
time between. For a token it does a scan, which reads one character after another. What the scan
does next depends on the next character of its source alone.
-/
namespace TokenListing.Lexer

inductive Call where
  | nextToken
  | next
  | position
  | isFinished
  deriving DecidableEq, Repr

inductive Reply where
  | answer (answer : Answer)
  | item (item : Option (Except LexError Token))
  | position (span : Span)
  | finished (flag : Bool)

def reply (lexer : Lexer) : Call → Reply × Lexer
  | .nextToken => (.answer lexer.nextToken.1, lexer.nextToken.2)
  | .next => (.item lexer.next.1, lexer.next.2)
  | .position => (.position lexer.position, lexer)
  | .isFinished => (.finished lexer.isFinished, lexer)

/-- What a scan answers, and the source after it. -/
def scan (state : State) (start : Span) (source : Source) : Answer × Source :=
  ((Scan.mk state start source []).run.1, (Scan.mk state start source []).run.2.source)

def asked (state : State) (start : Span) (source : Source) : List Exchange :=
  (Scan.mk state start source []).run.2.exchanges.reverse

variable {state : State} {start : Span} {source after : Source}

theorem scans_scan (state : State) (start : Span) (source : Source) :
    Scans state start source (asked state start source) (scan state start source).1
      (scan state start source).2 := by
  obtain ⟨exchanges, scans, kept⟩ := (Scan.mk state start source []).scans_run
  have same : asked state start source = exchanges := by
    rw [asked, kept, List.append_nil, List.reverse_reverse]
  rw [same]
  exact scans

/-- A scan does a round for every character that it asks for, and what was asked before makes no
difference to it. -/
theorem Scans.rounds {exchanges : List Exchange} {answer : Answer}
    (h : Scans state start source exchanges answer after) (earlier : List Exchange) :
    ∃ last, Rounds Scan.round ⟨state, start, source, earlier⟩ (exchanges.countP (·.1 = .next))
        (answer, last) ∧
      last.source = after ∧ last.exchanges = exchanges.reverse ++ earlier := by
  induction h generalizing earlier with
  | failed asks => exact ⟨_, .last (Scan.round_of_error asks), rfl, rfl⟩
  | ended asks => exact ⟨_, .last (Scan.round_of_none asks), rfl, rfl⟩
  | @advances state _ start _ _ _ _ _ _ asks step _ ih =>
    have leads : Scan.round ⟨state, start, _, earlier⟩ = _ := Scan.round_of_some asks
    rw [step] at leads
    obtain ⟨last, later, left, kept⟩ := ih _
    refine ⟨last, ?_, left, ?_⟩
    · rw [List.countP_cons]
      exact .more leads later
    · rw [kept, List.reverse_cons, List.append_assoc]
      rfl
  | @settles state start _ _ _ _ asks step =>
    have ends : Scan.round ⟨state, start, _, earlier⟩ = _ := Scan.round_of_some asks
    rw [step] at ends
    exact ⟨_, .last ends, rfl, rfl⟩
  | @settlesBefore state start _ _ _ _ asks step =>
    have ends : Scan.round ⟨state, start, _, earlier⟩ = _ := Scan.round_of_some asks
    rw [step] at ends
    dsimp only at ends
    rw [Scan.unread_of_free (Source.held_next asks)] at ends
    exact ⟨_, .last ends, rfl, rfl⟩

theorem Scan.run_of_rounds {scan : Scan} {count : Nat} {ended : Answer × Scan}
    (h : Rounds round scan count ended) : scan.run = ended := by
  induction h with
  | last ends => exact run_of_inr ends
  | more leads _ ih => exact (run_of_inl leads).trans ih

theorem Scans.scan_eq {exchanges : List Exchange} {answer : Answer}
    (h : Scans state start source exchanges answer after) :
    scan state start source = (answer, after) := by
  obtain ⟨last, rounds, left, -⟩ := h.rounds []
  rw [scan, Scan.run_of_rounds rounds, left]

theorem scan_of_error {failure : Failure} (h : source.next = (.error failure, after)) :
    scan state start source = (.error (.unreadable failure after.position), after) :=
  (Scans.failed h).scan_eq

theorem scan_of_none (h : source.next = (.ok none, after)) :
    scan state start source =
      ((state.onEnd.map (Verdict.answer start)).getD (.ok none), after) :=
  (Scans.ended h).scan_eq

theorem scan_of_some {char : Char} (h : source.next = (.ok (some char), after)) :
    scan state start source =
      let start := if state = .start then after.position else start
      match state.onChar char with
      | .advance state => scan state start after
      | .settle verdict => (verdict.answer start, after)
      | .settleBefore verdict => (verdict.answer start, { after with held := some char }) := by
  cases step : state.onChar char with
  | advance following => exact (Scans.advances h step (scans_scan _ _ _)).scan_eq
  | settle verdict => exact (Scans.settles h step).scan_eq
  | settleBefore verdict => exact (Scans.settlesBefore h step).scan_eq

theorem nextToken_of_scan {lexer : Lexer} {answer : Answer} (running : lexer.ending = none)
    (h : scan .start .start lexer.source = (answer, after)) :
    lexer.nextToken = (answer, settled after lexer.log answer) := by
  obtain ⟨source, log, ending⟩ := lexer
  dsimp only at running h
  subst running
  obtain ⟨rfl, rfl⟩ := Prod.mk.inj h
  rfl

theorem nextToken_eq_scan {lexer : Lexer} (running : lexer.ending = none) :
    lexer.nextToken = ((scan .start .start lexer.source).1,
      settled (scan .start .start lexer.source).2 lexer.log (scan .start .start lexer.source).1) :=
  nextToken_of_scan running rfl

end TokenListing.Lexer
