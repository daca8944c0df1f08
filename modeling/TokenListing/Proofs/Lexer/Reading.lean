import TokenListing.Proofs.Lexer.Recognition
import TokenListing.Proofs.Lexer.Scan
import TokenListing.Proofs.Source.Standing

/-! # Lexers that stand before a text

A scan of a source that stands before a text gives the verdict of the machine on that text, with
the position of the first visible character, and leaves the source before what the machine left.
So a lexer before a lexeme gives its token, one before malformed characters the error, and one at
the end of its text nothing.
-/
namespace TokenListing.Lexer
open Grammar

/-- If a scan after the next character gives the verdict on the rest of the text, a scan before
that character gives the verdict on the text. -/
theorem scan_of_step {state : State} (start : Span) {before : Span} {source : Source} {c : Char}
    {text rest : List Char} {verdict : Verdict} (standing : source.Stands before (c :: text))
    (judged : state.judge (c :: text) = some (verdict, rest))
    (later : ∀ next source, state.onChar c = .advance next →
      source.Stands (before.advance c) text → next.judge text = some (verdict, rest) →
      ∃ taken after, text = taken ++ rest ∧
        scan next (if state = .start then before.advance c else start) source =
          (verdict.answer (if state = .start then before.advance c else start), after) ∧
        after.Stands ((before.advance c).after taken) rest) :
    ∃ taken after, c :: text = taken ++ rest ∧
      scan state start source =
        (verdict.answer (if state = .start then before.advance c else start), after) ∧
      after.Stands (before.after taken) rest := by
  obtain ⟨next, found, position, beyond, again⟩ := standing.next_cons
  rw [scan_of_some found, position]
  rw [State.judge] at judged
  cases hstep : state.onChar c with
  | advance state' =>
    rw [hstep] at judged
    obtain ⟨taken, after, rfl, scanned, stands⟩ := later state' next hstep beyond judged
    exact ⟨c :: taken, after, rfl, scanned, stands⟩
  | settle verdict =>
    rw [hstep] at judged
    cases judged
    exact ⟨[c], next, rfl, rfl, beyond⟩
  | settleBefore verdict =>
    rw [hstep] at judged
    cases judged
    rw [position] at again
    exact ⟨[], _, rfl, rfl, again⟩

theorem scan_of_judge {read : List Char} {state : State} (amounts : Amounts read state)
    (start : Span) {before : Span} {source : Source} {text rest : List Char} {verdict : Verdict}
    (standing : source.Stands before text)
    (judged : state.judge text = some (verdict, rest)) :
    ∃ taken after, text = taken ++ rest ∧ scan state start source = (verdict.answer start, after) ∧
      after.Stands (before.after taken) rest := by
  induction text generalizing read state before source with
  | nil =>
    obtain ⟨after, found, ended⟩ := standing.next_nil
    obtain ⟨last, hend, -⟩ := onEnd_holds amounts
    rw [State.judge, hend] at judged
    cases judged
    rw [scan_of_none found, hend]
    exact ⟨[], after, rfl, rfl, ended⟩
  | cons c text ih =>
    have step := onChar_holds amounts c
    have scanned := scan_of_step start standing judged
    rw [if_neg amounts.ne_start] at scanned
    apply scanned
    intro next source hstep standing judged
    rw [hstep] at step
    exact ih step standing judged

/-- Before a visible character a scan gives the verdict of the machine on the text, and the position
of that character. -/
theorem scan_of_visible {c : Char} (visible : Text.isBlank c = false) (start : Span)
    {before : Span} {source : Source} {text rest : List Char} {verdict : Verdict}
    (standing : source.Stands before (c :: text))
    (judged : State.start.judge (c :: text) = some (verdict, rest)) :
    ∃ taken after, c :: text = taken ++ rest ∧
      scan .start start source = (verdict.answer (before.advance c), after) ∧
      after.Stands (before.after taken) rest := by
  have step := onFirst_holds visible
  apply scan_of_step start standing judged
  intro next source hstep standing judged
  rw [State.onChar, visible, if_neg Bool.false_ne_true] at hstep
  rw [hstep] at step
  exact scan_of_judge step _ standing judged

theorem scan_start (start start' : Span) (source : Source) :
    scan .start start source = scan .start start' source := by
  -- Between tokens the position is not yet known, and the next character sets it.
  match h : source.next with
  | (.error failure, after) => rw [scan_of_error h, scan_of_error h]
  | (.ok none, after) => rw [scan_of_none h, scan_of_none h]; rfl
  | (.ok (some c), after) => rw [scan_of_some h, scan_of_some h]; rfl

theorem scan_of_blank {c : Char} (blank : Text.isBlank c = true) (start : Span) {before : Span}
    {source : Source} {text : List Char} (standing : source.Stands before (c :: text)) :
    ∃ after, after.Stands (before.advance c) text ∧
      scan .start start source = scan .start start after := by
  obtain ⟨next, found, -, beyond, -⟩ := standing.next_cons
  refine ⟨next, beyond, ?_⟩
  rw [scan_of_some found, State.onChar, if_pos blank]
  exact scan_start _ _ _

structure Stands (lexer : Lexer) (before : Span) (text : List Char) : Prop where
  running : lexer.ending = none
  standing : lexer.source.Stands before text

theorem stands_ofInput {input : Input} {capacity : Nat} {bytes : List UInt8}
    (room : 0 < capacity) (unblocked : input.limit ≠ some 0)
    (delivered : input.contents = .ok bytes) (log : Diagnostic.Log) :
    (ofInput input capacity log).Stands .start (Text.Utf8.decode bytes) :=
  ⟨rfl, Source.stands_ofInput room unblocked delivered⟩

def itemOf : Answer → Option (Except LexError Token)
  | .ok token => token.map .ok
  | .error error => some (.error error)

theorem next_of_scan {lexer : Lexer} {answer : Answer} {after : Source}
    (running : lexer.ending = none) (h : scan .start .start lexer.source = (answer, after)) :
    lexer.next = (itemOf answer, settled after lexer.log answer) := by
  have unfinished : lexer.isFinished = false := by rw [isFinished, running]; rfl
  rw [next, unfinished, if_neg Bool.false_ne_true, nextToken_of_scan running h]
  cases answer <;> rfl

theorem Stands.next_lexeme {lexer : Lexer} {before : Span} {lexeme text : List Char} {first : Char}
    {kind : TokenKind} {value : TokenValue} (h : lexer.Stands before (lexeme ++ text))
    (begun : lexeme.head? = some first) (read : Lexeme lexeme text.head? kind value) :
    ∃ after, lexer.next = (some (.ok ⟨kind, value, before.advance first⟩), after) ∧
      after.Stands (before.after lexeme) text := by
  have judged := judge_lexeme read
  obtain ⟨c, more, rfl, visible⟩ := read.begun
  cases begun
  obtain ⟨taken, after, split, scanned, stands⟩ :=
    scan_of_visible visible .start h.standing judged
  have whole : taken = first :: more := (List.append_cancel_right split).symm
  rw [whole] at stands
  exact ⟨_, next_of_scan h.running scanned, rfl, stands.tell _⟩

theorem Stands.next_malformed {lexer : Lexer} {before : Span} {opening text : List Char}
    {first : Char} {malformation : Malformation} (h : lexer.Stands before (opening ++ text))
    (begun : opening.head? = some first) (wrong : Malformed opening text.head? malformation) :
    ∃ after, lexer.next =
        (some (.error (.malformed malformation (before.advance first))), after) ∧
      after.ending = some (.failed (.malformed malformation (before.advance first))) := by
  obtain ⟨left, judged⟩ := judge_malformed wrong
  obtain ⟨c, more, rfl, visible⟩ := wrong.begun
  cases begun
  obtain ⟨taken, after, -, scanned, -⟩ := scan_of_visible visible .start h.standing judged
  exact ⟨_, next_of_scan h.running scanned, rfl⟩

theorem Stands.next_nil {lexer : Lexer} {before : Span} (h : lexer.Stands before []) :
    ∃ after, lexer.next = (none, after) ∧ after.ending = some .endOfInput := by
  obtain ⟨after, found, -⟩ := h.standing.next_nil
  have scanned : scan .start .start lexer.source = (.ok none, after) := scan_of_none found
  exact ⟨_, next_of_scan h.running scanned, rfl⟩

theorem Stands.next_blank {lexer : Lexer} {before : Span} {c : Char} {text : List Char}
    (h : lexer.Stands before (c :: text)) (blank : Text.isBlank c = true) :
    ∃ other : Lexer, other.Stands (before.advance c) text ∧ lexer.next = other.next := by
  obtain ⟨after, beyond, same⟩ := scan_of_blank blank .start h.standing
  let other : Lexer := ⟨after, lexer.log, none⟩
  have found : other.next = _ := next_of_scan rfl rfl
  exact ⟨other, ⟨rfl, beyond⟩, (next_of_scan h.running same).trans found.symm⟩

end TokenListing.Lexer
