import TokenListing.Proofs.Lexer.Certainty
import TokenListing.Proofs.Lexer.Iteration
import TokenListing.Proofs.Lexer.Reading
import TokenListing.Proofs.Lexer.SourceCalls
import TokenListing.Proofs.Source.Facing
import TokenListing.Proofs.Source.Reach

/-! # Lexers over inputs that fail

A lexer whose input fails after some text finds what the text settles and then needs the read that
fails. So it gives all tokens that the text has whatever would have come after it, and no others,
unless it finds malformed characters first that nothing could have mended.
-/
namespace TokenListing

def LexError.failure? : LexError → Option Failure
  | .malformed .. => none
  | .unreadable failure _ => some failure

namespace Lexer

theorem collect_congr {lexer other : Lexer} (h : lexer.nextToken = other.nextToken) :
    lexer.collect = other.collect := by
  match hnext : other.nextToken with
  | (.ok none, after) => rw [collect_of_end hnext, collect_of_end (h.trans hnext)]
  | (.error error, after) => rw [collect_of_error hnext, collect_of_error (h.trans hnext)]
  | (.ok (some token), after) => rw [collect_of_token hnext, collect_of_token (h.trans hnext)]

def Answer.failure? : Answer → Option Failure
  | .ok _ => none
  | .error error => error.failure?

theorem failure?_answer (start : Span) (verdict : Verdict) :
    Answer.failure? (verdict.answer start) = none := by
  cases verdict <;> rfl

theorem Scans.readTo {state : State} {start : Span} {source after : Source} {asked : List Exchange}
    {answer : Answer} (h : Scans state start source asked answer after) :
    source.input.ReadTo answer.failure? after.input := by
  induction h with
  | failed asks => exact Source.readTo_next asks
  | @ended state start _ _ asks =>
    have clean : Answer.failure? ((state.onEnd.map (Verdict.answer start)).getD (.ok none)) =
        none := by
      cases state.onEnd with
      | none => rfl
      | some verdict => exact failure?_answer start verdict
    rw [clean]
    exact Source.readTo_next asks
  | advances asks _ _ ih => exact (Source.readTo_next asks).trans ih
  | settles asks | settlesBefore asks =>
    rw [failure?_answer]
    exact Source.readTo_next asks

open Grammar

variable {failure : Failure} {before : Span} {c : Char} {text : List Char}

/-- What a scan of a source that faces a failure comes to: the verdict that the text before the
failure settles, with the position `begin`, or else the failure. -/
inductive Meets (failure : Failure) (begin : Span) :
    Option (Verdict × List Char) → Span → List Char → Answer × Source → Prop where
  | verdict {verdict : Verdict} {before : Span} {taken rest : List Char} {after : Source}
      (facing : after.Faces failure (before.after taken) rest) :
      Meets failure begin (some (verdict, rest)) before (taken ++ rest)
        (verdict.answer begin, after)
  | failed {before span : Span} {text : List Char} {after : Source} :
      Meets failure begin none before text (.error (.unreadable failure span), after)

theorem Meets.cons {begin : Span} {settled : Option (Verdict × List Char)}
    {scanned : Answer × Source} (h : Meets failure begin settled (before.advance c) text scanned) :
    Meets failure begin settled before (c :: text) scanned := by
  cases h with
  | @verdict _ _ taken _ _ facing =>
    rw [← List.cons_append]
    exact .verdict facing
  | failed => exact .failed

/-- If a scan after the next character meets what the rest of the text settles, a scan before that
character meets what the text settles. -/
theorem meets_of_step (state : State) (start : Span) {source : Source}
    (facing : source.Faces failure before (c :: text))
    (later : ∀ next source, state.onChar c = .advance next →
      source.Faces failure (before.advance c) text →
      Meets failure (if state = .start then before.advance c else start) (next.settle text)
        (before.advance c) text
        (scan next (if state = .start then before.advance c else start) source)) :
    Meets failure (if state = .start then before.advance c else start) (state.settle (c :: text))
      before (c :: text) (scan state start source) := by
  obtain ⟨next, found, position, beyond, again⟩ := facing.next_cons
  rw [scan_of_some found, position, State.settle]
  cases hstep : state.onChar c with
  | advance state' => exact (later state' next hstep beyond).cons
  | settle verdict =>
    rw [← List.singleton_append]
    exact .verdict beyond
  | settleBefore verdict =>
    rw [position] at again
    rw [← List.nil_append (c :: text)]
    exact .verdict again

/-- Within a token a scan meets what the text settles. -/
theorem meets_scan {read : List Char} {state : State} (amounts : Amounts read state) (start : Span)
    {source : Source} (facing : source.Faces failure before text) :
    Meets failure start (state.settle text) before text (scan state start source) := by
  induction text generalizing read state before source with
  | nil =>
    obtain ⟨after, failed⟩ := facing.next_nil
    rw [scan_of_error failed]
    exact .failed
  | cons c text ih =>
    have step := onChar_holds amounts c
    have met := meets_of_step state start facing
    rw [if_neg amounts.ne_start] at met
    apply met
    intro next source hstep facing
    rw [hstep] at step
    exact ih step facing

/-- Before a visible character a scan meets what the text settles, with the position of that
character. -/
theorem meets_scan_of_visible {source : Source} (visible : Text.isBlank c = false) (start : Span)
    (facing : source.Faces failure before (c :: text)) :
    Meets failure (before.advance c) (State.start.settle (c :: text)) before (c :: text)
      (scan .start start source) := by
  have step := onFirst_holds visible
  apply meets_of_step .start start facing
  intro next source hstep facing
  rw [State.onChar, visible, if_neg Bool.false_ne_true] at hstep
  rw [hstep] at step
  exact meets_scan step _ facing

/-- The lexer is at no end, and its source faces the failure after the text. -/
structure Faces (failure : Failure) (lexer : Lexer) (before : Span) (text : List Char) :
    Prop where
  running : lexer.ending = none
  facing : lexer.source.Faces failure before text

variable {lexer : Lexer}

theorem Faces.nextToken_nil (h : lexer.Faces failure before []) :
    ∃ span after, lexer.nextToken = (.error (.unreadable failure span), after) := by
  obtain ⟨after, failed⟩ := h.facing.next_nil
  exact ⟨_, _, nextToken_of_scan h.running (scan_of_error failed)⟩

theorem Faces.nextToken_blank (h : lexer.Faces failure before (c :: text))
    (blank : Text.isBlank c = true) :
    ∃ other : Lexer, other.Faces failure (before.advance c) text ∧
      lexer.nextToken = other.nextToken := by
  obtain ⟨after, found, -, beyond, -⟩ := h.facing.next_cons
  have same : scan .start .start lexer.source = scan .start .start after := by
    rw [scan_of_some found, State.onChar, if_pos blank]
    exact scan_start _ _ _
  let other : Lexer := ⟨after, lexer.log, none⟩
  have given : other.nextToken = _ := nextToken_of_scan rfl rfl
  exact ⟨other, ⟨rfl, beyond⟩, (nextToken_of_scan h.running same).trans given.symm⟩

theorem Faces.nextToken_visible (h : lexer.Faces failure before (c :: text))
    (visible : Text.isBlank c = false) :
    (∃ lexeme rest kind value after, c :: text = lexeme ++ rest ∧ lexeme.head? = some c ∧
      (∀ more : List Char, Lexeme lexeme (rest ++ more).head? kind value) ∧
      lexer.nextToken = (.ok (some ⟨kind, value, before.advance c⟩), after) ∧
      after.Faces failure (before.after lexeme) rest) ∨
    (∃ malformation after,
      lexer.nextToken = (.error (.malformed malformation (before.advance c)), after) ∧
      ∀ more, Breaks before (c :: text ++ more) [] malformation (before.advance c)) ∨
    ∃ span after, lexer.nextToken = (.error (.unreadable failure span), after) ∧
      ∀ tokens after rest, Certain before (c :: text) tokens after rest → tokens = [] := by
  have met := meets_scan_of_visible visible .start h.facing
  generalize hscan : scan .start .start lexer.source = scanned at met
  generalize hsettled : State.start.settle (c :: text) = settled at met
  generalize hwhole : c :: text = whole at met ⊢
  have given := nextToken_of_scan h.running hscan
  cases met with
  | @verdict verdict _ taken rest after facing =>
    cases verdict with
    | token kind value =>
      obtain ⟨lexeme, split, begun, read⟩ := lexeme_of_settle visible hsettled
      cases List.append_cancel_right (hwhole.symm.trans split)
      exact .inl ⟨taken, rest, kind, value, _, rfl, begun, read, given, rfl, facing.tell _⟩
    | malformed malformation =>
      refine .inr (.inl ⟨malformation, _, given, ?_⟩)
      rw [← hwhole]
      exact breaks_of_settle visible hsettled before
  | failed =>
    refine .inr (.inr ⟨_, _, given, ?_⟩)
    rw [← hwhole]
    exact fun tokens after rest => eq_nil_of_unsettled visible hsettled

/-- What is collected before a failure: the tokens before malformed characters that nothing after
the text can mend, or else all tokens that are certain. -/
inductive Interrupted (failure : Failure) (before : Span) (text : List Char) (tokens : List Token) :
    Option LexError → Prop where
  | broken {malformation : Malformation} {span : Span}
      (wrong : ∀ more, Breaks before (text ++ more) tokens malformation span) :
      Interrupted failure before text tokens (some (.malformed malformation span))
  | failed {after span : Span} {rest : List Char}
      (certain : Certain before text tokens after rest)
      (greatest : ∀ front after rest, Certain before text front after rest → front <+: tokens) :
      Interrupted failure before text tokens (some (.unreadable failure span))

variable {tokens : List Token} {error : Option LexError}

theorem Interrupted.blank (blank : Text.isBlank c = true)
    (h : Interrupted failure (before.advance c) text tokens error) :
    Interrupted failure before (c :: text) tokens error := by
  cases h with
  | broken wrong => exact .broken fun more => (wrong more).blank blank
  | failed certain greatest =>
    refine .failed (certain.blank blank) ?_
    intro front after rest sure
    cases front with
    | nil => exact List.nil_prefix
    | cons token front => exact greatest _ _ _ fun more => (sure more).of_blank blank

theorem Interrupted.token {lexeme : List Char} {first : Char} {kind : TokenKind}
    {value : TokenValue} (begun : lexeme.head? = some first)
    (read : ∀ more : List Char, Lexeme lexeme (text ++ more).head? kind value)
    (h : Interrupted failure (before.after lexeme) text tokens error) :
    Interrupted failure before (lexeme ++ text) (⟨kind, value, before.advance first⟩ :: tokens)
      error := by
  cases h with
  | broken wrong =>
    refine .broken fun more => ?_
    rw [List.append_assoc]
    exact (wrong more).token begun (read more)
  | failed certain greatest =>
    refine .failed (certain.token begun read) ?_
    intro front after rest sure
    cases front with
    | nil => exact List.nil_prefix
    | cons token front =>
      have first (more : List Char) := by
        have whole := sure more
        rw [List.append_assoc] at whole
        exact whole.of_lexeme begun (read more)
      rw [(first []).1]
      exact (List.prefix_cons_inj _).mpr (greatest _ _ _ fun more => (first more).2)

/-- A lexer that faces a failure collects what the failure leaves of the text. -/
theorem Faces.collect (h : lexer.Faces failure before text) :
    Interrupted failure before text lexer.collect.1 lexer.collect.2.1 := by
  -- The induction is on the length, since a token shortens the text by all its characters.
  induction hlength : text.length using Nat.strongRecOn generalizing lexer before text with
  | ind length ih =>
    subst hlength
    cases text with
    | nil =>
      obtain ⟨span, after, failed⟩ := h.nextToken_nil
      rw [collect_of_error failed]
      refine .failed (certain_nil before []) fun front after rest sure => ?_
      exact List.prefix_nil.mpr (sure []).of_nil.1
    | cons c text =>
      cases blank : Text.isBlank c with
      | true =>
        obtain ⟨other, facing, same⟩ := h.nextToken_blank blank
        rw [collect_congr same]
        exact (ih text.length (Nat.lt_succ_self _) facing rfl).blank blank
      | false =>
        rcases h.nextToken_visible blank with
          ⟨lexeme, rest, kind, value, next, split, begun, read, given, facing⟩ |
          ⟨malformation, next, given, wrong⟩ | ⟨span, next, given, none⟩
        · have shorter : rest.length < (c :: text).length := by
            have some : lexeme ≠ [] := by
              rintro rfl
              cases begun
            rw [split, List.length_append]
            exact Nat.lt_add_of_pos_left (List.length_pos_iff.mpr some)
          rw [collect_of_token given, split]
          exact (ih rest.length shorter facing rfl).token begun read
        · rw [collect_of_error given]
          exact .broken wrong
        · rw [collect_of_error given]
          refine .failed (certain_nil before _) fun front after rest sure => ?_
          exact List.prefix_nil.mpr (none front after rest sure)

end Lexer
end TokenListing
