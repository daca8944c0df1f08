import TokenListing.Proofs.Lexer.Iteration
import TokenListing.Proofs.Lexer.Latching
import TokenListing.Proofs.Session.Lines
import TokenListing.Proofs.Stream.Writing

/-! # A run writes its listing as far as there is room

A run that writes line by line leaves on its output what one write of the whole listing would have
left there. How it ends is decided by the first thing that goes wrong: a write that does not fit,
then a failed read, then a failed flush; a malformed token is none of these.
-/
namespace TokenListing.Session

def finish (outcome : Outcome) (output : Output) : Except RunError Outcome × Output :=
  match output.flush with
  | (.error failure, output) => (.error (.output failure), output)
  | (.ok (), output) => (.ok outcome, output)

def conclude (count : Nat) (error : Option LexError) (output : Output) :
    Except RunError Outcome × Output :=
  match error with
  | none => close (.success count) output
  | some (.malformed _ span) => close (.lexicalError span count) output
  | some (.unreadable failure span) => (.error (.input (.unreadable failure span)), output)

theorem close_eq (outcome : Outcome) (output : Output) :
    close outcome output =
      match output.write outcome.line with
      | (.ok (), next) => finish outcome next
      | (.error failure, next) => (.error (.output failure), next) := by
  unfold close
  cases output.write outcome.line with
  | mk written next =>
    cases written with
    | error failure => rfl
    | ok done => rfl

theorem settles_nextToken {lexer after : Lexer} {answer : Lexer.Answer}
    (running : lexer.ending = none) (h : lexer.nextToken = (answer, after)) :
    Lexer.Settles lexer (.answer answer) after := by
  have settles := Lexer.settles_reply running .nextToken
  rw [Lexer.reply, h] at settles
  exact settles

variable (showPosition : Bool)

/-- Writing token after token is writing all token lines, and the end comes after them. -/
theorem list_eq_write (lexer : Lexer) (output : Output) (count : Nat) :
    ((list showPosition lexer output count).1, (list showPosition lexer output count).2.2) =
      match output.write (linesOf showPosition lexer.collect.1) with
      | (.ok (), next) => conclude (count + lexer.collect.1.length) lexer.collect.2.1 next
      | (.error failure, next) => (.error (.output failure), next) := by
  induction lexer using Lexer.collect.induct generalizing output count with
  | case1 lexer after hnext =>
    rw [list_of_end hnext, Lexer.collect_of_end hnext]
    have nothing : output.write (linesOf showPosition []) = (.ok (), output) := output.write_empty
    rw [nothing]
    rfl
  | case2 lexer error after hnext =>
    rw [Lexer.collect_of_error hnext]
    have nothing : output.write (linesOf showPosition []) = (.ok (), output) := output.write_empty
    rw [nothing]
    cases error with
    | malformed malformation span =>
      rw [list_of_malformed hnext]
      rfl
    | unreadable failure span =>
      rw [list_of_unreadable hnext]
      rfl
  | case3 lexer token after hnext tokens error last found ih =>
    rw [list_of_token hnext, Lexer.collect_of_token hnext, linesOf_cons, Output.write_append]
    cases output.write (token.line showPosition) with
    | mk written next =>
      cases written with
      | error failure => rfl
      | ok done =>
        have counted : count + (token :: after.collect.1).length =
            count + 1 + after.collect.1.length := by
          rw [List.length_cons]
          omega
        rw [counted]
        exact ih next (count + 1)

theorem list_log {lexer : Lexer} (running : lexer.ending = none) (output : Output)
    (count : Nat) :
    (list showPosition lexer output count).2.1.log.entries = lexer.log.entries ++
      match (output.write (linesOf showPosition lexer.collect.1)).1 with
      | .ok () => lexer.collect.2.1.toList.map LexError.diagnostic
      | .error _ => [] := by
  induction lexer using Lexer.collect.induct generalizing output count with
  | case1 lexer after hnext =>
    have settles := settles_nextToken running hnext
    have nothing : output.write (linesOf showPosition []) = (.ok (), output) := output.write_empty
    rw [list_of_end hnext, Lexer.collect_of_end hnext, nothing]
    exact settles.entries
  | case2 lexer error after hnext =>
    have settles := settles_nextToken running hnext
    have nothing : output.write (linesOf showPosition []) = (.ok (), output) := output.write_empty
    rw [Lexer.collect_of_error hnext, nothing]
    cases error with
    | malformed malformation span =>
      rw [list_of_malformed hnext]
      exact settles.entries
    | unreadable failure span =>
      rw [list_of_unreadable hnext]
      exact settles.entries
  | case3 lexer token after hnext tokens error last found ih =>
    have settles := settles_nextToken running hnext
    have unreported : after.log.entries = lexer.log.entries := by
      rw [settles.entries]
      exact List.append_nil _
    rw [list_of_token hnext, Lexer.collect_of_token hnext, linesOf_cons, Output.write_append]
    cases output.write (token.line showPosition) with
    | mk written next =>
      cases written with
      | error failure => rw [unreported, List.append_nil]
      | ok done =>
        have later := ih settles.ending next (count + 1)
        rw [unreported] at later
        exact later

def conclusion (count : Nat) (error : Option LexError) (output : Output) :
    Except RunError Outcome × Output :=
  match error with
  | none => finish (.success count) output
  | some (.malformed _ span) => finish (.lexicalError span count) output
  | some (.unreadable failure span) => (.error (.input (.unreadable failure span)), output)

theorem conclude_eq (count : Nat) (error : Option LexError) (output : Output) :
    conclude count error output =
      match output.write (lastLine error) with
      | (.ok (), next) => conclusion count error next
      | (.error failure, next) => (.error (.output failure), next) := by
  rw [← lastLine_eq count]
  match error with
  | none => exact close_eq _ _
  | some (.malformed malformation span) => exact close_eq _ _
  | some (.unreadable failure span) =>
    have nothing : (Outcome.ofEnd? count (some (.unreadable failure span))).elim "" Outcome.line =
        "" := rfl
    rw [nothing, output.write_empty]
    rfl

theorem list_eq_write_text (lexer : Lexer) (output : Output) :
    ((list showPosition lexer output 0).1, (list showPosition lexer output 0).2.2) =
      match output.write (linesOf showPosition lexer.collect.1 ++ lastLine lexer.collect.2.1) with
      | (.ok (), next) => conclusion lexer.collect.1.length lexer.collect.2.1 next
      | (.error failure, next) => (.error (.output failure), next) := by
  rw [list_eq_write, Output.write_append, Nat.zero_add]
  cases output.write (linesOf showPosition lexer.collect.1) with
  | mk written next =>
    cases written with
    | error failure => rfl
    | ok done => exact conclude_eq _ _ _

/-- How a run ends whose output kept a listing, or as much of it as there was room for. The listing
is of so many tokens and ended with the error, if there is one. -/
structure Ends (output : Output) (full : ByteArray) (count : Nat) (error : Option LexError)
    (result : Except RunError Outcome) (after : Output) : Prop where
  received : after.received = output.received ++ full.extract 0 (output.room full.size)
  cut : output.room full.size < full.size →
    result = .error (.output output.refusal) ∧ after.flushes = output.flushes
  unread : ¬ output.room full.size < full.size → ∀ failure span,
    error = some (.unreadable failure span) →
      result = .error (.input (.unreadable failure span)) ∧ after.flushes = output.flushes
  malformed : ¬ output.room full.size < full.size → ∀ malformation span,
    error = some (.malformed malformation span) →
      result = output.flushFailure.elim (.ok (.lexicalError span count))
        (fun failure => .error (.output failure)) ∧ after.flushes = output.flushes + 1
  succeeded : ¬ output.room full.size < full.size → error = none →
    result = output.flushFailure.elim (.ok (.success count))
      (fun failure => .error (.output failure)) ∧ after.flushes = output.flushes + 1

theorem Ends.flushed {output after : Output} {full : ByteArray} {count : Nat}
    {error : Option LexError} {result : Except RunError Outcome}
    (h : Ends output full count error result after)
    (fits : ¬ output.room full.size < full.size) {outcome : Outcome}
    (ended : Outcome.ofEnd? count error = some outcome) :
    result = output.flushFailure.elim (.ok outcome) (fun failure => .error (.output failure)) ∧
      after.flushes = output.flushes + 1 := by
  match error, ended with
  | none, rfl => exact h.succeeded fits rfl
  | some (.malformed malformation span), rfl => exact h.malformed fits malformation span rfl

theorem ends_conclusion (output : Output) (full : String) (count : Nat) (error : Option LexError)
    (fits : ¬ output.room full.toUTF8.size < full.toUTF8.size) :
    Ends output full.toUTF8 count error (conclusion count error (output.withText full)).1
      (conclusion count error (output.withText full)).2 := by
  have room := Nat.le_antisymm (output.room_le _) (Nat.le_of_not_lt fits)
  have whole : full.toUTF8.extract 0 (output.room full.toUTF8.size) = full.toUTF8 := by
    rw [room, ByteArray.extract_zero_size]
  have flushed (outcome : Outcome) : finish outcome (output.withText full) =
      (output.flushFailure.elim (.ok outcome) fun failure => .error (.output failure),
        { output.withText full with flushes := output.flushes + 1 }) := by
    unfold finish Output.flush Output.withText
    cases output.flushFailure with
    | none => rfl
    | some failure => rfl
  match error with
  | none =>
    rw [conclusion, flushed]
    refine ⟨?_, fun full => absurd full fits, ?_, ?_, fun _ _ => ⟨rfl, rfl⟩⟩
    · rw [whole]
      rfl
    · rintro - failure span ⟨⟩
    · rintro - malformation span ⟨⟩
  | some (.malformed malformation span) =>
    rw [conclusion, flushed]
    refine ⟨?_, fun full => absurd full fits, ?_, ?_, ?_⟩
    · rw [whole]
      rfl
    · rintro - failure span ⟨⟩
    · rintro - malformation span ⟨⟩
      exact ⟨rfl, rfl⟩
    · rintro - ⟨⟩
  | some (.unreadable failure span) =>
    refine ⟨?_, fun full => absurd full fits, ?_, ?_, ?_⟩
    · rw [whole]
      rfl
    · rintro - failure span ⟨⟩
      exact ⟨rfl, rfl⟩
    · rintro - malformation span ⟨⟩
    · rintro - ⟨⟩

theorem ends_list (lexer : Lexer) (output : Output) :
    Ends output (linesOf showPosition lexer.collect.1 ++ lastLine lexer.collect.2.1).toUTF8
      lexer.collect.1.length lexer.collect.2.1 (list showPosition lexer output 0).1
      (list showPosition lexer output 0).2.2 := by
  have listed := list_eq_write_text showPosition lexer output
  generalize linesOf showPosition lexer.collect.1 ++ lastLine lexer.collect.2.1 = full at listed ⊢
  by_cases cut : output.room full.toUTF8.size < full.toUTF8.size
  · rw [Output.write_of_full cut] at listed
    obtain ⟨result, after⟩ := Prod.mk.inj listed
    rw [result, after]
    exact ⟨rfl, fun _ => ⟨rfl, rfl⟩, fun fits => absurd cut fits, fun fits => absurd cut fits,
      fun fits => absurd cut fits⟩
  · rw [Output.write_of_fits cut] at listed
    obtain ⟨result, after⟩ := Prod.mk.inj listed
    rw [result, after]
    exact ends_conclusion output full _ _ cut

/-- A run on any input and any output, whatever either of them does. The bytes written are those of
the listing as far as the output has room for them, and no more. If they do not fit, the run fails
as the write did and there is no flush; if they do, and the input could not be read to an end, the
run fails with that error and there is no flush; otherwise there is one flush, and unless it fails
the run ends in its outcome. The session gets the error of the lexer if the lines of the tokens
fit. -/
theorem run_writes_listing (session : Session) {capacity : Nat}
    (valid : session.config.capacity = .ok capacity) (input : Input) (output : Output) :
    let fresh := Lexer.ofInput input capacity session.log
    let lexer : Lexer := { fresh with source := fresh.source.tell (.lexing capacity) }
    let tokens := lexer.collect.1
    let error := lexer.collect.2.1
    let shown := session.config.showPosition
    let lines := (linesOf shown tokens).toUTF8
    let full := (linesOf shown tokens ++ lastLine error).toUTF8
    let run := session.run input output
    Ends output full tokens.length error run.result run.output ∧
      run.session.log.entries = session.log.entries ++
        (if output.room lines.size < lines.size then []
        else error.toList.map LexError.diagnostic) ∧
      run.session.config = session.config := by
  intro fresh lexer tokens error shown lines full run
  obtain ⟨result, written, kept⟩ := run_of_capacity valid input output
  have running : lexer.ending = none := rfl
  have logged := list_log shown running output 0
  refine ⟨?_, ?_, ?_⟩
  · rw [result, written]
    exact ends_list shown lexer output
  · rw [kept]
    refine Eq.trans logged ?_
    by_cases cut : output.room lines.size < lines.size
    · rw [Output.write_of_full cut, if_pos cut]
      rfl
    · rw [Output.write_of_fits cut, if_neg cut]
      rfl
  · rw [kept]

/-- The third token is malformed. All lines are written if there is room for them, and otherwise the
second one may be cut, before the error is met. -/
theorem run_writes_listing_cut_line :
    let session : Session := ⟨{ chunkCapacity := 3 }, {}⟩
    let input : Input := { limit := some 2, items := [.data "a :=".toUTF8.toList,
      .failure ⟨.interrupted, ""⟩, .data "\n  _b;".toUTF8.toList] }
    let full := ("<ID, token-attr:\"a\", 1:1>\n<ASSIGN, token-attr:\":=\", 1:3>\n" ++
      "Error! There is a lexical error at 2:3.\n").toUTF8
    let whole := session.run input {}
    let limited : Output := { limit := some 42, received := "> ".toUTF8 }
    let cut := session.run input limited
    session.config.capacity = .ok 3 ∧ whole.output.received = full ∧
      whole.result = .ok (.lexicalError ⟨2, 3⟩ 2) ∧ whole.output.flushes = 1 ∧
      whole.session.log.entries =
        [LexError.diagnostic (.malformed .leadingUnderscore ⟨2, 3⟩)] ∧
      cut.output.received = "> <ID, token-attr:\"a\", 1:1>\n<ASSIGN, token".toUTF8 ∧
      cut.result = .error (.output .nothingAccepted) ∧ cut.output.flushes = 0 ∧
      cut.session.log.entries = [] := by
  intro session input full whole limited cut
  let fresh := Lexer.ofInput input 3 session.log
  let lexer : Lexer := { fresh with source := fresh.source.tell (.lexing 3) }
  have valid : session.config.capacity = .ok 3 := rfl
  have tokens : lexer.collect.1 =
      [⟨.identifier, .text "a", ⟨1, 1⟩⟩, ⟨.assign, .text ":=", ⟨1, 3⟩⟩] := by decide +kernel
  have error : lexer.collect.2.1 = some (.malformed .leadingUnderscore ⟨2, 3⟩) := by
    decide +kernel
  have spelled : (linesOf true lexer.collect.1 ++ lastLine lexer.collect.2.1).toUTF8 = full := by
    rw [tokens, error]
    decide +kernel
  obtain ⟨ends, log, -⟩ := run_writes_listing session valid input {}
  obtain ⟨ends', log', -⟩ := run_writes_listing session valid input limited
  have every (size : Nat) : ({} : Output).room size = size := rfl
  have fits (size : Nat) : ¬ ({} : Output).room size < size := Nat.lt_irrefl size
  have short : limited.room full.size < full.size := by decide +kernel
  have narrow : limited.room (linesOf true lexer.collect.1).toUTF8.size <
      (linesOf true lexer.collect.1).toUTF8.size := by
    rw [tokens]
    decide +kernel
  have counted : lexer.collect.1.length = 2 := congrArg List.length tokens
  have reported : lexer.collect.2.1.toList.map LexError.diagnostic = _ :=
    congrArg (fun error : Option LexError => error.toList.map LexError.diagnostic) error
  obtain ⟨result, flushes⟩ := ends.malformed (fits _) _ _ error
  have received := ends.received
  have received' := ends'.received
  rw [spelled, every, ByteArray.extract_zero_size] at received
  rw [spelled] at received'
  obtain ⟨result', flushes'⟩ := ends'.cut (spelled ▸ short)
  rw [counted] at result
  refine ⟨valid, received.trans ByteArray.empty_append, result, flushes, ?_, ?_, result', flushes',
    ?_⟩
  · rw [log, if_neg (fits _)]
    exact reported
  · rw [received']
    decide +kernel
  · rw [log', if_pos narrow]
    rfl

end TokenListing.Session
