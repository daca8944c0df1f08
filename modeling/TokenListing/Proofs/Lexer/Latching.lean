import TokenListing.Proofs.Lexer.Reading
import TokenListing.Proofs.Lexer.Scan

/-! # The first ending is the last

A lexer that was told to go on after it came to an end gives the same ending again and does nothing
else. Until then its two ways of asking for a token are one: they read the same characters and
report the same errors. So the replies to any sequence of calls say by themselves whether the lexer
is finished and what it reported.
-/
namespace TokenListing

def LexError.HasAdvice : LexError → Prop
  | .malformed (.malformedColon _) _ => True
  | .malformed .leadingUnderscore _ => True
  | .malformed .missingFraction _ => True
  | .malformed (.unexpectedChar _) _ => False
  | .malformed .integerOverflow _ => False
  | .unreadable _ _ => False

/-- What a diagnostic about an error says. -/
structure LexError.ReportedBy (error : LexError) (diagnostic : Diagnostic) : Prop where
  code : diagnostic.code = some error.code
  span : diagnostic.span = error.span
  malformed : ∀ malformation span, error = .malformed malformation span →
    diagnostic.message = malformation.text
  unreadable : ∀ failure span, error = .unreadable failure span →
    diagnostic.message = "failed to read input: " ++ failure.message
  helps : diagnostic.helps.length ≤ 1 ∧ (diagnostic.helps.length = 1 ↔ error.HasAdvice)

theorem LexError.reportedBy_diagnostic (error : LexError) :
    error.ReportedBy error.diagnostic where
  code := rfl
  span := rfl
  malformed := by
    rintro malformation span rfl
    rfl
  unreadable := by
    rintro failure span rfl
    rfl
  helps := by
    have advised : 1 ≤ 1 ∧ (1 = 1 ↔ True) := by decide
    have unadvised : 0 ≤ 1 ∧ (0 = 1 ↔ False) := by decide
    cases error with
    | unreadable failure span => exact unadvised
    | malformed malformation span =>
      cases malformation with
      | unexpectedChar char => exact unadvised
      | malformedColon found => exact advised
      | leadingUnderscore => exact advised
      | missingFraction => exact advised
      | integerOverflow => exact unadvised

namespace Lexer

def Reply.ending? : Reply → Option Ending
  | .answer (.ok none) | .item none => some .endOfInput
  | .answer (.error error) | .item (some (.error error)) => some (.failed error)
  | .answer (.ok (some _)) | .item (some (.ok _)) | .position _ | .finished _ => none

def Ending.reply (ending : Ending) (position : Span) : Call → Reply
  | .nextToken => .answer ending.answer
  | .next => .item none
  | .position => .position position
  | .isFinished => .finished true

def Ending.diagnostics : Option Ending → List Diagnostic
  | some (.failed error) => [error.diagnostic]
  | some .endOfInput | none => []

theorem reply_of_ending {lexer : Lexer} {ending : Ending} (h : lexer.ending = some ending)
    (call : Call) : lexer.reply call = (ending.reply lexer.position call, lexer) := by
  obtain ⟨source, log, found⟩ := lexer
  subst h
  cases call <;> rfl

theorem replies_of_ending {lexer : Lexer} {ending : Ending} (h : lexer.ending = some ending)
    (calls : List Call) :
    Calls.replies reply lexer calls = (calls.map (ending.reply lexer.position), lexer) := by
  induction calls with
  | nil => rfl
  | cons call calls ih => rw [Calls.replies, reply_of_ending h, ih, List.map_cons]

theorem next_eq_nextToken {lexer : Lexer} (running : lexer.ending = none) :
    lexer.next = (itemOf lexer.nextToken.1, lexer.nextToken.2) := by
  rw [nextToken_of_scan running rfl, next_of_scan running rfl]

/-- A call of a running lexer leaves it at the ending that the reply tells of, with the diagnostic
of that ending in the log. -/
structure Settles (lexer : Lexer) (reply : Reply) (after : Lexer) : Prop where
  ending : after.ending = reply.ending?
  entries : after.log.entries = lexer.log.entries ++ Ending.diagnostics reply.ending?

theorem settles_settled (lexer : Lexer) (source : Source) (answer : Answer) :
    Settles lexer (.answer answer) (settled source lexer.log answer) ∧
      Settles lexer (.item (itemOf answer)) (settled source lexer.log answer) := by
  match answer with
  | .ok (some token) =>
    have unchanged : lexer.log.entries = lexer.log.entries ++ [] := (List.append_nil _).symm
    exact ⟨⟨rfl, unchanged⟩, ⟨rfl, unchanged⟩⟩
  | .ok none =>
    have unchanged : lexer.log.entries = lexer.log.entries ++ [] := (List.append_nil _).symm
    exact ⟨⟨rfl, unchanged⟩, ⟨rfl, unchanged⟩⟩
  | .error error => exact ⟨⟨rfl, rfl⟩, ⟨rfl, rfl⟩⟩

theorem settles_reply {lexer : Lexer} (running : lexer.ending = none) (call : Call) :
    Settles lexer (lexer.reply call).1 (lexer.reply call).2 := by
  have scanned := nextToken_eq_scan running
  obtain ⟨answered, yielded⟩ := settles_settled lexer (scan .start .start lexer.source).2
    (scan .start .start lexer.source).1
  have unasked (reply : Reply) (none : reply.ending? = none) : Settles lexer reply lexer := by
    refine ⟨running.trans none.symm, ?_⟩
    rw [none]
    exact (List.append_nil _).symm
  cases call with
  | nextToken =>
    rw [reply, scanned]
    exact answered
  | next =>
    rw [reply, next_eq_nextToken running, scanned]
    exact yielded
  | position => exact unasked _ rfl
  | isFinished => exact unasked _ rfl

/-- After any calls a lexer is at the first ending that a reply told of, if one did. That ending
is in the log, and no reply told of an error but that one. -/
structure Told (lexer : Lexer) (replies : List Reply) (after : Lexer) : Prop where
  ending : after.ending = replies.findSome? Reply.ending?
  entries : after.log.entries =
    lexer.log.entries ++ Ending.diagnostics (replies.findSome? Reply.ending?)
  error : ∀ told ∈ replies, ∀ error, told.ending? = some (.failed error) →
    replies.findSome? Reply.ending? = some (.failed error)

theorem told_replies {lexer : Lexer} (running : lexer.ending = none) (calls : List Call) :
    Told lexer (Calls.replies reply lexer calls).1 (Calls.replies reply lexer calls).2 := by
  induction calls generalizing lexer with
  | nil =>
    refine ⟨running, (List.append_nil _).symm, ?_⟩
    intro told mem
    cases mem
  | cons call calls ih =>
    have settles := settles_reply running call
    rw [Calls.replies]
    cases ended : (lexer.reply call).1.ending? with
    | none =>
      have later := ih (settles.ending.trans ended)
      have logged : (lexer.reply call).2.log.entries = lexer.log.entries := by
        rw [settles.entries, ended]
        exact List.append_nil _
      have skipped (rest : List Reply) :
          ((lexer.reply call).1 :: rest).findSome? Reply.ending? =
            rest.findSome? Reply.ending? :=
        List.findSome?_cons_of_isNone (Option.isNone_iff_eq_none.mpr ended)
      refine ⟨?_, ?_, ?_⟩
      · rw [skipped, later.ending]
      · rw [skipped, later.entries, logged]
      · intro told mem error failed
        rw [skipped]
        rcases List.mem_cons.mp mem with rfl | mem
        · rw [ended] at failed
          cases failed
        · exact later.error told mem error failed
    | some ending =>
      -- The rest of the calls are put to a finished lexer, whatever they are.
      have finished := settles.ending.trans ended
      have found (rest : List Reply) :
          ((lexer.reply call).1 :: rest).findSome? Reply.ending? = some ending := by
        rw [List.findSome?_cons, ended]
      rw [replies_of_ending finished calls]
      refine ⟨?_, ?_, ?_⟩
      · rw [found, finished]
      · rw [found, settles.entries, ended]
      · intro told mem error failed
        rw [found]
        rcases List.mem_cons.mp mem with rfl | mem
        · exact ended.symm.trans failed
        · obtain ⟨again, -, rfl⟩ := List.mem_map.mp mem
          cases again <;> cases ending <;> simp_all [Ending.reply, Reply.ending?, Ending.answer]

/-- Whatever a lexer is asked for, on whatever input, it is finished exactly if a reply told of an
ending. Before that, asking for an item is asking for an answer. After that every call is replied
to by the first ending and leaves the lexer as it is: its source with the position and the count of
reads, and its log. The log has one diagnostic more than before if a reply told of an error, and
that diagnostic is about this error; otherwise it is the log of before. -/
theorem endings_latch (input : Input) (capacity : Nat) (log : Diagnostic.Log)
    (calls : List Call) :
    let run := Calls.replies reply (ofInput input capacity log) calls
    let first := run.1.findSome? Reply.ending?
    run.2.isFinished = first.isSome ∧
      (first = none → run.2.next = (itemOf run.2.nextToken.1, run.2.nextToken.2)) ∧
      (∀ ending, first = some ending → ∀ later,
        Calls.replies reply run.2 later = (later.map (ending.reply run.2.position), run.2)) ∧
      ((∀ told ∈ run.1, ∀ error, told.ending? ≠ some (.failed error)) → run.2.log = log) ∧
      (∀ told ∈ run.1, ∀ error, told.ending? = some (.failed error) →
        ∃ diagnostic, run.2.log.entries = log.entries ++ [diagnostic] ∧
          error.ReportedBy diagnostic) := by
  intro run first
  have told : Told (ofInput input capacity log) run.1 run.2 := told_replies rfl calls
  have ended : run.2.ending = first := told.ending
  refine ⟨?_, ?_, ?_, ?_, ?_⟩
  · rw [isFinished, ended]
  · intro none
    exact next_eq_nextToken (ended.trans none)
  · intro ending found later
    exact replies_of_ending (ended.trans found) later
  · intro errorless
    have silent : Ending.diagnostics first = [] := by
      cases found : first with
      | none => rfl
      | some ending =>
        cases ending with
        | endOfInput => rfl
        | failed error =>
          obtain ⟨reply, mem, failed⟩ := List.exists_of_findSome?_eq_some found
          exact absurd failed (errorless reply mem error)
    have entries : run.2.log.entries = log.entries ++ Ending.diagnostics first := told.entries
    rw [silent, List.append_nil] at entries
    exact congrArg Diagnostic.Log.mk entries
  · intro reply mem error failed
    have found : first = some (.failed error) := told.error reply mem error failed
    have entries : run.2.log.entries = log.entries ++ Ending.diagnostics first := told.entries
    rw [found] at entries
    exact ⟨error.diagnostic, entries, error.reportedBy_diagnostic⟩

/-- A colon at the end of the input is reported once, however often the lexer is asked again. -/
theorem endings_latch_lone_colon :
    let error := LexError.malformed (.malformedColon none) ⟨1, 1⟩
    let fresh := Calls.replies reply (ofInput (.ofBytes [0x3A]) 1) []
    let run := Calls.replies reply (ofInput (.ofBytes [0x3A]) 1) [.next]
    fresh.1.findSome? Reply.ending? = none ∧
      fresh.2.next = (itemOf fresh.2.nextToken.1, fresh.2.nextToken.2) ∧ fresh.2.log = {} ∧
      run.1.findSome? Reply.ending? = some (.failed error) ∧
      Calls.replies reply run.2 [.nextToken, .next, .isFinished] =
        ([.answer (.error error), .item none, .finished true], run.2) ∧
      ∃ diagnostic, run.2.log.entries = [] ++ [diagnostic] ∧ error.ReportedBy diagnostic := by
  intro error fresh run
  have decoded : Text.Utf8.decode [0x3A] = [':'] :=
    Text.Utf8.decode_flatMap_utf8EncodeChar [':']
  have stands : (ofInput (.ofBytes [0x3A]) 1).Stands .start (Text.Utf8.decode [0x3A]) :=
    stands_ofInput (by decide) (by decide) rfl {}
  rw [decoded] at stands
  have alone : Grammar.Malformed [':'] [].head? (.malformedColon none) :=
    .colon Grammar.endsBefore_none
  obtain ⟨after, found, -⟩ := Stands.next_malformed stands rfl alone
  have replied : run.1 = [.item (some (.error error))] := by
    simp only [run, Calls.replies, reply, found]
    rfl
  have first : run.1.findSome? Reply.ending? = some (.failed error) := by
    rw [replied]
    rfl
  obtain ⟨-, agree, -, clean, -⟩ := endings_latch (.ofBytes [0x3A]) 1 {} []
  obtain ⟨-, -, latched, -, reported⟩ := endings_latch (.ofBytes [0x3A]) 1 {} [.next]
  have told : Reply.item (some (.error error)) ∈ run.1 := by
    rw [replied]
    exact List.mem_singleton_self _
  refine ⟨rfl, agree rfl, clean ?_, first, latched _ first _, reported _ told error rfl⟩
  intro reply mem
  cases mem

end Lexer
end TokenListing
