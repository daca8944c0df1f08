import TokenListing.Proofs.Lexer.Acceptance
import TokenListing.Proofs.Listing.Decoding
import TokenListing.Proofs.Session.Writing
import TokenListing.Proofs.Text.Utf8Encoding

/-! # What a run wrote tells what it listed

A run that nothing hinders writes the whole listing of its input, which is one of tokens that the
text has and of an outcome. So two such runs that wrote the same bytes listed the same.
-/
namespace TokenListing

namespace Lexer
open Grammar

theorem yields_eq_collect {lexer : Lexer} (running : lexer.ending = none) :
    lexer.yields.1 =
      lexer.collect.1.map .ok ++ lexer.collect.2.1.toList.map .error := by
  induction lexer using Lexer.collect.induct with
  | case1 lexer after hnext =>
    have given : lexer.next = (none, after) := by rw [next_eq_nextToken running, hnext]; rfl
    rw [yields_of_none given, collect_of_end hnext]
    rfl
  | case2 lexer error after hnext =>
    have given : lexer.next = (some (.error error), after) := by
      rw [next_eq_nextToken running, hnext]
      rfl
    have ended : after.ending = some (.failed error) :=
      (Session.settles_nextToken running hnext).ending
    rw [yields_of_some given, yields_of_ending ended, collect_of_error hnext]
    rfl
  | case3 lexer token after hnext tokens error last found ih =>
    have given : lexer.next = (some (.ok token), after) := by
      rw [next_eq_nextToken running, hnext]
      rfl
    have later := ih (Session.settles_nextToken running hnext).ending
    rw [yields_of_some given, collect_of_token hnext, later]
    rfl

theorem items_inj {tokens others : List Token} {error other : Option LexError}
    (same : tokens.map Except.ok ++ error.toList.map Except.error =
      others.map Except.ok ++ other.toList.map Except.error) : tokens = others ∧ error = other := by
  cases error with
  | none =>
    cases other with
    | none =>
      have heads := List.append_cancel_right same
      exact ⟨map_ok_inj heads, rfl⟩
    | some other => exact absurd ((List.append_nil _).symm.trans same) (map_ok_ne _ _ _)
  | some error =>
    cases other with
    | none => exact absurd (same.trans (List.append_nil _)).symm (map_ok_ne _ _ _)
    | some other =>
      obtain ⟨heads, lasts⟩ := List.append_inj' same rfl
      cases lasts
      exact ⟨map_ok_inj heads, rfl⟩

theorem Stands.collects {lexer : Lexer} {text : List Char} (h : lexer.Stands .start text) :
    ∃ after rest, Tokens .start text lexer.collect.1 after rest ∧
      ∀ failure span, lexer.collect.2.1 ≠ some (.unreadable failure span) := by
  have collected := yields_eq_collect h.running
  rcases complete_or_broken text with ⟨tokens, complete⟩ | ⟨tokens, malformation, span, broken⟩
  · have whole : tokens.map Except.ok ++ (none : Option LexError).toList.map Except.error = _ :=
      (List.append_nil _).trans ((h.yields_complete complete).1.symm.trans collected)
    obtain ⟨same, error⟩ := items_inj whole
    obtain ⟨after, read⟩ := complete
    rw [← same, ← error]
    exact ⟨after, [], read, fun _ _ => nofun⟩
  · have whole : tokens.map Except.ok ++
        (some (LexError.malformed malformation span)).toList.map Except.error = _ :=
      (h.yields_broken broken).symm.trans collected
    obtain ⟨same, error⟩ := items_inj whole
    obtain ⟨after, opening, first, rest, read, -⟩ := broken
    rw [← same, ← error]
    exact ⟨after, opening ++ rest, read, fun _ _ => nofun⟩

theorem Stands.listing_closes {lexer : Lexer} {text : List Char} (h : lexer.Stands .start text) :
    ∃ outcome, (Listing.ofLexer lexer).Closes outcome := by
  obtain ⟨after, rest, read, readable⟩ := h.collects
  have listed : ∀ token ∈ lexer.collect.1, token.Listed := by
    intro token mem
    obtain ⟨spelling, follow, lexeme⟩ := read.lexeme token mem
    exact lexeme.valued
  have shape : Listing.ofLexer lexer =
      ⟨lexer.collect.1, Outcome.ofEnd? lexer.collect.1.length lexer.collect.2.1⟩ := rfl
  rw [shape]
  match ended : lexer.collect.2.1 with
  | none => exact ⟨_, listed, rfl, rfl⟩
  | some (.malformed malformation span) => exact ⟨_, listed, rfl, rfl⟩
  | some (.unreadable failure span) => exact absurd ended (readable failure span)

end Lexer

namespace Session

def lister (session : Session) (input : Input) : Lexer :=
  let fresh := Lexer.ofInput input session.config.chunkCapacity session.log
  { fresh with source := fresh.source.tell (.lexing session.config.chunkCapacity) }

/-- A run with positions on an input without failures and on an output that accepts everything. -/
structure Unhindered (session : Session) (input : Input) (output : Output) : Prop where
  shown : session.config.showPosition = true
  room : 0 < session.config.chunkCapacity
  unblocked : input.limit ≠ some 0
  delivered : ∃ bytes, input.contents = .ok bytes
  unlimited : output.limit = none
  flushed : output.flushFailure = none

variable {session session' : Session} {input input' : Input} {output output' : Output}

/-- Such a run writes the whole listing and comes to its outcome. -/
theorem Unhindered.writes (h : Unhindered session input output) :
    ∃ outcome, (Listing.ofLexer (session.lister input)).Closes outcome ∧
      (session.run input output).result = .ok outcome ∧
      (session.run input output).output.received = output.received ++
        ((Listing.ofLexer (session.lister input)).text true).toUTF8 := by
  obtain ⟨shown, room, unblocked, ⟨bytes, delivered⟩, unlimited, flushed⟩ := h
  have valid : session.config.capacity = .ok session.config.chunkCapacity :=
    if_neg (Nat.ne_of_gt room)
  have stands : (session.lister input).Stands .start (Text.Utf8.decode bytes) :=
    ⟨rfl, (Source.stands_ofInput room unblocked delivered).tell _⟩
  obtain ⟨outcome, closes⟩ := stands.listing_closes
  obtain ⟨result, written, -⟩ := run_of_capacity valid input output
  have ends := ends_list session.config.showPosition (session.lister input) output
  have all (size : Nat) : output.room size = size := by rw [Output.room, unlimited]
  have done := ends.flushed (by rw [all]; exact Nat.lt_irrefl _) closes.ended
  have received := ends.received
  rw [flushed] at done
  rw [all, ByteArray.extract_zero_size] at received
  refine ⟨outcome, closes, result.trans done.1, ?_⟩
  rw [written]
  exact received.trans (by rw [shown, text_ofLexer])

theorem count_newline_toUTF8 (text : String) :
    text.toUTF8.data.toList.count 0x0A = text.toList.count '\n' := by
  rw [Text.Utf8.toList_toUTF8, Text.Utf8.count_newline_encode]

/-- If two runs with positions, on inputs without failures and on outputs that accept everything,
wrote the same bytes, then they listed the same tokens, with the same kinds, values and positions,
and came to the same outcome. What a run wrote has one newline more than it lists tokens, and the
line of each token ends with its only newline. -/
theorem listing_decodable (h : Unhindered session input output)
    (h' : Unhindered session' input' output') {written : ByteArray}
    (kept : (session.run input output).output.received = output.received ++ written)
    (kept' : (session'.run input' output').output.received = output'.received ++ written) :
    let listing := Listing.ofLexer (session.lister input)
    ∃ outcome, Listing.ofLexer (session'.lister input') = listing ∧
      listing.outcome = some outcome ∧ (session.run input output).result = .ok outcome ∧
      (session'.run input' output').result = .ok outcome ∧
      written = (listing.text true).toUTF8 ∧ outcome.tokens = listing.tokens.length ∧
      written.data.toList.count 0x0A = listing.tokens.length + 1 ∧
      ∀ token ∈ listing.tokens, ∃ front,
        (token.line true).toList = front ++ ['\n'] ∧ '\n' ∉ front := by
  intro listing
  obtain ⟨outcome, closes, result, received⟩ := h.writes
  obtain ⟨outcome', closes', result', received'⟩ := h'.writes
  have bytes : written = (listing.text true).toUTF8 :=
    (ByteArray.append_right_inj _).mp (kept.symm.trans received)
  have bytes' : written = ((Listing.ofLexer (session'.lister input')).text true).toUTF8 :=
    (ByteArray.append_right_inj _).mp (kept'.symm.trans received')
  have same : listing.text true = (Listing.ofLexer (session'.lister input')).text true :=
    String.toByteArray_inj.mp (bytes.symm.trans bytes')
  obtain ⟨listings, outcomes⟩ := closes.text_inj closes' (congrArg String.toList same)
  refine ⟨outcome, listings.symm, closes.ended, result, outcomes ▸ result', bytes, closes.counted,
    ?_, fun token mem => Token.line_newline (closes.listed token mem)⟩
  rw [bytes, count_newline_toUTF8, closes.count_newline]

/-- A number with a zero more and another blank before it is listed the same. -/
theorem listing_decodable_last_zero :
    let session : Session := ⟨{ chunkCapacity := 1 }, {}⟩
    let session' : Session := ⟨{ chunkCapacity := 10 }, {}⟩
    let input : Input := { items := [.data [0x37, 0x20], .failure ⟨.interrupted, ""⟩,
      .data [0x31, 0x2E, 0x35]] }
    let input' : Input := { limit := some 2, items := [.data [0x37, 0x09, 0x31, 0x2E, 0x35, 0x30]] }
    let output' : Output := { received := "> ".toUTF8 }
    let written := ("<NUM, token-attr:\"7\", 1:1>\n<NUM, token-attr:\"1.5\", 1:3>\n" ++
      "Success!\n").toUTF8
    Unhindered session input {} ∧ Unhindered session' input' output' ∧
      (session.run input {}).output.received = .empty ++ written ∧
      (session'.run input' output').output.received = "> ".toUTF8 ++ written ∧
      Listing.ofLexer (session'.lister input') = Listing.ofLexer (session.lister input) ∧
      written.data.toList.count 0x0A =
        (Listing.ofLexer (session.lister input)).tokens.length + 1 := by
  intro session session' input input' output' written
  have unhindered : Unhindered session input {} :=
    ⟨rfl, by decide, by decide, ⟨[0x37, 0x20, 0x31, 0x2E, 0x35], rfl⟩, rfl, rfl⟩
  have unhindered' : Unhindered session' input' output' :=
    ⟨rfl, by decide, by decide, ⟨[0x37, 0x09, 0x31, 0x2E, 0x35, 0x30], rfl⟩, rfl, rfl⟩
  have kept : (session.run input {}).output.received = .empty ++ written := by decide +kernel
  have kept' : (session'.run input' output').output.received = "> ".toUTF8 ++ written := by
    decide +kernel
  obtain ⟨outcome, same, -, -, -, -, -, newlines, -⟩ :=
    listing_decodable unhindered unhindered' kept kept'
  exact ⟨unhindered, unhindered', kept, kept', same, newlines⟩

end Session
end TokenListing
