import TokenListing.Proofs.Grammar.Separation
import TokenListing.Proofs.Lexer.Positions
import TokenListing.Proofs.Lexer.SourceCalls

/-! # A lexer reads one character ahead

When a lexer gives a token, its source has decoded the text up to the end of the token's lexeme and
at most one character more, which it holds. So the tokens given so far are those of every text that
goes on as the first one did, as far as it was read. The end of the text is read ahead like a
character: a name at the end of one text may be longer in another that has more.
-/
namespace TokenListing

namespace Grammar

def Fixed (spelling : List Char) : Prop :=
  ∃ kind, (spelling, kind) ∈ fixedLexemes

theorem Fixed.lexeme {spelling rest : List Char} {kind : TokenKind} {value : TokenValue}
    (fixed : Fixed spelling) (h : Lexeme spelling rest.head? kind value) (other : Option Char) :
    Lexeme spelling other kind value := by
  obtain ⟨listedKind, listed⟩ := fixed
  -- The machine gives one token for the spelling, so the two kinds and values are the same.
  have given : Lexeme spelling rest.head? listedKind (.text (String.ofList spelling)) :=
    .fixed listed
  have same := (Lexer.judge_lexeme given).symm.trans (Lexer.judge_lexeme h)
  injection same with same
  injection same with same
  injection same with kinds values
  rw [← kinds, ← values]
  exact .fixed listed

end Grammar

namespace Lexer
open Grammar

/-- The character that the machine leaves after it has read it. -/
def State.lookahead : State → List Char → Option Char
  | _, [] => none
  | state, c :: text =>
    match state.onChar c with
    | .advance next => next.lookahead text
    | .settle _ => none
    | .settleBefore _ => some c

theorem lookahead_of_fixed {spelling : List Char} (fixed : Fixed spelling) (rest : List Char) :
    State.start.lookahead (spelling ++ rest) = none := by
  obtain ⟨kind, listed⟩ := fixed
  simp only [fixedLexemes, List.mem_cons, Prod.mk.injEq, List.not_mem_nil, or_false] at listed
  rcases listed with ⟨rfl, -⟩ | ⟨rfl, -⟩ | ⟨rfl, -⟩ | ⟨rfl, -⟩ | ⟨rfl, -⟩ | ⟨rfl, -⟩ | ⟨rfl, -⟩ |
    ⟨rfl, -⟩ | ⟨rfl, -⟩ | ⟨rfl, -⟩ | ⟨rfl, -⟩ | ⟨rfl, -⟩ | ⟨rfl, -⟩ | ⟨rfl, -⟩ <;> rfl

theorem held_scan (state : State) (start : Span) {before : Span} {source : Source}
    {text : List Char} (h : source.Stands before text) :
    (scan state start source).2.held = state.lookahead text := by
  induction text generalizing state start before source with
  | nil =>
    obtain ⟨after, found, -⟩ := h.next_nil
    rw [scan_of_none found]
    exact Source.held_next found
  | cons c text ih =>
    obtain ⟨after, found, -, beyond, -⟩ := h.next_cons
    have free := Source.held_next found
    rw [scan_of_some found, State.lookahead]
    cases state.onChar c with
    | advance next => exact ih _ _ beyond
    | settle verdict => exact free
    | settleBefore verdict => rfl

theorem itemOf_inj {answer other : Answer} (h : itemOf answer = itemOf other) : answer = other := by
  match answer, other, h with
  | .ok none, .ok none, _ => rfl
  | .ok (some _), .ok (some _), h => cases h; rfl
  | .error _, .error _, h => cases h; rfl

theorem nextToken_of_next {lexer after : Lexer} {answer : Answer} (running : lexer.ending = none)
    (h : lexer.next = (itemOf answer, after)) : lexer.nextToken = (answer, after) := by
  rw [next_eq_nextToken running, Prod.mk.injEq] at h
  exact Prod.ext (itemOf_inj h.1) h.2

theorem held_nextToken {lexer : Lexer} {before : Span} {text : List Char}
    (h : lexer.Stands before text) :
    lexer.nextToken.2.source.held = State.start.lookahead text := by
  rw [nextToken_eq_scan h.running]
  obtain ⟨event, told⟩ := settled_source (scan .start .start lexer.source).2 lexer.log
    (scan .start .start lexer.source).1
  rw [told]
  exact held_scan .start .start h.standing

abbrev requests (count : Nat) : List Call :=
  List.replicate count .nextToken

def Reply.ofToken (token : Token) : Reply :=
  .answer (.ok (some token))

theorem replies_requests {lexer after : Lexer} {answer : Answer}
    (h : lexer.nextToken = (answer, after)) (count : Nat) :
    Calls.replies reply lexer (requests (count + 1)) =
      (.answer answer :: (Calls.replies reply after (requests count)).1,
        (Calls.replies reply after (requests count)).2) := by
  rw [requests, List.replicate_succ, Calls.replies, reply, h]

theorem Stands.replies_blank {lexer : Lexer} {before : Span} {c : Char} {text : List Char}
    (h : lexer.Stands before (c :: text)) (blank : Text.isBlank c = true) :
    ∃ other : Lexer, other.Stands (before.advance c) text ∧
      ∀ count, Calls.replies reply lexer (requests (count + 1)) =
        Calls.replies reply other (requests (count + 1)) := by
  obtain ⟨other, stands, same⟩ := h.next_blank blank
  refine ⟨other, stands, fun count => ?_⟩
  have answered : lexer.nextToken = (other.nextToken.1, other.nextToken.2) :=
    nextToken_of_next h.running (same.trans (next_eq_nextToken stands.running))
  have again : other.nextToken = (other.nextToken.1, other.nextToken.2) := rfl
  rw [replies_requests answered, replies_requests again]

theorem Stands.nextToken_lexeme {lexer : Lexer} {before : Span} {lexeme text : List Char}
    {first : Char} {kind : TokenKind} {value : TokenValue}
    (h : lexer.Stands before (lexeme ++ text)) (begun : lexeme.head? = some first)
    (read : Lexeme lexeme text.head? kind value) :
    ∃ after, lexer.nextToken = (.ok (some ⟨kind, value, before.advance first⟩), after) ∧
      after.Stands (before.after lexeme) text := by
  obtain ⟨after, found, stands⟩ := h.next_lexeme begun read
  have item : lexer.next = (itemOf (.ok (some ⟨kind, value, before.advance first⟩)), after) := found
  exact ⟨after, nextToken_of_next h.running item, stands⟩

theorem Stands.replies_tokens {before after : Span} {text rest : List Char} {tokens : List Token}
    (read : Tokens before text tokens after rest) {lexer : Lexer} (h : lexer.Stands before text) :
    (Calls.replies reply lexer (requests tokens.length)).1 = tokens.map Reply.ofToken := by
  induction read generalizing lexer with
  | none => rfl
  | @blank before after c text rest tokens blank more ih =>
    obtain ⟨other, stands, same⟩ := h.replies_blank blank
    have later := ih stands
    cases tokens with
    | nil => rfl
    | cons token tokens => exact (congrArg Prod.fst (same tokens.length)).trans later
  | token begun read more ih =>
    obtain ⟨next, answered, stands⟩ := h.nextToken_lexeme begun read
    rw [List.length_cons, replies_requests answered, ih stands]
    rfl

theorem ofToken_notMem_of_ending {lexer after : Lexer} {ending : Ending}
    (h : lexer.nextToken = (ending.answer, after)) (ended : after.ending = some ending)
    (count : Nat) (token : Token) :
    Reply.ofToken token ∉ (Calls.replies reply lexer (requests count)).1 := by
  have other : Reply.ofToken token ≠ .answer ending.answer := by
    cases ending <;> rintro ⟨⟩
  cases count with
  | zero => exact List.not_mem_nil
  | succ count =>
    rw [replies_requests h, replies_of_ending ended, requests, List.map_replicate]
    intro mem
    rcases List.mem_cons.mp mem with same | mem
    · exact other same
    · exact other (List.eq_of_mem_replicate mem)

/-- A lexer that answers the last of some requests with a token: the tokens before that one, its
lexeme in the text, and where the lexer stands after it. -/
structure Given (before : Span) (text : List Char) (tokens : List Token) (token : Token)
    (spelling rest : List Char) (after : Lexer) : Prop where
  place : ∃ middle first, Tokens before text tokens middle (spelling ++ rest) ∧
    spelling.head? = some first ∧ token.span = middle.advance first ∧
    after.Stands (middle.after spelling) rest
  read : Lexeme spelling rest.head? token.kind token.value
  free : Fixed spelling → after.source.held = none

theorem Stands.given {before : Span} {text : List Char} {pieces : List Piece}
    (cut : Cut before text pieces) {lexer : Lexer} (h : lexer.Stands before text) {count : Nat}
    {token : Token}
    (answered : (Calls.replies reply lexer (requests (count + 1))).1.getLast? =
      some (.ofToken token)) :
    ∃ tokens spelling rest, tokens.length = count ∧ Given before text tokens token spelling rest
      (Calls.replies reply lexer (requests (count + 1))).2 := by
  induction cut generalizing lexer count with
  | done =>
    obtain ⟨after, found, ended⟩ := h.next_nil
    have asked : lexer.nextToken = (Ending.endOfInput.answer, after) :=
      nextToken_of_next h.running found
    exact absurd (List.mem_of_getLast? answered) (ofToken_notMem_of_ending asked ended _ _)
  | fault begun wrong =>
    obtain ⟨after, found, ended⟩ := h.next_malformed begun wrong
    have asked : lexer.nextToken = ((Ending.failed _).answer, after) :=
      nextToken_of_next h.running found
    exact absurd (List.mem_of_getLast? answered) (ofToken_notMem_of_ending asked ended _ _)
  | blank blank more ih =>
    obtain ⟨other, stands, same⟩ := h.replies_blank blank
    rw [same] at answered ⊢
    obtain ⟨tokens, spelling, rest, length, place, read, free⟩ := ih stands answered
    obtain ⟨middle, first, earlier, begun, span, left⟩ := place
    exact ⟨tokens, spelling, rest, length,
      ⟨middle, first, .blank blank earlier, begun, span, left⟩, read, free⟩
  | @lexeme before spelling text first kind value pieces begun read more ih =>
    obtain ⟨next, asked, stands⟩ := h.nextToken_lexeme begun read
    rw [replies_requests asked] at answered ⊢
    cases count with
    | zero =>
      cases answered
      refine ⟨[], spelling, text, rfl, ⟨before, first, .none, begun, rfl, stands⟩, read, ?_⟩
      intro fixed
      have held := held_nextToken h
      rw [asked] at held
      exact held.trans (lookahead_of_fixed fixed text)
    | succ count =>
      have last : (Calls.replies reply next (requests (count + 1))).1.getLast? =
          some (.ofToken token) := by
        rw [replies_requests rfl] at answered ⊢
        rwa [List.getLast?_cons_cons] at answered
      obtain ⟨tokens, other, rest, length, place, found, free⟩ := ih stands last
      obtain ⟨middle, start, earlier, started, span, left⟩ := place
      exact ⟨_ :: tokens, other, rest, congrArg (· + 1) length,
        ⟨middle, start, .token begun read earlier, started, span, left⟩, found, free⟩

/-- What comes after a lexeme is what the source holds and what is left to decode. -/
theorem held_append {source : Source} {before : Span} {text : List Char}
    (h : source.Stands before text) :
    ∃ left, source.Reading left ∧ text = source.held.toList ++ left := by
  cases h with
  | free reading free =>
    rw [free]
    exact ⟨text, reading, rfl⟩
  | @holding _ c left reading held =>
    rw [held]
    exact ⟨left, reading, rfl⟩

/-- Another text gets the same replies if it has the same characters up to the end of the lexeme and
this is a lexeme there. -/
theorem Given.again {text spelling rest : List Char} {tokens : List Token} {token : Token}
    {after : Lexer} (given : Given .start text tokens token spelling rest after) :
    ∃ front, text = front ++ (spelling ++ rest) ∧
      ∀ (other : List Char) (lexer : Lexer), lexer.Stands .start (front ++ (spelling ++ other)) →
        Lexeme spelling other.head? token.kind token.value →
        (Calls.replies reply lexer (requests (tokens.length + 1))).1 =
          (tokens ++ [token]).map Reply.ofToken := by
  obtain ⟨middle, first, earlier, begun, span, -⟩ := given.place
  obtain ⟨front, whole, -, kept⟩ := earlier.exchange
  refine ⟨front, whole, fun other lexer stands read => ?_⟩
  have same : (spelling ++ other).head? = (spelling ++ rest).head? := by
    rw [List.head?_append, List.head?_append, begun, Option.some_or, Option.some_or]
  have last : Tokens middle (spelling ++ other) [⟨token.kind, token.value, middle.advance first⟩]
      (middle.after spelling) other := .token begun read .none
  rw [← span] at last
  have replied := stands.replies_tokens ((kept _ same).trans last)
  rwa [List.length_append] at replied

/-- The lexeme is one in every text that goes on with the character that is held after it. If none
is held and something could extend it, what comes in the other text must not do so. -/
theorem Given.read_on {before : Span} {text spelling rest left : List Char} {tokens : List Token}
    {token : Token} {after : Lexer} (given : Given before text tokens token spelling rest after)
    (ahead : rest = after.source.held.toList ++ left) (more : List Char)
    (ended : after.source.held = none → ¬ Fixed spelling →
      Lexeme spelling more.head? token.kind token.value) :
    Lexeme spelling (after.source.held.toList ++ more).head? token.kind token.value := by
  have read := given.read
  by_cases fixed : Fixed spelling
  · exact fixed.lexeme read _
  · cases held : after.source.held with
    | some c =>
      rw [ahead, held] at read
      exact read
    | none => exact ended held fixed

theorem Given.decoded {before : Span} {text front spelling rest : List Char} {tokens : List Token}
    {token : Token} {lexer : Lexer} {calls : List Call}
    (given : Given before text tokens token spelling rest (Calls.replies reply lexer calls).2)
    (begun : lexer.source.Reading text) (whole : text = front ++ (spelling ++ rest)) :
    let held := (Calls.replies reply lexer calls).2.source.held.toList
    ∃ left, rest = held ++ left ∧ text = lexer.decoded calls ++ left ∧
      lexer.decoded calls = front ++ spelling ++ held := by
  intro held
  obtain ⟨middle, first, -, -, -, stands⟩ := given.place
  -- The text is cut in two ways, and both leave what the source has left to decode.
  obtain ⟨left, reading, ahead⟩ := held_append stands.standing
  obtain ⟨left', split, reading'⟩ := decoded_left begun calls
  have same : left' = left := reading'.unique reading
  rw [same] at split
  have both : lexer.decoded calls ++ left = front ++ spelling ++ held ++ left := by
    rw [← split, whole, ahead]
    simp only [List.append_assoc, held]
  exact ⟨left, ahead, split, List.append_cancel_right both⟩

/-- When a lexer over an input without failures answers one of its requests with a token, the
characters decoded so far are the text up to the end of the token's lexeme and the one that the
source holds, if it holds one; after a lexeme that nothing can extend it holds none. The requests
are answered in the same way for every text that begins with the decoded characters; only where the
text ended with a lexeme that something could extend, what the other text has next must not do so.
On whatever input, a call of a lexer leaves its source as what the scan asks of it does, and the
source refuses no character that the scan takes back. -/
theorem lookahead_at_most_one {input : Input} {capacity : Nat} {bytes : List UInt8}
    (room : 0 < capacity) (unblocked : input.limit ≠ some 0)
    (delivered : input.contents = .ok bytes) (log : Diagnostic.Log) :
    let text := Text.Utf8.decode bytes
    let fresh := ofInput input capacity log
    (∀ (count : Nat) (token : Token),
      let run := Calls.replies reply fresh (requests (count + 1))
      let decoded := fresh.decoded (requests (count + 1))
      run.1.getLast? = some (.ofToken token) →
      ∃ front tokens middle spelling rest, text = front ++ (spelling ++ rest) ∧
        Tokens .start text tokens middle (spelling ++ rest) ∧ tokens.length = count ∧
        run.1 = (tokens ++ [token]).map Reply.ofToken ∧
        Lexeme spelling rest.head? token.kind token.value ∧
        decoded = front ++ spelling ++ run.2.source.held.toList ∧ decoded <+: text ∧
        (Fixed spelling → run.2.source.held = none) ∧
        ∀ (other : Input) (capacity' : Nat) (bytes' : List UInt8) (log' : Diagnostic.Log)
          (more : List Char), 0 < capacity' → other.limit ≠ some 0 →
          other.contents = .ok bytes' → Text.Utf8.decode bytes' = decoded ++ more →
          (run.2.source.held = none → ¬ Fixed spelling →
            Lexeme spelling more.head? token.kind token.value) →
          (Calls.replies reply (ofInput other capacity' log') (requests (count + 1))).1 = run.1) ∧
    ∀ (input : Input) (capacity : Nat) (log : Diagnostic.Log) (calls : List Call) (call : Call),
      let lexer := (Calls.replies reply (ofInput input capacity log) calls).2
      ∃ after, Leads lexer.source (lexer.exchanges call) after ∧
        ((lexer.reply call).2.source = after ∨
          ∃ event, (lexer.reply call).2.source = after.tell event) := by
  intro text fresh
  refine ⟨?_, fun input capacity log calls call => leads_reply _ call⟩
  intro count token run decoded answered
  have standing : fresh.Stands .start text := stands_ofInput room unblocked delivered log
  obtain ⟨pieces, cut, -⟩ := standing.yields_cut
  obtain ⟨tokens, spelling, rest, rfl, given⟩ := standing.given cut answered
  obtain ⟨front, whole, again⟩ := given.again
  obtain ⟨middle, first, earlier, -, -, -⟩ := given.place
  have replied : run.1 = (tokens ++ [token]).map Reply.ofToken :=
    again rest fresh (whole ▸ standing) given.read
  have begun : fresh.source.Reading text := Source.reading_ofInput room unblocked delivered
  obtain ⟨left, ahead, split, upTo⟩ : ∃ left, rest = run.2.source.held.toList ++ left ∧
      text = decoded ++ left ∧ decoded = front ++ spelling ++ run.2.source.held.toList :=
    given.decoded begun whole
  refine ⟨front, tokens, middle, spelling, rest, whole, earlier, rfl, replied, given.read, upTo,
    ⟨left, split.symm⟩, given.free, ?_⟩
  intro other capacity' bytes' log' more room' unblocked' delivered' agreed ended
  have stands' := stands_ofInput room' unblocked' delivered' log'
  have spelled : Text.Utf8.decode bytes' =
      front ++ (spelling ++ (run.2.source.held.toList ++ more)) := by
    rw [agreed, upTo]
    simp only [List.append_assoc]
  have follows := given.read_on ahead more ended
  rw [spelled] at stands'
  exact (again _ _ stands' follows).trans replied.symm

/-- A name is ended by the operator after it, of which one character is read and taken back. -/
theorem lookahead_at_most_one_name :
    let input : Input := { items := [.data [0x78, 0x3C], .data [0x3E]] }
    let other : Input := { limit := some 1, items := [.data [0x78, 0x3C, 0x3D, 0x37]] }
    let fresh := ofInput input 1
    let run := Calls.replies reply fresh (requests 1)
    let token : Token := ⟨.identifier, .text "x", ⟨1, 1⟩⟩
    0 < 1 ∧ 0 < 10 ∧ input.limit ≠ some 0 ∧ other.limit ≠ some 0 ∧
      input.contents = .ok [0x78, 0x3C, 0x3E] ∧ other.contents = .ok [0x78, 0x3C, 0x3D, 0x37] ∧
      run.1.getLast? = some (.ofToken token) ∧ fresh.decoded (requests 1) = ['x', '<'] ∧
      run.2.source.held = some '<' ∧
      (Calls.replies reply (ofInput other 10) (requests 1)).1 = run.1 ∧
      fresh.sourceCalls .nextToken = [.next, .next, .takeBack '<'] ∧
      ∃ after, Leads fresh.source (fresh.exchanges .nextToken) after := by
  intro input other fresh run token
  have room : 0 < 1 ∧ 0 < 10 := by decide
  have unblocked : input.limit ≠ some 0 ∧ other.limit ≠ some 0 := by decide
  have delivered : input.contents = .ok [0x78, 0x3C, 0x3E] := rfl
  have delivered' : other.contents = .ok [0x78, 0x3C, 0x3D, 0x37] := rfl
  have spelled : Text.Utf8.decode [0x78, 0x3C, 0x3E] = ['x', '<', '>'] :=
    Text.Utf8.decode_flatMap_utf8EncodeChar ['x', '<', '>']
  have spelled' : Text.Utf8.decode [0x78, 0x3C, 0x3D, 0x37] = ['x', '<', '=', '7'] :=
    Text.Utf8.decode_flatMap_utf8EncodeChar ['x', '<', '=', '7']
  have name : Lexeme ['x'] (some '<') .identifier (.text "x") :=
    .name (by decide) (by simp) (endsBefore_some (by decide))
  have read : Tokens .start (['x'] ++ ['<', '>']) _ _ ['<', '>'] := .token rfl name .none
  have stands := stands_ofInput room.1 unblocked.1 delivered {}
  rw [spelled] at stands
  have replied : run.1 = [.ofToken token] := stands.replies_tokens read
  have answered : run.1.getLast? = some (.ofToken token) := by rw [replied]; rfl
  have taken : fresh.decoded (requests 1) = ['x', '<'] := by decide +kernel
  have held : run.2.source.held = some '<' := by decide +kernel
  obtain ⟨given, granted⟩ := lookahead_at_most_one room.1 unblocked.1 delivered {}
  obtain ⟨_, _, _, _, _, -, -, -, -, -, -, -, -, again⟩ := given 0 token answered
  obtain ⟨after, leads, -⟩ := granted input 1 {} [] .nextToken
  refine ⟨room.1, room.2, unblocked.1, unblocked.2, delivered, delivered', answered, taken, held,
    again other 10 _ {} ['=', '7'] room.2 unblocked.2 delivered' ?_ ?_, by decide +kernel,
    after, leads⟩
  · rw [spelled']
    exact (congrArg (· ++ ['=', '7']) taken).symm
  · intro none
    cases held.symm.trans none

/-- The end of a text counts as read: a name that ends there is longer in a text that goes on with
a letter, although the texts agree in all characters that were read. -/
theorem end_is_read_ahead :
    let short := ofInput (.ofBytes [0x78]) 10
    let long := ofInput (.ofBytes [0x78, 0x79]) 10
    let run := Calls.replies reply short (requests 1)
    run.1 = [.ofToken ⟨.identifier, .text "x", ⟨1, 1⟩⟩] ∧ run.2.source.held = none ∧
      short.decoded (requests 1) = ['x'] ∧ ['x'] <+: Text.Utf8.decode [0x78, 0x79] ∧
      (Calls.replies reply long (requests 1)).1 ≠ run.1 := by
  intro short long run
  have room : 0 < 10 := by decide
  have spelled : Text.Utf8.decode [0x78] = ['x'] :=
    Text.Utf8.decode_flatMap_utf8EncodeChar ['x']
  have spelled' : Text.Utf8.decode [0x78, 0x79] = ['x', 'y'] :=
    Text.Utf8.decode_flatMap_utf8EncodeChar ['x', 'y']
  have name : Lexeme ['x'] none .identifier (.text "x") :=
    .name (by decide) (by simp) endsBefore_none
  have name' : Lexeme ['x', 'y'] none .identifier (.text "xy") :=
    .name (by decide) (by simp; decide) endsBefore_none
  have read : Tokens .start (['x'] ++ []) _ _ [] := .token rfl name .none
  have read' : Tokens .start (['x', 'y'] ++ []) _ _ [] := .token rfl name' .none
  have delivered : (Input.ofBytes [0x78]).contents = .ok [0x78] := rfl
  have delivered' : (Input.ofBytes [0x78, 0x79]).contents = .ok [0x78, 0x79] := rfl
  have stands := stands_ofInput room (by decide) delivered {}
  have stands' := stands_ofInput room (by decide) delivered' {}
  rw [spelled] at stands
  rw [spelled'] at stands'
  have replied : run.1 = [.ofToken ⟨.identifier, .text "x", ⟨1, 1⟩⟩] := stands.replies_tokens read
  have replied' : (Calls.replies reply long (requests 1)).1 =
      [.ofToken ⟨.identifier, .text "xy", ⟨1, 1⟩⟩] := stands'.replies_tokens read'
  refine ⟨replied, by decide +kernel, by decide +kernel, ?_, ?_⟩
  · rw [spelled']
    exact ⟨['y'], rfl⟩
  · rw [replied, replied']
    simp [Reply.ofToken]

end Lexer
end TokenListing
