import TokenListing.Proofs.Grammar.Separation
import TokenListing.Proofs.Lexer.Positions
import TokenListing.Proofs.Lexer.Replacement

/-! # Lexing is compositional at line breaks

A newline parts what comes before it from what comes after it. If the text before it is all
tokens, a lexer over the whole yields these first and then what a lexer over the rest alone yields,
so many lines further down; and it ends as that one ends.
-/
namespace TokenListing

namespace Text.Utf8

theorem decode_append_newline {front : List UInt8} (absent : replacement ∉ decode front)
    (back : List UInt8) : decode (front ++ 0x0A :: back) = decode front ++ '\n' :: decode back := by
  have spelled : front ++ 0x0A :: back = encode (decode front ++ ['\n']) ++ back := by
    rw [encode_append, encode_decode absent, List.append_assoc]
    rfl
  rw [spelled, decode_encode_append, List.append_assoc, List.singleton_append]

end Text.Utf8

namespace Lexer
open Grammar

def itemDown (lines : Nat) : Except LexError Token → Except LexError Token
  | .ok token => .ok (token.down lines)
  | .error error => .error (error.down lines)

def Ending.down (lines : Nat) : Ending → Ending
  | endOfInput => endOfInput
  | failed error => failed (error.down lines)

theorem spanOf_itemDown (lines : Nat) (item : Except LexError Token) :
    spanOf (itemDown lines item) = (spanOf item).down lines := by
  match item with
  | .ok token => rfl
  | .error (.malformed malformation span) => rfl
  | .error (.unreadable failure span) => rfl

theorem map_itemDown_ok (lines : Nat) (tokens : List Token) :
    (tokens.map Except.ok).map (itemDown lines) = (tokens.map (Token.down lines)).map .ok := by
  rw [List.map_map, List.map_map]
  rfl

theorem Stands.complete_of_ending {lexer : Lexer} {text : List Char} (h : lexer.Stands .start text)
    (ended : lexer.yields.2.ending = some .endOfInput) :
    ∃ tokens, Complete text tokens ∧ lexer.yields.1 = tokens.map .ok := by
  rcases complete_or_broken text with ⟨tokens, complete⟩ | ⟨tokens, malformation, span, broken⟩
  · exact ⟨tokens, complete, (h.yields_complete complete).1⟩
  · cases ended.symm.trans (h.ends_broken broken).2

/-- A lexer over a text of tokens, a newline and more yields the tokens and then what a lexer over
the rest yields, further down. -/
theorem Stands.yields_below {upper lower whole : Lexer} {text other : List Char}
    (first : upper.Stands .start text) (second : lower.Stands .start other)
    (both : whole.Stands .start (text ++ '\n' :: other))
    (ended : upper.yields.2.ending = some .endOfInput) :
    whole.yields.1 =
        upper.yields.1 ++ lower.yields.1.map (itemDown (1 + text.count '\n')) ∧
      whole.yields.2.ending = lower.yields.2.ending.map (Ending.down (1 + text.count '\n')) := by
  obtain ⟨tokens, complete, yielded⟩ := first.complete_of_ending ended
  rcases complete_or_broken other with ⟨more, later⟩ | ⟨more, malformation, span, later⟩
  · obtain ⟨found, last⟩ := both.yields_complete (complete.trans_complete later)
    obtain ⟨found', last'⟩ := second.yields_complete later
    rw [found, last, found', last', yielded, map_itemDown_ok, List.map_append]
    exact ⟨rfl, rfl⟩
  · obtain ⟨found, last⟩ := both.ends_broken (complete.trans_broken later)
    obtain ⟨found', last'⟩ := second.ends_broken later
    rw [found, last, found', last', yielded, List.map_append, List.map_append, map_itemDown_ok,
      List.append_assoc]
    exact ⟨rfl, rfl⟩

/-- While the counters last over a text with `lines` lines before another one, a token or an error
of the other moves down by that number. -/
theorem Stands.line_down {lexer : Lexer} {front other : List Char} (h : lexer.Stands .start other)
    (fits : Span.Fits (front ++ '\n' :: other)) {item : Except LexError Token}
    (mem : item ∈ lexer.yields.1) :
    ((spanOf item).down (1 + front.count '\n')).line.toNat =
      (spanOf item).line.toNat + (1 + front.count '\n') := by
  obtain ⟨pieces, cut, yielded⟩ := h.yields_cut
  rw [yielded] at mem
  obtain ⟨piece, within, tells⟩ := List.mem_filterMap.mp mem
  obtain ⟨earlier, later, rfl⟩ := List.append_of_mem within
  obtain ⟨first, tail, spelled, visible, ⟨rest, inside⟩, counts⟩ := cut.counts tells
  have upTo : textOf earlier ++ [first] <+: other := by
    rw [spelled] at inside
    exact ⟨tail ++ rest, by rw [← inside]; simp⟩
  have below : other <:+ front ++ '\n' :: other :=
    ⟨front ++ ['\n'], by rw [List.append_assoc, List.singleton_append]⟩
  have within := fits.of_suffix below
  have line := ((counts (within.of_prefix upTo)).of_snoc visible).1
  have few : (textOf earlier).count '\n' ≤ other.count '\n' :=
    ((List.prefix_append _ _).trans upTo).sublist.count_le '\n'
  have room := fits.newlines
  rw [List.count_append, List.count_cons_self] at room
  exact Span.toNat_line_down (by omega)

/-- A lexer over bytes `a` that comes to the end of its input yields the same before a newline and
any bytes `b`, and then comes what a lexer over `b` alone yields, with the same kinds, values and
columns, further down by one line and one for each newline in `a`. It ends as the lexer over `b`
ends, with the same error at the position as far down. The three may have chunks of any capacity
and their inputs be cut in any way. Line numbers are words; while they last, moving down is
addition. -/
theorem yields_across_newline {upper lower whole : Input} {m n k : Nat} {a b : List UInt8}
    (hm : 0 < m) (hn : 0 < n) (hk : 0 < k) (hupper : upper.limit ≠ some 0)
    (hlower : lower.limit ≠ some 0) (hwhole : whole.limit ≠ some 0)
    (first : upper.contents = .ok a) (second : lower.contents = .ok b)
    (both : whole.contents = .ok (a ++ 0x0A :: b)) (log log' log'' : Diagnostic.Log)
    (accepted : (ofInput upper m log).yields.2.ending = some .endOfInput) :
    let above := (ofInput upper m log).yields
    let below := (ofInput lower n log').yields
    let run := (ofInput whole k log'').yields
    let lines := 1 + a.count 0x0A
    run.1 = above.1 ++ below.1.map (itemDown lines) ∧
      run.2.ending = below.2.ending.map (Ending.down lines) ∧
      (Span.Fits (Text.Utf8.decode (a ++ 0x0A :: b)) → ∀ item ∈ below.1,
        (spanOf (itemDown lines item)).line.toNat = (spanOf item).line.toNat + lines ∧
          (spanOf (itemDown lines item)).column = (spanOf item).column) := by
  intro above below run lines
  have upperStands := stands_ofInput hm hupper first log
  have lowerStands := stands_ofInput hn hlower second log'
  have wholeStands := stands_ofInput hk hwhole both log''
  obtain ⟨tokens, complete, -⟩ := upperStands.complete_of_ending accepted
  have absent := complete.replacement_notMem
  have newlines : lines = 1 + (Text.Utf8.decode a).count '\n' := by
    rw [← Text.Utf8.count_newline_encode, Text.Utf8.encode_decode absent]
  rw [Text.Utf8.decode_append_newline absent] at wholeStands ⊢
  rw [newlines]
  obtain ⟨yielded, ended⟩ := upperStands.yields_below lowerStands wholeStands accepted
  refine ⟨yielded, ended, fun fits item mem => ?_⟩
  rw [spanOf_itemDown]
  exact ⟨lowerStands.line_down fits mem, rfl⟩

/-- A number ends at the newline and at the end of the input, and a lone colon stands below it. -/
theorem yields_across_newline_lone_colon :
    let upper : Input := { items := [.data [0x37, 0x0A, 0x34], .data [0x32]] }
    let whole : Input := { limit := some 1, items := [.data [0x37, 0x0A],
      .data [0x34, 0x32, 0x0A, 0x3A, 0x20]] }
    let above := (ofInput upper 2).yields
    let below := (ofInput (.ofBytes [0x3A, 0x20]) 1).yields
    let run := (ofInput whole 3).yields
    0 < 2 ∧ 0 < 1 ∧ 0 < 3 ∧ upper.limit ≠ some 0 ∧ whole.limit ≠ some 0 ∧
      upper.contents = .ok [0x37, 0x0A, 0x34, 0x32] ∧
      whole.contents = .ok ([0x37, 0x0A, 0x34, 0x32] ++ 0x0A :: [0x3A, 0x20]) ∧
      above.2.ending = some .endOfInput ∧ run.1 = above.1 ++ below.1.map (itemDown 2) ∧
      run.2.ending = some (.failed (.malformed (.malformedColon (some ' ')) ⟨3, 1⟩)) := by
  intro upper whole above below run
  have rooms : 0 < 2 ∧ 0 < 1 ∧ 0 < 3 := by decide
  have hupper : upper.limit ≠ some 0 := by decide
  have hlower : (Input.ofBytes [0x3A, 0x20]).limit ≠ some 0 := by decide
  have hwhole : whole.limit ≠ some 0 := by decide
  have first : upper.contents = .ok [0x37, 0x0A, 0x34, 0x32] := rfl
  have second : (Input.ofBytes [0x3A, 0x20]).contents = .ok [0x3A, 0x20] := rfl
  have both : whole.contents = .ok ([0x37, 0x0A, 0x34, 0x32] ++ 0x0A :: [0x3A, 0x20]) := rfl
  have decoded : Text.Utf8.decode [0x37, 0x0A, 0x34, 0x32] = ['7', '\n', '4', '2'] :=
    Text.Utf8.decode_flatMap_utf8EncodeChar ['7', '\n', '4', '2']
  have seven : Lexeme ['7'] (some '\n') .number (.integer 7) :=
    .integer (isDigits_singleton rfl) (by decide) (endsBefore_some rfl)
  have number : Lexeme ['4', '2'] none .number (.integer 42) :=
    .integer ((isDigits_singleton rfl).snoc rfl) (by decide) endsBefore_none
  have complete : Complete (['7'] ++ '\n' :: (['4', '2'] ++ [])) _ :=
    ⟨_, .token rfl seven (.blank rfl (.token rfl number .none))⟩
  have stands := stands_ofInput rooms.1 hupper first {}
  rw [decoded] at stands
  have accepted : above.2.ending = some .endOfInput := (stands.yields_complete complete).2
  have read : Text.Utf8.decode [0x3A, 0x20] = [':', ' '] :=
    Text.Utf8.decode_flatMap_utf8EncodeChar [':', ' ']
  have colon : Malformed [':'] (some ' ') (.malformedColon (some ' ')) :=
    .colon (endsBefore_some rfl)
  have broken : Broken ([':'] ++ [' ']) [] _ ⟨1, 1⟩ :=
    ⟨_, [':'], ':', [' '], .none, rfl, colon, rfl⟩
  have lower := stands_ofInput rooms.2.1 hlower second {}
  rw [read] at lower
  have failed : below.2.ending = _ := (lower.ends_broken broken).2
  obtain ⟨yielded, ended, -⟩ := yields_across_newline rooms.1 rooms.2.1 rooms.2.2 hupper hlower
    hwhole first second both {} {} {} accepted
  exact ⟨rooms.1, rooms.2.1, rooms.2.2, hupper, hwhole, first, both, accepted, yielded,
    ended.trans (congrArg (Option.map (Ending.down 2)) failed)⟩

end Lexer
end TokenListing
