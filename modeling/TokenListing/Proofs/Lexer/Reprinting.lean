import TokenListing.Proofs.Grammar.Respelling
import TokenListing.Proofs.Lexer.LineBreaks

/-! # Printed tokens are lexed again

What shows the values of a text's tokens, with blanks between them, is a text whose tokens have the
same kinds and values. Neither the blanks between tokens nor zeros before an integer count.
-/
namespace TokenListing.Lexer
open Grammar

/-- If a lexer yields tokens up to the end of its input and none of them is a decimal, a lexer over
what shows their values, with any blanks before the first and after the last of them and at least
one between any two, comes to the end of its input as well and yields tokens of the same kinds and
values in the same order. An integer may be written with zeros before it. -/
theorem reprinted_meanings {input other : Input} {m n : Nat} {bytes : List UInt8}
    {tokens : List Token} {lead : List Char} {parts : List Spelled} (hm : 0 < m) (hn : 0 < n)
    (hinput : input.limit ≠ some 0) (hother : other.limit ≠ some 0)
    (delivered : input.contents = .ok bytes) (log log' : Diagnostic.Log)
    (yielded : (ofInput input m log).yields.1 = tokens.map .ok)
    (ended : (ofInput input m log).yields.2.ending = some .endOfInput)
    (whole : ∀ token ∈ tokens, ∀ x, token.value ≠ .decimal x)
    (same : parts.map Spelled.token = tokens)
    (spells : ∀ part ∈ parts, Spells part.token.value part.spelling)
    (leading : ∀ c ∈ lead, Text.isBlank c = true)
    (blank : ∀ part ∈ parts, ∀ c ∈ part.gap, Text.isBlank c = true)
    (apart : ∀ part ∈ parts.dropLast, part.gap ≠ [])
    (written : other.contents = .ok (Text.Utf8.encode (lead ++ parts.flatMap Spelled.text))) :
    let again := (ofInput other n log').yields
    again.2.ending = some .endOfInput ∧
      ∃ others : List Token,
        again.1 = others.map .ok ∧ others.map meaning = tokens.map meaning := by
  intro again
  have stands := stands_ofInput hm hinput delivered log
  have complete := (stands.yields_iff_complete tokens).mp ⟨yielded, ended⟩
  obtain ⟨others, spelled, meanings⟩ :=
    complete.respelled whole same spells leading blank apart
  have stands' := stands_ofInput hn hother written log'
  rw [Text.Utf8.encode, Text.Utf8.decode_flatMap_utf8EncodeChar] at stands'
  obtain ⟨yielded', ended'⟩ := stands'.yields_complete spelled
  exact ⟨ended', others, yielded', meanings⟩

/-- Zeros are dropped and one is put back, and blanks part an operator from a name, one of them
cut in two by the reads. -/
theorem reprinted_meanings_zeros :
    let input : Input := { items := [.data [0x30, 0x30, 0x37], .data [0x2B, 0x78]] }
    let other : Input := { limit := some 2, items := [.data [0x30, 0x37, 0xE3, 0x80],
      .data [0x80, 0x2B, 0x20, 0x0A, 0x78]] }
    let seven : Token := ⟨.number, .integer 7, ⟨1, 1⟩⟩
    let plus : Token := ⟨.operator, .text "+", ⟨1, 4⟩⟩
    let name : Token := ⟨.identifier, .text "x", ⟨1, 5⟩⟩
    let parts : List Spelled := [⟨seven, ['0', '7'], ['\u3000']⟩, ⟨plus, ['+'], [' ', '\n']⟩,
      ⟨name, ['x'], []⟩]
    let first := (ofInput input 2).yields
    let again := (ofInput other 3).yields
    0 < 2 ∧ 0 < 3 ∧ input.limit ≠ some 0 ∧ other.limit ≠ some 0 ∧
      input.contents = .ok [0x30, 0x30, 0x37, 0x2B, 0x78] ∧
      first.1 = [seven, plus, name].map .ok ∧ first.2.ending = some .endOfInput ∧
      (∀ token ∈ [seven, plus, name], ∀ x, token.value ≠ .decimal x) ∧
      (∀ part ∈ parts, Spells part.token.value part.spelling) ∧
      (∀ part ∈ parts, ∀ c ∈ part.gap, Text.isBlank c = true) ∧
      (∀ part ∈ parts.dropLast, part.gap ≠ []) ∧
      other.contents = .ok (Text.Utf8.encode ([] ++ parts.flatMap Spelled.text)) ∧
      again.2.ending = some .endOfInput ∧
      ∃ others : List Token, again.1 = others.map .ok ∧ others.map meaning =
        [(.number, .integer 7), (.operator, .text "+"), (.identifier, .text "x")] := by
  intro input other seven plus name parts first again
  have delivered : input.contents = .ok [0x30, 0x30, 0x37, 0x2B, 0x78] := rfl
  have decoded : Text.Utf8.decode [0x30, 0x30, 0x37, 0x2B, 0x78] = ['0', '0', '7', '+', 'x'] :=
    Text.Utf8.decode_flatMap_utf8EncodeChar ['0', '0', '7', '+', 'x']
  have digits : IsDigits ['0', '0', '7'] := ((isDigits_singleton rfl).snoc rfl).snoc rfl
  have number : Lexeme ['0', '0', '7'] (some '+') .number (.integer 7) :=
    .integer digits (by decide) (endsBefore_some rfl)
  have operator : Lexeme ['+'] (some 'x') .operator (.text "+") := .fixed (by decide)
  have letter : Lexeme ['x'] none .identifier (.text "x") :=
    .name (by decide) (by simp) endsBefore_none
  have complete : Complete (['0', '0', '7'] ++ (['+'] ++ (['x'] ++ []))) _ :=
    ⟨_, .token rfl number (.token rfl operator (.token rfl letter .none))⟩
  have rooms : 0 < 2 ∧ 0 < 3 := by decide
  have hinput : input.limit ≠ some 0 := by decide
  have hother : other.limit ≠ some 0 := by decide
  have stands := stands_ofInput rooms.1 hinput delivered {}
  rw [decoded] at stands
  obtain ⟨yielded, ended⟩ := stands.yields_complete complete
  have spells : ∀ part ∈ parts, Spells part.token.value part.spelling := by
    simp only [parts, List.forall_mem_cons]
    exact ⟨.zero (.shown (.integer 7)), .shown (.text "+"), .shown (.text "x"), by simp⟩
  have blank : ∀ part ∈ parts, ∀ c ∈ part.gap, Text.isBlank c = true := by
    simp only [parts, List.forall_mem_cons]
    exact ⟨⟨rfl, by simp⟩, ⟨rfl, rfl, by simp⟩, by simp, by simp⟩
  have apart : ∀ part ∈ parts.dropLast, part.gap ≠ [] := by decide
  have written : other.contents = .ok (Text.Utf8.encode ([] ++ parts.flatMap Spelled.text)) := by
    decide
  have whole : ∀ token ∈ [seven, plus, name], ∀ x, token.value ≠ .decimal x := by
    simp [seven, plus, name]
  obtain ⟨ended', others, yielded', meanings⟩ := reprinted_meanings rooms.1 rooms.2 hinput hother
    delivered {} {} yielded ended whole rfl spells (by simp) blank apart written
  exact ⟨rooms.1, rooms.2, hinput, hother, delivered, yielded, ended, whole, spells, blank, apart,
    written, ended', others, yielded', meanings⟩

end TokenListing.Lexer
