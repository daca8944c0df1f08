import TokenListing.Proofs.Grammar.Totality

/-! # Texts cut into pieces

A text is cut into blanks and lexemes, and malformed characters may be the last piece. A piece has
its characters as they stand in the text, so a complete text is its pieces one after another. What
comes before a piece in the text is what the pieces before it have.
-/
namespace TokenListing.Grammar

inductive Piece where
  | blank (c : Char)
  | lexeme (spelling : List Char) (token : Token)
  | fault (opening : List Char) (malformation : Malformation) (span : Span)

namespace Piece

def text : Piece → List Char
  | blank c => [c]
  | lexeme spelling _ => spelling
  | fault opening _ _ => opening

def item? : Piece → Option (Except LexError Token)
  | blank _ => none
  | lexeme _ token => some (.ok token)
  | fault _ malformation span => some (.error (.malformed malformation span))

end Piece

def textOf (pieces : List Piece) : List Char :=
  pieces.flatMap Piece.text

def itemsOf (pieces : List Piece) : List (Except LexError Token) :=
  pieces.filterMap Piece.item?

def spanOf : Except LexError Token → Span
  | .ok token => token.span
  | .error error => error.span

/-- The pieces of a text, from the position before it on. What follows malformed characters is in
no piece. -/
inductive Cut : Span → List Char → List Piece → Prop where
  | done {before : Span} : Cut before [] []
  | blank {before : Span} {c : Char} {text : List Char} {pieces : List Piece}
      (blank : Text.isBlank c = true) (more : Cut (before.advance c) text pieces) :
      Cut before (c :: text) (.blank c :: pieces)
  | lexeme {before : Span} {spelling text : List Char} {first : Char} {kind : TokenKind}
      {value : TokenValue} {pieces : List Piece} (begun : spelling.head? = some first)
      (read : Lexeme spelling text.head? kind value)
      (more : Cut (before.after spelling) text pieces) :
      Cut before (spelling ++ text)
        (.lexeme spelling ⟨kind, value, before.advance first⟩ :: pieces)
  | fault {before : Span} {opening text : List Char} {first : Char} {malformation : Malformation}
      (begun : opening.head? = some first) (wrong : Malformed opening text.head? malformation) :
      Cut before (opening ++ text) [.fault opening malformation (before.advance first)]

theorem textOf_cons (piece : Piece) (pieces : List Piece) :
    textOf (piece :: pieces) = piece.text ++ textOf pieces :=
  List.flatMap_cons

theorem itemsOf_append (front back : List Piece) :
    itemsOf (front ++ back) = itemsOf front ++ itemsOf back :=
  List.filterMap_append

theorem Tokens.cut {before after : Span} {text rest : List Char} {tokens : List Token}
    {last : List Piece} (h : Tokens before text tokens after rest) (ended : Cut after rest last) :
    ∃ pieces, Cut before text (pieces ++ last) ∧ itemsOf pieces = tokens.map .ok ∧
      text = textOf pieces ++ rest := by
  induction h with
  | none => exact ⟨[], ended, rfl, rfl⟩
  | @blank before after c text rest tokens blank more ih =>
    obtain ⟨pieces, cut, items, rfl⟩ := ih ended
    exact ⟨.blank c :: pieces, .blank blank cut, items, rfl⟩
  | @token before after lexeme text rest first kind value tokens begun read more ih =>
    obtain ⟨pieces, cut, items, rfl⟩ := ih ended
    refine ⟨.lexeme lexeme ⟨kind, value, before.advance first⟩ :: pieces,
      .lexeme begun read cut, ?_, ?_⟩
    · exact congrArg (Except.ok (Token.mk kind value (before.advance first)) :: ·) items
    · rw [textOf_cons, List.append_assoc]
      rfl

theorem Complete.cut {text : List Char} {tokens : List Token} (h : Complete text tokens) :
    ∃ pieces, Cut .start text pieces ∧ itemsOf pieces = tokens.map .ok ∧ textOf pieces = text := by
  obtain ⟨after, read⟩ := h
  obtain ⟨pieces, cut, items, whole⟩ := read.cut .done
  rw [List.append_nil] at cut whole
  exact ⟨pieces, cut, items, whole.symm⟩

theorem Broken.cut {text : List Char} {tokens : List Token} {malformation : Malformation}
    {span : Span} (h : Broken text tokens malformation span) :
    ∃ pieces, Cut .start text pieces ∧
      itemsOf pieces = tokens.map .ok ++ [.error (.malformed malformation span)] := by
  obtain ⟨after, opening, first, rest, read, begun, wrong, rfl⟩ := h
  obtain ⟨pieces, cut, items, -⟩ := read.cut (.fault begun wrong)
  refine ⟨_, cut, ?_⟩
  rw [itemsOf_append, items]
  rfl

theorem Cut.textOf_prefix {before : Span} {text : List Char} {pieces : List Piece}
    (h : Cut before text pieces) : textOf pieces <+: text := by
  induction h with
  | done => exact List.prefix_rfl
  | blank blank more ih => exact (List.prefix_cons_inj _).mpr ih
  | lexeme begun read more ih =>
    rw [textOf_cons]
    exact (List.prefix_append_right_inj _).mpr ih
  | fault begun wrong =>
    rw [textOf_cons]
    exact (List.prefix_append_right_inj _).mpr List.nil_prefix

theorem Cut.split {before : Span} {text : List Char} {earlier later : List Piece} {piece : Piece}
    (h : Cut before text (earlier ++ piece :: later)) :
    ∃ rest, text = textOf earlier ++ rest ∧
      Cut (before.after (textOf earlier)) rest (piece :: later) := by
  induction earlier generalizing before text with
  | nil => exact ⟨text, rfl, h⟩
  | cons other earlier ih =>
    rw [List.cons_append] at h
    generalize hpieces : earlier ++ piece :: later = pieces at h
    have onwards {next : Span} {text : List Char} (more : Cut next text pieces)
        (moved : next = before.after other.text) :
        ∃ rest, other.text ++ text = textOf (other :: earlier) ++ rest ∧
          Cut (before.after (textOf (other :: earlier))) rest (piece :: later) := by
      obtain ⟨rest, rfl, cut⟩ := ih (hpieces ▸ more)
      refine ⟨rest, ?_, ?_⟩
      · rw [textOf_cons, List.append_assoc]
      · rw [textOf_cons, Span.after, List.foldl_append]
        rwa [moved] at cut
    cases h with
    | blank blank more => exact onwards more rfl
    | lexeme begun read more => exact onwards more rfl
    -- Nothing comes after malformed characters, and here `piece` does.
    | fault begun wrong => cases earlier <;> cases hpieces

/-- The first of the pieces stands at the front of the text, and a token or an error has the
position of its first character, which is visible. -/
theorem Cut.item {before : Span} {text : List Char} {later : List Piece} {piece : Piece}
    {item : Except LexError Token} (h : Cut before text (piece :: later))
    (yielded : piece.item? = some item) :
    ∃ first more, piece.text = first :: more ∧ piece.text <+: text ∧
      Text.isBlank first = false ∧ spanOf item = before.advance first := by
  cases h with
  | blank blank more => cases yielded
  | lexeme begun read more =>
    cases yielded
    obtain ⟨first, tail, rfl, visible⟩ := read.begun
    cases begun
    exact ⟨_, tail, rfl, List.prefix_append _ _, visible, rfl⟩
  | fault begun wrong =>
    cases yielded
    obtain ⟨first, tail, rfl, visible⟩ := wrong.begun
    cases begun
    exact ⟨_, tail, rfl, List.prefix_append _ _, visible, rfl⟩

end TokenListing.Grammar
