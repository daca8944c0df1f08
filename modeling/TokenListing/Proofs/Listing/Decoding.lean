import TokenListing.Listing
import TokenListing.Proofs.Grammar.Values

/-! # Listings are read back

A line of a listing is cut at its first comma, quote, colon and angle bracket into the name of the
kind, what shows the value, and the position. None of these marks is in the part before it, so a
line tells which token it is of, and a listing which tokens and which end it lists. Each line has
its newline at its end and nowhere else.
-/
namespace TokenListing
open Grammar

namespace Span

theorem text_toList (span : Span) : span.text.toList =
    Nat.toDigits 10 span.line.toNat ++ ':' :: Nat.toDigits 10 span.column.toNat := by
  have line : (toString span.line.toNat).toList = Nat.toDigits 10 span.line.toNat :=
    Nat.toList_repr
  have column : (toString span.column.toNat).toList = Nat.toDigits 10 span.column.toNat :=
    Nat.toList_repr
  have colon : ":".toList = [':'] := rfl
  rw [text, String.toList_append, String.toList_append, line, column, colon, List.append_assoc]
  rfl

theorem text_inj {span other : Span} {mark : Char} {rest rest' : List Char}
    (ends : mark.isDigit = false)
    (same : span.text.toList ++ mark :: rest = other.text.toList ++ mark :: rest') :
    span = other ∧ rest = rest' := by
  have absent (n : Nat) {c : Char} (no : c.isDigit = false) : c ∉ Nat.toDigits 10 n :=
    (isDigits_toDigits n).notMem no
  rw [text_toList, text_toList, List.append_assoc, List.append_assoc] at same
  obtain ⟨lines, later⟩ := Text.cut_inj (absent _ rfl) (absent _ rfl) same
  obtain ⟨columns, left⟩ := Text.cut_inj (absent _ ends) (absent _ ends) later
  exact ⟨Span.ext (UInt32.toNat_inj.mp (toDigits_inj lines))
    (UInt32.toNat_inj.mp (toDigits_inj columns)), left⟩

theorem onLine_text (span : Span) : OnLine span.text.toList := by
  have digits (n : Nat) : OnLine (Nat.toDigits 10 n) := onLine_digits (isDigits_toDigits n)
  rw [text_toList]
  constructor
  · simp [(digits _).1]
  · simp [(digits _).2]

end Span

theorem TokenKind.name_inj {kind other : TokenKind} (same : kind.name = other.name) :
    kind = other := by
  have found := TokenKind.ofName?_name kind
  rw [same, TokenKind.ofName?_name] at found
  exact (Option.some.inj found).symm

theorem TokenKind.name_chars (kind : TokenKind) :
    ',' ∉ kind.name.toList ∧ OnLine kind.name.toList := by
  have all : ∀ kind ∈ TokenKind.all, ',' ∉ kind.name.toList ∧ OnLine kind.name.toList := by
    decide
  exact all kind (TokenKind.mem_all kind)

namespace Token

def Listed (token : Token) : Prop :=
  Valued token.kind token.value

theorem line_toList (token : Token) : (token.line true).toList =
    '<' :: (token.kind.name.toList ++ ',' :: (" token-attr:\"".toList ++
      (token.value.display.toList ++ '"' :: (", ".toList ++
        (token.span.text.toList ++ ['>', '\n']))))) := by
  simp [line]

theorem line_inj {token other : Token} {rest rest' : List Char} (h : token.Listed)
    (h' : other.Listed)
    (same : (token.line true).toList ++ rest = (other.line true).toList ++ rest') :
    token = other ∧ rest = rest' := by
  rw [line_toList, line_toList] at same
  simp only [List.cons_append, List.append_assoc, List.cons.injEq, true_and] at same
  obtain ⟨names, after⟩ :=
    Text.cut_inj (TokenKind.name_chars _).1 (TokenKind.name_chars _).1 same
  have kinds := TokenKind.name_inj (String.toList_inj.mp names)
  obtain ⟨shown, position⟩ := Text.cut_inj h.onLine.1 h'.onLine.1 (List.append_cancel_left after)
  obtain ⟨spans, left⟩ := Span.text_inj rfl (List.append_cancel_left position)
  have values := (kinds ▸ h : Valued other.kind token.value).display_inj h'
    (String.toList_inj.mp shown)
  refine ⟨?_, (List.cons.inj left).2⟩
  cases token
  cases other
  cases kinds
  cases values
  cases spans
  rfl

theorem line_newline {token : Token} (h : token.Listed) :
    ∃ front, (token.line true).toList = front ++ ['\n'] ∧ '\n' ∉ front := by
  refine ⟨'<' :: (token.kind.name.toList ++ ',' :: (" token-attr:\"".toList ++
    (token.value.display.toList ++ '"' :: (", ".toList ++ (token.span.text.toList ++ ['>']))))),
    ?_, ?_⟩
  · rw [line_toList]
    simp
  · simp [(TokenKind.name_chars token.kind).2.2, h.onLine.2, token.span.onLine_text.2]

end Token

/-- Lines of tokens up to a line that does not begin like them tell all the tokens. -/
theorem lines_inj {tokens others : List Token} {last last' : List Char}
    (h : ∀ token ∈ tokens, token.Listed) (h' : ∀ token ∈ others, token.Listed)
    (ends : last.head? ≠ some '<') (ends' : last'.head? ≠ some '<')
    (same : tokens.flatMap (fun token => (token.line true).toList) ++ last =
      others.flatMap (fun token => (token.line true).toList) ++ last') :
    tokens = others ∧ last = last' := by
  have opened (token : Token) (rest : List Char) :
      ((token.line true).toList ++ rest).head? = some '<' := by
    rw [Token.line_toList]
    rfl
  induction tokens generalizing others with
  | nil =>
    cases others with
    | nil => exact ⟨rfl, same⟩
    | cons other others =>
      have first := congrArg List.head? same
      rw [List.flatMap_cons, List.append_assoc, opened] at first
      exact absurd first ends
  | cons token tokens ih =>
    cases others with
    | nil =>
      have first := congrArg List.head? same
      rw [List.flatMap_cons, List.append_assoc, opened] at first
      exact absurd first.symm ends'
    | cons other others =>
      obtain ⟨listed, later⟩ := List.forall_mem_cons.mp h
      obtain ⟨listed', later'⟩ := List.forall_mem_cons.mp h'
      rw [List.flatMap_cons, List.flatMap_cons, List.append_assoc, List.append_assoc] at same
      obtain ⟨rfl, left⟩ := Token.line_inj listed listed' same
      obtain ⟨rfl, lasts⟩ := ih later later' left
      exact ⟨rfl, lasts⟩

namespace Outcome

theorem lexicalError_line (span : Span) (count : Nat) : (lexicalError span count).line.toList =
    "Error! There is a lexical error at ".toList ++ (span.text.toList ++ ['.', '\n']) := by
  have whole : (lexicalError span count).line =
      "Error! There is a lexical error at " ++ span.text ++ ".\n" := rfl
  have stop : ".\n".toList = ['.', '\n'] := rfl
  rw [whole, String.toList_append, String.toList_append, stop, List.append_assoc]

theorem head_line (outcome : Outcome) :
    outcome.line.toList.head? = some (if outcome.isSuccess then 'S' else 'E') := by
  have success : "Success!\n".toList.head? = some 'S' := by decide
  have error : "Error! There is a lexical error at ".toList.head? = some 'E' := by decide
  cases outcome with
  | success count => exact success
  | lexicalError span count =>
    rw [lexicalError_line, List.head?_append, error]
    rfl

theorem head_line_ne (outcome : Outcome) : outcome.line.toList.head? ≠ some '<' := by
  rw [head_line]
  cases outcome.isSuccess <;> decide

theorem line_inj {outcome other : Outcome} (counts : outcome.tokens = other.tokens)
    (same : outcome.line.toList = other.line.toList) : outcome = other := by
  have heads := congrArg List.head? same
  rw [head_line, head_line] at heads
  cases outcome with
  | success count =>
    cases other with
    | success => exact congrArg success counts
    | lexicalError => cases heads
  | lexicalError span count =>
    cases other with
    | success => cases heads
    | lexicalError span' count' =>
      rw [lexicalError_line, lexicalError_line] at same
      obtain ⟨rfl, -⟩ := Span.text_inj rfl (List.append_cancel_left same)
      exact congrArg (lexicalError span) counts

theorem count_newline_line (outcome : Outcome) : outcome.line.toList.count '\n' = 1 := by
  have success : "Success!\n".toList.count '\n' = 1 := by decide
  have error : "Error! There is a lexical error at ".toList.count '\n' = 0 := by decide
  cases outcome with
  | success count => exact success
  | lexicalError span count =>
    rw [lexicalError_line, List.count_append, List.count_append, error,
      List.count_eq_zero_of_not_mem span.onLine_text.2]
    rfl

end Outcome

namespace Listing

/-- A listing of tokens that a text may have, with the outcome after so many of them. -/
structure Closes (listing : Listing) (outcome : Outcome) : Prop where
  listed : ∀ token ∈ listing.tokens, token.Listed
  ended : listing.outcome = some outcome
  counted : outcome.tokens = listing.tokens.length

variable {listing other : Listing} {outcome outcome' : Outcome}

theorem Closes.text_toList (h : listing.Closes outcome) : (listing.text true).toList =
    listing.tokens.flatMap (fun token => (token.line true).toList) ++ outcome.line.toList := by
  rw [text, h.ended, String.toList_append, String.toList_join, List.flatMap_map]
  rfl

theorem Closes.text_inj (h : listing.Closes outcome) (h' : other.Closes outcome')
    (same : (listing.text true).toList = (other.text true).toList) :
    listing = other ∧ outcome = outcome' := by
  rw [h.text_toList, h'.text_toList] at same
  obtain ⟨tokens, lasts⟩ := lines_inj h.listed h'.listed outcome.head_line_ne
    outcome'.head_line_ne same
  have counts : outcome.tokens = outcome'.tokens := by
    rw [h.counted, h'.counted, tokens]
  have outcomes := Outcome.line_inj counts lasts
  refine ⟨?_, outcomes⟩
  have ends : listing.outcome = other.outcome := by
    rw [h.ended, h'.ended, outcomes]
  cases listing
  cases other
  cases tokens
  cases ends
  rfl

theorem Closes.count_newline (h : listing.Closes outcome) :
    (listing.text true).toList.count '\n' = listing.tokens.length + 1 := by
  have lines (tokens : List Token) (listed : ∀ token ∈ tokens, token.Listed) :
      (tokens.flatMap fun token => (token.line true).toList).count '\n' = tokens.length := by
    induction tokens with
    | nil => rfl
    | cons token tokens ih =>
      obtain ⟨first, later⟩ := List.forall_mem_cons.mp listed
      obtain ⟨front, whole, absent⟩ := Token.line_newline first
      rw [List.flatMap_cons, List.count_append, ih later, whole, List.count_append,
        List.count_eq_zero_of_not_mem absent, List.length_cons]
      exact Nat.add_comm _ _
  rw [h.text_toList, List.count_append, lines _ h.listed, Outcome.count_newline_line]

end Listing
end TokenListing
