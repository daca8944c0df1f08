import TokenListing.Session

/-! # Listings line by line

The lines of a listing are spelled out: one for each token, with its position if positions are
shown, and one for the end. What a listing does next depends on the next answer of its lexer: a
token is a line and more to list, an end is the last line, a failed read is the result of the run.
-/
namespace TokenListing.Session

def place (span : Span) : String :=
  toString span.line.toNat ++ ":" ++ toString span.column.toNat

def lineOf (shown : Bool) (token : Token) : String :=
  if shown then
    "<" ++ token.kind.name ++ ", token-attr:\"" ++ token.value.display ++ "\", " ++
      place token.span ++ ">\n"
  else "<" ++ token.kind.name ++ ", token-attr:\"" ++ token.value.display ++ "\">\n"

def linesOf (shown : Bool) (tokens : List Token) : String :=
  String.join (tokens.map (lineOf shown))

/-- The last line of a listing. There is none after a failed read. -/
def lastLine : Option LexError → String
  | none => "Success!\n"
  | some (.malformed _ span) => "Error! There is a lexical error at " ++ place span ++ ".\n"
  | some (.unreadable ..) => ""

theorem line_eq_lineOf (shown : Bool) (token : Token) : token.line shown = lineOf shown token := by
  apply String.toList_inj.mp
  cases shown with
  | false => simp [Token.line, lineOf]
  | true => simp [Token.line, lineOf, place, Span.text]

theorem linesOf_cons (shown : Bool) (token : Token) (tokens : List Token) :
    linesOf shown (token :: tokens) = token.line shown ++ linesOf shown tokens := by
  rw [linesOf, List.map_cons, String.join_cons, line_eq_lineOf, linesOf]

theorem lastLine_eq (count : Nat) (error : Option LexError) :
    (Outcome.ofEnd? count error).elim "" Outcome.line = lastLine error := by
  match error with
  | none => rfl
  | some (.malformed ..) => rfl
  | some (.unreadable ..) => rfl

theorem text_ofLexer (shown : Bool) (lexer : Lexer) :
    (Listing.ofLexer lexer).text shown =
      linesOf shown lexer.collect.1 ++ lastLine lexer.collect.2.1 := by
  have lines : linesOf shown lexer.collect.1 =
      String.join (lexer.collect.1.map (Token.line shown)) := by
    rw [linesOf, funext (line_eq_lineOf shown)]
  rw [lines, ← lastLine_eq lexer.collect.1.length]
  rfl

variable {showPosition : Bool} {lexer after : Lexer} {output : Output} {count : Nat}

theorem list_of_token {token : Token} (h : lexer.nextToken = (.ok (some token), after)) :
    list showPosition lexer output count =
      match output.write (token.line showPosition) with
      | (.error failure, output) => (.error (.output failure), after, output)
      | (.ok (), output) => list showPosition after output (count + 1) := by
  rw [list]
  split
  next h' => cases h.symm.trans h'; rfl
  next h' => cases h.symm.trans h'
  next h' => cases h.symm.trans h'
  next h' => cases h.symm.trans h'

theorem list_of_end (h : lexer.nextToken = (.ok none, after)) :
    list showPosition lexer output count =
      ((close (.success count) output).1, after, (close (.success count) output).2) := by
  rw [list]
  split
  next h' => cases h.symm.trans h'
  next h' => cases h.symm.trans h'; rfl
  next h' => cases h.symm.trans h'
  next h' => cases h.symm.trans h'

theorem list_of_malformed {malformation : Malformation} {span : Span}
    (h : lexer.nextToken = (.error (.malformed malformation span), after)) :
    list showPosition lexer output count = ((close (.lexicalError span count) output).1, after,
      (close (.lexicalError span count) output).2) := by
  rw [list]
  split
  next h' => cases h.symm.trans h'
  next h' => cases h.symm.trans h'
  next h' => cases h.symm.trans h'; rfl
  next other h' =>
    cases h.symm.trans h'
    exact absurd rfl (other malformation span)

theorem list_of_unreadable {failure : Failure} {span : Span}
    (h : lexer.nextToken = (.error (.unreadable failure span), after)) :
    list showPosition lexer output count =
      (.error (.input (.unreadable failure span)), after, output) := by
  rw [list]
  split
  next h' => cases h.symm.trans h'
  next h' => cases h.symm.trans h'
  next h' => cases h.symm.trans h'
  next h' => cases h.symm.trans h'; rfl

theorem run_of_capacity {session : Session} {capacity : Nat}
    (valid : session.config.capacity = .ok capacity) (input : Input) (output : Output) :
    let fresh := Lexer.ofInput input capacity session.log
    let listed := list session.config.showPosition
      { fresh with source := fresh.source.tell (.lexing capacity) } output 0
    (session.run input output).result = listed.1 ∧
      (session.run input output).output = listed.2.2 ∧
      (session.run input output).session = { session with log := listed.2.1.log } := by
  unfold run
  rw [valid]
  exact ⟨rfl, rfl, rfl⟩

end TokenListing.Session
