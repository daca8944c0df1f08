import TokenListing.Proofs.Lexer.Judgement

/-! # The machine finds every lexeme

On a text that begins with a lexeme, and goes on with a character that the lexeme may stand
before, the machine gives the lexeme's token and leaves what comes after it. On a text that begins
with malformed characters it says what is wrong with them, whatever else follows.
-/
namespace TokenListing.Lexer
open Grammar

namespace State

/-- A state that no further character of the text belongs to gives its verdict and leaves the
text. -/
theorem judge_of_ended {state : State} {verdict : Verdict} {rest : List Char}
    (last : state.onEnd = some verdict)
    (ended : ∀ c, rest.head? = some c → state.onChar c = .settleBefore verdict) :
    state.judge rest = some (verdict, rest) := by
  cases rest with
  | nil => rw [judge, last]; rfl
  | cons c rest => rw [judge, ended c rfl]

theorem onFirst_of_isDigit {c : Char} (digit : c.isDigit = true) :
    onFirst c = .advance (.integer (digitValue c)) := by
  unfold onFirst
  split
  case h_13 => rw [if_pos digit]
  all_goals exact absurd digit (by decide)

theorem onFirst_of_isLetter {c : Char} (letter : Text.isLetter c = true) :
    onFirst c = .advance (.name (String.singleton c)) := by
  have great := Text.toNat_of_isLetter letter
  unfold onFirst
  split
  case h_13 =>
    have digit : ¬ c.isDigit = true := by
      intro digit
      have small := (Text.toNat_of_isDigit digit).2
      omega
    have underscore : c ≠ '_' := by
      rintro rfl
      exact absurd letter (by decide)
    have begins : beginsName c = true := by rw [beginsName, letter, Bool.true_or]
    rw [if_neg digit, if_neg underscore, if_pos begins]
  all_goals exact absurd letter (by decide)

theorem onFirst_of_unexpected {c : Char}
    (starter : c ∉ [';', '(', ')', ',', '+', '-', '*', '/', '=', ':', '<', '>'])
    (digit : c.isDigit = false) (name : beginsName c = false) :
    onFirst c = .settle (.malformed (.unexpectedChar c)) := by
  unfold onFirst
  split
  case h_13 =>
    have underscore : c ≠ '_' := by
      rintro rfl
      exact absurd name (by decide)
    rw [if_neg (by rw [digit]; decide), if_neg underscore, if_neg (by rw [name]; decide)]
  all_goals exact absurd starter (by decide)

theorem judge_first {c : Char} {next : State} (visible : Text.isBlank c = false)
    (h : onFirst c = .advance next) (text : List Char) :
    start.judge (c :: text) = next.judge text := by
  rw [judge, onChar, visible, if_neg Bool.false_ne_true, h]

/-- If every character of a class leads on from one of the states to the next, a run of such
characters is read as a whole. -/
theorem judge_run {inside : Char → Bool} (reached : List Char → State)
    (step : ∀ read c, inside c = true →
      (reached read).onChar c = .advance (reached (read ++ [c])))
    {run : List Char} (all : ∀ c ∈ run, inside c = true) (read text : List Char) :
    (reached read).judge (run ++ text) = (reached (read ++ run)).judge text := by
  induction run generalizing read with
  | nil => rw [List.nil_append, List.append_nil]
  | cons c run ih =>
    rw [List.forall_mem_cons] at all
    rw [List.cons_append, judge, step read c all.1]
    simp only
    rw [ih all.2, List.append_assoc, List.singleton_append]

theorem judge_integer {digits : List Char} (all : ∀ c ∈ digits, c.isDigit = true)
    (read text : List Char) :
    (integer (valueOf read)).judge (digits ++ text) =
      (integer (valueOf (read ++ digits))).judge text := by
  apply judge_run (fun read => integer (valueOf read)) _ all
  intro read c digit
  rw [onChar, if_pos digit, valueOf_snoc]

theorem judge_fraction (whole : List Char) {digits : List Char}
    (all : ∀ c ∈ digits, c.isDigit = true) (text : List Char) :
    (fraction (valueOf whole) 0).judge (digits ++ text) =
      (fraction (valueOf (whole ++ digits)) digits.length).judge text := by
  have run := judge_run (fun read => fraction (valueOf (whole ++ read)) read.length) ?_ all []
    text
  · rwa [List.append_nil, List.nil_append] at run
  · intro read c digit
    rw [onChar, if_pos digit, ← List.append_assoc, valueOf_snoc, List.length_append,
      List.length_singleton]

theorem judge_name {more : List Char} (all : ∀ c ∈ more, continuesName c = true)
    (read text : List Char) :
    (name (String.ofList read)).judge (more ++ text) =
      (name (String.ofList (read ++ more))).judge text := by
  apply judge_run (fun read => name (String.ofList read)) _ all
  intro read c continued
  rw [onChar, if_pos continued, push_ofList]

theorem judge_underscored (text : List Char) :
    ∃ left, underscored.judge text = some (.malformed .leadingUnderscore, left) := by
  induction text with
  | nil => exact ⟨[], rfl⟩
  | cons c text ih =>
    rw [judge, onChar]
    by_cases continued : continuesName c = true
    · rw [if_pos continued]
      exact ih
    · rw [if_neg continued]
      exact ⟨text, rfl⟩

theorem judge_digits {digits : List Char} (read : IsDigits digits) (text : List Char) :
    start.judge (digits ++ text) = (integer (valueOf digits)).judge text := by
  obtain ⟨nonempty, all⟩ := read
  cases digits with
  | nil => exact absurd rfl nonempty
  | cons first digits =>
    rw [List.forall_mem_cons] at all
    rw [List.cons_append, judge_first (Text.isBlank_of_isDigit all.1) (onFirst_of_isDigit all.1),
      ← valueOf_singleton, judge_integer all.2, List.singleton_append]

theorem judge_point {digits : List Char} (read : IsDigits digits) (text : List Char) :
    start.judge (digits ++ '.' :: text) = (fraction (valueOf digits) 0).judge text := by
  rw [judge_digits read, judge, onChar, if_neg (by decide), if_pos rfl]

theorem judge_of_integer_ended {digits rest : List Char} (read : IsDigits digits)
    (ended : EndsBefore rest.head? fun c => c.isDigit || c == '.') :
    start.judge (digits ++ rest) = some (.integer (valueOf digits), rest) := by
  rw [judge_digits read]
  apply judge_of_ended rfl
  intro c head
  have other := ended c head
  rw [Bool.or_eq_false_iff] at other
  rw [onChar, if_neg (by rw [other.1]; decide), if_neg (by simpa using other.2)]

end State

/-- The machine gives the token of the lexeme that a text begins with. -/
theorem judge_lexeme {lexeme rest : List Char} {kind : TokenKind} {value : TokenValue}
    (h : Lexeme lexeme rest.head? kind value) :
    State.start.judge (lexeme ++ rest) = some (.token kind value, rest) := by
  cases h with
  | fixed listed =>
    simp only [fixedLexemes, List.mem_cons, Prod.mk.injEq, List.not_mem_nil, or_false] at listed
    rcases listed with ⟨rfl, rfl⟩ | ⟨rfl, rfl⟩ | ⟨rfl, rfl⟩ | ⟨rfl, rfl⟩ | ⟨rfl, rfl⟩ |
      ⟨rfl, rfl⟩ | ⟨rfl, rfl⟩ | ⟨rfl, rfl⟩ | ⟨rfl, rfl⟩ | ⟨rfl, rfl⟩ | ⟨rfl, rfl⟩ | ⟨rfl, rfl⟩ |
      ⟨rfl, rfl⟩ | ⟨rfl, rfl⟩ <;> rfl
  | less ended =>
    rw [List.singleton_append, State.judge_first rfl rfl]
    apply State.judge_of_ended rfl
    intro c head
    have other := ended c head
    rw [Bool.or_eq_false_iff] at other
    rw [State.onChar, if_neg (by simpa using other.1), if_neg (by simpa using other.2)]
    rfl
  | greater ended =>
    rw [List.singleton_append, State.judge_first rfl rfl]
    apply State.judge_of_ended rfl
    intro c head
    have other := ended c head
    rw [State.onChar, if_neg (by simpa using other)]
    rfl
  | integer read fits ended =>
    rw [State.judge_of_integer_ended read ended, Verdict.integer, if_pos fits]
  | @decimal whole fraction _ before after ended =>
    have some : ¬ fraction.length = 0 := fun none => after.1 (List.eq_nil_of_length_eq_zero none)
    rw [List.append_assoc, List.cons_append, State.judge_point before,
      State.judge_fraction whole after.2]
    apply State.judge_of_ended
    · rw [State.onEnd, if_neg some]
      rfl
    · intro c head
      rw [State.onChar, if_neg (by rw [ended c head]; decide), if_neg some]
      rfl
  | @name first more _ begun continued ended =>
    rw [List.cons_append, State.judge_first (Text.isBlank_of_isLetter begun)
      (State.onFirst_of_isLetter begun), String.singleton_eq_ofList, State.judge_name continued,
      List.singleton_append]
    apply State.judge_of_ended rfl
    intro c head
    rw [State.onChar, if_neg (by rw [ended c head]; decide)]
    rfl

/-- The machine says what is wrong with the malformed characters that a text begins with. -/
theorem judge_malformed {opening rest : List Char} {malformation : Malformation}
    (h : Malformed opening rest.head? malformation) :
    ∃ left, State.start.judge (opening ++ rest) = some (.malformed malformation, left) := by
  cases h with
  | unexpected visible starter digit name =>
    refine ⟨rest, ?_⟩
    rw [List.singleton_append, State.judge, State.onChar, visible, if_neg Bool.false_ne_true,
      State.onFirst_of_unexpected starter digit name]
  | colon alone =>
    rw [List.singleton_append, State.judge_first rfl rfl]
    cases rest with
    | nil => exact ⟨[], rfl⟩
    | cons c rest =>
      have other := alone c rfl
      rw [Bool.or_eq_false_iff] at other
      refine ⟨rest, ?_⟩
      rw [State.judge, State.onChar, if_neg (by simpa using other.1),
        if_neg (by simpa using other.2)]
      rfl
  | underscore =>
    rw [List.singleton_append, State.judge_first rfl rfl]
    exact State.judge_underscored rest
  | point read ended =>
    rw [List.append_assoc, List.singleton_append, State.judge_point read]
    cases rest with
    | nil => exact ⟨[], rfl⟩
    | cons c rest =>
      refine ⟨rest, ?_⟩
      rw [State.judge, State.onChar, if_neg (by rw [ended c rfl]; decide), if_pos rfl]
  | great read exceeds ended =>
    refine ⟨rest, ?_⟩
    rw [State.judge_of_integer_ended read ended, Verdict.integer,
      if_neg (Nat.not_le_of_lt exceeds)]

end TokenListing.Lexer
