import TokenListing.Proofs.Grammar.Lexemes

/-! # Verdicts of the machine on a text

Before the machine is run on a source it is run on a text. The first characters of a token lead to
one state, which says what they amount to. A verdict that a step or the end of the text gives in
that state is right by the grammar, and from every such state a verdict comes. So every text with
a visible character first begins with a token or with a malformed one.
-/
namespace TokenListing.Lexer
open Grammar

/-- The verdict of the machine on a text, and the rest of the text that it leaves. There is none
if all of the text is blank. -/
def State.judge : State → List Char → Option (Verdict × List Char)
  | state, [] => state.onEnd.map fun verdict => (verdict, [])
  | state, c :: text =>
    match state.onChar c with
    | .advance next => next.judge text
    | .settle verdict => some (verdict, text)
    | .settleBefore verdict => some (verdict, c :: text)

/-- A verdict on the first characters of a text is right. A token is all that the machine took of
the text; of malformed characters it may have taken more or less. -/
inductive Judged : List Char → Verdict → List Char → Prop where
  | token {lexeme rest : List Char} {kind : TokenKind} {value : TokenValue}
      (read : Lexeme lexeme rest.head? kind value) :
      Judged (lexeme ++ rest) (.token kind value) rest
  | malformed {opening tail rest : List Char} {malformation : Malformation}
      (read : Malformed opening tail.head? malformation) :
      Judged (opening ++ tail) (.malformed malformation) rest

/-- The first characters of a token lead to a state. -/
inductive Amounts : List Char → State → Prop where
  | colon : Amounts [':'] .colon
  | less : Amounts ['<'] .less
  | greater : Amounts ['>'] .greater
  | integer {digits : List Char} (read : IsDigits digits) :
      Amounts digits (.integer (valueOf digits))
  | fraction {whole fraction : List Char} (before : IsDigits whole)
      (after : ∀ c ∈ fraction, c.isDigit = true) :
      Amounts (whole ++ '.' :: fraction) (.fraction (valueOf (whole ++ fraction)) fraction.length)
  | name {first : Char} {rest : List Char} (begun : Text.isLetter first = true)
      (more : ∀ c ∈ rest, continuesName c = true) :
      Amounts (first :: rest) (.name (String.ofList (first :: rest)))
  | underscored {rest : List Char} (more : ∀ c ∈ rest, continuesName c = true) :
      Amounts ('_' :: rest) .underscored

theorem Amounts.ne_start {read : List Char} {state : State} (h : Amounts read state) :
    state ≠ .start := by
  cases h <;> exact State.noConfusion

theorem push_ofList (text : List Char) (c : Char) :
    (String.ofList text).push c = String.ofList (text ++ [c]) := by
  rw [String.ofList_append, ← String.singleton_eq_ofList, String.append_singleton]

/-- A step on the character after `read` is right, whatever text follows it. -/
def Step.Holds (read : List Char) (c : Char) : Step → Prop
  | .advance next => Amounts (read ++ [c]) next
  | .settle verdict => ∀ text, Judged (read ++ c :: text) verdict text
  | .settleBefore verdict => ∀ text, Judged (read ++ c :: text) verdict (c :: text)

theorem judged_fixed (spelling : List Char) {kind : TokenKind} {rest : List Char}
    (listed : (spelling, kind) ∈ fixedLexemes) :
    Judged (spelling ++ rest) (.spelled kind (String.ofList spelling)) rest :=
  .token (.fixed listed)

theorem judged_integer {digits rest : List Char} (read : IsDigits digits)
    (ended : EndsBefore rest.head? fun c => c.isDigit || c == '.') :
    Judged (digits ++ rest) (.integer (valueOf digits)) rest := by
  unfold Verdict.integer
  by_cases fits : valueOf digits ≤ Verdict.greatestInteger
  · rw [if_pos fits]
    exact .token (.integer read fits ended)
  · rw [if_neg fits]
    exact .malformed (.great read (Nat.lt_of_not_le fits) ended)

theorem judged_fraction {whole fraction rest : List Char} (before : IsDigits whole)
    (after : IsDigits fraction) (ended : EndsBefore rest.head? Char.isDigit) :
    Judged ((whole ++ '.' :: fraction) ++ rest)
      (.fraction (valueOf (whole ++ fraction)) fraction.length) rest :=
  .token (.decimal before after ended)

theorem judged_name {first : Char} {more rest : List Char} (begun : Text.isLetter first = true)
    (continued : ∀ c ∈ more, continuesName c = true) (ended : EndsBefore rest.head? continuesName) :
    Judged (first :: more ++ rest) (.name (String.ofList (first :: more))) rest :=
  .token (.name begun continued ended)

theorem onFirst_holds {c : Char} (visible : Text.isBlank c = false) :
    (State.onFirst c).Holds [] c := by
  unfold State.onFirst
  split
  · exact fun text => judged_fixed [';'] (by decide)
  · exact fun text => judged_fixed ['('] (by decide)
  · exact fun text => judged_fixed [')'] (by decide)
  · exact fun text => judged_fixed [','] (by decide)
  · exact fun text => judged_fixed ['+'] (by decide)
  · exact fun text => judged_fixed ['-'] (by decide)
  · exact fun text => judged_fixed ['*'] (by decide)
  · exact fun text => judged_fixed ['/'] (by decide)
  · exact fun text => judged_fixed ['='] (by decide)
  · exact .colon
  · exact .less
  · exact .greater
  · by_cases digit : c.isDigit = true
    · rw [if_pos digit, ← valueOf_singleton]
      exact Amounts.integer (isDigits_singleton digit)
    rw [if_neg digit]
    by_cases underscore : c = '_'
    · rw [if_pos underscore, underscore]
      exact Amounts.underscored (by simp)
    rw [if_neg underscore]
    by_cases name : beginsName c = true
    · rw [if_pos name, String.singleton_eq_ofList]
      have letter : Text.isLetter c = true := by simpa [beginsName, underscore] using name
      exact Amounts.name letter (by simp)
    · rw [if_neg name]
      have other : c ∉ [';', '(', ')', ',', '+', '-', '*', '/', '=', ':', '<', '>'] := by
        simp only [List.mem_cons, List.not_mem_nil, or_false, not_or]
        and_intros <;> assumption
      intro text
      show Judged ([c] ++ text) (.malformed (.unexpectedChar c)) text
      exact .malformed (.unexpected visible other (by simpa using digit) (by simpa using name))

theorem onChar_holds {read : List Char} {state : State} (h : Amounts read state) (c : Char) :
    (state.onChar c).Holds read c := by
  cases h with
  | colon =>
    rw [State.onChar]
    by_cases assign : c = '='
    · rw [if_pos assign, assign]
      exact fun text => judged_fixed [':', '='] (by decide)
    rw [if_neg assign]
    by_cases typed : c = ':'
    · rw [if_pos typed, typed]
      exact fun text => judged_fixed [':', ':'] (by decide)
    · rw [if_neg typed]
      intro text
      show Judged ([':'] ++ c :: text) (.malformed (.malformedColon (c :: text).head?)) text
      exact .malformed (.colon (endsBefore_some (by simp [assign, typed])))
  | less =>
    rw [State.onChar]
    by_cases equal : c = '='
    · rw [if_pos equal, equal]
      exact fun text => judged_fixed ['<', '='] (by decide)
    rw [if_neg equal]
    by_cases great : c = '>'
    · rw [if_pos great, great]
      exact fun text => judged_fixed ['<', '>'] (by decide)
    · rw [if_neg great]
      intro text
      exact .token (.less (endsBefore_some (by simp [equal, great])))
  | greater =>
    rw [State.onChar]
    by_cases equal : c = '='
    · rw [if_pos equal, equal]
      exact fun text => judged_fixed ['>', '='] (by decide)
    · rw [if_neg equal]
      intro text
      exact .token (.greater (endsBefore_some (by simp [equal])))
  | integer digits =>
    rw [State.onChar]
    by_cases digit : c.isDigit = true
    · rw [if_pos digit, ← valueOf_snoc]
      exact Amounts.integer (digits.snoc digit)
    rw [if_neg digit]
    by_cases point : c = '.'
    · have begun : Amounts (read ++ ['.']) (.fraction (valueOf (read ++ [])) 0) :=
        .fraction digits (by simp)
      rw [List.append_nil] at begun
      rw [if_pos point, point]
      exact begun
    · rw [if_neg point]
      exact fun text => judged_integer digits (endsBefore_some (by simp [digit, point]))
  | @fraction whole fraction before after =>
    rw [State.onChar]
    by_cases digit : c.isDigit = true
    · have longer := Amounts.fraction before (forall_mem_snoc after digit)
      rw [← List.append_assoc, valueOf_snoc, List.length_append] at longer
      rw [if_pos digit]
      show Amounts (whole ++ '.' :: fraction ++ [c]) _
      rw [List.append_assoc]
      exact longer
    rw [if_neg digit]
    by_cases bare : fraction.length = 0
    · rw [if_pos bare, List.eq_nil_of_length_eq_zero bare]
      exact fun text => .malformed (.point before (endsBefore_some (by simpa using digit)))
    · rw [if_neg bare]
      have after : IsDigits fraction := ⟨fun none => bare (by rw [none]; rfl), after⟩
      exact fun text => judged_fraction before after (endsBefore_some (by simpa using digit))
  | @name first rest begun more =>
    rw [State.onChar]
    by_cases continued : continuesName c = true
    · rw [if_pos continued, push_ofList]
      exact Amounts.name begun (forall_mem_snoc more continued)
    · rw [if_neg continued]
      exact fun text => judged_name begun more (endsBefore_some (by simpa using continued))
  | underscored more =>
    rw [State.onChar]
    by_cases continued : continuesName c = true
    · rw [if_pos continued]
      exact Amounts.underscored (forall_mem_snoc more continued)
    · rw [if_neg continued]
      intro text
      show Judged (['_'] ++ (_ ++ c :: text)) (.malformed .leadingUnderscore) text
      exact .malformed .underscore

theorem onEnd_holds {read : List Char} {state : State} (h : Amounts read state) :
    ∃ verdict, state.onEnd = some verdict ∧ Judged (read ++ []) verdict [] := by
  cases h with
  | colon => exact ⟨_, rfl, .malformed (.colon endsBefore_none)⟩
  | less => exact ⟨_, rfl, .token (.less endsBefore_none)⟩
  | greater => exact ⟨_, rfl, .token (.greater endsBefore_none)⟩
  | integer digits => exact ⟨_, rfl, judged_integer digits endsBefore_none⟩
  | @fraction whole fraction before after =>
    refine ⟨_, rfl, ?_⟩
    by_cases bare : fraction.length = 0
    · rw [if_pos bare, List.eq_nil_of_length_eq_zero bare]
      exact .malformed (.point before endsBefore_none)
    · rw [if_neg bare]
      have after : IsDigits fraction := ⟨fun none => bare (by rw [none]; rfl), after⟩
      exact judged_fraction before after endsBefore_none
  | name begun more => exact ⟨_, rfl, judged_name begun more endsBefore_none⟩
  | @underscored rest more =>
    refine ⟨_, rfl, ?_⟩
    show Judged (['_'] ++ (rest ++ [])) (.malformed .leadingUnderscore) []
    exact .malformed .underscore

/-- A right step leads to a right verdict if those after a further character are right. -/
theorem judged_of_step {read : List Char} {state : State} {c : Char} {text : List Char}
    (step : (state.onChar c).Holds read c)
    (later : ∀ next, Amounts (read ++ [c]) next → ∃ verdict rest,
      next.judge text = some (verdict, rest) ∧ Judged (read ++ [c] ++ text) verdict rest) :
    ∃ verdict rest, state.judge (c :: text) = some (verdict, rest) ∧
      Judged (read ++ c :: text) verdict rest := by
  rw [State.judge]
  cases hstep : state.onChar c with
  | advance next =>
    rw [hstep] at step
    obtain ⟨verdict, rest, found, right⟩ := later next step
    rw [List.append_assoc] at right
    exact ⟨verdict, rest, found, right⟩
  | settle verdict =>
    rw [hstep] at step
    exact ⟨verdict, text, rfl, step text⟩
  | settleBefore verdict =>
    rw [hstep] at step
    exact ⟨verdict, c :: text, rfl, step text⟩

theorem Amounts.judged {read : List Char} {state : State} (h : Amounts read state)
    (text : List Char) :
    ∃ verdict rest, state.judge text = some (verdict, rest) ∧
      Judged (read ++ text) verdict rest := by
  induction text generalizing read state with
  | nil =>
    obtain ⟨verdict, found, right⟩ := onEnd_holds h
    exact ⟨verdict, [], by rw [State.judge, found]; rfl, right⟩
  | cons c text ih => exact judged_of_step (onChar_holds h c) fun next amounts => ih amounts

/-- Before a visible character the machine comes to a right verdict. -/
theorem judged_of_visible {c : Char} (visible : Text.isBlank c = false) (text : List Char) :
    ∃ verdict rest, State.start.judge (c :: text) = some (verdict, rest) ∧
      Judged (c :: text) verdict rest := by
  have step : (State.start.onChar c).Holds [] c := by
    rw [State.onChar, visible]
    exact onFirst_holds visible
  exact judged_of_step step fun next amounts => amounts.judged text

end TokenListing.Lexer
