import TokenListing.Lexer

/-! # Progress of a lexer

A call that gives a token lowers what is pending in the source, although it may take back one
character: the token itself has at least one. So a lexer gives finitely many tokens, and the
sequence of all of them can be collected.
-/
namespace TokenListing.Lexer

theorem onFirst_ne_settleBefore (c : Char) (verdict : Verdict) :
    State.onFirst c ≠ .settleBefore verdict := by
  unfold State.onFirst
  split <;> try exact Step.noConfusion
  split
  · exact Step.noConfusion
  · split
    · exact Step.noConfusion
    · split <;> exact Step.noConfusion

theorem onChar_start_ne_settleBefore (c : Char) (verdict : Verdict) :
    State.start.onChar c ≠ .settleBefore verdict := by
  rw [State.onChar]
  split
  · exact Step.noConfusion
  · exact onFirst_ne_settleBefore c verdict

theorem Scans.pending_le {state : State} {start : Span} {source after : Source}
    {asked : List Exchange} {answer : Answer} (h : Scans state start source asked answer after)
    {token : Token} (given : answer = .ok (some token)) :
    after.pending + (if state = .start then 1 else 0) ≤ source.pending := by
  induction h with
  | failed asks => cases given
  | @ended state _ _ _ asks =>
    have kept := Source.pending_next_le asks
    have within : state ≠ .start := by
      rintro rfl
      cases given
    rw [if_neg within]
    exact kept
  | advances asks step later ih =>
    have less := Source.pending_next_some asks
    have scanned := ih given
    split <;> omega
  | settles asks step =>
    have less := Source.pending_next_some asks
    split <;> omega
  | @settlesBefore state _ source after char verdict asks step =>
    have less := Source.pending_next_some asks
    have within : state ≠ .start := by
      rintro rfl
      exact onChar_start_ne_settleBefore char verdict step
    have taken : { after with held := some char }.pending = after.pending + 1 := by
      simp only [Source.pending, Source.held_next asks, Option.toList_some, Option.toList_none,
        List.length_singleton, List.length_nil]
      omega
    rw [if_neg within, taken]
    omega

theorem pending_nextToken {lexer after : Lexer} {token : Token}
    (h : lexer.nextToken = (.ok (some token), after)) :
    after.source.pending < lexer.source.pending := by
  unfold nextToken at h
  split at h
  next source log =>
    simp only [Prod.mk.injEq] at h
    obtain ⟨given, rfl⟩ := h
    obtain ⟨asked, scans, -⟩ := (Scan.ofSource source).scans_run
    rw [given]
    exact scans.pending_le given
  next ending =>
    cases ending <;> simp [Ending.answer] at h

/-- All tokens that a lexer still gives, the error that ends them if there is one, and the
lexer at its end. -/
def collect (lexer : Lexer) : List Token × Option LexError × Lexer :=
  match _hnext : lexer.nextToken with
  | (.ok none, lexer) => ([], none, lexer)
  | (.error error, lexer) => ([], some error, lexer)
  | (.ok (some token), lexer) =>
    let (tokens, error, lexer) := lexer.collect
    (token :: tokens, error, lexer)
termination_by lexer.source.pending
decreasing_by exact pending_nextToken _hnext

end TokenListing.Lexer
