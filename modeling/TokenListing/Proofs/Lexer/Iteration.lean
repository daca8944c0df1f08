import TokenListing.Proofs.Lexer.Scan

/-! # All that a lexer yields

The sequence of a lexer is finite: a token leaves less to come in the source, and an error is the
last item.
-/
namespace TokenListing.Lexer

theorem next_some {lexer after : Lexer} {item : Except LexError Token}
    (h : lexer.next = (some item, after)) :
    lexer.isFinished = false ∧
      (after.isFinished = true ∨ after.source.pending < lexer.source.pending) := by
  unfold next at h
  split at h
  · cases h
  next running =>
    refine ⟨(Bool.not_eq_true _).mp running, ?_⟩
    split at h
    next token left asked =>
      cases token with
      | none => cases h
      | some token =>
        cases h
        exact .inr (pending_nextToken asked)
    next error left asked =>
      cases h
      obtain ⟨source, log, ending⟩ := lexer
      cases ending with
      | some ending => exact absurd rfl running
      | none =>
        simp only [nextToken, Prod.mk.injEq] at asked
        rw [← asked.2, asked.1]
        exact .inl rfl

/-- The items that a lexer yields, and the lexer after the last one. -/
def yields (lexer : Lexer) : List (Except LexError Token) × Lexer :=
  match _hnext : lexer.next with
  | (none, after) => ([], after)
  | (some item, after) => (item :: after.yields.1, after.yields.2)
termination_by ((!lexer.isFinished).toNat, lexer.source.pending)
decreasing_by
  all_goals
    obtain ⟨running, finished | less⟩ := next_some _hnext
    · rw [running, finished]
      exact .left _ _ Nat.zero_lt_one
    · rw [running]
      cases after.isFinished with
      | true => exact .left _ _ Nat.zero_lt_one
      | false => exact .right _ less

theorem yields_of_none {lexer after : Lexer} (h : lexer.next = (none, after)) :
    lexer.yields = ([], after) := by
  rw [yields]
  split
  next h' => cases h.symm.trans h'; rfl
  next h' => cases h.symm.trans h'

theorem yields_of_some {lexer after : Lexer} {item : Except LexError Token}
    (h : lexer.next = (some item, after)) :
    lexer.yields = (item :: after.yields.1, after.yields.2) := by
  rw [yields]
  split
  next h' => cases h.symm.trans h'
  next h' => cases h.symm.trans h'; rfl

theorem yields_of_ending {lexer : Lexer} {ending : Ending} (h : lexer.ending = some ending) :
    lexer.yields = ([], lexer) := by
  apply yields_of_none
  rw [next, isFinished, h]
  rfl

theorem yields_congr {lexer other : Lexer} (h : lexer.next = other.next) :
    lexer.yields = other.yields := by
  match hnext : other.next with
  | (none, after) => rw [yields_of_none hnext, yields_of_none (h.trans hnext)]
  | (some item, after) => rw [yields_of_some hnext, yields_of_some (h.trans hnext)]

theorem collect_of_token {lexer after : Lexer} {token : Token}
    (h : lexer.nextToken = (.ok (some token), after)) :
    lexer.collect = (token :: after.collect.1, after.collect.2) := by
  rw [collect]
  split
  next h' => cases h.symm.trans h'
  next h' => cases h.symm.trans h'
  next h' => cases h.symm.trans h'; rfl

theorem collect_of_end {lexer after : Lexer} (h : lexer.nextToken = (.ok none, after)) :
    lexer.collect = ([], none, after) := by
  rw [collect]
  split
  next h' => cases h.symm.trans h'; rfl
  next h' => cases h.symm.trans h'
  next h' => cases h.symm.trans h'

theorem collect_of_error {lexer after : Lexer} {error : LexError}
    (h : lexer.nextToken = (.error error, after)) :
    lexer.collect = ([], some error, after) := by
  rw [collect]
  split
  next h' => cases h.symm.trans h'
  next h' => cases h.symm.trans h'; rfl
  next h' => cases h.symm.trans h'

end TokenListing.Lexer
