import TokenListing.Proofs.Text.Utf8Resuming

/-! # Unfinished sequences

Bytes may end within a sequence: its lead byte is there and some of the bytes that it announces are
not. Such an end begins with a lead byte, so it is the same wherever one starts to look for it, and
what stands before it is read without it, sequence by sequence.
-/
namespace TokenListing.Text.Utf8

theorem exists_segment (lead : UInt8) (bytes : List UInt8) :
    ∃ segment, bytes = segment ++ (decodeFirst lead bytes).2 ∧
      decode (lead :: segment) = [(decodeFirst lead bytes).1] := by
  cases announced : width lead with
  | none =>
    refine ⟨[], ?_, ?_⟩
    · simp [decodeFirst, announced]
    · simp [decode, decodeFirst, announced]
  | some count =>
    obtain ⟨tail, rest, rfl, continued, few, ended⟩ := exists_continuation (count - 1) bytes
    have taken := continuation_append continued few ended
    have alone : continuation (count - 1) (tail ++ []) = (tail, []) :=
      continuation_append continued few fun _ => resumes_nil
    rw [List.append_nil] at alone
    refine ⟨tail, ?_, ?_⟩
    · simp [decodeFirst, announced, taken]
    · simp [decode, decodeFirst, announced, taken, alone]

theorem exists_segments (bytes : List UInt8) :
    ∃ segments : List (List UInt8), segments.flatten = bytes ∧
      segments.map decode = (decode bytes).map fun c => [c] := by
  fun_induction decode bytes with
  | case1 => exact ⟨[], rfl, rfl⟩
  | case2 lead rest ih =>
    obtain ⟨segment, split, first⟩ := exists_segment lead rest
    obtain ⟨segments, whole, others⟩ := ih
    refine ⟨(lead :: segment) :: segments, ?_, ?_⟩
    · rw [List.flatten_cons, whole, List.cons_append, ← split]
    · rw [List.map_cons, first, others, List.map_cons]

/-- A lead byte with fewer continuation bytes after it than it announces. -/
inductive Unfinished : List UInt8 → Prop where
  | lacks {lead : UInt8} {tail : List UInt8} {count : Nat} (announced : width lead = some count)
      (lacking : tail.length + 1 < count)
      (continued : ∀ byte ∈ tail, isContinuation byte = true) : Unfinished (lead :: tail)

def isUnfinished : List UInt8 → Bool
  | [] => false
  | lead :: tail => (width lead).any (tail.length + 1 < ·) && tail.all isContinuation

theorem isUnfinished_iff (bytes : List UInt8) : isUnfinished bytes = true ↔ Unfinished bytes := by
  constructor
  · intro h
    cases bytes with
    | nil => cases h
    | cons lead tail =>
      simp only [isUnfinished, Bool.and_eq_true, Option.any_eq_true, decide_eq_true_eq,
        List.all_eq_true] at h
      obtain ⟨⟨count, announced, lacking⟩, continued⟩ := h
      exact .lacks announced lacking continued
  · rintro ⟨announced, lacking, continued⟩
    simpa [isUnfinished, announced, lacking] using continued

instance (bytes : List UInt8) : Decidable (Unfinished bytes) :=
  decidable_of_iff _ (isUnfinished_iff bytes)

theorem not_unfinished_nil : ¬ Unfinished [] := nofun

theorem Unfinished.lead {bytes : List UInt8} (h : Unfinished bytes) :
    ∃ lead tail, bytes = lead :: tail ∧ 0xC2 ≤ lead.toNat ∧ lead.toNat ≤ 0xF4 ∧
      tail.length ≤ 2 := by
  obtain ⟨announced, lacking, -⟩ := h
  have widths := (width_eq_some_iff _ _).mp announced
  exact ⟨_, _, rfl, by omega, by omega, by omega⟩

theorem Unfinished.resumes {bytes : List UInt8} (h : Unfinished bytes) : Resumes bytes := by
  obtain ⟨announced, -, -⟩ := h
  rw [resumes_cons]
  exact isContinuation_of_width announced

theorem Unfinished.not_append {front last : List UInt8} (h : Unfinished last)
    (some : front ≠ []) : ¬ Unfinished (front ++ last) := by
  intro whole
  obtain ⟨lead, front, rfl⟩ := List.exists_cons_of_ne_nil some
  obtain ⟨-, -, continued⟩ := whole
  have begins := h.resumes
  obtain ⟨lead', tail, rfl, -⟩ := h.lead
  have continues := continued lead' (by simp)
  rw [resumes_cons.mp begins] at continues
  cases continues

def unfinished : List UInt8 → List UInt8
  | [] => []
  | byte :: rest => if Unfinished (byte :: rest) then byte :: rest else unfinished rest

def finished : List UInt8 → List UInt8
  | [] => []
  | byte :: rest => if Unfinished (byte :: rest) then [] else byte :: finished rest

/-- What bytes consist of if they end in an unfinished sequence, and if they do not. -/
structure Parts (bytes kept lost : List UInt8) : Prop where
  whole : bytes = kept ++ lost
  last : Unfinished lost ∨
    lost = [] ∧ ∀ front back, bytes = front ++ back → ¬ Unfinished back

theorem finished_append_unfinished (bytes : List UInt8) :
    finished bytes ++ unfinished bytes = bytes := by
  induction bytes with
  | nil => rfl
  | cons byte rest ih =>
    by_cases lacks : Unfinished (byte :: rest)
    · simp [finished, unfinished, lacks]
    · simp [finished, unfinished, lacks, ih]

theorem unfinished_append (front : List UInt8) {last : List UInt8} (h : Unfinished last) :
    unfinished (front ++ last) = last := by
  induction front with
  | nil =>
    obtain ⟨lead, tail, rfl, -⟩ := h.lead
    simp [unfinished, h]
  | cons byte front ih =>
    have other : ¬ Unfinished (byte :: (front ++ last)) :=
      h.not_append (List.cons_ne_nil byte front)
    rw [List.cons_append, unfinished, if_neg other, ih]

theorem unfinished_eq_nil_or (bytes : List UInt8) :
    unfinished bytes = [] ∨ Unfinished (unfinished bytes) := by
  induction bytes with
  | nil => exact .inl rfl
  | cons byte rest ih =>
    by_cases lacks : Unfinished (byte :: rest)
    · simp [unfinished, lacks]
    · simpa [unfinished, lacks] using ih

theorem parts_finished (bytes : List UInt8) : Parts bytes (finished bytes) (unfinished bytes) where
  whole := (finished_append_unfinished bytes).symm
  last := by
    rcases unfinished_eq_nil_or bytes with none | lacks
    · refine .inr ⟨none, ?_⟩
      rintro front back rfl lacks
      rw [unfinished_append front lacks] at none
      exact not_unfinished_nil (none ▸ lacks)
    · exact .inl lacks

theorem Parts.resumes {bytes kept lost : List UInt8} (h : Parts bytes kept lost) :
    Resumes lost := by
  rcases h.last with lacks | ⟨rfl, -⟩
  · exact lacks.resumes
  · exact resumes_nil

/-- The sequence that is read first is finished, and what comes after it has the same end. -/
theorem Parts.next {lead : UInt8} {kept lost bytes : List UInt8}
    (h : Parts bytes (lead :: kept) lost) :
    ¬ Unfinished (lead :: (kept ++ lost)) ∧
      Parts ((decodeFirst lead kept).2 ++ lost) (decodeFirst lead kept).2 lost := by
  obtain ⟨rfl, last⟩ := h
  rcases last with lacks | ⟨rfl, never⟩
  · exact ⟨lacks.not_append (List.cons_ne_nil lead kept), rfl, .inl lacks⟩
  · refine ⟨never [] _ rfl, rfl, .inr ⟨rfl, ?_⟩⟩
    intro front back split
    obtain ⟨segment, taken, -⟩ := exists_segment lead kept
    refine never (lead :: segment ++ front) back ?_
    rw [List.append_nil] at split
    rw [List.append_assoc, ← split, List.append_nil, List.cons_append, ← taken]

end TokenListing.Text.Utf8
