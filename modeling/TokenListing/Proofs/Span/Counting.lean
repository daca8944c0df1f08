import Mathlib.Data.List.Induction
import TokenListing.Span

/-! # Positions count newlines and characters

A position counts in machine words. Over a text that fits them it is the plain count: the newlines
of the text and the characters after the last of them. A text fits exactly if no counter is ever
asked to go beyond its greatest number, and over a text that fits every character moves the
position on in the order of positions.
-/
namespace TokenListing.Span

def sinceNewline (text : List Char) : Nat :=
  (text.reverse.takeWhile fun c => c != '\n').length

/-- The position counts the characters of a text. -/
def Counts (span : Span) (text : List Char) : Prop :=
  span.line.toNat = 1 + text.count '\n' ∧ span.column.toNat = sinceNewline text

/-- The counters are wide enough for a text: for its newlines, and for the characters of each of
its lines. -/
structure Fits (text : List Char) : Prop where
  newlines : text.count '\n' < UInt32.size - 1
  lines : ∀ run, run <:+: text → '\n' ∉ run → run.length < UInt32.size

theorem after_append (span : Span) (front back : List Char) :
    span.after (front ++ back) = (span.after front).after back :=
  List.foldl_append

/-- The position of the next character, unless a counter is at its greatest number. -/
def advance? (span : Span) (c : Char) : Option Span :=
  if c = '\n' then
    if span.line.toNat + 1 < UInt32.size then some ⟨span.line + 1, 0⟩ else none
  else
    if span.column.toNat + 1 < UInt32.size then some ⟨span.line, span.column + 1⟩ else none

def after? (span : Span) : List Char → Option Span
  | [] => some span
  | c :: text => (span.advance? c).bind fun next => next.after? text

theorem after?_append (span : Span) (front back : List Char) :
    span.after? (front ++ back) = (span.after? front).bind fun next => next.after? back := by
  induction front generalizing span with
  | nil => rfl
  | cons c front ih =>
    rw [List.cons_append, after?, after?, Option.bind_assoc]
    exact congrArg (span.advance? c).bind (funext ih)

theorem eq_advance_of_advance? {span next : Span} {c : Char} (h : span.advance? c = some next) :
    next = span.advance c := by
  unfold advance? at h
  unfold advance
  by_cases newline : c = '\n'
  · rw [if_pos newline] at h ⊢
    exact (Option.some.inj (Option.ite_none_right_eq_some.mp h).2).symm
  · rw [if_neg newline] at h ⊢
    exact (Option.some.inj (Option.ite_none_right_eq_some.mp h).2).symm

theorem eq_after_of_after? {span next : Span} {text : List Char}
    (h : span.after? text = some next) : next = span.after text := by
  induction text generalizing span with
  | nil => exact (Option.some.inj h).symm
  | cons c text ih =>
    rw [after?, Option.bind_eq_some_iff] at h
    obtain ⟨moved, step, rest⟩ := h
    rw [ih rest, eq_advance_of_advance? step]
    rfl

theorem toNat_add_one {word : UInt32} (h : word.toNat + 1 < UInt32.size) :
    (word + 1).toNat = word.toNat + 1 := by
  rw [UInt32.toNat_add]
  exact Nat.mod_eq_of_lt h

theorem sinceNewline_snoc (text : List Char) (c : Char) :
    sinceNewline (text ++ [c]) = if c = '\n' then 0 else sinceNewline text + 1 := by
  unfold sinceNewline
  rw [List.reverse_append, List.reverse_singleton, List.singleton_append, List.takeWhile_cons]
  by_cases newline : c = '\n'
  · simp [newline]
  · simp [newline]

theorem sinceNewline_append_of_single (front : List Char) {back : List Char}
    (single : '\n' ∉ back) : sinceNewline (front ++ back) = sinceNewline front + back.length := by
  have inside : ∀ c ∈ back.reverse, (c != '\n') = true := by
    intro c mem
    have other : c ≠ '\n' := fun same => single (same ▸ List.mem_reverse.mp mem)
    simpa using other
  unfold sinceNewline
  rw [List.reverse_append, List.takeWhile_append_of_pos inside, List.length_append,
    List.length_reverse, Nat.add_comm]

theorem count_snoc (text : List Char) (c : Char) :
    (text ++ [c]).count '\n' = text.count '\n' + if c = '\n' then 1 else 0 := by
  rw [List.count_append, List.count_singleton]
  simp

theorem exists_suffix_sinceNewline (text : List Char) :
    ∃ run, run <:+ text ∧ '\n' ∉ run ∧ run.length = sinceNewline text := by
  refine ⟨(text.reverse.takeWhile fun c => c != '\n').reverse, ?_, ?_, List.length_reverse⟩
  · have front := List.takeWhile_prefix (fun c => c != '\n') (l := text.reverse)
    have back := List.reverse_suffix.mpr front
    rwa [List.reverse_reverse] at back
  · intro mem
    have other := List.all_eq_true.mp List.all_takeWhile '\n' (List.mem_reverse.mp mem)
    exact absurd other (by decide)

theorem length_le_sinceNewline {text run : List Char} (suffix : run <:+ text)
    (single : '\n' ∉ run) : run.length ≤ sinceNewline text := by
  obtain ⟨front, rfl⟩ := suffix
  rw [sinceNewline_append_of_single front single]
  exact Nat.le_add_left _ _

theorem fits_of_length {text : List Char} (h : text.length < UInt32.size - 1) : Fits text where
  newlines := Nat.lt_of_le_of_lt List.count_le_length h
  lines _ inside _ := Nat.lt_of_le_of_lt inside.length_le (Nat.lt_of_lt_pred h)

theorem fits_snoc_iff (text : List Char) (c : Char) :
    Fits (text ++ [c]) ↔ Fits text ∧
      if c = '\n' then 1 + text.count '\n' + 1 < UInt32.size
      else sinceNewline text + 1 < UInt32.size := by
  have size : UInt32.size = 4294967296 := rfl
  constructor
  · intro fits
    have newlines := fits.newlines
    rw [count_snoc] at newlines
    refine ⟨⟨by omega, fun run part => fits.lines run (part.trans ?_)⟩, ?_⟩
    · exact (List.prefix_append text [c]).isInfix
    · by_cases newline : c = '\n'
      · rw [if_pos newline] at newlines ⊢
        omega
      · obtain ⟨run, ⟨front, whole⟩, single, length⟩ := exists_suffix_sinceNewline text
        have longer : run ++ [c] <:+: text ++ [c] :=
          List.IsSuffix.isInfix ⟨front, by rw [← whole, List.append_assoc]⟩
        have still : '\n' ∉ run ++ [c] := by
          simpa [single] using fun same => newline same.symm
        have bound := fits.lines _ longer still
        rw [List.length_append, List.length_singleton, length] at bound
        rw [if_neg newline]
        exact bound
  · rintro ⟨fits, room⟩
    have newlines := fits.newlines
    refine ⟨?_, ?_⟩
    · rw [count_snoc]
      by_cases newline : c = '\n'
      · rw [if_pos newline] at room ⊢
        omega
      · rw [if_neg newline]
        exact newlines
    · intro run part single
      rcases List.infix_concat_iff.mp part with suffix | inside
      · rcases List.suffix_concat_iff.mp suffix with rfl | ⟨front, rfl, tail⟩
        · exact fits.lines [] List.nil_infix List.not_mem_nil
        · have other : c ≠ '\n' := by
            rintro rfl
            exact single (List.mem_append_right _ List.mem_cons_self)
          have short := length_le_sinceNewline tail
            (fun mem => single (List.mem_append_left _ mem))
          rw [if_neg other] at room
          rw [List.length_append, List.length_singleton]
          omega
      · exact fits.lines run inside single

theorem Fits.of_prefix {front text : List Char} (fits : Fits text) (part : front <+: text) :
    Fits front where
  newlines := Nat.lt_of_le_of_lt (part.sublist.count_le '\n') fits.newlines
  lines run inside := fits.lines run (inside.trans part.isInfix)

theorem advance?_of_counts {span : Span} {text : List Char} (fits : Fits text)
    (counts : span.Counts text) (c : Char) :
    (∃ next, span.advance? c = some next ∧ next.Counts (text ++ [c])) ∧ Fits (text ++ [c]) ∨
      span.advance? c = none ∧ ¬ Fits (text ++ [c]) := by
  obtain ⟨line, column⟩ := counts
  rw [fits_snoc_iff, advance?]
  unfold Counts
  rw [count_snoc, sinceNewline_snoc]
  by_cases newline : c = '\n'
  · rw [if_pos newline, if_pos newline, if_pos newline, if_pos newline, line]
    by_cases room : 1 + text.count '\n' + 1 < UInt32.size
    · left
      rw [if_pos room]
      refine ⟨⟨_, rfl, ?_, rfl⟩, fits, room⟩
      rw [← line] at room
      rw [toNat_add_one room, line, Nat.add_assoc]
    · right
      rw [if_neg room]
      exact ⟨rfl, fun both => room both.2⟩
  · rw [if_neg newline, if_neg newline, if_neg newline, if_neg newline, column]
    by_cases room : sinceNewline text + 1 < UInt32.size
    · left
      rw [if_pos room]
      refine ⟨⟨_, rfl, line, ?_⟩, fits, room⟩
      rw [← column] at room
      rw [toNat_add_one room, column]
    · right
      rw [if_neg room]
      exact ⟨rfl, fun both => room both.2⟩

theorem after?_start (text : List Char) :
    (∃ span, Span.start.after? text = some span ∧ span.Counts text) ∧ Fits text ∨
      Span.start.after? text = none ∧ ¬ Fits text := by
  -- The induction is on the last character, for the column is that of the end of the text.
  induction text using List.reverseRecOn with
  | nil => exact .inl ⟨⟨.start, rfl, rfl, rfl⟩, fits_of_length (by decide)⟩
  | append_singleton text c ih =>
    rw [after?_append]
    rcases ih with ⟨⟨span, found, counts⟩, fits⟩ | ⟨stuck, beyond⟩
    · rw [found, Option.bind_some, after?]
      rcases advance?_of_counts fits counts c with ⟨⟨next, moved, more⟩, still⟩ | ⟨stuck, beyond⟩
      · rw [moved]
        exact .inl ⟨⟨next, rfl, more⟩, still⟩
      · rw [stuck]
        exact .inr ⟨rfl, beyond⟩
    · rw [stuck]
      exact .inr ⟨rfl, fun fits => beyond (fits.of_prefix (List.prefix_append text [c]))⟩

/-- No counter goes beyond its greatest number over a text if and only if the text fits. -/
theorem after?_eq_some_iff (text : List Char) :
    Span.start.after? text = some (Span.start.after text) ↔ Fits text := by
  rcases after?_start text with ⟨⟨span, found, -⟩, fits⟩ | ⟨stuck, beyond⟩
  · rw [← eq_after_of_after? found]
    exact iff_of_true found fits
  · rw [stuck]
    exact iff_of_false (Option.some_ne_none _).symm beyond

theorem Fits.counts_after {text : List Char} (fits : Fits text) :
    (Span.start.after text).Counts text := by
  rcases after?_start text with ⟨⟨span, found, counts⟩, -⟩ | ⟨-, beyond⟩
  · rw [← eq_after_of_after? found]
    exact counts
  · exact absurd fits beyond

theorem order_eq_lt_iff (a b : Span) :
    order a b = .lt ↔ a.line.toNat < b.line.toNat ∨
      a.line.toNat = b.line.toNat ∧ a.column.toNat < b.column.toNat := by
  rw [order, Ordering.then_eq_lt, Std.compare_eq_lt, Std.compare_eq_iff_eq, Std.compare_eq_lt,
    UInt32.lt_iff_toNat_lt, UInt32.lt_iff_toNat_lt, UInt32.toNat_inj]

/-- A further text adds newlines, or it adds its characters to the last line. -/
theorem count_or_sinceNewline (front back : List Char) :
    front.count '\n' < (front ++ back).count '\n' ∨
      (front ++ back).count '\n' = front.count '\n' ∧
        sinceNewline (front ++ back) = sinceNewline front + back.length := by
  rw [List.count_append]
  by_cases newline : '\n' ∈ back
  · exact .inl (Nat.lt_add_of_pos_right (List.count_pos_iff.mpr newline))
  · rw [List.count_eq_zero.mpr newline]
    exact .inr ⟨rfl, sinceNewline_append_of_single front newline⟩

theorem order_of_counts {before after : Span} {front back : List Char}
    (first : before.Counts front) (last : after.Counts (front ++ back)) (more : back ≠ []) :
    order before after = .lt := by
  have length := List.length_pos_iff.mpr more
  rw [order_eq_lt_iff, first.1, first.2, last.1, last.2]
  rcases count_or_sinceNewline front back with crossed | ⟨same, column⟩
  · exact .inl (by omega)
  · exact .inr ⟨by omega, by omega⟩

theorem Counts.of_snoc {span : Span} {text : List Char} {c : Char}
    (counts : span.Counts (text ++ [c])) (other : c ≠ '\n') :
    span.line.toNat = 1 + text.count '\n' ∧ span.column.toNat = 1 + sinceNewline text := by
  obtain ⟨line, column⟩ := counts
  rw [count_snoc, if_neg other] at line
  rw [sinceNewline_snoc, if_neg other, Nat.add_comm] at column
  exact ⟨line, column⟩

theorem Counts.not_after {span : Span} {before front : List Char} {first : Char}
    (counts : span.Counts (before ++ [first])) (other : first ≠ '\n') (part : before <+: front) :
    span.line.toNat < 1 + front.count '\n' ∨
      span.line.toNat = 1 + front.count '\n' ∧ span.column.toNat ≤ 1 + sinceNewline front := by
  obtain ⟨back, rfl⟩ := part
  obtain ⟨line, column⟩ := counts.of_snoc other
  rw [line, column]
  rcases count_or_sinceNewline before back with crossed | ⟨same, longer⟩
  · exact .inl (by omega)
  · exact .inr ⟨by omega, by omega⟩

end TokenListing.Span
