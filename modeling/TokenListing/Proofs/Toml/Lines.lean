import Mathlib.Data.List.Forall2
import TokenListing.Toml.Format

/-! # Documents line by line

A document whose lines are single statements and empty lines is read as these statements in their
order. A header with a bare key is such a line, and so is a definition of a bare key.
-/
namespace TokenListing.Toml

/-- A line that is read as one statement, whatever lines come after it. -/
structure Line (line : List Char) (statement : Statement) : Prop where
  unmarked : line.head? ≠ some '\uFEFF'
  flush (rest : List Char) : skipSpaces (line ++ '\n' :: rest) = line ++ '\n' :: rest
  stated (rest : List Char) : finishLine (line ++ '\n' :: rest) = none
  read (rest : List Char) : readStatement (line ++ '\n' :: rest) = some (statement, rest)

theorem ne_of_class {inside : Char → Bool} {first c : Char} (member : inside first = true)
    (other : inside c = false) : first ≠ c := by
  rintro rfl
  rw [member] at other
  cases other

theorem isSpace_of_bare {c : Char} (bare : isBare c = true) : isSpace c = false := by
  have space : c ≠ ' ' := ne_of_class bare (by decide)
  have tab : c ≠ '\t' := ne_of_class bare (by decide)
  simp [isSpace, space, tab]

theorem IsBareKey.all {key : List Char} (h : IsBareKey key) : ∀ c ∈ key, isBare c = true :=
  List.all_eq_true.mp h.2

theorem IsBareKey.begun {key : List Char} (h : IsBareKey key) :
    ∃ first more, key = first :: more ∧ isBare first = true := by
  cases key with
  | nil => exact absurd rfl h.1
  | cons first more => exact ⟨first, more, rfl, h.all first List.mem_cons_self⟩

theorem skipSpaces_of_bare {first : Char} (bare : isBare first = true) (s : List Char) :
    skipSpaces (first :: s) = first :: s := by
  rw [skipSpaces, List.dropWhile_cons, isSpace_of_bare bare]
  rfl

theorem finishLine_of_bare {first : Char} (bare : isBare first = true) (s : List Char) :
    finishLine (first :: s) = none := by
  unfold finishLine
  rw [skipSpaces_of_bare bare, skipComment]
  · dsimp only
    rw [lineEnd?]
    · rintro rest same
      exact ne_of_class bare (by decide) (List.cons.inj same).1
    · rintro rest same
      exact ne_of_class bare (by decide) (List.cons.inj same).1
  · rintro rest same
    exact ne_of_class bare (by decide) (List.cons.inj same).1

theorem readSimpleKey_bare {key after : List Char} (bare : IsBareKey key)
    (ends : ∀ c, after.head? = some c → isBare c = false) :
    readSimpleKey (key ++ after) = some (String.ofList key, after) := by
  have stopped : after.takeWhile isBare = [] ∧ after.dropWhile isBare = after := by
    cases after with
    | nil => exact ⟨rfl, rfl⟩
    | cons c after => simp [ends c rfl]
  have taken : (key ++ after).takeWhile isBare = key := by
    rw [List.takeWhile_append_of_pos bare.all, stopped.1, List.append_nil]
  have dropped : (key ++ after).dropWhile isBare = after := by
    rw [List.dropWhile_append_of_pos bare.all, stopped.2]
  obtain ⟨first, more, rfl, plain⟩ := bare.begun
  rw [List.cons_append] at taken dropped ⊢
  rw [readSimpleKey, taken, dropped]
  · rfl
  · rintro s same
    exact ne_of_class plain (by decide) (List.cons.inj same).1
  · rintro s same
    exact ne_of_class plain (by decide) (List.cons.inj same).1

theorem readKey_bare {key after : List Char} (bare : IsBareKey key)
    (ends : ∀ c, after.head? = some c → isBare c = false)
    (single : ∀ s, skipSpaces after ≠ '.' :: s) :
    readKey (key ++ after) = some ([String.ofList key], skipSpaces after) := by
  have simple := readSimpleKey_bare bare ends
  obtain ⟨first, more, rfl, plain⟩ := bare.begun
  rw [List.cons_append] at simple ⊢
  rw [readKey, longestKey, readKeyParts, skipSpaces_of_bare plain, simple, Option.bind_eq_bind,
    Option.bind_some]
  dsimp only
  split
  case h_1 s dotted => exact absurd dotted (single s)
  case h_2 => rfl

theorem line_openTable {key : List Char} (bare : IsBareKey key) :
    Line ('[' :: (key ++ [']'])) (.openTable [String.ofList key]) where
  unmarked := by
    intro same
    have other : '[' ≠ '\uFEFF' := by decide
    exact other (Option.some.inj same)
  flush _ := rfl
  stated _ := rfl
  read rest := by
    have named : readKey (key ++ ']' :: '\n' :: rest) =
        some ([String.ofList key], ']' :: '\n' :: rest) :=
      readKey_bare bare (by rintro c ⟨⟩; decide) (by rintro s ⟨⟩)
    have text : '[' :: (key ++ [']']) ++ '\n' :: rest = '[' :: (key ++ ']' :: '\n' :: rest) := by
      simp
    rw [text, readStatement]
    · rw [named]
      rfl
    · intro s same
      obtain ⟨first, more, rfl, plain⟩ := bare.begun
      exact ne_of_class plain (by decide) (List.cons.inj same).1

/-- A value on one line that is read whatever lines come after it. -/
structure ValueOnLine (text : List Char) (value : Value) : Prop where
  flush (rest : List Char) : skipSpaces (text ++ '\n' :: rest) = text ++ '\n' :: rest
  read (rest : List Char) :
    readValue deepestNesting (text ++ '\n' :: rest) = some (value, '\n' :: rest)

theorem line_define {key text : List Char} {value : Value} (bare : IsBareKey key)
    (reads : ValueOnLine text value) :
    Line (key ++ ' ' :: '=' :: ' ' :: text) (.define [String.ofList key] value) := by
  have named (rest : List Char) : readKey (key ++ ' ' :: '=' :: rest) =
      some ([String.ofList key], '=' :: rest) :=
    readKey_bare bare (by rintro c ⟨⟩; decide) (by rintro s ⟨⟩)
  have line (rest : List Char) : key ++ ' ' :: '=' :: ' ' :: text ++ '\n' :: rest =
      key ++ ' ' :: '=' :: ' ' :: (text ++ '\n' :: rest) := by
    simp
  have defined (rest : List Char) :
      readDefinition (readValue deepestNesting) (key ++ ' ' :: '=' :: ' ' :: text ++ '\n' :: rest) =
        some (([String.ofList key], value), '\n' :: rest) := by
    have spaced : skipSpaces (' ' :: (text ++ '\n' :: rest)) = text ++ '\n' :: rest :=
      reads.flush rest
    have marked : exactly ['='] ('=' :: ' ' :: (text ++ '\n' :: rest)) =
      some ((), ' ' :: (text ++ '\n' :: rest)) := rfl
    rw [line, readDefinition, named, Option.bind_eq_bind, Option.bind_some]
    dsimp only
    rw [marked, Option.bind_eq_bind, Option.bind_some]
    dsimp only
    rw [spaced, reads.read]
    rfl
  obtain ⟨first, more, rfl, plain⟩ := bare.begun
  refine ⟨?_, fun rest => skipSpaces_of_bare plain _, fun rest => finishLine_of_bare plain _,
    fun rest => ?_⟩
  · rintro same
    exact ne_of_class plain (by decide) (Option.some.inj same)
  · rw [readStatement]
    · rw [defined, Option.bind_eq_bind, Option.bind_some]
      rfl
    · rintro s same
      exact ne_of_class plain (by decide) (List.cons.inj same).1
    · rintro s same
      exact ne_of_class plain (by decide) (List.cons.inj same).1

theorem valueOnLine_boolean (value : Bool) :
    ValueOnLine (toString value).toList (.boolean value) := by
  cases value with
  | false => exact ⟨fun _ => rfl, fun _ => rfl⟩
  | true => exact ⟨fun _ => rfl, fun _ => rfl⟩

theorem readStatements_blank (s : List Char) : readStatements ('\n' :: s) = readStatements s := by
  have blank : skipSpaces ('\n' :: s) = '\n' :: s := rfl
  have finished : finishLine ('\n' :: s) = some s := rfl
  have shorter : s.length < ('\n' :: s).length := Nat.lt_succ_self _
  rw [readStatements, blank]
  simp only [finished, Option.pure_def, Option.bind_eq_bind, Option.bind_some, if_pos shorter]
  cases readStatements s with
  | none => rfl
  | some statements => rfl

theorem readStatements_line {line : List Char} {statement : Statement} (h : Line line statement)
    (s : List Char) :
    readStatements (line ++ '\n' :: s) = (readStatements s).map (statement :: ·) := by
  have shorter : s.length < (line ++ '\n' :: s).length := by
    rw [List.length_append, List.length_cons]
    omega
  rw [readStatements, h.flush]
  split
  case h_1 ended => exact absurd ended (by simp)
  case h_2 =>
    simp only [h.stated, h.read, Option.pure_def, Option.bind_eq_bind, Option.bind_some,
      if_pos shorter]
    cases readStatements s with
    | none => rfl
    | some statements => rfl

theorem toList_textOf_cons (line : String) (lines : List String) :
    (textOf (line :: lines)).toList = line.toList ++ '\n' :: (textOf lines).toList := by
  rw [textOf, List.map_cons, String.join_cons, String.toList_append, String.toList_append, textOf,
    List.append_assoc]
  rfl

/-- The lines that are not empty are these statements. -/
def Spells (lines : List String) (statements : List Statement) : Prop :=
  List.Forall₂ (fun line statement => Line line.toList statement) (lines.filter (· ≠ "")) statements

theorem filter_cons_of_filled {line : String} (lines : List String) (filled : line ≠ "") :
    (line :: lines).filter (· ≠ "") = line :: lines.filter (· ≠ "") :=
  List.filter_cons_of_pos (decide_eq_true filled)

theorem readStatements_textOf {lines : List String} {statements : List Statement}
    (h : Spells lines statements) : readStatements (textOf lines).toList = some statements := by
  induction lines generalizing statements with
  | nil =>
    cases h
    have nothing : (textOf []).toList = [] := rfl
    rw [nothing, readStatements]
    rfl
  | cons line lines ih =>
    rw [toList_textOf_cons]
    by_cases empty : line = ""
    · subst empty
      have later : Spells lines statements := h
      rw [String.toList_empty, List.nil_append, readStatements_blank, ih later]
    · rw [Spells, filter_cons_of_filled lines empty] at h
      cases h with
      | cons first later => rw [readStatements_line first, ih later, Option.map_some]

theorem head_textOf {lines : List String} {statements : List Statement}
    (h : Spells lines statements) : (textOf lines).toList.head? ≠ some '\uFEFF' := by
  cases lines with
  | nil => exact nofun
  | cons line lines =>
    rw [toList_textOf_cons]
    cases begun : line.toList with
    | nil =>
      intro same
      have other : '\n' ≠ '\uFEFF' := by decide
      exact other (Option.some.inj same)
    | cons first more =>
      have filled : line ≠ "" := by
        rintro rfl
        cases begun
      rw [Spells, filter_cons_of_filled lines filled] at h
      cases h with
      | cons statement later =>
        have unmarked := statement.unmarked
        rw [begun] at unmarked
        exact unmarked

/-- A document of single statements and empty lines is carried out statement by statement. -/
theorem ofText_textOf {lines : List String} {statements : List Statement}
    (h : Spells lines statements) :
    Table.ofText? (textOf lines) = Table.ofStatements statements := by
  have unmarked := head_textOf h
  have read := readStatements_textOf h
  unfold Table.ofText?
  generalize (textOf lines).toList = s at unmarked read ⊢
  split
  case h_1 => exact absurd rfl unmarked
  case h_2 =>
    rw [read]
    rfl

end TokenListing.Toml
