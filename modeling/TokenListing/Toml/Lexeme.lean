/-! # Lexemes of a TOML document

The smallest parts of a document: blanks, comments, line ends, keys and strings. A reader takes
the part it reads from the front of a list of characters and gives the rest back.
-/
namespace TokenListing.Toml

/-- Reads a part at the front and gives the rest, or refuses. -/
abbrev Reader (α : Type) := List Char → Option (α × List Char)

def isSpace (c : Char) : Bool :=
  c == ' ' || c == '\t'

def isPlain (c : Char) : Bool :=
  c == '\t' || (' ' ≤ c && c != '\x7f')

def isBare (c : Char) : Bool :=
  c.isAlphanum || c == '_' || c == '-'

def skipSpaces (s : List Char) : List Char :=
  s.dropWhile isSpace

def exactly : List Char → Reader Unit
  | [], s => some ((), s)
  | c :: cs, d :: s => if c = d then exactly cs s else none
  | _ :: _, [] => none

def lineEnd? : List Char → Option (List Char)
  | '\n' :: s => some s
  | '\r' :: '\n' :: s => some s
  | _ => none

def skipComment : List Char → List Char
  | '#' :: s => s.dropWhile isPlain
  | s => s

def finishLine (s : List Char) : Option (List Char) :=
  match skipComment (skipSpaces s) with
  | [] => some []
  | s => lineEnd? s

def skipLines : List Char → List Char
  | [] => []
  | '\n' :: s => skipLines s
  | '\r' :: '\n' :: s => skipLines s
  | '#' :: s => inComment s
  | c :: s => if isSpace c then skipLines s else c :: s
where
  inComment : List Char → List Char
    | [] => []
    | '\n' :: s => skipLines s
    | '\r' :: '\n' :: s => skipLines s
    | c :: s => if isPlain c then inComment s else c :: s

def hexadecimal? (digits : List Char) : Option Nat :=
  digits.foldlM (fun n c =>
    if c.isDigit then some (n * 16 + (c.toNat - '0'.toNat))
    else if 'a' ≤ c ∧ c ≤ 'f' then some (n * 16 + (c.toNat - 'a'.toNat + 10))
    else if 'A' ≤ c ∧ c ≤ 'F' then some (n * 16 + (c.toNat - 'A'.toNat + 10))
    else none) 0

def charOfHexadecimal? (digits : List Char) : Option Char := do
  let code ← hexadecimal? digits
  if code.isValidChar then some (Char.ofNat code) else none

def readEscape : Reader Char
  | 'b' :: s => some ('\x08', s)
  | 't' :: s => some ('\t', s)
  | 'n' :: s => some ('\n', s)
  | 'f' :: s => some ('\x0c', s)
  | 'r' :: s => some ('\r', s)
  | '"' :: s => some ('"', s)
  | '\\' :: s => some ('\\', s)
  | 'u' :: a :: b :: c :: d :: s => do
    let char ← charOfHexadecimal? [a, b, c, d]
    return (char, s)
  | 'U' :: a :: b :: c :: d :: e :: f :: g :: h :: s => do
    let char ← charOfHexadecimal? [a, b, c, d, e, f, g, h]
    return (char, s)
  | _ => none

theorem length_readEscape {s rest : List Char} {c : Char} (h : readEscape s = some (c, rest)) :
    rest.length < s.length := by
  unfold readEscape at h
  split at h
  case h_8 =>
    simp only [Option.pure_def, Option.bind_eq_bind, Option.bind_eq_some_iff, Option.some.injEq,
      Prod.mk.injEq] at h
    obtain ⟨_, -, -, rfl⟩ := h
    simp only [List.length_cons]
    omega
  case h_9 =>
    simp only [Option.pure_def, Option.bind_eq_bind, Option.bind_eq_some_iff, Option.some.injEq,
      Prod.mk.injEq] at h
    obtain ⟨_, -, -, rfl⟩ := h
    simp only [List.length_cons]
    omega
  case h_10 => simp at h
  all_goals
    simp only [Option.some.injEq, Prod.mk.injEq] at h
    rw [← h.2]
    exact Nat.lt_succ_self _

def readBasic (s : List Char) : Option (List Char × List Char) :=
  match s with
  | [] => none
  | '"' :: s => some ([], s)
  | '\\' :: s =>
    match _hescape : readEscape s with
    | none => none
    | some (c, rest) => do
      let (text, rest) ← readBasic rest
      return (c :: text, rest)
  | c :: s =>
    if isPlain c then do
      let (text, rest) ← readBasic s
      return (c :: text, rest)
    else none
termination_by s.length
decreasing_by
  · exact Nat.lt_succ_of_lt (length_readEscape _hescape)
  · exact Nat.lt_succ_self _

def readLiteral : Reader (List Char)
  | [] => none
  | '\'' :: s => some ([], s)
  | c :: s =>
    if isPlain c then do
      let (text, rest) ← readLiteral s
      return (c :: text, rest)
    else none

/-- The rest after the blanks of a line, its end, and all blanks and line ends that follow; a
backslash at the end of a line joins the lines so. -/
def joinLines? (s : List Char) : Option (List Char) := do
  let rest ← lineEnd? (skipSpaces s)
  return skip rest
where
  skip : List Char → List Char
    | [] => []
    | '\n' :: s => skip s
    | '\r' :: '\n' :: s => skip s
    | c :: s => if isSpace c then skip s else c :: s

theorem length_lineEnd? {s rest : List Char} (h : lineEnd? s = some rest) :
    rest.length < s.length := by
  unfold lineEnd? at h
  split at h <;> simp only [Option.some.injEq, reduceCtorEq] at h <;> subst h <;>
    simp only [List.length_cons] <;> omega

theorem length_skipSpaces_le (s : List Char) : (skipSpaces s).length ≤ s.length :=
  (List.dropWhile_sublist _).length_le

theorem length_joinLines_skip_le (s : List Char) : (joinLines?.skip s).length ≤ s.length := by
  fun_induction joinLines?.skip s with
  | case1 => exact Nat.le_refl _
  | case2 s ih => exact Nat.le_succ_of_le ih
  | case3 s ih => exact Nat.le_trans ih (by simp only [List.length_cons]; omega)
  | case4 c s _ _ _ ih => exact Nat.le_succ_of_le ih
  | case5 => exact Nat.le_refl _

theorem length_joinLines? {s rest : List Char} (h : joinLines? s = some rest) :
    rest.length < s.length := by
  simp only [joinLines?, Option.pure_def, Option.bind_eq_bind, Option.bind_eq_some_iff,
    Option.some.injEq] at h
  obtain ⟨line, hline, rfl⟩ := h
  exact Nat.lt_of_le_of_lt (length_joinLines_skip_le line)
    (Nat.lt_of_lt_of_le (length_lineEnd? hline) (length_skipSpaces_le s))

/-- The characters of a string over several lines, up to its three closing quotes. One or two
quotes may stand right before them. -/
def readLongBasic (s : List Char) : Option (List Char × List Char) :=
  match s with
  | [] => none
  | '"' :: '"' :: '"' :: '"' :: '"' :: s => some (['"', '"'], s)
  | '"' :: '"' :: '"' :: '"' :: s => some (['"'], s)
  | '"' :: '"' :: '"' :: s => some ([], s)
  | '\\' :: s =>
    match _hjoin : joinLines? s with
    | some rest => readLongBasic rest
    | none =>
      match _hescape : readEscape s with
      | none => none
      | some (c, rest) => do
        let (text, rest) ← readLongBasic rest
        return (c :: text, rest)
  | '\r' :: '\n' :: s | '\n' :: s => do
    let (text, rest) ← readLongBasic s
    return ('\n' :: text, rest)
  | c :: s =>
    if isPlain c then do
      let (text, rest) ← readLongBasic s
      return (c :: text, rest)
    else none
termination_by s.length
decreasing_by
  · exact Nat.lt_succ_of_lt (length_joinLines? _hjoin)
  · exact Nat.lt_succ_of_lt (length_readEscape _hescape)
  all_goals simp only [List.length_cons]; omega

def readLongLiteral : Reader (List Char)
  | [] => none
  | '\'' :: '\'' :: '\'' :: '\'' :: '\'' :: s => some (['\'', '\''], s)
  | '\'' :: '\'' :: '\'' :: '\'' :: s => some (['\''], s)
  | '\'' :: '\'' :: '\'' :: s => some ([], s)
  | '\r' :: '\n' :: s | '\n' :: s => do
    let (text, rest) ← readLongLiteral s
    return ('\n' :: text, rest)
  | c :: s =>
    if isPlain c then do
      let (text, rest) ← readLongLiteral s
      return (c :: text, rest)
    else none

def skipFirstLineEnd (s : List Char) : List Char :=
  (lineEnd? s).getD s

def readString : Reader (List Char)
  | '"' :: '"' :: '"' :: s => readLongBasic (skipFirstLineEnd s)
  | '"' :: s => readBasic s
  | '\'' :: '\'' :: '\'' :: s => readLongLiteral (skipFirstLineEnd s)
  | '\'' :: s => readLiteral s
  | _ => none

def readSimpleKey : Reader String
  | '"' :: s => do
    let (text, rest) ← readBasic s
    return (String.ofList text, rest)
  | '\'' :: s => do
    let (text, rest) ← readLiteral s
    return (String.ofList text, rest)
  | s =>
    let key := s.takeWhile isBare
    if key.isEmpty then none else some (String.ofList key, s.dropWhile isBare)

def longestKey : Nat := 79

/-- The parts of a key with dots between them and spaces around them, at most `parts`. -/
def readKeyParts : Nat → Reader (List String)
  | 0, _ => none
  | parts + 1, s => do
    let (key, rest) ← readSimpleKey (skipSpaces s)
    match skipSpaces rest with
    | '.' :: rest => do
      let (path, rest) ← readKeyParts parts rest
      return (key :: path, rest)
    | rest => return ([key], rest)

def readKey : Reader (List String) :=
  readKeyParts longestKey

end TokenListing.Toml
