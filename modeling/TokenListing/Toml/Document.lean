import TokenListing.Toml.DateTime
import TokenListing.Toml.Number
import TokenListing.Toml.Table

/-! # Documents in TOML

A document is a list of lines, each of which defines a value, opens a table, or says nothing.
`Table.ofText?` reads a document and carries out its statements in order; it gives the root
table, or `none` if the text is no document.
-/
namespace TokenListing.Toml

/-- The deepest nesting of arrays and inline tables. -/
def deepestNesting : Nat := 79

/-- The elements of an array after its opening bracket. A comma may follow the last one. -/
def readElements (readValue : Reader Value) (s : List Char) : Option (List Value × List Char) :=
  match skipLines s with
  | ']' :: rest => some ([], rest)
  | first => do
    let (value, rest) ← readValue first
    match skipLines rest with
    | ']' :: rest => return ([value], rest)
    | ',' :: rest =>
      if rest.length < s.length then do
        let (values, rest) ← readElements readValue rest
        return (value :: values, rest)
      else none
    | _ => none
termination_by s.length

def readDefinition (readValue : Reader Value) (s : List Char) :
    Option ((List String × Value) × List Char) := do
  let (path, rest) ← readKey s
  let ((), rest) ← exactly ['='] rest
  let (value, rest) ← readValue (skipSpaces rest)
  return ((path, value), rest)

def readInlineEntries (readValue : Reader Value) (s : List Char) :
    Option (List (List String × Value) × List Char) := do
  let (definition, rest) ← readDefinition readValue s
  match skipSpaces rest with
  | '\x7d' :: rest => return ([definition], rest)
  | ',' :: rest =>
    if rest.length < s.length then do
      let (definitions, rest) ← readInlineEntries readValue rest
      return (definition :: definitions, rest)
    else none
  | _ => none
termination_by s.length

def Table.ofDefinitions (definitions : List (List String × Value)) : Option Table :=
  definitions.foldlM (fun table (path, value) => table.define path value) []

def readInlineTable (readValue : Reader Value) (s : List Char) :
    Option (Value × List Char) :=
  match skipSpaces s with
  | '\x7d' :: rest => some (.inlineTable [], rest)
  | first => do
    let (definitions, rest) ← readInlineEntries readValue first
    let entries ← Table.ofDefinitions definitions
    return (.inlineTable entries, rest)

def readScalar (s : List Char) : Option (Value × List Char) :=
  match s with
  | '"' :: _ | '\'' :: _ => do
    let (text, rest) ← readString s
    return (.string (String.ofList text), rest)
  | 't' :: _ => do
    let ((), rest) ← exactly ['t', 'r', 'u', 'e'] s
    return (.boolean true, rest)
  | 'f' :: _ => do
    let ((), rest) ← exactly ['f', 'a', 'l', 's', 'e'] s
    return (.boolean false, rest)
  | _ =>
    (readDateTime s).map (fun (spelling, rest) => (.dateTime spelling, rest)) <|>
      (readFloat s).map (fun (value, rest) => (.float value, rest)) <|>
      (readInteger s).map (fun (value, rest) => (.integer value, rest))

/-- A value with at most `depth` arrays and inline tables around one another. -/
def readValue : Nat → Reader Value
  | 0, s => readScalar s
  | depth + 1, s =>
    match s with
    | '[' :: s => do
      let (elements, rest) ← readElements (readValue depth) s
      return (.array elements, rest)
    | '\x7b' :: s => readInlineTable (readValue depth) s
    | s => readScalar s

def readStatement (s : List Char) : Option (Statement × List Char) :=
  match s with
  | '[' :: '[' :: s => do
    let (path, rest) ← readKey s
    let ((), rest) ← exactly [']', ']'] rest
    let rest ← finishLine rest
    return (.openRow path, rest)
  | '[' :: s => do
    let (path, rest) ← readKey s
    let ((), rest) ← exactly [']'] rest
    let rest ← finishLine rest
    return (.openTable path, rest)
  | s => do
    let ((path, value), rest) ← readDefinition (readValue deepestNesting) s
    let rest ← finishLine rest
    return (.define path value, rest)

def readStatements (s : List Char) : Option (List Statement) :=
  match skipSpaces s with
  | [] => some []
  | first => do
    let (statement, rest) ← match finishLine first with
      | some rest => pure (none, rest)
      | none => do
        let (statement, rest) ← readStatement first
        pure (some statement, rest)
    if rest.length < s.length then do
      let statements ← readStatements rest
      return statement.toList ++ statements
    else none
termination_by s.length

/-- The root table of a document. A byte order mark at the beginning is skipped. -/
def Table.ofText? (text : String) : Option Table := do
  let statements ← readStatements (match text.toList with
    | '\uFEFF' :: s => s
    | s => s)
  Table.ofStatements statements

end TokenListing.Toml
