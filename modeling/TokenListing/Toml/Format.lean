import TokenListing.Toml.Document

/-! # Formats of documents

A format reads documents, and it writes plain ones. A plain document defines truth values and
numbers, in its root table and in tables that a header opens each. In `format` a document is read by
`Table.ofText?`.
-/
namespace TokenListing.Toml

/-- The greatest integer of a document, which has 64 bits with its sign. -/
def greatestInteger : Nat := Nat.pow 2 63 - 1

inductive Scalar where
  | boolean (value : Bool)
  | integer (value : Nat)
  deriving DecidableEq, Repr

namespace Scalar

def value : Scalar → Value
  | boolean value => .boolean value
  | integer value => .integer value

def text : Scalar → String
  | boolean value => toString value
  | integer value => toString value

def Fits : Scalar → Prop
  | boolean _ => True
  | integer value => value ≤ greatestInteger

instance : (scalar : Scalar) → Decidable scalar.Fits
  | boolean _ => inferInstanceAs (Decidable True)
  | integer value => inferInstanceAs (Decidable (value ≤ greatestInteger))

end Scalar

def IsBareKey (key : List Char) : Prop :=
  key ≠ [] ∧ key.all isBare = true

instance (key : List Char) : Decidable (IsBareKey key) :=
  inferInstanceAs (Decidable (_ ∧ _))

abbrev Fields := List (String × Scalar)

/-- The keys need no quotes, none is defined twice, and the numbers fit. -/
def Fields.Sound (fields : Fields) : Prop :=
  (fields.map Prod.fst).Nodup ∧ ∀ field ∈ fields, IsBareKey field.1.toList ∧ field.2.Fits

instance (fields : Fields) : Decidable fields.Sound :=
  inferInstanceAs (Decidable (_ ∧ _))

/-- The definitions of the root table and of the tables in it. -/
structure Plain where
  top : Fields
  groups : List (String × Fields)
  deriving DecidableEq, Repr

namespace Plain

def names (plain : Plain) : List String :=
  plain.top.map Prod.fst ++ plain.groups.map Prod.fst

def Sound (plain : Plain) : Prop :=
  Fields.Sound plain.top ∧ plain.names.Nodup ∧
    ∀ group ∈ plain.groups, IsBareKey group.1.toList ∧ Fields.Sound group.2

instance (plain : Plain) : Decidable plain.Sound :=
  inferInstanceAs (Decidable (_ ∧ _ ∧ _))

def line (field : String × Scalar) : String :=
  field.1 ++ " = " ++ field.2.text

def groupLines (group : String × Fields) : List String :=
  ("[" ++ group.1 ++ "]") :: group.2.map line

def lines (plain : Plain) : List String :=
  plain.top.map line ++ plain.groups.flatMap groupLines

def spacedLines (plain : Plain) : List String :=
  plain.top.map line ++ plain.groups.flatMap fun group => "" :: groupLines group

end Plain

def textOf (lines : List String) : String :=
  String.join (lines.map (· ++ "\n"))

structure Format where
  read : String → Option Table
  write : Plain → Option String

def format : Format where
  read := Table.ofText?
  write plain := if plain.Sound then some (textOf plain.spacedLines) else none

end TokenListing.Toml
