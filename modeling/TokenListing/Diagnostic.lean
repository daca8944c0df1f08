import TokenListing.Span

/-! # Diagnostics

A diagnostic tells of one problem: a message, the place, a code for the kind of problem, and
advice. It is shown as a block of lines.
-/
namespace TokenListing

structure Diagnostic.Code where
  series : String
  number : UInt32
  deriving DecidableEq, Repr

structure Diagnostic where
  message : String
  span : Span := .nowhere
  code : Option Diagnostic.Code := none
  helps : List String := []
  deriving DecidableEq, Repr

namespace Diagnostic
namespace Code

def text (code : Code) : String :=
  let digits := toString code.number.toNat
  code.series ++ String.ofList (List.replicate (4 - digits.length) '0') ++ digits

def debugText (code : Code) : String :=
  "DiagnosticCode(" ++ code.text ++ ")"

def unexpectedChar : Code := ⟨"E", 1001⟩
def malformedColon : Code := ⟨"E", 1002⟩
def leadingUnderscore : Code := ⟨"E", 1003⟩
def missingFraction : Code := ⟨"E", 1004⟩
def integerOverflow : Code := ⟨"E", 1005⟩
def unreadable : Code := ⟨"E", 1006⟩

end Code

def error (message : String) (span : Span) : Diagnostic :=
  { message, span }

/-- The block of lines that shows a diagnostic, without a final line end: the message, the
place unless it is nowhere, and the advice. -/
def text (diagnostic : Diagnostic) : String :=
  let code := diagnostic.code.elim "" fun code => "[" ++ code.text ++ "]"
  let place := if diagnostic.span.isNowhere then "" else "\n --> " ++ diagnostic.span.text
  let helps := diagnostic.helps.map fun help => "\n = help: " ++ help
  "error" ++ code ++ ": " ++ diagnostic.message ++ place ++ String.join helps

end Diagnostic
end TokenListing
