import TokenListing.Proofs.Lexer.Interruption
import TokenListing.Proofs.Session.Decoding

/-! # How runs end on an output that accepts everything

If nothing hinders the output, a run writes the lines of all tokens that its lexer gives and ends as
the lexer does: with the end of the input, with a malformed token or with a failed read. The grammar
says which of the first two it is if no read fails. If a read fails, what was read before it decides
whether it is reached.
-/
namespace TokenListing

namespace Lexer
open Grammar

variable {lexer : Lexer} {text : List Char}

end Lexer

namespace Session
open Grammar

variable (session : Session) {input : Input}

end Session
end TokenListing
