import TokenListing.Grammar
import TokenListing.Main
import TokenListing.Proofs.Binary64.Reading
import TokenListing.Proofs.Binary64.Text
import TokenListing.Proofs.Calls
import TokenListing.Proofs.Command.Parsing
import TokenListing.Proofs.Command.Reporting
import TokenListing.Proofs.Config.Loading
import TokenListing.Proofs.Config.RoundTrip
import TokenListing.Proofs.Diagnostic.Rendering
import TokenListing.Proofs.Grammar.Digits
import TokenListing.Proofs.Grammar.Lexemes
import TokenListing.Proofs.Grammar.Pieces
import TokenListing.Proofs.Grammar.Respelling
import TokenListing.Proofs.Grammar.Separation
import TokenListing.Proofs.Grammar.Totality
import TokenListing.Proofs.Grammar.Values
import TokenListing.Proofs.Lexer.Acceptance
import TokenListing.Proofs.Lexer.Buffering
import TokenListing.Proofs.Lexer.Certainty
import TokenListing.Proofs.Lexer.Consumption
import TokenListing.Proofs.Lexer.Interruption
import TokenListing.Proofs.Lexer.Judgement
import TokenListing.Proofs.Lexer.Latching
import TokenListing.Proofs.Lexer.LineBreaks
import TokenListing.Proofs.Lexer.Lookahead
import TokenListing.Proofs.Lexer.Positions
import TokenListing.Proofs.Lexer.Reading
import TokenListing.Proofs.Lexer.Recognition
import TokenListing.Proofs.Lexer.Replacement
import TokenListing.Proofs.Lexer.Reprinting
import TokenListing.Proofs.Lexer.Scan
import TokenListing.Proofs.Lexer.SourceCalls
import TokenListing.Proofs.Listing.Decoding
import TokenListing.Proofs.Session.Buffering
import TokenListing.Proofs.Session.Decoding
import TokenListing.Proofs.Session.Ending
import TokenListing.Proofs.Session.Independence
import TokenListing.Proofs.Session.Writing
import TokenListing.Proofs.Source.Alike
import TokenListing.Proofs.Source.Asking
import TokenListing.Proofs.Source.Chunks
import TokenListing.Proofs.Source.Consumption
import TokenListing.Proofs.Source.Draining
import TokenListing.Proofs.Source.Encodings
import TokenListing.Proofs.Source.Facing
import TokenListing.Proofs.Source.Failing
import TokenListing.Proofs.Source.Feed
import TokenListing.Proofs.Source.Position
import TokenListing.Proofs.Source.Reach
import TokenListing.Proofs.Source.ReadCount
import TokenListing.Proofs.Source.Reading
import TokenListing.Proofs.Source.Refilling
import TokenListing.Proofs.Source.Tape
import TokenListing.Proofs.Source.Unbuffered
import TokenListing.Proofs.Source.Waiting
import TokenListing.Proofs.Span.Counting
import TokenListing.Proofs.Span.Moving
import TokenListing.Proofs.Stream.Consumption
import TokenListing.Proofs.Stream.Failing
import TokenListing.Proofs.Stream.PatientRead
import TokenListing.Proofs.Stream.Reads
import TokenListing.Proofs.Stream.Writing
import TokenListing.Proofs.Text.Utf8Flaws
import TokenListing.Proofs.Text.Utf8Resuming
import TokenListing.Proofs.Text.Utf8Unfinished
import TokenListing.Proofs.Toml.Lines
import TokenListing.Proofs.Toml.Numerals
import TokenListing.Stream.Signal
