import FrontEnd.Unicode.Basic
import FrontEnd.Unicode.Numeric
import FrontEnd.Unicode.GraphemeExtend
import FrontEnd.Unicode.Printable
import FrontEnd.Text.Quoted
import FrontEnd.Source.Basic
import FrontEnd.Source.Reader
import FrontEnd.Token.Lexer
import FrontEnd.Trace
import FrontEnd.Program.Descent
import FrontEnd.CharGrammar.Recognition
import FrontEnd.Diagnostic.Report
import FrontEnd.Main
import FrontEnd.Proofs.Grammar.Predictive
import FrontEnd.Proofs.Program.FirstError
import FrontEnd.Proofs.Program.Limits
import FrontEnd.Proofs.Source.Placement
import FrontEnd.Proofs.Source.Reading
import FrontEnd.Proofs.Token.Spelling
import FrontEnd.Proofs.Token.Scanning
import FrontEnd.Proofs.Token.Pieces
import FrontEnd.Proofs.Token.Tiling
import FrontEnd.Proofs.Token.Offending
import FrontEnd.Proofs.Token.Longest
import FrontEnd.Proofs.Token.Newlines
import FrontEnd.Proofs.Token.Respacing
import FrontEnd.Proofs.Token.Layout
import FrontEnd.Proofs.Token.Completion
import FrontEnd.Proofs.Token.Lines
import FrontEnd.Proofs.Program.Lines
import FrontEnd.Proofs.Program.Expectations
import FrontEnd.Proofs.Text.Visible
import FrontEnd.Proofs.Output.Written
import FrontEnd.Proofs.Output.Unfailing
import FrontEnd.Proofs.Json.Grammar
import FrontEnd.Proofs.Json.Decoding
import FrontEnd.Proofs.Json.Spelling
import FrontEnd.Proofs.Diagnostic.JsonArray
import FrontEnd.Proofs.Check.Lines
import FrontEnd.Proofs.Check.Grounded
import FrontEnd.Proofs.Check.Presentation
import FrontEnd.Proofs.Token.Asking
import FrontEnd.Proofs.Run.Outcome
import FrontEnd.Proofs.Run.Exit
import FrontEnd.Proofs.Run.Limited
import FrontEnd.Proofs.CommandLine.Arguments
import FrontEnd.Proofs.CommandLine.Settings
import FrontEnd.Proofs.CharGrammar.Recognition
import FrontEnd.Proofs.Diagnostic.Terminal
import FrontEnd.Proofs.Program.Extension
import FrontEnd.Proofs.Diagnostic.Limited
import FrontEnd.Proofs.Check.Harmless
import FrontEnd.Proofs.Trace.Reading
import FrontEnd.Proofs.CharGrammar.Column
import FrontEnd.Proofs.Program.Calls
import FrontEnd.Proofs.Program.Frame
