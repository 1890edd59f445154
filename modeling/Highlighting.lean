import Highlighting.CommandLine.Help
import Highlighting.CommandLine.Run
import Highlighting.Log.Line
import Highlighting.Main
import Highlighting.Proofs.Assembly.Editing
import Highlighting.Proofs.Assembly.LetterCase
import Highlighting.Proofs.Assembly.Lines
import Highlighting.Proofs.Assembly.Reordering
import Highlighting.Proofs.Assembly.Standalone
import Highlighting.Proofs.CommandLine.Run
import Highlighting.Proofs.Decoration.Merging
import Highlighting.Proofs.Highlighter.Events
import Highlighting.Proofs.Highlighter.Registrations
import Highlighting.Proofs.Lexer.Calls
import Highlighting.Proofs.Lexer.Compilation
import Highlighting.Proofs.Lexer.Resumption
import Highlighting.Proofs.Log.Filtering
import Highlighting.Proofs.Output.Document
import Highlighting.Proofs.Output.Lines
import Highlighting.Proofs.Position.ClosedForm
import Highlighting.Proofs.Position.Order
import Highlighting.Proofs.Registry.Events
import Highlighting.Proofs.Registry.Run
import Highlighting.Proofs.Rule.Anchoring
import Highlighting.Proofs.Settings.RoundTrip
