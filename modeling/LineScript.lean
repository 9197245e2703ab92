import LineScript.Main
import LineScript.Proofs.Token.Layout
import LineScript.Proofs.Token.Separators
import LineScript.Proofs.Text.Encodings
import LineScript.Proofs.Script.Display
import LineScript.Proofs.Script.Concatenation
import LineScript.Proofs.Engine.Atomicity
import LineScript.Proofs.Engine.Limits
import LineScript.Proofs.Engine.History
import LineScript.Proofs.Engine.Preservation
import LineScript.Proofs.Engine.AbsolutePaths
import LineScript.Proofs.Engine.Copying
import LineScript.Proofs.Script.Rejection
import LineScript.Proofs.Script.Excerpts
import LineScript.Proofs.Script.Decision
import LineScript.Proofs.Script.Literals
import LineScript.Proofs.Engine.Literals
import LineScript.Proofs.Engine.Entries
import LineScript.Proofs.Engine.CommandWords
import LineScript.Proofs.Engine.FileHistory
import LineScript.Proofs.Engine.Guards
import LineScript.Proofs.Engine.References
import LineScript.Proofs.Command.Splitting
import LineScript.Proofs.Engine.Outcomes
import LineScript.Proofs.Engine.Trace
import LineScript.Proofs.Token.Cursor
import LineScript.Proofs.Application.Trace
import LineScript.Proofs.Glob.LetterCase
import LineScript.Proofs.Search.LetterCase
