import Dialogue.Main
import Dialogue.Session.Stored
import Dialogue.Proofs.Flow.Positions
import Dialogue.Proofs.Turn.Store
import Dialogue.Proofs.Turn.Run
import Dialogue.Proofs.Turn.Agreement
import Dialogue.Proofs.Node.Visits
import Dialogue.Proofs.Turn.Isolation
import Dialogue.Proofs.Flow.Checked
import Dialogue.Proofs.Turn.Faults
import Dialogue.Proofs.Text.Margins
import Dialogue.Proofs.Guard.Scanning
import Dialogue.Proofs.Guard.Margins
import Dialogue.Proofs.Guard.Stored
import Dialogue.Proofs.Turn.Log
import Dialogue.Proofs.Turn.Transcript
import Dialogue.Proofs.Turn.Sweep
import Dialogue.Proofs.Document.Numeral
import Dialogue.Proofs.Document.Grammar
import Dialogue.Proofs.Guard.Written
import Dialogue.Proofs.Value.Fits
import Dialogue.Proofs.Document.Printed
import Dialogue.Proofs.Document.Accepted
import Dialogue.Proofs.Document.Spelled
import Dialogue.Proofs.Document.Restored
import Dialogue.Proofs.Number.Rounding
import Dialogue.Proofs.Flow.Blocks
import Dialogue.Proofs.Flow.Saved
import Dialogue.Proofs.Flow.Exploration
import Dialogue.Proofs.Flow.Relay
import Dialogue.Proofs.Turn.Length
import Dialogue.Proofs.Turn.Asked
import Dialogue.Proofs.Session.Scope
import Dialogue.Proofs.Text.Joined
import Dialogue.Proofs.Flow.Registered
import Dialogue.Proofs.Turn.Limit
import Dialogue.Proofs.Template.Braces
import Dialogue.Proofs.Flow.Routes
import Dialogue.Proofs.Turn.Course
import Dialogue.Proofs.Node.Inquiry
import Dialogue.Proofs.Turn.Attempts
import Dialogue.Proofs.Turn.Setback
import Dialogue.Proofs.Turn.Lawful
import Dialogue.Proofs.Turn.Reprompt
import Dialogue.Proofs.Turn.Visible
import Dialogue.Proofs.Session.Locking
import Dialogue.Proofs.Template.Agreement
import Dialogue.Proofs.Template.Repeated
import Dialogue.Proofs.Call.Retrial
import Dialogue.Proofs.Chat.Located
import Dialogue.Proofs.Chat.Truncated
import Dialogue.Proofs.Flow.Selection
import Dialogue.Proofs.Flow.Structure
import Dialogue.Proofs.Answer.Menu
import Dialogue.Proofs.Turn.Comparison
import Dialogue.Proofs.Text.Classes
import Dialogue.Proofs.Text.Words
import Dialogue.Proofs.Flow.Keywords
import Dialogue.Proofs.Url.Encoded
import Dialogue.Proofs.Call.Placeholders
import Dialogue.Proofs.Call.Delimiters
import Dialogue.Proofs.Call.Joints
import Dialogue.Proofs.Value.Steps
import Dialogue.Proofs.Turn.Results
import Dialogue.Proofs.Session.Namespaces
import Dialogue.Proofs.Session.Qualified
import Dialogue.Proofs.Chat.Labels
import Dialogue.Proofs.Turn.Classified
import Dialogue.Proofs.Guard.Canonical
import Dialogue.Proofs.Flow.Assembled
import Dialogue.Proofs.Value.Legs
import Dialogue.Proofs.Session.Deadline
import Dialogue.Proofs.Text.Bytes
import Dialogue.Proofs.Guard.Bytes
