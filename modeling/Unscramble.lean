import Unscramble.Cache
import Unscramble.Plan.Stored
import Unscramble.Proofs.Selection
import Unscramble.Proofs.Template
import Unscramble.Proofs.Body.Operations
import Unscramble.Proofs.Body.Code
import Unscramble.Proofs.Regex.Way
import Unscramble.Proofs.Regex.Points
import Unscramble.Proofs.Regex.Search
import Unscramble.Proofs.Regex.Leftmost
import Unscramble.Proofs.Operation.Forms
import Unscramble.Proofs.Operation.Table
import Unscramble.Proofs.Operation.Recognition
import Unscramble.Proofs.Operation.Templates
import Unscramble.Proofs.Pattern.Catalogue
import Unscramble.Proofs.Pattern.Call
import Unscramble.Proofs.Pattern.Set
import Unscramble.Proofs.Pattern.Signature
import Unscramble.Proofs.Pattern.Throttling
import Unscramble.Proofs.Plan.Heads
import Unscramble.Proofs.Plan.Operands
import Unscramble.Proofs.Plan.Resolution
import Unscramble.Proofs.Plan.SignatureScript
import Unscramble.Proofs.Plan.Statements
import Unscramble.Proofs.Plan.Steps
import Unscramble.Proofs.Plan.ThrottlingScript
import Unscramble.Proofs.Script.Grammar
import Unscramble.Proofs.Script.Reading
import Unscramble.Proofs.Text.Octets
import Unscramble.Proofs.Script.Nesting
import Unscramble.Proofs.Script.Arrays
import Unscramble.Proofs.Plan.WellFormed
import Unscramble.Proofs.Plan.Staleness
import Unscramble.Proofs.Run.Memory
import Unscramble.Proofs.Plan.Slices
import Unscramble.Proofs.Url.Rewriting
import Unscramble.Proofs.Cache
import Unscramble.Proofs.Duration
import Unscramble.Proofs.Plan.Stored
import Unscramble.Proofs.Settings
import Unscramble.Proofs.Url.Order
import Unscramble.Proofs.Regex.Alike
import Unscramble.Proofs.Regex.Element
import Unscramble.Proofs.Script.Pieces
import Unscramble.Proofs.Script.Layout
import Unscramble.Proofs.Pattern.Written
import Unscramble.Proofs.Pattern.Sources
import Unscramble.Proofs.Failures
import Unscramble.Proofs.Run.Undoing
import Unscramble.Proofs.Plan.EntryName
import Unscramble.Proofs.Plan.LineBreaks
import Unscramble.Proofs.Pattern.Finder
import Unscramble.Proofs.Pattern.Priority
import Unscramble.Proofs.Plan.Candidates
