import Rewind.Cursor.Desk
import Rewind.Main
import Rewind.Proofs.Balance.Matching
import Rewind.Proofs.Calling
import Rewind.Proofs.Control.Runs
import Rewind.Proofs.EventLog.Program
import Rewind.Proofs.Formula.Evaluation
import Rewind.Proofs.LastWrite
import Rewind.Proofs.Lexing.Composition
import Rewind.Proofs.Lexing.Image
import Rewind.Proofs.Outline.Skipping
import Rewind.Proofs.Output
import Rewind.Proofs.Places
import Rewind.Proofs.Provenance.Session
import Rewind.Proofs.ReplLoop
import Rewind.Proofs.Sandbox
import Rewind.Proofs.SelfContained
import Rewind.Proofs.Termination
import Rewind.Proofs.Tree.Refinement
import Rewind.Proofs.Unevaluated
