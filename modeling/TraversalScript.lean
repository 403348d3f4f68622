import TraversalScript.Graph.Container
import TraversalScript.Log.Message
import TraversalScript.Service.App
import TraversalScript.Proofs.Decoding
import TraversalScript.Proofs.Endpoint
import TraversalScript.Proofs.Outline
import TraversalScript.Proofs.Tasks
import TraversalScript.Proofs.Calls
import TraversalScript.Proofs.Sent
import TraversalScript.Proofs.Counted
import TraversalScript.Proofs.Filing
import TraversalScript.Proofs.Trail
import TraversalScript.Proofs.Serving
import TraversalScript.Proofs.Chronology
import TraversalScript.Proofs.Quoting
import TraversalScript.Proofs.Representation
import TraversalScript.Proofs.Mirror
import TraversalScript.Proofs.Subjects
import TraversalScript.Proofs.Assembly
import TraversalScript.Proofs.Settled
import TraversalScript.Proofs.Reports
import TraversalScript.Proofs.Equality
import TraversalScript.Proofs.LogLine
import TraversalScript.Proofs.Loggers
import TraversalScript.Proofs.Rotation
import TraversalScript.Proofs.SetUp
import TraversalScript.Proofs.Account
