import Stepping.Document.Format
import Stepping.Document.Json.Written
import Stepping.Execution
import Stepping.Session.World
import Stepping.Proofs.Member.Calls
import Stepping.Proofs.Member.Tag
import Stepping.Proofs.Member.Faults
import Stepping.Proofs.Member.Updates
import Stepping.Proofs.Member.Life
import Stepping.Proofs.Compound.Ties
import Stepping.Proofs.Compound.Faults
import Stepping.Proofs.Compound.Moving
import Stepping.Proofs.Compound.Binding
import Stepping.Proofs.Compound.Rollback
import Stepping.Proofs.Compound.Life
import Stepping.Proofs.Schedule.Plan
import Stepping.Proofs.Schedule.Chain
import Stepping.Proofs.Schedule.Progress
import Stepping.Proofs.Schedule.Commands
import Stepping.Proofs.Schedule.Obstacles
import Stepping.Proofs.Schedule.Accounts
import Stepping.Proofs.Schedule.Pieces
import Stepping.Proofs.Schedule.Breakdown
import Stepping.Proofs.Schedule.Truncation
import Stepping.Proofs.Schedule.Chunking
import Stepping.Proofs.Session.Requests
import Stepping.Proofs.Session.Lifecycle
import Stepping.Proofs.Session.Life
import Stepping.Proofs.Session.Reach
import Stepping.Proofs.Session.Refusals
import Stepping.Proofs.Document.Origins
import Stepping.Proofs.Schedule.Validity
import Stepping.Proofs.Document.Tokens
import Stepping.Proofs.Document.RoundTrip
import Stepping.Proofs.Schedule.Composition
import Stepping.Proofs.Compound.Attaching
import Stepping.Proofs.Compound.Selections
import Stepping.Proofs.Schedule.Selections
import Stepping.Proofs.Session.Selections
import Stepping.Proofs.Session.Binds
import Stepping.Proofs.Member.Identity
import Stepping.Proofs.Session.Course
import Stepping.Proofs.Compound.Identities
import Stepping.Proofs.Schedule.Naming
import Stepping.Proofs.Session.Identities
import Stepping.Proofs.Session.Indices
import Stepping.Proofs.Compound.Log
import Stepping.Proofs.Session.Log
import Stepping.Proofs.Compound.Counting
import Stepping.Proofs.Schedule.Counting
import Stepping.Proofs.Session.Counting
import Stepping.Proofs.Compound.Sparing
import Stepping.Proofs.Session.Routing
import Stepping.Proofs.Schedule.Frame
import Stepping.Proofs.Schedule.Rounds
import Stepping.Proofs.Compound.Kernels
import Stepping.Proofs.Session.Kernels
import Stepping.Proofs.Particles.Each
import Stepping.Proofs.Particles.InPlace
import Stepping.Proofs.Particles.Exact
import Stepping.Proofs.Particles.Frictionless
import Stepping.Proofs.Member.Independence
import Stepping.Proofs.Session.Sharing
import Stepping.Proofs.Session.Shapes
import Stepping.Proofs.Member.Parameters
import Stepping.Proofs.Session.Records
import Stepping.Proofs.Session.Parameters
import Stepping.Proofs.Quantity.Rounding
import Stepping.Proofs.Quantity.Reading
import Stepping.Proofs.Session.Reported
