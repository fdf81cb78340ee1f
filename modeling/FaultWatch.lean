import FaultWatch.EventMask.Edit
import FaultWatch.EventMask.Text
import FaultWatch.Proofs.Crew.InTurn
import FaultWatch.Proofs.EventMask.Readings
import FaultWatch.Proofs.EventMask.Spelled
import FaultWatch.Proofs.Halves.Linear
import FaultWatch.Proofs.Handle.Written
import FaultWatch.Proofs.Journal.Faithful
import FaultWatch.Proofs.Scan.Guarantee
import FaultWatch.Proofs.Session.Configured
import FaultWatch.Proofs.Session.Detached
import FaultWatch.Proofs.Session.Dispatched
import FaultWatch.Proofs.Session.Fleet
import FaultWatch.Proofs.Session.History
import FaultWatch.Proofs.Session.Lifecycle
import FaultWatch.Proofs.Session.Poisoned
import FaultWatch.Proofs.Session.RecordPoisoned
