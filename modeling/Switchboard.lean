import Switchboard.Json.Writer
import Switchboard.Main
import Switchboard.Proofs.Binding
import Switchboard.Proofs.Dispatch
import Switchboard.Proofs.Driving
import Switchboard.Proofs.Finality
import Switchboard.Proofs.Routing
import Switchboard.Proofs.Grammar
import Switchboard.Proofs.LowerCase
import Switchboard.Proofs.Criteria
import Switchboard.Proofs.Bounds
import Switchboard.Proofs.Exchange
import Switchboard.Proofs.Boundaries
import Switchboard.Proofs.Stability
import Switchboard.Proofs.RecordCuts
import Switchboard.Proofs.Building
import Switchboard.Proofs.Handling
import Switchboard.Proofs.Sessions
import Switchboard.Proofs.Delivery
import Switchboard.Proofs.Impatience
import Switchboard.Proofs.Addresses
import Switchboard.Proofs.Documents
import Switchboard.Proofs.Overriding
import Switchboard.Proofs.Specs
import Switchboard.Proofs.Growth
import Switchboard.Proofs.Truncation
import Switchboard.Proofs.Unions
import Switchboard.Proofs.Layering
import Switchboard.Proofs.SpecParts
import Switchboard.Proofs.Variables
import Switchboard.Proofs.Demands
import Switchboard.Proofs.Scanning
import Switchboard.Proofs.Dumps
import Switchboard.Proofs.Warnings
import Switchboard.Proofs.LogLevels
import Switchboard.Proofs.Unreachable
import Switchboard.Proofs.Scripts
import Switchboard.Proofs.Walking
import Switchboard.Proofs.Progress
import Switchboard.Proofs.Limits
import Switchboard.Proofs.Matching
