import CondComp.CommandLine.Invocation
import CondComp.Inclusion.Script
import CondComp.Main
import CondComp.Nesting
import CondComp.Session
import CondComp.Proofs.Agenda
import CondComp.Proofs.Naming
import CondComp.Proofs.Attempt
import CondComp.Proofs.Course
import CondComp.Proofs.InFlight
import CondComp.Proofs.Reachable
import CondComp.Proofs.Justification
import CondComp.Proofs.Gagging
import CondComp.Proofs.Trial
import CondComp.Proofs.Truth
import CondComp.Proofs.Adequacy
import CondComp.Proofs.Settings
import CondComp.Proofs.Dependencies
import CondComp.Proofs.Directives
import CondComp.Proofs.FirstAnswers
import CondComp.Proofs.DependencyTrail
import CondComp.Proofs.Constancy
import CondComp.Proofs.Reservation
import CondComp.Proofs.Workload
import CondComp.Proofs.Permanence
import CondComp.Proofs.Guards
import CondComp.Proofs.Chronicle
import CondComp.Proofs.LogReading
import CondComp.Proofs.Muting
import CondComp.Proofs.Separation
import CondComp.Proofs.Arguments
import CondComp.Proofs.Descent
import CondComp.Proofs.Boundary
import CondComp.Proofs.Reporting
import CondComp.Proofs.Blame
import CondComp.Proofs.Counters
import CondComp.Proofs.Copies
import CondComp.Proofs.Interpretation
import CondComp.Proofs.Frame
import CondComp.Proofs.Grammar
import CondComp.Proofs.FirstValue
import CondComp.Proofs.Spelling
import CondComp.Proofs.Combination
import CondComp.Proofs.Values
import CondComp.Proofs.Scopes
