import HillClimb.Hook
import HillClimb.Comparator.Basic
import HillClimb.Comparator.Validation
import HillClimb.Failure
import HillClimb.Log.Field
import HillClimb.Log.Format
import HillClimb.Log.Record
import HillClimb.Log.Setup
import HillClimb.Number.Binary64
import HillClimb.Number.Magnitude
import HillClimb.Number.Shortest
import HillClimb.Number.Width
import HillClimb.Random.Generator
import HillClimb.Random.Twister
import HillClimb.Scenario.Draws
import HillClimb.Scenario.Item
import HillClimb.Scenario.Makers
import HillClimb.Scenario.Report
import HillClimb.Scenario.Rules
import HillClimb.Scenario.Session
import HillClimb.Scenario.Solvers
import HillClimb.Scenario.Stage
import HillClimb.Scenario.Trial
import HillClimb.Scenario.Watchers
import HillClimb.Scenario.World
import HillClimb.Seed
import HillClimb.Seed.Offer
import HillClimb.Seed.Scalar
import HillClimb.Solver.Lifecycle
import HillClimb.Solver.LocalSearch
import HillClimb.Solver.Machine
import HillClimb.Solver.Program
import HillClimb.Text.Numeral
import HillClimb.Text.Quoted
import HillClimb.Text.Uppercase
import HillClimb.Text.Word
import HillClimb.Trajectory.Basic
import HillClimb.Trajectory.Reading
import HillClimb.Trajectory.Recording
import HillClimb.Value.Operations
import HillClimb.Value.Basic
import HillClimb.Value.Conversion
import HillClimb.Value.Shape
import HillClimb.Proofs.Accounts
import HillClimb.Proofs.Actions
import HillClimb.Proofs.Admission
import HillClimb.Proofs.Atomicity
import HillClimb.Proofs.Choosing
import HillClimb.Proofs.Commits
import HillClimb.Proofs.CostOrder
import HillClimb.Proofs.Course
import HillClimb.Proofs.Cutting
import HillClimb.Proofs.Decisions
import HillClimb.Proofs.Descent
import HillClimb.Proofs.Diagnosis
import HillClimb.Proofs.Directions
import HillClimb.Proofs.Disclosure
import HillClimb.Proofs.Endings
import HillClimb.Proofs.Fidelity
import HillClimb.Proofs.FirstBest
import HillClimb.Proofs.Halves
import HillClimb.Proofs.InvariantPair
import HillClimb.Proofs.Hindsight
import HillClimb.Proofs.History
import HillClimb.Proofs.InStep
import HillClimb.Proofs.Journal
import HillClimb.Proofs.Lasting
import HillClimb.Proofs.Nesting
import HillClimb.Proofs.Passive
import HillClimb.Proofs.Peers
import HillClimb.Proofs.Protocol
import HillClimb.Proofs.Readings
import HillClimb.Proofs.Restart
import HillClimb.Proofs.Retelling
import HillClimb.Proofs.Rounding
import HillClimb.Proofs.Rounds
import HillClimb.Proofs.SideBySide
import HillClimb.Proofs.Stagnation
import HillClimb.Proofs.Strictness
import HillClimb.Proofs.Telling
import HillClimb.Proofs.Transitions
import HillClimb.Proofs.Turns
import HillClimb.Proofs.Unfolding
import HillClimb.Proofs.ValueOrder
import HillClimb.Proofs.Wholeness
