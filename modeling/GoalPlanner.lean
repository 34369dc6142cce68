import GoalPlanner.Agent.Setup
import GoalPlanner.Document.Samples
import GoalPlanner.Event.Journal
import GoalPlanner.Main
import GoalPlanner.Proofs.Agent.History
import GoalPlanner.Proofs.Agent.Progress
import GoalPlanner.Proofs.Agent.Verdict
import GoalPlanner.Proofs.Binding
import GoalPlanner.Proofs.ClosedWorld
import GoalPlanner.Proofs.Deferral
import GoalPlanner.Proofs.Document.Misfit
import GoalPlanner.Proofs.Document.Spellings
import GoalPlanner.Proofs.Event.Delivery
import GoalPlanner.Proofs.Named
import GoalPlanner.Proofs.Neighbours
import GoalPlanner.Proofs.Offline
import GoalPlanner.Proofs.Plan.Admissible
import GoalPlanner.Proofs.Plan.Best
import GoalPlanner.Proofs.Plan.Goals
import GoalPlanner.Proofs.Plan.Idle
import GoalPlanner.Proofs.Plan.Limit
import GoalPlanner.Proofs.Plan.Mirror
import GoalPlanner.Proofs.Plan.Stable
import GoalPlanner.Proofs.Plan.Turns
import GoalPlanner.Proofs.Registry
import GoalPlanner.Proofs.Settings
