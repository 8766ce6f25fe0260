import Organism.Main
import Organism.Proofs.Scheduler.Isolation
import Organism.Proofs.Scheduler.Restoring
import Organism.Proofs.Scheduler.Sampling
import Organism.Proofs.Scheduler.Protection
import Organism.Proofs.Scheduler.Intervals
import Organism.Proofs.Scheduler.Building
import Organism.Proofs.Scheduler.Crash
import Organism.Proofs.Command.Atomic
import Organism.Proofs.Scheduler.Display
import Organism.Proofs.Files.Attempt
import Organism.Proofs.Signal.Observation
import Organism.Proofs.Command.Loading
import Organism.Proofs.Anatomy.Attachment
import Organism.Proofs.Health.Neighbours
import Organism.Proofs.Request.Grammar
import Organism.Proofs.Shell.Lines
import Organism.Proofs.State.Order
import Organism.Proofs.State.Errors
import Organism.Proofs.Settings.Levels
import Organism.Proofs.Scheduler.Independence
import Organism.Proofs.Daemon.Simulation
import Organism.Proofs.Command.Overview
import Organism.Proofs.Sense.Baseline
import Organism.Proofs.Daemon.Gentle
import Organism.Proofs.Scheduler.Iteration
import Organism.Proofs.Memory.Listing
import Organism.Proofs.Anatomy.Registry

