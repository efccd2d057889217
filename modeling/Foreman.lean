import Foreman.Main
import Foreman.Simulation.App
import Foreman.Simulation.Cli
import Foreman.Simulation.Configuration
import Foreman.Simulation.Notify
import Foreman.Simulation.Routine
import Foreman.Simulation.Shm
import Foreman.Simulation.Spawn
import Foreman.Simulation.Storage
import Foreman.Simulation.Supervisor
import Foreman.Proofs.Store.Pinning
import Foreman.Proofs.Worker.Ceilings
import Foreman.Proofs.Worker.Handles
import Foreman.Proofs.Cleanup.Duty
import Foreman.Proofs.Cleanup.Report
import Foreman.Proofs.Cleanup.Record
import Foreman.Proofs.Runtime.Restarts
import Foreman.Proofs.Config.Publication
import Foreman.Proofs.Config.Strictness
import Foreman.Proofs.Queue.Fairness
import Foreman.Proofs.Workers.Rotation
import Foreman.Proofs.Config.Soundness
import Foreman.Proofs.Jobs.StartCheck
import Foreman.Proofs.Store.Placeholders
import Foreman.Proofs.Jobs.QueueUnion
import Foreman.Proofs.App.CommandLine
import Foreman.Proofs.Schedule.Next
