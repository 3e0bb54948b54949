import KernelForge.Main
import KernelForge.Rehearsal.Session
import KernelForge.Proofs.Cache.CommandLine
import KernelForge.Proofs.Cache.Consistency
import KernelForge.Proofs.Cache.Persistence
import KernelForge.Proofs.Cache.Publication
import KernelForge.Proofs.Cache.Report
import KernelForge.Proofs.Call.Blocks
import KernelForge.Proofs.Call.Record
import KernelForge.Proofs.Call.Safety
import KernelForge.Proofs.Cli.Cleaning
import KernelForge.Proofs.Config.Sources
import KernelForge.Proofs.Digest.Reading
import KernelForge.Proofs.Forge.FailedBuild
import KernelForge.Proofs.Forge.Loads
import KernelForge.Proofs.Forge.Recovery
import KernelForge.Proofs.Formula.Bindings
import KernelForge.Proofs.Formula.Wrapping
