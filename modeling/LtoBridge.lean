import LtoBridge.Files.Workspace
import LtoBridge.Linker.Recorded
import LtoBridge.Linker.Scripted
import LtoBridge.Machine
import LtoBridge.Plugin
import LtoBridge.Session
import LtoBridge.Programs.Launcher
import LtoBridge.Proofs.SymbolTable.RoundTrip
import LtoBridge.Proofs.Act
import LtoBridge.Proofs.Script
import LtoBridge.Proofs.Session.Resolution
import LtoBridge.Proofs.Session.AllSymbolsRead
import LtoBridge.Proofs.Session.Claiming
import LtoBridge.Proofs.Session.Cleanup
import LtoBridge.Proofs.Session.History
import LtoBridge.Proofs.Linker.Pinned
import LtoBridge.Proofs.Session.ResolutionText
import LtoBridge.Proofs.Session.Copies
import LtoBridge.Proofs.Session.Place
import LtoBridge.Proofs.Session.Verdict
import LtoBridge.Proofs.Session.Undisturbed
import LtoBridge.Proofs.Session.TemporaryFiles
import LtoBridge.Proofs.Session.KeptCopies
import LtoBridge.Proofs.Session.Offers
import LtoBridge.Proofs.ArgumentsFile
import LtoBridge.Proofs.Session.Arguments
import LtoBridge.Proofs.Files.Losses
import LtoBridge.Proofs.Session.Teardown
import LtoBridge.Proofs.Session.Endings
import LtoBridge.Proofs.Session.OwnCalls
import LtoBridge.Proofs.Session.OwnFiles
import LtoBridge.Proofs.Files.Contents
import LtoBridge.Proofs.Session.Leftovers
import LtoBridge.Proofs.Session.Evidence
import LtoBridge.Proofs.Session.AppendOnly
import LtoBridge.Proofs.Options
import LtoBridge.Proofs.Session.Forwarding
import LtoBridge.Proofs.Linker.Vector
import LtoBridge.Proofs.Plugin.Loading
import LtoBridge.Proofs.Session.Renumbering
import LtoBridge.Proofs.Session.RenumberedDisks
import LtoBridge.Proofs.Session.RenumberedMachines
import LtoBridge.Proofs.Session.RenumberedSessions
import LtoBridge.Proofs.Session.ParallelRuns
import LtoBridge.Proofs.Session.DeclinedOffers
import LtoBridge.Proofs.Elf.Layout
import LtoBridge.Proofs.Elf.Reading
import LtoBridge.Proofs.Elf.Found
import LtoBridge.Proofs.Elf.Packed
import LtoBridge.Proofs.Elf.EveryLayout
import LtoBridge.Proofs.Plugin.FailedLoading
import LtoBridge.Proofs.Session.Surroundings
import LtoBridge.Proofs.Session.Refusals
import LtoBridge.Proofs.Linker.Answered
import LtoBridge.Proofs.Plugin.Hooks
import LtoBridge.Proofs.Plugin.Decisions
import LtoBridge.Proofs.SymbolTable.Faults
import LtoBridge.Proofs.SymbolTable.Cuts
import LtoBridge.Proofs.ResolutionFile
import LtoBridge.Proofs.Elf.Padding
import LtoBridge.Proofs.Session.PaddedFiles
import LtoBridge.Proofs.Linker.Bindings
import LtoBridge.Proofs.Linker.Resolutions
import LtoBridge.Proofs.Backend
import LtoBridge.Proofs.Extraction
import LtoBridge.Proofs.Session.BackendOutput
import LtoBridge.Proofs.Options.Words
import LtoBridge.Proofs.Options.Partition
import LtoBridge.Proofs.SymbolTable.Cursor
