import Scriptorium.Config
import Scriptorium.Instance
import Scriptorium.Proofs.Diagnostic.Blanks
import Scriptorium.Proofs.Diagnostic.Blocks
import Scriptorium.Proofs.Diagnostic.Headline
import Scriptorium.Proofs.Diagnostic.Offsets
import Scriptorium.Proofs.Diagnostic.Printing
import Scriptorium.Proofs.Diagnostic.SourcePath
import Scriptorium.Proofs.Diagnostic.WellFormed
import Scriptorium.Proofs.Interrupt.Sharing
import Scriptorium.Proofs.Reference.Baseline
import Scriptorium.Proofs.Reference.LiveMappings
import Scriptorium.Proofs.Reference.Mappings
import Scriptorium.Proofs.Reference.Merge
import Scriptorium.Proofs.Reference.Variants
import Scriptorium.Proofs.Scratch.Confinement
import Scriptorium.Proofs.Scratch.Guards
import Scriptorium.Proofs.Service.Counting
import Scriptorium.Proofs.Service.Independence
import Scriptorium.Proofs.Service.Panics
import Scriptorium.Proofs.Service.Rejection
import Scriptorium.Proofs.Toolchain.Waiting
import Scriptorium.Proofs.Unit.ImageFile
import Scriptorium.Proofs.Unit.Lookup
import Scriptorium.Reference.LoadedModules
import Scriptorium.Rehearsal.Script
import Scriptorium.Rehearsal.Shell.Launcher
import Scriptorium.Service
import Scriptorium.Toolchain.CompilerProgram
import Scriptorium.Unit.Native
