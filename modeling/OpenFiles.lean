import OpenFiles.Proofs.Console.Calls
import OpenFiles.Proofs.Contention
import OpenFiles.Proofs.FileTree.Atomicity
import OpenFiles.Proofs.FileTree.Normalization
import OpenFiles.Proofs.FileTree.Numbering
import OpenFiles.Proofs.Posix.Refinement
import OpenFiles.Proofs.Service.Appends
import OpenFiles.Proofs.Service.Consistency
import OpenFiles.Proofs.Service.ConsoleStreams
import OpenFiles.Proofs.Service.Independence
import OpenFiles.Proofs.Service.Overflow
import OpenFiles.Proofs.Service.RefusedOpens
import OpenFiles.Proofs.Service.Releases
import OpenFiles.Proofs.Service.RoundTrips
import OpenFiles.Proofs.Service.Seeks
import OpenFiles.Proofs.Service.SharedReads
import OpenFiles.Proofs.Service.Teardown
import OpenFiles.Proofs.Service.Undoing
import OpenFiles.Proofs.Service.Unlinked
import OpenFiles.Proofs.Syscall.Agreement
import OpenFiles.Proofs.Syscall.Attached
import OpenFiles.Proofs.Syscall.UserMemory
import OpenFiles.Proofs.Tables.Conservation
import OpenFiles.Proofs.Tables.SlotReuse
import OpenFiles.Proofs.UserSpace.ZeroTerminated
import OpenFiles.Session.Boot
import OpenFiles.Session.Snapshot
import OpenFiles.Session.Tasks
