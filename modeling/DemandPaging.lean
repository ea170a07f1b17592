import DemandPaging.Host
import DemandPaging.Lock
import DemandPaging.Main
import DemandPaging.Table.Guarded
import DemandPaging.Proofs.RadixLaws
import DemandPaging.Proofs.Outcome
import DemandPaging.Proofs.PoolLaws
import DemandPaging.Proofs.GeometryLaws
import DemandPaging.Proofs.DeviceEffects
import DemandPaging.Proofs.MachineActions
import DemandPaging.Proofs.NoSharing
import DemandPaging.Proofs.ReadBack
import DemandPaging.Proofs.NoLeaks
import DemandPaging.Proofs.PageInOrder
import DemandPaging.Proofs.Tiling
import DemandPaging.Proofs.Maintaining
import DemandPaging.Proofs.Reservations
import DemandPaging.Proofs.Partition
import DemandPaging.Proofs.RegionsTile
import DemandPaging.Proofs.FirstFit
import DemandPaging.Proofs.AreasApart
import DemandPaging.Proofs.Noninterference
import DemandPaging.Proofs.RunsAlone
import DemandPaging.Proofs.FrameLedger
import DemandPaging.Proofs.EnoughMemory
import DemandPaging.Proofs.KernelCustody
import DemandPaging.Proofs.Syscalls
import DemandPaging.Proofs.KernelRuns
import DemandPaging.Proofs.Mirroring
import DemandPaging.Proofs.Interchange
import DemandPaging.Proofs.ProcessMoves
import DemandPaging.Proofs.Rollback
import DemandPaging.Proofs.EagerGrowth
import DemandPaging.Proofs.ProgramFormat
import DemandPaging.Proofs.TableEdits
import DemandPaging.Proofs.OutOfMemory
import DemandPaging.Proofs.FaultOutcome
import DemandPaging.Proofs.RangeEviction
import DemandPaging.Proofs.GuardedMapping
import DemandPaging.Proofs.EagerMapping
import DemandPaging.Proofs.PatternInstall
import DemandPaging.Proofs.Unguarded
import DemandPaging.Proofs.FailedWrites
import DemandPaging.Proofs.BulkRequests
import DemandPaging.Proofs.StrandedFrames
import DemandPaging.Proofs.DirtyPages
import DemandPaging.Proofs.Draining
import DemandPaging.Proofs.LoadErrors
import DemandPaging.Proofs.ValidConfigurations
import DemandPaging.Proofs.ByteStore
import DemandPaging.Proofs.RadixNodes
import DemandPaging.Proofs.WholePages
