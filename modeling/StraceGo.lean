import StraceGo.EventIntegrityReorder
import StraceGo.EventIntegrityFinalize
import StraceGo.EventIntegrityRecovery
import StraceGo.EventStateLossBarrier
import StraceGo.EventStateInterleaving
import StraceGo.EventStateSingleOwner
import StraceGo.EventStateExecMarkers
import StraceGo.EventStateBorrowedViews
import StraceGo.EventStateUnfinishedLines
import StraceGo.EventStateForkInheritance
import StraceGo.EventStateElision
import StraceGo.ExitStatus
import StraceGo.BpfDescendantTracking
import StraceGo.BpfPendingOwnership
import StraceGo.FDStateCwd
import StraceGo.BpfExecReplacement
import StraceGo.TraceEventReader
import StraceGo.BpfPrograms
import StraceGo.DescriptorSets
import StraceGo.JsonSyscallLines
import StraceGo.JsonEventWriter
import StraceGo.SyscallExitPipeline
import StraceGo.EventInvocationChains
import StraceGo.SyscallLimit
import StraceGo.TextFastLines
import StraceGo.FastEventContexts
import StraceGo.FDStateOffsets
import StraceGo.DirectoryEntries
import StraceGo.SignalSets
import StraceGo.MachineIntegers
import StraceGo.ControlMessages
import StraceGo.IovecDumps
import StraceGo.NetlinkMessages
import StraceGo.XlatFlags
import StraceGo.EscapedBuffers
import StraceGo.EventCounters
import StraceGo.PayloadMerging
import StraceGo.SeparateOutput
import StraceGo.CallSummary
import StraceGo.TraceColor
import StraceGo.BpfResources
import StraceGo.BpfPayloadEvents
import StraceGo.TraceLaunch
import StraceGo.EventChannelRuntime
