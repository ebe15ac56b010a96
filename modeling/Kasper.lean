import Kasper.Library.ByteMemory
import Kasper.Library.UndoLog
import Kasper.Library.Exits
import Kasper.Runtime.State
import Kasper.Runtime.Statistics
import Kasper.Runtime.Registers
import Kasper.Runtime.Restore
import Kasper.Runtime.Bugs
import Kasper.Runtime.Internal
import Kasper.Runtime.Whitelist
import Kasper.Runtime.Interface
import Kasper.Correctness.WriteLog
import Kasper.Correctness.Assertions
import Kasper.Correctness.Replay
import Kasper.Correctness.Restart
import Kasper.Correctness.Rollback
import Kasper.Correctness.Logging
import Kasper.Correctness.MemoryRestoration
import Kasper.Runtime.Boot
import Kasper.Correctness.Coherence
import Kasper.Correctness.Rider
import Kasper.Correctness.Sections
import Kasper.Correctness.Hooks
import Kasper.Runtime.Machine
import Kasper.Correctness.Interrupts
import Kasper.Correctness.Events
import Kasper.Correctness.Idle
import Kasper.Correctness.StateMachine
import Kasper.Correctness.RestartFlag
import Kasper.Correctness.ReportAttribution
import Kasper.Correctness.SwapFlag
import Kasper.Passes.KSpecEm
import Kasper.Correctness.CallDepth
import Kasper.Correctness.InlineAssembly
import Kasper.Correctness.ExitKinds
import Kasper.Correctness.BlockLogging
import Kasper.Correctness.ReadFaults
import Kasper.Correctness.LiveFrames
import Kasper.Correctness.Admission
import Kasper.Correctness.ReportQueue
import Kasper.Passes.KSpecEmCheckSpecLength
import Kasper.Correctness.SpecWindow
import Kasper.Correctness.FaultedReplay
import Kasper.Correctness.Deduplication
import Kasper.Correctness.FrameCounting
import Kasper.Correctness.LogEntries
import Kasper.Correctness.WriteCoverage
import Kasper.Correctness.Environment
import Kasper.Correctness.InlineasmTable
import Kasper.Library.Numerals
import Kasper.Runtime.Utils
import Kasper.Correctness.Itoa
import Kasper.Correctness.Resumption
import Kasper.Correctness.RedirectedAccess
import Kasper.Correctness.RestartBalance
import Kasper.Correctness.TableExistence
import Kasper.Correctness.Undoable
import Kasper.Library.Simulation
import Kasper.Correctness.Jumps
import Kasper.Correctness.Process
import Kasper.Correctness.Transparency
import Kasper.Correctness.SectionNesting
import Kasper.Correctness.SectionFlag
import Kasper.Correctness.KernelLog
import Kasper.Correctness.PendingFailures
import Kasper.Correctness.Strings
import Kasper.Correctness.Instrumentation
import Kasper.Correctness.InstrumentedRuns
import Kasper.Correctness.InsertedHooks
import Kasper.Correctness.HookedWrites
