import DevilzDen.Foundation.Table
import DevilzDen.Foundation.Run
import DevilzDen.Foundation.Threads
import DevilzDen.Foundation.Intervals
import DevilzDen.Foundation.Program
import DevilzDen.Foundation.Numeral
import DevilzDen.Foundation.Lines
import DevilzDen.Backend.Error
import DevilzDen.Backend.Memory.Pointer
import DevilzDen.Foundation.Search
import DevilzDen.Backend.Memory.Pattern
import DevilzDen.Foundation.LongestRun
import DevilzDen.Backend.Memory.PatternGrammar
import DevilzDen.Backend.Memory.PatternScanner
import DevilzDen.Backend.Memory.Module
import DevilzDen.Backend.Memory.PatternCache
import DevilzDen.Backend.Memory.PatternBatchScanner
import DevilzDen.Backend.Memory.PatternManager
import DevilzDen.Foundation.TwoWayTable
import DevilzDen.Integrations.GTA5Enhanced.Natives.NativeHash
import DevilzDen.Integrations.GTA5Enhanced.Natives.NativeCrossmap
import DevilzDen.Integrations.GTA5Enhanced.Natives.NativeCrossmapText
import DevilzDen.Backend.Process.VirtualMemory
import DevilzDen.Integrations.GTA5Enhanced.Natives.GTANativeManager
import DevilzDen.Backend.Process.ProcessPattern
import DevilzDen.Backend.SignaturePipelines
import DevilzDen.Backend.Memory.PatternCachePersistence
import DevilzDen.Backend.Memory.PatternCacheLoads
import DevilzDen.Backend.Memory.PatternCacheMap
import DevilzDen.Integrations.GTA5Enhanced.Runtime.BuildInfo
import DevilzDen.Integrations.GTA5Enhanced.Natives.NativeTable
import DevilzDen.Integrations.GTA5Enhanced.Natives.NativeManager
import DevilzDen.Integrations.GTA5Enhanced.Natives.NativeInvoker
import DevilzDen.Integrations.GTA5Enhanced.Runtime.GTARunScriptThreadsBridge
import DevilzDen.Backend.Process.HostProcess
import DevilzDen.Foundation.Loop
import DevilzDen.Backend.Process.LocalReads
import DevilzDen.Integrations.GTA5Enhanced.Memory.GTATargetDefinition
import DevilzDen.Integrations.GTA5Enhanced.Memory.GTATargetEvidence
import DevilzDen.Integrations.GTA5Enhanced.Memory.GTATargetValidator
import DevilzDen.Integrations.GTA5Enhanced.Memory.GTATargetResolver
import DevilzDen.Integrations.GTA5Enhanced.Memory.GTATargetUniqueness
import DevilzDen.Integrations.GTA5Enhanced.Memory.GTAAddressChains
import DevilzDen.Integrations.GTA5Enhanced.Runtime.BuildInfoDetector
import DevilzDen.Integrations.GTA5Enhanced.Runtime.GTABuildRegistry
import DevilzDen.Integrations.GTA5Enhanced.GTAModuleManager
import DevilzDen.Runtime.RuntimeManager
import DevilzDen.Backend.Threading.QueueExecutor
import DevilzDen.Backend.Logging.LoggerService
import DevilzDen.Backend.Logging.LogSequence
import DevilzDen.Integrations.GTA5Enhanced.Runtime.GTARunScriptThreadsUnload
import DevilzDen.Integrations.GTA5Enhanced.Script.ScriptGlobalManager
import DevilzDen.Backend.Memory.MemoryManager
import DevilzDen.Integrations.GTA5Enhanced.Script.ScriptRuntimeManager
import DevilzDen.Integrations.GTA5Enhanced.Runtime.GTARuntime
import DevilzDen.Backend.Filesystem.FileSystemMonitor
import DevilzDen.Backend.Filesystem.FileSystemMonitorManager
import DevilzDen.Foundation.FileTree
import DevilzDen.Backend.Filesystem.FileSystemManager
import DevilzDen.Foundation.Batch
import DevilzDen.Integrations.GTA5Enhanced.Natives.NativeBatches
import DevilzDen.Integrations.GTA5Enhanced.Natives.GTANativeCallContext
import DevilzDen.Integrations.GTA5Enhanced.Natives.GTANativeInvoke
import DevilzDen.Integrations.GTA5Enhanced.Memory.GTAScriptThreadsEvidence
import DevilzDen.Integrations.GTA5Enhanced.Runtime.GTAScriptThreadsAgreement
import DevilzDen.Backend.Memory.PatternCompleteness
import DevilzDen.Foundation.Reading
import DevilzDen.Backend.Memory.PatternReads
import DevilzDen.Backend.Memory.PatternMatches
import DevilzDen.Backend.Memory.PatternSessions
import DevilzDen.Integrations.GTA5Enhanced.Script.ScriptGlobal
import DevilzDen.Integrations.GTA5Enhanced.Runtime.GTAScriptThreadsReads
import DevilzDen.Integrations.GTA5Enhanced.TextLoaders
import DevilzDen.Backend.Memory.MemoryCounts
import DevilzDen.Backend.Memory.MemorySnapshot
import DevilzDen.Backend.Memory.MemoryLeaks
import DevilzDen.Backend.Filesystem.DirectoryManager
import DevilzDen.Backend.Filesystem.FolderSystemManager
import DevilzDen.Backend.Logging.LoggerManager
import DevilzDen.Backend.Memory.PatternParallel
import DevilzDen.Integrations.GTA5Enhanced.Runtime.GTAPrologueAgreement
import DevilzDen.Integrations.GTA5Enhanced.Runtime.BuildInfoAgreement
import DevilzDen.Integrations.GTA5Enhanced.Runtime.GTASmokeTest
import DevilzDen.Backend.Memory.PointerChains
import DevilzDen.Runtime.RuntimeLogging
import DevilzDen.Runtime.DLLBootstrap
import DevilzDen.Runtime.DLLUnload
import DevilzDen.Foundation.Columns
import DevilzDen.Backend.ErrorDescription
import DevilzDen.Backend.Logging.FileSink
import DevilzDen.Backend.Memory.ModuleFingerprint
import DevilzDen.Backend.Logging.ConsoleSink
import DevilzDen.Integrations.GTA5Enhanced.Natives.NativeIndexedInvoker
import DevilzDen.Backend.Filesystem.FileSystemMonitorWorker
import DevilzDen.Runtime.RuntimeCode
import DevilzDen.Backend.Filesystem.FileSystemStore
import DevilzDen.Integrations.GTA5Enhanced.Script.ScriptObjects
import DevilzDen.Runtime.RuntimeReport
import DevilzDen.Backend.Threading.ThreadManager
import DevilzDen.Runtime.DLLCode
import DevilzDen.Integrations.GTA5Enhanced.Natives.NativeCallContext
import DevilzDen.Integrations.GTA5Enhanced.Memory.GTAPointerManager
import DevilzDen.Runtime.DLLCodeUnload
