import Tateru.ForStd.Except
import Tateru.ForStd.Run
import Tateru.ForStd.Fair
import Tateru.ForStd.Watch
import Tateru.ForStd.Effect
import Tateru.ForStd.Simulates
import Tateru.ForStd.List
import Tateru.ForStd.Decimal
import Tateru.ForStd.Unicode
import Tateru.ForStd.Str
import Tateru.ForStd.Lossy
import Tateru.ForStd.CStr
import Tateru.Native.Error
import Tateru.Native.Types
import Tateru.Native.FileSys
import Tateru.Native.Devices
import Tateru.Native.Engine
import Tateru.Native.Mock
import Tateru.Native.Ffi
import Tateru.Native.Vz
import Tateru.Native.VzConfiguration
import Tateru.Native.Builder
import Tateru.Native.Config
import Tateru.Native.Bridge
import Tateru.Native.Launch
import Tateru.Native.Handle
import Tateru.Native.MockVmControl
import Tateru.Native.Ports
import Tateru.Spec.MemoryParse
import Tateru.Spec.MemoryRoundtrip
import Tateru.Spec.LaunchPlan
import Tateru.Spec.SocketPaths
import Tateru.Spec.LibkrunCalls
import Tateru.Spec.EngineFs
import Tateru.Spec.Marshalling
import Tateru.Spec.DeviceNames
import Tateru.Spec.KrunLaunch
import Tateru.Spec.LaunchSimulates
import Tateru.Spec.LaunchCleanup
import Tateru.Spec.ConfigFile
import Tateru.Spec.ZeroValues
import Tateru.Spec.VzContexts
import Tateru.Spec.VzConfigurations
import Tateru.Spec.VzLaunch
import Tateru.Spec.BridgeSteps
import Tateru.Spec.VmStep
import Tateru.Spec.ShutdownSignal
import Tateru.Spec.AcceptLoops
import Tateru.Spec.Lifecycle
import Tateru.Spec.JoinedStops
import Tateru.Spec.FailedStops
import Tateru.Spec.MockRefines
import Tateru.Spec.Fleet
import Tateru.Spec.Leftovers
import Tateru.Spec.LaunchRefines
import Tateru.Spec.PortClashes
import Tateru.Spec.Workdirs
import Tateru.Spec.Restart
import Tateru.Spec.FleetFiles
import Tateru.Spec.FleetCalls
import Tateru.Spec.BridgeCopy
import Tateru.Spec.Connections
import Tateru.Spec.Routing
import Tateru.Spec.CallsReturn
import Tateru.Spec.TasksEnd
import Tateru.Spec.StopEnds
import Tateru.Spec.StuckConnections
import Tateru.Spec.Delivery
