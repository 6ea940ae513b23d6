import LivoxMid360.Protocol.Burst
import LivoxMid360.Device.CommandLock
import LivoxMid360.Device.ConnectionEvents
import LivoxMid360.Device.Cancel
import LivoxMid360.Device.HostSetup
import LivoxMid360.Device.ShadowState
import LivoxMid360.Device.PushHms
import LivoxMid360.Context.Consistency
import LivoxMid360.FrameAssembler.FrameCounter
import LivoxMid360.FrameAssembler.HostClock
import LivoxMid360.Protocol.Canonical
import LivoxMid360.Device.Outages
import LivoxMid360.Lvx2.Isolation
import LivoxMid360.Lvx2.HostileFiles
import LivoxMid360.Lvx2.TimeLine
import LivoxMid360.Lvx2.FailedWrites
import LivoxMid360.FrameAssembler.Fallback
import LivoxMid360.BoundedQueue
import LivoxMid360.Endpoint
import LivoxMid360.Device.Timers
import LivoxMid360.Device.LogPort
import LivoxMid360.DebugData.Reader
import LivoxMid360.Simulator.Faults
import LivoxMid360.Simulator.RemoteCalls
