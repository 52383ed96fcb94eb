import PSMoveInput.Transducer
import PSMoveInput.EdgeTrace
import PSMoveInput.Common
import PSMoveInput.KeyMapParser
import PSMoveInput.KeyMapConfig
import PSMoveInput.Handler
import PSMoveInput.HandlerScan
import PSMoveInput.HandlerCalls
import PSMoveInput.ReportTrace
import PSMoveInput.KeyTransitions
import PSMoveInput.KeyLevels
import PSMoveInput.Triggers
import PSMoveInput.Independence
import PSMoveInput.SpecialKeys
import PSMoveInput.ChangeFilter
import PSMoveInput.ControllerThread
import PSMoveInput.Listener
import PSMoveInput.ListenerAgreement
import PSMoveInput.HandlerThreads
import PSMoveInput.Concurrency
import PSMoveInput.Gestures
import PSMoveInput.Movement
import PSMoveInput.ListenerSlots
import PSMoveInput.ListenerThreads
import PSMoveInput.ListenerShutdown
import PSMoveInput.HandleOwnership
import PSMoveInput.PidFile
import PSMoveInput.Config
import PSMoveInput.ConfigKeyMaps
import PSMoveInput.Arithmetic
import PSMoveInput.Frames
import PSMoveInput.InputDevice
import PSMoveInput.DeviceFrames
import PSMoveInput.Elapsed
import PSMoveInput.Measurements
import PSMoveInput.Orbit
import PSMoveInput.CallChain
import PSMoveInput.ThreadLoop
import PSMoveInput.GestureSpacing
import PSMoveInput.ConfigSources
import PSMoveInput.Connect
import PSMoveInput.Attempt
import PSMoveInput.Paths
import PSMoveInput.Program
import PSMoveInput.ProgramSteps
import PSMoveInput.PidFilePaths
import PSMoveInput.Requests
import PSMoveInput.SecondStart
import PSMoveInput.PidFileCleanup
import PSMoveInput.Instances
import PSMoveInput.SignalSafety
import PSMoveInput.Liveness
import PSMoveInput.ListenerLiveness
import PSMoveInput.HandleRelease
import PSMoveInput.Teardown
import PSMoveInput.Simulation
import PSMoveInput.ListenerRefinement
import PSMoveInput.DeviceStream
import PSMoveInput.DeviceSetup
import PSMoveInput.DeviceRefinement
import PSMoveInput.ReaderKeys
import PSMoveInput.SampledKeys
import PSMoveInput.Occurrence
import PSMoveInput.DisconnectKey
import PSMoveInput.DeviceLiveness
import PSMoveInput.ReaderMotion
import PSMoveInput.Leds
import PSMoveInput.ConnectLiveness
import PSMoveInput.ReaderTriggers
import PSMoveInput.ConfiguredKeys
