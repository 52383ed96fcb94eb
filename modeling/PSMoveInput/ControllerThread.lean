import PSMoveInput.Handler

/-! `PSMoveListener::ControllerThread`: what a controller thread does with one sample. -/
namespace PSMoveInput

def calibratedGyroCoeff : ℚ := 10

/-- What `psmove_poll` makes available, with the clock readings taken while it is processed. -/
structure Sample where
  gyroscope : ℤ × ℤ × ℤ
  gyroscopeFrame : ℚ × ℚ × ℚ
  buttons : Word
  gyroClock : Clock
  buttonsClock : Clock
  tp : Timespec

/-- The members of a slot that the modelled functions use, with the local counter of
`operator()`. `running` says that `thread_` is set. -/
structure ControllerThread where
  id : ControllerId
  running : Bool
  calibrated : Bool
  pollTimeout : ℤ
  gestureTimeout : ℤ
  buttons : Word
  lastTp : Timespec
  gestureCount : ℤ

/-- The constructor. -/
def ControllerThread.new : ControllerThread where
  id := .first
  running := false
  calibrated := false
  pollTimeout := 0
  gestureTimeout := 0
  buttons := 0#32
  lastTp := ⟨0, 0⟩
  gestureCount := 0

/-- `start` leaves `buttons_` as the previous thread of the slot left it. -/
def ControllerThread.start (t : ControllerThread) (id : ControllerId) (calibrated : Bool)
    (pollTimeout gestureTimeout : ℤ) : ControllerThread :=
  -- only start new thread if there isn't one already running
  if t.running = false then
    { t with
      id := id
      running := true
      calibrated := calibrated
      pollTimeout := pollTimeout
      gestureTimeout := gestureTimeout
      gestureCount := 0 }
  else t

/-- The gyroscope values `gx` and `gz` of a sample. The product of the calibrated values is exact
here, where the source rounds it to a `float`. -/
def ControllerThread.gyro (t : ControllerThread) (x : Sample) : ℤ × ℤ :=
  if t.calibrated = true then
    (toInt (x.gyroscopeFrame.1 * calibratedGyroCoeff),
      toInt (x.gyroscopeFrame.2.2 * calibratedGyroCoeff))
  else (x.gyroscope.1, x.gyroscope.2.2)

/-- The gyroscope or gesture signal of a sample, and the gesture counter after it. -/
def ControllerThread.reportGyro (t : ControllerThread) (x : Sample) : ℤ × List Call :=
  let (gx, gz) := t.gyro x
  match t.id with
  | .first => (t.gestureCount, [.onGyroscope x.gyroClock (-gz) (-gx)])
  | .second =>
    -- every so many samples count as one gesture reading
    if t.gestureCount + 1 > t.gestureTimeout.tdiv t.pollTimeout then
      (0, [.onGesture x.gyroClock (-gz) gx])
    else (t.gestureCount + 1, [])

/-- The body of the polling loop of `operator()`; the signals are the handler calls that
`startListener` connects them to. -/
def ControllerThread.poll (t : ControllerThread) (x : Sample) : ControllerThread × List Call :=
  let (gestureCount, gyroCalls) := t.reportGyro x
  -- an unchanged word is not reported
  let buttonCalls := if t.buttons ≠ x.buttons then [.onButtons x.buttonsClock x.buttons t.id] else []
  ({ t with gestureCount := gestureCount, buttons := x.buttons, lastTp := x.tp },
    gyroCalls ++ buttonCalls)

/-- The statements of `operator()` after its loop, up to the notification of the listener. -/
def ControllerThread.exit (t : ControllerThread) : ControllerThread :=
  { t with running := false, lastTp := ⟨0, 0⟩ }

end PSMoveInput
