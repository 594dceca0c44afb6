import FlyingSquirrel.Hw.Mpu6050
import FlyingSquirrel.Mav.Listener

/-!
# The I2C driver of the IMU (`hw/i2c_imu.rs`)

The driver opens the bus, looks at the chip's identity, wakes it and sets its ranges; then it
reads a frame on every tick and asks the read health what to make of it. When the ladder says
so it opens and initialises again, and keeps the handle it has if that fails.

The bus and the chip are what answers: the replies to the transactions are inputs, and the
transactions themselves are outputs, each on its handle.
-/

set_option autoImplicit false

namespace FlyingSquirrel

open Lib

structure I2cImuConfig (α : Type) where
  bus : String
  addr : UInt8
  rateHz : α
  axisMap : AxisMap α

/-- The replies to the transactions of one initialisation. A failure is its text. -/
structure InitReplies where
  opened : Except String Unit
  whoAmI : Except String UInt8
  wake : Except String Unit
  accelConfig : Except String Unit
  gyroConfig : Except String Unit

/-- A transaction on an open handle, with its reply. -/
inductive BusOp
  /-- `write_read`, of the identity. -/
  | whoAmI (handle : Nat) (reply : Except String UInt8)
  | write (handle : Nat) (reg value : UInt8) (reply : Except String Unit)
  /-- `write_read`, of a frame. -/
  | burst (handle : Nat) (reply : ImuRead)

inductive DriverOutput (α : Type)
  | bus (op : BusOp)
  /-- `yield Ok(sample)`. -/
  | sample (s : ImuSample α)
  /-- `yield Err(e)`, with the text of the error. -/
  | error (message : String)
  /-- The warning of a sample that is dropped. -/
  | droppedSample
  | recovered (priorErrors : Nat)
  | degraded (kind : TroubleKind) (consecutiveErrors : Nat)
  | busDown (kind : TroubleKind) (consecutiveErrors : Nat)
  | reinitialised (consecutiveErrors : Nat)
  | reinitFailed (message : String)

/-- `open_and_init`: the transactions on the new handle, and the error if there is one. The
    identity is looked at before anything is written. -/
def openAndInit (bus : String) (handle : Nat) (r : InitReplies) : Except String Unit × List BusOp :=
  match r.opened with
  | .error e => (.error ("open i2c bus " ++ bus ++ ": " ++ e), [])
  | .ok () =>
    let who := BusOp.whoAmI handle r.whoAmI
    match r.whoAmI with
    | .error e => (.error ("mpu6050 who_am_i read: " ++ e), [who])
    | .ok chip =>
      match checkWhoAmI chip with
      | .error m => (.error m, [who])
      | .ok () =>
        let wake := BusOp.write handle regPwrMgmt1 0x00 r.wake
        match r.wake with
        | .error e => (.error ("mpu6050 wake: " ++ e), [who, wake])
        | .ok () =>
          let accel := BusOp.write handle regAccelConfig 0x00 r.accelConfig
          match r.accelConfig with
          | .error e => (.error ("mpu6050 accel cfg: " ++ e), [who, wake, accel])
          | .ok () =>
            let gyro := BusOp.write handle regGyroConfig 0x00 r.gyroConfig
            match r.gyroConfig with
            | .error e => (.error ("mpu6050 gyro cfg: " ++ e), [who, wake, accel, gyro])
            | .ok () => (.ok (), [who, wake, accel, gyro])

inductive DriverInput
  /-- The stream is polled for the first time. -/
  | start (replies : InitReplies)
  /-- The ticker fires: the reply to the read, and those to a new initialisation if there is
      one. -/
  | tick (now : Instant) (read : ImuRead) (replies : InitReplies)

structure I2cImu (α : Type) where
  cfg : I2cImuConfig α
  /-- The handle in use, once there is one. -/
  handle : Option Nat
  /-- How many times a handle has been asked for. -/
  attempts : Nat
  health : ReadHealth
  ended : Bool

namespace I2cImu

variable {α : Type} [Zero α] [One α] [Neg α] [Add α] [Sub α] [Mul α] [Div α] [IntCast α]
  [OfScientific α] [LT α] [LE α] [DecidableLT α] [DecidableLE α] [Libm α] [FiniteTest α]

def new (cfg : I2cImuConfig α) : I2cImu α := ⟨cfg, none, 0, .new, false⟩

/-- The log lines of a bad read. -/
def logTrouble (t : Trouble) : List (DriverOutput α) :=
  (if t.warnDegraded then [.degraded t.kind t.consecutiveErrors] else []) ++
    if t.endStream then [.busDown t.kind t.consecutiveErrors] else []

/-- What is done about a bad read. -/
def onTrouble (d : I2cImu α) (t : Trouble) (replies : InitReplies) :
    I2cImu α × List (DriverOutput α) :=
  if t.endStream then ({ d with ended := true }, logTrouble t)
  else if t.reinit then
    let (result, ops) := openAndInit d.cfg.bus d.attempts replies
    match result with
    | .ok () =>
      ({ d with handle := some d.attempts, attempts := d.attempts + 1 },
        logTrouble t ++ ops.map .bus ++ [.reinitialised t.consecutiveErrors])
    | .error e =>
      ({ d with attempts := d.attempts + 1 }, logTrouble t ++ ops.map .bus ++ [.reinitFailed e])
  else (d, logTrouble t)

/-- One turn of the loop, on the handle `h`. -/
def onTick (d : I2cImu α) (h : Nat) (now : Instant) (read : ImuRead) (replies : InitReplies) :
    I2cImu α × List (DriverOutput α) :=
  let burst : DriverOutput α := .bus (.burst h read)
  match read with
  | .ok raw =>
    match d.health.onReadOk raw with
    | (health, .fresh recoveredAfter) =>
      let sample := sampleFromRaw raw d.cfg.axisMap now
      ({ d with health := health },
        burst :: recoveredAfter.toList.map .recovered ++
          [if imuSampleIsPlausible sample then .sample sample else .droppedSample])
    | (health, .frozen t) =>
      andThen ({ d with health := health }, [burst]) fun d => d.onTrouble t replies
  | .err =>
    let (health, t) := d.health.onReadErr
    andThen ({ d with health := health }, [burst]) fun d => d.onTrouble t replies

/-- The stream, one poll after another. After it has ended it brings nothing. -/
def step (d : I2cImu α) (i : DriverInput) : I2cImu α × List (DriverOutput α) :=
  if d.ended then (d, [])
  else
    match i, d.handle with
    | .start replies, none =>
      let (result, ops) := openAndInit d.cfg.bus d.attempts replies
      match result with
      | .ok () =>
        ({ d with handle := some d.attempts, attempts := d.attempts + 1 }, ops.map .bus)
      | .error e =>
        ({ d with attempts := d.attempts + 1, ended := true }, ops.map .bus ++ [.error e])
    | .tick now read replies, some h => d.onTick h now read replies
    | _, _ => (d, [])

end I2cImu
end FlyingSquirrel
