import FlyingSquirrel.Config
import FlyingSquirrel.Mav.Monitor

/-!
# Starting up (`bin/flyingsquirrel.rs`)

The binary resolves its settings in three passes over the same thirty fields: the command line is
parsed, a configuration is merged in where a flag was not given, and either the result is printed
as a configuration (`--print-config`) or the start-up guards look at it.

A `CommandLine` holds what was given explicitly. `Cli::parse` fills in a flag's default first, and
the merge then replaces it by the configuration's value, which has a default of its own; so a
default of `Cli`'s survives only where the configuration has an `Option`.
-/

set_option autoImplicit false

namespace FlyingSquirrel

open Lib Config

inductive GpsSourceKind
  | synth
  | mav
  | serial
deriving DecidableEq, Repr

inductive ImuSourceKind
  | synth
  | mav
  | i2c
deriving DecidableEq, Repr

inductive ControllerKind
  | console
  | mav
deriving DecidableEq, Repr

inductive Scenario
  | clean
  | suddenJump
  | gradualDrift
deriving DecidableEq, Repr

/-! ## The texts of the enumerations

A kind is printed as its `Debug` name in lower case, a scenario with the hyphen put back. -/

def GpsSourceKind.debug : GpsSourceKind → String
  | .synth => "Synth"
  | .mav => "Mav"
  | .serial => "Serial"

def ImuSourceKind.debug : ImuSourceKind → String
  | .synth => "Synth"
  | .mav => "Mav"
  | .i2c => "I2c"

def ControllerKind.debug : ControllerKind → String
  | .console => "Console"
  | .mav => "Mav"

def Scenario.printed : Scenario → String
  | .clean => "clean"
  | .suddenJump => "sudden-jump"
  | .gradualDrift => "gradual-drift"

def VehicleProfile.toString : VehicleProfile → String
  | .arduCopter => "ardu-copter"
  | .px4 => "px4"

section Parse

variable {Addr : Type} (host : Host Addr)

def parseGpsSource (s : String) : Except FsError GpsSourceKind :=
  if s = "synth" then .ok .synth
  else if s = "mav" then .ok .mav
  else if s = "serial" then .ok .serial
  else .error (.config ("unknown gps_source " ++ host.debugStr s ++ "; valid: synth|mav|serial"))

def parseImuSource (s : String) : Except FsError ImuSourceKind :=
  if s = "synth" then .ok .synth
  else if s = "mav" then .ok .mav
  else if s = "i2c" then .ok .i2c
  else .error (.config ("unknown imu_source " ++ host.debugStr s ++ "; valid: synth|mav|i2c"))

def parseController (s : String) : Except FsError ControllerKind :=
  if s = "console" then .ok .console
  else if s = "mav" then .ok .mav
  else .error (.config ("unknown controller " ++ host.debugStr s ++ "; valid: console|mav"))

def parseScenario (s : String) : Except FsError Scenario :=
  if s = "clean" then .ok .clean
  else if s = "sudden-jump" ∨ s = "sudden_jump" then .ok .suddenJump
  else if s = "gradual-drift" ∨ s = "gradual_drift" then .ok .gradualDrift
  else .error (.config ("unknown scenario " ++ host.debugStr s ++
    "; valid: clean|sudden-jump|gradual-drift"))

/-- `VehicleProfile::from_str`. -/
def VehicleProfile.fromStr (s : String) : Except String VehicleProfile :=
  if s = "ardu-copter" ∨ s = "ardu_copter" ∨ s = "arducopter" then .ok .arduCopter
  else if s = "px4" ∨ s = "px4-copter" ∨ s = "px4-fixed-wing" ∨ s = "px4-rover" then .ok .px4
  else .error ("unknown vehicle profile " ++ host.debugStr s ++ "; supported: ardu-copter, px4")

end Parse

/-! ## The command line and what it resolves to -/

/-- What a command line gives explicitly. -/
structure CommandLine (α Addr : Type) where
  config : Option PathBuf
  printConfig : Bool
  gpsSource : Option GpsSourceKind
  imuSource : Option ImuSourceKind
  controller : Option ControllerKind
  scenario : Option Scenario
  seed : Option UInt64
  gpsPort : Option String
  gpsBaud : Option UInt32
  imuBus : Option String
  imuAddr : Option UInt8
  imuRate : Option α
  imuAxisMap : Option String
  mavBind : Option Addr
  mavTarget : Option Addr
  mavTargetSystem : Option UInt8
  mavTargetComponent : Option UInt8
  mavNoSourceFilter : Bool
  mavNoSysidFilter : Bool
  mavAllowAnySourcePort : Bool
  allowSynthToMav : Bool
  allowNoBootAnchorCheck : Bool
  forensicDir : Option PathBuf
  forensicWindowS : Option α
  vehicle : Option VehicleProfile
  expectedHome : Option String
  maxHomeDistanceM : Option α
  duration : Option UInt32
  jsonLog : Option PathBuf
  logLevel : Option String
deriving DecidableEq, Repr

/-- A command line with nothing but `--config`. -/
def CommandLine.onlyConfig {α Addr : Type} (p : PathBuf) : CommandLine α Addr where
  config := some p
  printConfig := false
  gpsSource := none
  imuSource := none
  controller := none
  scenario := none
  seed := none
  gpsPort := none
  gpsBaud := none
  imuBus := none
  imuAddr := none
  imuRate := none
  imuAxisMap := none
  mavBind := none
  mavTarget := none
  mavTargetSystem := none
  mavTargetComponent := none
  mavNoSourceFilter := false
  mavNoSysidFilter := false
  mavAllowAnySourcePort := false
  allowSynthToMav := false
  allowNoBootAnchorCheck := false
  forensicDir := none
  forensicWindowS := none
  vehicle := none
  expectedHome := none
  maxHomeDistanceM := none
  duration := none
  jsonLog := none
  logLevel := none

/-- The settings the process runs with. -/
structure Cli (α Addr : Type) where
  gpsSource : GpsSourceKind
  imuSource : ImuSourceKind
  controller : ControllerKind
  scenario : Scenario
  seed : UInt64
  gpsPort : String
  gpsBaud : UInt32
  imuBus : String
  imuAddr : UInt8
  imuRate : α
  imuAxisMap : String
  mavBind : Addr
  mavTarget : Addr
  mavTargetSystem : UInt8
  mavTargetComponent : UInt8
  mavNoSourceFilter : Bool
  mavNoSysidFilter : Bool
  mavAllowAnySourcePort : Bool
  allowSynthToMav : Bool
  allowNoBootAnchorCheck : Bool
  forensicDir : Option PathBuf
  forensicWindowS : α
  vehicle : Option VehicleProfile
  expectedHome : Option String
  maxHomeDistanceM : α
  duration : UInt32
  jsonLog : Option PathBuf
  logLevel : String
deriving DecidableEq, Repr

section Resolve

variable {α Addr : Type} [IntCast α] [OfScientific α]

/-- A flag's value where it was given, and the configuration's where not. -/
def orParsed {β : Type} (explicit : Option β) (parsed : Except FsError β) : Except FsError β :=
  match explicit with
  | some b => .ok b
  | none => parsed

/-- A vehicle has no default: neither may be there. -/
def orParsedVehicle (host : Host Addr) (explicit : Option VehicleProfile) (parsed : Option String) :
    Except FsError (Option VehicleProfile) :=
  match explicit, parsed with
  | some v, _ => .ok (some v)
  | none, some s => ((VehicleProfile.fromStr host s).mapError .config).map some
  | none, none => .ok none

/-- `merge_config_into_cli`, on the flags given. `config` and `print_config` are no settings. -/
def mergeConfigIntoCli (host : Host Addr) (cl : CommandLine α Addr) (cfg : AppConfig α) :
    Except FsError (Cli α Addr) := do
  let gpsSource ← orParsed cl.gpsSource (parseGpsSource host cfg.sources.gpsSource)
  let imuSource ← orParsed cl.imuSource (parseImuSource host cfg.sources.imuSource)
  let controller ← orParsed cl.controller (parseController host cfg.sources.controller)
  let scenario ← orParsed cl.scenario (parseScenario host cfg.scenario.scenario)
  let mavBind ← orParsed cl.mavBind ((host.addrParse cfg.mav.bind).mapError fun e =>
    .config ("config mav.bind: " ++ e))
  let mavTarget ← orParsed cl.mavTarget ((host.addrParse cfg.mav.target).mapError fun e =>
    .config ("config mav.target: " ++ e))
  let vehicle ← orParsedVehicle host cl.vehicle cfg.mav.vehicle
  pure {
    gpsSource, imuSource, controller, scenario, mavBind, mavTarget, vehicle
    seed := cl.seed.getD cfg.scenario.seed
    gpsPort := cl.gpsPort.getD cfg.serial.gpsPort
    gpsBaud := cl.gpsBaud.getD cfg.serial.gpsBaud
    imuBus := cl.imuBus.getD cfg.i2c.imuBus
    imuAddr := cl.imuAddr.getD cfg.i2c.imuAddr
    imuRate := cl.imuRate.getD cfg.i2c.imuRate
    imuAxisMap := cl.imuAxisMap.getD cfg.i2c.axisMap
    mavTargetSystem := cl.mavTargetSystem.getD cfg.mav.targetSystem
    mavTargetComponent := cl.mavTargetComponent.getD cfg.mav.targetComponent
    mavNoSourceFilter := cl.mavNoSourceFilter || cfg.mav.noSourceFilter
    mavNoSysidFilter := cl.mavNoSysidFilter || cfg.mav.noSysidFilter
    mavAllowAnySourcePort := cl.mavAllowAnySourcePort || cfg.mav.allowAnySourcePort
    expectedHome := cl.expectedHome.or cfg.bootAnchor.expectedHome
    maxHomeDistanceM := cl.maxHomeDistanceM.getD (cfg.bootAnchor.maxHomeDistanceM.getD 1000.0)
    allowNoBootAnchorCheck := cl.allowNoBootAnchorCheck || cfg.bootAnchor.allowNoBootAnchorCheck
    forensicDir := cl.forensicDir.or (cfg.forensic.dir.map PathBuf.ofString)
    forensicWindowS := cl.forensicWindowS.getD (cfg.forensic.windowS.getD 30.0)
    duration := cl.duration.getD (cfg.process.duration.getD 60)
    jsonLog := cl.jsonLog.or (cfg.process.jsonLog.map PathBuf.ofString)
    logLevel := cl.logLevel.getD cfg.process.logLevel
    allowSynthToMav := cl.allowSynthToMav || cfg.process.allowSynthToMav }

def cliToAppConfig (host : Host Addr) (cli : Cli α Addr) : AppConfig α where
  sources := ⟨cli.gpsSource.debug.toLower, cli.imuSource.debug.toLower,
    cli.controller.debug.toLower⟩
  scenario := ⟨cli.scenario.printed, cli.seed⟩
  serial := ⟨cli.gpsPort, cli.gpsBaud⟩
  i2c := ⟨cli.imuBus, cli.imuAddr, cli.imuRate, cli.imuAxisMap⟩
  mav := {
    bind := host.addrToString cli.mavBind
    target := host.addrToString cli.mavTarget
    targetSystem := cli.mavTargetSystem
    targetComponent := cli.mavTargetComponent
    noSourceFilter := cli.mavNoSourceFilter
    noSysidFilter := cli.mavNoSysidFilter
    allowAnySourcePort := cli.mavAllowAnySourcePort
    vehicle := cli.vehicle.map VehicleProfile.toString }
  bootAnchor := ⟨cli.expectedHome, some cli.maxHomeDistanceM, cli.allowNoBootAnchorCheck⟩
  forensic := ⟨cli.forensicDir.map host.display, some cli.forensicWindowS⟩
  process := ⟨some cli.duration, cli.jsonLog.map host.display, cli.logLevel, cli.allowSynthToMav⟩

/-! ## The start-up guards -/

namespace Cli

def synthSource (cli : Cli α Addr) : Bool := cli.gpsSource == .synth || cli.imuSource == .synth

def needsMav (cli : Cli α Addr) : Bool :=
  cli.gpsSource == .mav || cli.imuSource == .mav || cli.controller == .mav

/-- The guards in order; the vehicle profile where a MAVLink path is in use. -/
def startupGuards (cli : Cli α Addr) (durationExplicit : Bool) :
    Except FsError (Option VehicleProfile) :=
  if cli.synthSource && cli.controller == .mav && !cli.allowSynthToMav then
    .error (.config ("refusing to pair a synthetic GPS/IMU source with the MAV controller: " ++
      "a simulated spoof scenario would send real PARAM_SET + RTL to a real " ++
      "autopilot. If this is intentional (e.g. HIL testing against SITL), pass " ++
      "--allow-synth-to-mav."))
  else if !cli.synthSource && !durationExplicit then
    .error (.config ("real deployment requires an explicit run duration: set " ++
      "[process].duration (seconds — e.g. 7200 for a 2-hour mission cap) or pass --duration. " ++
      "To run until stopped by signal (Ctrl-C / SIGTERM / SIGHUP), use duration = 0. " ++
      "Refusing to start on the 60s default: it is a development scenario length " ++
      "and would silently exit mid-flight, leaving the drone undefended (systemd " ++
      "Restart=on-failure does not restart a clean exit)."))
  else if cli.needsMav && cli.vehicle.isNone then
    .error (.config ("--vehicle is required when any MAV source or controller is in use. " ++
      "Supported: ardu-copter, px4. (Plane / Rover are deferred to a future " ++
      "phase.) This guard enables the autopilot-byte cross-check that defends " ++
      "against firmware swaps and operator typos."))
  else if cli.needsMav && cli.expectedHome.isNone && !cli.allowNoBootAnchorCheck then
    .error (.config ("production MAV deployment requires --expected-home <lat,lon> for the " ++
      "boot-anchor cross-check (meaconing-at-boot defense). To explicitly opt " ++
      "out (NOT RECOMMENDED — e.g. for ad-hoc field tests where the launch " ++
      "site changes between runs), pass --allow-no-boot-anchor-check."))
  else .ok (if cli.needsMav then cli.vehicle else none)

end Cli

/-! ## `run`, up to the guards -/

/-- Load and merge: the settings, and whether a duration was chosen. -/
def resolve (host : Host Addr) (crate : TomlCrate α) (fs : PathBuf → Except String String)
    (cl : CommandLine α Addr) : Except FsError (Cli α Addr × Bool) := do
  let fileCfg ← AppConfig.load host crate fs cl.config
  let cli ← mergeConfigIntoCli host cl fileCfg
  pure (cli, cl.duration.isSome || fileCfg.process.duration.isSome)

inductive Started (α Addr : Type)
  /-- `--print-config`: the text on standard output. -/
  | printed (toml : String)
  | accepted (cli : Cli α Addr) (vehicle : Option VehicleProfile)
deriving DecidableEq, Repr

def start (host : Host Addr) (crate : TomlCrate α) (fs : PathBuf → Except String String)
    (cl : CommandLine α Addr) : Except FsError (Started α Addr) := do
  let (cli, durationExplicit) ← resolve host crate fs cl
  if cl.printConfig then
    let toml ← (cliToAppConfig host cli).toToml crate
    pure (.printed toml)
  else
    let vehicle ← cli.startupGuards durationExplicit
    pure (.accepted cli vehicle)

end Resolve

end FlyingSquirrel
