import FlyingSquirrel.Lib.Sections

/-!
# The configuration file (`config.rs`)

`AppConfig` is a record of eight sections. Each is a structure with a default, and every field
has one, so any part of the file may be missing; an unknown name is refused at either level.

`load` reads a file and refuses one that sets a safety bypass. `toToml` writes a configuration
back. The `toml` crate is a parameter: it turns a document into text and text into a document.
-/

set_option autoImplicit false

namespace FlyingSquirrel

open Lib

/-- The errors of `FsError` that starting up and the dump return. An `io::Error` is its text. -/
inductive FsError
  | config (message : String)
  | io (message : String)
deriving DecidableEq, Repr

/-- A path, as the bytes the operating system has for it. -/
abbrev PathBuf := List UInt8

/-- Texts of the standard library: a path's whose bytes are not UTF-8, a string's as `Debug`
    quotes it, and a socket address's. -/
structure Host (Addr : Type) where
  fromUtf8Lossy : List UInt8 → String
  debugStr : String → String
  addrToString : Addr → String
  addrParse : String → Except String Addr

/-- `Path::display`: the path's text, lossy where it has none. -/
def Host.display {Addr : Type} (host : Host Addr) (p : PathBuf) : String :=
  match String.fromUTF8? ⟨p.toArray⟩ with
  | some s => s
  | none => host.fromUtf8Lossy p

/-- `PathBuf::from` of a text. -/
def PathBuf.ofString (s : String) : PathBuf := s.toByteArray.data.toList

/-- The `toml` crate, on documents of one level of tables: any other document is one that
    `AppConfig` does not deserialise from, and counts as a failure to read. -/
structure TomlCrate (α : Type) where
  toStringPretty : Document α → Except String String
  fromStr : String → Except String (Document α)
  describe : ReadError → String

namespace Config

structure Sources where
  gpsSource : String
  imuSource : String
  controller : String
deriving DecidableEq, Repr

structure Scenario where
  scenario : String
  seed : UInt64
deriving DecidableEq, Repr

structure Serial where
  gpsPort : String
  gpsBaud : UInt32
deriving DecidableEq, Repr

structure I2c (α : Type) where
  imuBus : String
  imuAddr : UInt8
  imuRate : α
  axisMap : String
deriving DecidableEq, Repr

structure Mav where
  bind : String
  target : String
  targetSystem : UInt8
  targetComponent : UInt8
  noSourceFilter : Bool
  noSysidFilter : Bool
  allowAnySourcePort : Bool
  vehicle : Option String
deriving DecidableEq, Repr

structure BootAnchor (α : Type) where
  expectedHome : Option String
  maxHomeDistanceM : Option α
  allowNoBootAnchorCheck : Bool
deriving DecidableEq, Repr

structure Forensic (α : Type) where
  dir : Option String
  windowS : Option α
deriving DecidableEq, Repr

structure Process where
  /-- Seconds to run; `none` is not set, and 0 is until stopped. -/
  duration : Option UInt32
  jsonLog : Option String
  logLevel : String
  allowSynthToMav : Bool
deriving DecidableEq, Repr

structure AppConfig (α : Type) where
  sources : Sources
  scenario : Scenario
  serial : Serial
  i2c : I2c α
  mav : Mav
  bootAnchor : BootAnchor α
  forensic : Forensic α
  process : Process
deriving DecidableEq, Repr

/-! ## Defaults -/

def Sources.default : Sources := ⟨"synth", "synth", "console"⟩

def Scenario.default : Scenario := ⟨"gradual-drift", 0x7F1F518400000000⟩

def Serial.default : Serial := ⟨"/dev/ttyUSB0", 9600⟩

def I2c.default {α : Type} [OfScientific α] : I2c α := ⟨"/dev/i2c-1", 0x68, 100.0, "X,Y,Z"⟩

def Mav.default : Mav where
  bind := "127.0.0.1:14551"
  target := "127.0.0.1:14550"
  targetSystem := 1
  targetComponent := 1
  noSourceFilter := false
  noSysidFilter := false
  allowAnySourcePort := false
  vehicle := none

def BootAnchor.default {α : Type} : BootAnchor α := ⟨none, none, false⟩

def Forensic.default {α : Type} : Forensic α := ⟨none, none⟩

def Process.default : Process := ⟨none, none, "info", false⟩

def AppConfig.default {α : Type} [OfScientific α] : AppConfig α :=
  ⟨.default, .default, .default, .default, .default, .default, .default, .default⟩

/-! ## Sections -/

section Sections

variable {α : Type}

open Entries

def Sources.toEntries (s : Sources) : Entries α :=
  put "gps_source" s.gpsSource ++ put "imu_source" s.imuSource ++ put "controller" s.controller

def Sources.ofEntries (es : Entries α) : Except ReadError Sources := do
  denyUnknown ["gps_source", "imu_source", "controller"] es
  let d := Sources.default
  let gpsSource ← es.get "gps_source" d.gpsSource
  let imuSource ← es.get "imu_source" d.imuSource
  let controller ← es.get "controller" d.controller
  pure ⟨gpsSource, imuSource, controller⟩

def Scenario.toEntries (s : Scenario) : Entries α :=
  put "scenario" s.scenario ++ put "seed" s.seed

def Scenario.ofEntries (es : Entries α) : Except ReadError Scenario := do
  denyUnknown ["scenario", "seed"] es
  let d := Scenario.default
  let scenario ← es.get "scenario" d.scenario
  let seed ← es.get "seed" d.seed
  pure ⟨scenario, seed⟩

def Serial.toEntries (s : Serial) : Entries α :=
  put "gps_port" s.gpsPort ++ put "gps_baud" s.gpsBaud

def Serial.ofEntries (es : Entries α) : Except ReadError Serial := do
  denyUnknown ["gps_port", "gps_baud"] es
  let d := Serial.default
  let gpsPort ← es.get "gps_port" d.gpsPort
  let gpsBaud ← es.get "gps_baud" d.gpsBaud
  pure ⟨gpsPort, gpsBaud⟩

def I2c.toEntries [IntCast α] (s : I2c α) : Entries α :=
  put "imu_bus" s.imuBus ++ put "imu_addr" s.imuAddr ++ put "imu_rate" s.imuRate ++
    put "axis_map" s.axisMap

def I2c.ofEntries [IntCast α] [OfScientific α] (es : Entries α) : Except ReadError (I2c α) := do
  denyUnknown ["imu_bus", "imu_addr", "imu_rate", "axis_map"] es
  let d : I2c α := I2c.default
  let imuBus ← es.get "imu_bus" d.imuBus
  let imuAddr ← es.get "imu_addr" d.imuAddr
  let imuRate ← es.get "imu_rate" d.imuRate
  let axisMap ← es.get "axis_map" d.axisMap
  pure ⟨imuBus, imuAddr, imuRate, axisMap⟩

def Mav.toEntries (s : Mav) : Entries α :=
  put "bind" s.bind ++ put "target" s.target ++ put "target_system" s.targetSystem ++
    put "target_component" s.targetComponent ++ put "no_source_filter" s.noSourceFilter ++
    put "no_sysid_filter" s.noSysidFilter ++ put "allow_any_source_port" s.allowAnySourcePort ++
    putOption "vehicle" s.vehicle

def Mav.ofEntries (es : Entries α) : Except ReadError Mav := do
  denyUnknown ["bind", "target", "target_system", "target_component", "no_source_filter",
    "no_sysid_filter", "allow_any_source_port", "vehicle"] es
  let d := Mav.default
  let bind ← es.get "bind" d.bind
  let target ← es.get "target" d.target
  let targetSystem ← es.get "target_system" d.targetSystem
  let targetComponent ← es.get "target_component" d.targetComponent
  let noSourceFilter ← es.get "no_source_filter" d.noSourceFilter
  let noSysidFilter ← es.get "no_sysid_filter" d.noSysidFilter
  let allowAnySourcePort ← es.get "allow_any_source_port" d.allowAnySourcePort
  let vehicle ← es.getOption "vehicle"
  pure ⟨bind, target, targetSystem, targetComponent, noSourceFilter, noSysidFilter,
    allowAnySourcePort, vehicle⟩

def BootAnchor.toEntries [IntCast α] (s : BootAnchor α) : Entries α :=
  putOption "expected_home" s.expectedHome ++ putOption "max_home_distance_m" s.maxHomeDistanceM ++
    put "allow_no_boot_anchor_check" s.allowNoBootAnchorCheck

def BootAnchor.ofEntries [IntCast α] (es : Entries α) : Except ReadError (BootAnchor α) := do
  denyUnknown ["expected_home", "max_home_distance_m", "allow_no_boot_anchor_check"] es
  let d : BootAnchor α := BootAnchor.default
  let expectedHome ← es.getOption "expected_home"
  let maxHomeDistanceM ← es.getOption "max_home_distance_m"
  let allowNoBootAnchorCheck ← es.get "allow_no_boot_anchor_check" d.allowNoBootAnchorCheck
  pure ⟨expectedHome, maxHomeDistanceM, allowNoBootAnchorCheck⟩

def Forensic.toEntries [IntCast α] (s : Forensic α) : Entries α :=
  putOption "dir" s.dir ++ putOption "window_s" s.windowS

def Forensic.ofEntries [IntCast α] (es : Entries α) : Except ReadError (Forensic α) := do
  denyUnknown ["dir", "window_s"] es
  let dir ← es.getOption "dir"
  let windowS ← es.getOption "window_s"
  pure ⟨dir, windowS⟩

def Process.toEntries (s : Process) : Entries α :=
  putOption "duration" s.duration ++ putOption "json_log" s.jsonLog ++
    put "log_level" s.logLevel ++ put "allow_synth_to_mav" s.allowSynthToMav

def Process.ofEntries (es : Entries α) : Except ReadError Process := do
  denyUnknown ["duration", "json_log", "log_level", "allow_synth_to_mav"] es
  let d := Process.default
  let duration ← es.getOption "duration"
  let jsonLog ← es.getOption "json_log"
  let logLevel ← es.get "log_level" d.logLevel
  let allowSynthToMav ← es.get "allow_synth_to_mav" d.allowSynthToMav
  pure ⟨duration, jsonLog, logLevel, allowSynthToMav⟩

/-! ### What is written is read back -/

theorem Sources.ofEntries_toEntries (s : Sources) :
    Sources.ofEntries (s.toEntries : Entries α) = .ok s := by
  simp [ofEntries, toEntries, put, ok_bind, pure, Except.pure]

theorem Scenario.ofEntries_toEntries (s : Scenario) :
    Scenario.ofEntries (s.toEntries : Entries α) = .ok s := by
  simp [ofEntries, toEntries, put, ok_bind, pure, Except.pure]

theorem Serial.ofEntries_toEntries (s : Serial) :
    Serial.ofEntries (s.toEntries : Entries α) = .ok s := by
  simp [ofEntries, toEntries, put, ok_bind, pure, Except.pure]

theorem I2c.ofEntries_toEntries [IntCast α] [OfScientific α] (s : I2c α) :
    I2c.ofEntries s.toEntries = .ok s := by
  simp [ofEntries, toEntries, put, ok_bind, pure, Except.pure]

theorem Mav.ofEntries_toEntries (s : Mav) :
    Mav.ofEntries (s.toEntries : Entries α) = .ok s := by
  obtain ⟨_, _, _, _, _, _, _, vehicle⟩ := s
  cases vehicle <;> simp [ofEntries, toEntries, put, putOption, ok_bind, pure, Except.pure]

theorem BootAnchor.ofEntries_toEntries [IntCast α] (s : BootAnchor α) :
    BootAnchor.ofEntries s.toEntries = .ok s := by
  obtain ⟨expectedHome, maxHomeDistanceM, _⟩ := s
  cases expectedHome <;> cases maxHomeDistanceM <;>
    simp [ofEntries, toEntries, put, putOption, ok_bind, pure, Except.pure]

theorem Forensic.ofEntries_toEntries [IntCast α] (s : Forensic α) :
    Forensic.ofEntries s.toEntries = .ok s := by
  obtain ⟨dir, windowS⟩ := s
  cases dir <;> cases windowS <;>
    simp [ofEntries, toEntries, put, putOption, ok_bind, pure, Except.pure]

theorem Process.ofEntries_toEntries (s : Process) :
    Process.ofEntries (s.toEntries : Entries α) = .ok s := by
  obtain ⟨duration, jsonLog, _, _⟩ := s
  cases duration <;> cases jsonLog <;>
    simp [ofEntries, toEntries, put, putOption, ok_bind, pure, Except.pure]

end Sections

namespace AppConfig

variable {α : Type} [IntCast α] [OfScientific α]

/-- The document `AppConfig` serialises to. -/
def toDocument (c : AppConfig α) : Document α :=
  [("sources", c.sources.toEntries), ("scenario", c.scenario.toEntries),
    ("serial", c.serial.toEntries), ("i2c", c.i2c.toEntries), ("mav", c.mav.toEntries),
    ("boot_anchor", c.bootAnchor.toEntries), ("forensic", c.forensic.toEntries),
    ("process", c.process.toEntries)]

def ofDocument (d : Document α) : Except ReadError (AppConfig α) := do
  denyUnknown ["sources", "scenario", "serial", "i2c", "mav", "boot_anchor", "forensic",
    "process"] d
  let sources ← Sources.ofEntries (d.section "sources")
  let scenario ← Scenario.ofEntries (d.section "scenario")
  let serial ← Serial.ofEntries (d.section "serial")
  let i2c ← I2c.ofEntries (d.section "i2c")
  let mav ← Mav.ofEntries (d.section "mav")
  let bootAnchor ← BootAnchor.ofEntries (d.section "boot_anchor")
  let forensic ← Forensic.ofEntries (d.section "forensic")
  let process ← Process.ofEntries (d.section "process")
  pure ⟨sources, scenario, serial, i2c, mav, bootAnchor, forensic, process⟩

/-- The safety bypasses a configuration sets, by name. -/
def offenders (c : AppConfig α) : List String :=
  [("process.allow_synth_to_mav", c.process.allowSynthToMav),
    ("boot_anchor.allow_no_boot_anchor_check", c.bootAnchor.allowNoBootAnchorCheck),
    ("mav.no_source_filter", c.mav.noSourceFilter), ("mav.no_sysid_filter", c.mav.noSysidFilter),
    ("mav.allow_any_source_port", c.mav.allowAnySourcePort)].filterMap fun (name, v) =>
      if v then some name else none

def rejectTomlSafetyBypasses {Addr : Type} (host : Host Addr) (c : AppConfig α) (path : PathBuf) :
    Except FsError Unit :=
  if c.offenders = [] then .ok ()
  else .error (.io ("config file " ++ host.display path ++
    " attempts to enable safety bypass(es) via TOML: " ++ ", ".intercalate c.offenders ++
    ". Safety bypasses can only be enabled with an EXPLICIT CLI flag " ++
    "(e.g. --allow-synth-to-mav). Remove the `= true` from the TOML " ++
    "and pass the equivalent flag at the command line where it's " ++
    "visible per-invocation in ps/journald."))

/-- Read a configuration; without a path, the defaults. `fs` is `read_to_string`. -/
def load {Addr : Type} (host : Host Addr) (crate : TomlCrate α)
    (fs : PathBuf → Except String String) : Option PathBuf → Except FsError (AppConfig α)
  | none => .ok default
  | some p => do
    let text ← (fs p).mapError fun e => FsError.io ("config file " ++ host.display p ++ ": " ++ e)
    let doc ← (crate.fromStr text).mapError fun e =>
      FsError.io ("config file " ++ host.display p ++ " parse error: " ++ e)
    let cfg ← (ofDocument doc).mapError fun e =>
      FsError.io ("config file " ++ host.display p ++ " parse error: " ++ crate.describe e)
    rejectTomlSafetyBypasses host cfg p
    pure cfg

def toToml (crate : TomlCrate α) (c : AppConfig α) : Except FsError String :=
  (crate.toStringPretty c.toDocument).mapError fun e => .io ("config serialize: " ++ e)

/-! ### What is written is read back -/

theorem ofDocument_toDocument (c : AppConfig α) : ofDocument c.toDocument = .ok c := by
  simp [ofDocument, toDocument, ok_bind, Sources.ofEntries_toEntries,
    Scenario.ofEntries_toEntries, Serial.ofEntries_toEntries, I2c.ofEntries_toEntries,
    Mav.ofEntries_toEntries, BootAnchor.ofEntries_toEntries, Forensic.ofEntries_toEntries,
    Process.ofEntries_toEntries, pure, Except.pure]

/-- A configuration without bypasses loads from a file that holds what it is written as. -/
theorem load_toDocument {Addr : Type} (host : Host Addr) {crate : TomlCrate α}
    {fs : PathBuf → Except String String} {p : PathBuf} {text : String} {c : AppConfig α}
    (hfs : fs p = .ok text) (hparse : crate.fromStr text = .ok c.toDocument)
    (hsafe : c.offenders = []) : load host crate fs (some p) = .ok c := by
  unfold load rejectTomlSafetyBypasses
  dsimp only
  rw [hfs, mapError_ok, ok_bind, hparse, mapError_ok, ok_bind, ofDocument_toDocument, mapError_ok,
    ok_bind, if_pos hsafe, ok_bind]
  rfl

/-- The only integer a configuration may have that a document does not carry is its seed. -/
theorem toDocument_inRange {α : Type} [IntCast α] (c : AppConfig α) :
    c.toDocument.InRange ↔ c.scenario.seed.toNat < 2 ^ 63 := by
  simp [toDocument, Document.InRange, Sources.toEntries, Scenario.toEntries, Serial.toEntries,
    I2c.toEntries, Mav.toEntries, BootAnchor.toEntries, Forensic.toEntries, Process.toEntries,
    inRange_uInt64]

end AppConfig

end Config
end FlyingSquirrel
