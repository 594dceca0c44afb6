import FlyingSquirrel.Cli

/-!
# Printing the configuration

`--print-config` writes down the settings a command line resolves to. Read back with nothing but
`--config`, the same settings come out (`mergeConfigIntoCli_printed`), up to three places:

* the `toml` crate has signed integers of 64 bits, and the seed is an unsigned one;
* a path is printed as text, which a path need not be;
* the run duration is printed whether or not one was chosen, and the guard on it asks just that.

`print_preserves` says that nothing else is lost.
-/

set_option autoImplicit false

namespace FlyingSquirrel

open Lib Config

/-! ## Paths -/

def PathBuf.IsUtf8 (p : PathBuf) : Prop := (String.fromUTF8? ⟨p.toArray⟩).isSome

theorem PathBuf.ofString_eq_iff {s : String} {p : PathBuf} :
    PathBuf.ofString s = p ↔ String.fromUTF8? ⟨p.toArray⟩ = some s := by
  unfold PathBuf.ofString String.fromUTF8?
  constructor
  · rintro rfl
    simp [String.fromUTF8, s.isValidUTF8]
  · intro h
    split at h
    · simp only [Option.some.injEq] at h
      rw [← h]
      simp [String.fromUTF8]
    · simp at h

/-- A path survives being printed exactly when it is text. -/
theorem PathBuf.ofString_display {Addr : Type} (host : Host Addr) (p : PathBuf) :
    PathBuf.ofString (host.display p) = p ↔ p.IsUtf8 := by
  rw [ofString_eq_iff, IsUtf8, Host.display]
  cases h : String.fromUTF8? ⟨p.toArray⟩ with
  | none => simp
  | some s => simp

/-! ## The texts of the enumerations are read back -/

section Parse

variable {Addr : Type} (host : Host Addr)

theorem GpsSourceKind.debug_toLower :
    GpsSourceKind.synth.debug.toLower = "synth" ∧ GpsSourceKind.mav.debug.toLower = "mav" ∧
      GpsSourceKind.serial.debug.toLower = "serial" := by decide +kernel

theorem ImuSourceKind.debug_toLower :
    ImuSourceKind.synth.debug.toLower = "synth" ∧ ImuSourceKind.mav.debug.toLower = "mav" ∧
      ImuSourceKind.i2c.debug.toLower = "i2c" := by decide +kernel

theorem ControllerKind.debug_toLower :
    ControllerKind.console.debug.toLower = "console" ∧
      ControllerKind.mav.debug.toLower = "mav" := by decide +kernel

theorem parseGpsSource_debug (k : GpsSourceKind) :
    parseGpsSource host k.debug.toLower = .ok k := by
  cases k <;> simp [parseGpsSource, GpsSourceKind.debug_toLower]

theorem parseImuSource_debug (k : ImuSourceKind) :
    parseImuSource host k.debug.toLower = .ok k := by
  cases k <;> simp [parseImuSource, ImuSourceKind.debug_toLower]

theorem parseController_debug (k : ControllerKind) :
    parseController host k.debug.toLower = .ok k := by
  cases k <;> simp [parseController, ControllerKind.debug_toLower]

theorem parseScenario_printed (s : Scenario) : parseScenario host s.printed = .ok s := by
  cases s <;> simp [parseScenario, Scenario.printed]

theorem VehicleProfile.fromStr_toString (v : VehicleProfile) :
    VehicleProfile.fromStr host v.toString = .ok v := by
  cases v <;> simp [VehicleProfile.fromStr, VehicleProfile.toString]

end Parse

section Resolve

variable {α Addr : Type} [IntCast α] [OfScientific α]

/-! ## Bypasses come from the command line -/

/-- No bypass flag is given. -/
structure CommandLine.NoBypass (cl : CommandLine α Addr) : Prop where
  mavNoSourceFilter : cl.mavNoSourceFilter = false
  mavNoSysidFilter : cl.mavNoSysidFilter = false
  mavAllowAnySourcePort : cl.mavAllowAnySourcePort = false
  allowSynthToMav : cl.allowSynthToMav = false
  allowNoBootAnchorCheck : cl.allowNoBootAnchorCheck = false

/-- No bypass is in force. -/
structure Cli.NoBypass (cli : Cli α Addr) : Prop where
  mavNoSourceFilter : cli.mavNoSourceFilter = false
  mavNoSysidFilter : cli.mavNoSysidFilter = false
  mavAllowAnySourcePort : cli.mavAllowAnySourcePort = false
  allowSynthToMav : cli.allowSynthToMav = false
  allowNoBootAnchorCheck : cli.allowNoBootAnchorCheck = false

theorem AppConfig.offenders_eq_nil {α : Type} {c : AppConfig α} :
    c.offenders = [] ↔
      c.process.allowSynthToMav = false ∧ c.bootAnchor.allowNoBootAnchorCheck = false ∧
        c.mav.noSourceFilter = false ∧ c.mav.noSysidFilter = false ∧
        c.mav.allowAnySourcePort = false := by
  simp [AppConfig.offenders, List.filterMap_eq_nil_iff]

/-- A configuration that loads sets none. -/
theorem AppConfig.load_offenders {host : Host Addr} {crate : TomlCrate α}
    {fs : PathBuf → Except String String} {path : Option PathBuf} {c : AppConfig α}
    (h : AppConfig.load host crate fs path = .ok c) : c.offenders = [] := by
  cases path with
  | none =>
    cases h
    rfl
  | some p =>
    obtain ⟨text, -, h⟩ := bind_ok.mp h
    obtain ⟨doc, -, h⟩ := bind_ok.mp h
    obtain ⟨cfg, -, h⟩ := bind_ok.mp h
    obtain ⟨_, hsafe, h⟩ := bind_ok.mp h
    cases h
    unfold AppConfig.rejectTomlSafetyBypasses at hsafe
    by_contra hne
    rw [if_neg hne] at hsafe
    cases hsafe

theorem mergeConfigIntoCli_noBypass {α Addr : Type} [OfScientific α]
    {host : Host Addr} {cl : CommandLine α Addr}
    {cfg : AppConfig α} {cli : Cli α Addr} (h : mergeConfigIntoCli host cl cfg = .ok cli)
    (hcl : cl.NoBypass) (hcfg : cfg.offenders = []) : cli.NoBypass := by
  obtain ⟨gpsSource, -, h⟩ := bind_ok.mp h
  obtain ⟨imuSource, -, h⟩ := bind_ok.mp h
  obtain ⟨controller, -, h⟩ := bind_ok.mp h
  obtain ⟨scenario, -, h⟩ := bind_ok.mp h
  obtain ⟨mavBind, -, h⟩ := bind_ok.mp h
  obtain ⟨mavTarget, -, h⟩ := bind_ok.mp h
  obtain ⟨vehicle, -, h⟩ := bind_ok.mp h
  cases h
  obtain ⟨hsynth, hhome, hsource, hsysid, hport⟩ := AppConfig.offenders_eq_nil.mp hcfg
  exact ⟨by simp [hcl.mavNoSourceFilter, hsource], by simp [hcl.mavNoSysidFilter, hsysid],
    by simp [hcl.mavAllowAnySourcePort, hport], by simp [hcl.allowSynthToMav, hsynth],
    by simp [hcl.allowNoBootAnchorCheck, hhome]⟩

theorem cliToAppConfig_offenders {α Addr : Type}
    (host : Host Addr) {cli : Cli α Addr} (h : cli.NoBypass) :
    (cliToAppConfig host cli).offenders = [] :=
  AppConfig.offenders_eq_nil.mpr ⟨h.allowSynthToMav, h.allowNoBootAnchorCheck,
    h.mavNoSourceFilter, h.mavNoSysidFilter, h.mavAllowAnySourcePort⟩

/-! ## Reading back what is printed -/

/-- What a path is read back as. -/
def reread (host : Host Addr) (p : PathBuf) : PathBuf := PathBuf.ofString (host.display p)

/-- **Settings are read back as they were printed**, the paths as the text printed for them. -/
theorem mergeConfigIntoCli_printed {α Addr : Type} [OfScientific α]
    {host : Host Addr} {cli : Cli α Addr} (p : PathBuf)
    (hbind : host.addrParse (host.addrToString cli.mavBind) = .ok cli.mavBind)
    (htarget : host.addrParse (host.addrToString cli.mavTarget) = .ok cli.mavTarget) :
    mergeConfigIntoCli host (.onlyConfig p) (cliToAppConfig host cli) =
      .ok { cli with
        forensicDir := cli.forensicDir.map (reread host)
        jsonLog := cli.jsonLog.map (reread host) } := by
  have hvehicle : orParsedVehicle host none (cli.vehicle.map VehicleProfile.toString) =
      .ok cli.vehicle := by
    cases cli.vehicle with
    | none => rfl
    | some v =>
      show ((VehicleProfile.fromStr host v.toString).mapError FsError.config).map some = _
      rw [VehicleProfile.fromStr_toString]
      rfl
  unfold mergeConfigIntoCli
  simp only [CommandLine.onlyConfig, cliToAppConfig, orParsed, parseGpsSource_debug,
    parseImuSource_debug, parseController_debug, parseScenario_printed, hbind, htarget, hvehicle,
    mapError_ok, ok_bind, Bool.false_or, Option.none_or, Option.getD_none, Option.getD_some,
    Option.map_map]
  rfl

theorem map_reread_eq_iff {host : Host Addr} {o : Option PathBuf} :
    o.map (reread host) = o ↔ ∀ p ∈ o, p.IsUtf8 := by
  cases o with
  | none => simp
  | some p => simp [reread, PathBuf.ofString_display]

/-! ## Starting on what is printed -/

/-- What a document's text is: every integer of 64 signed bits, with the document read back from
    it; and no text at all where an integer has more. -/
structure TomlCrate.Faithful (crate : TomlCrate α) (doc : Document α) : Prop where
  inRange : doc.InRange →
    ∃ text, crate.toStringPretty doc = .ok text ∧ crate.fromStr text = .ok doc
  outOfRange : ¬ doc.InRange → ∃ e, crate.toStringPretty doc = .error e

/-- The guards let it through. -/
def Accepts (r : Except FsError (Started α Addr)) : Prop :=
  ∃ cli vehicle, r = .ok (.accepted cli vehicle)

/-- Printing preserves the start-up decision of `cl`, which resolves to `cli`: starting with
    nothing but `--config` of what is printed resolves to `cli` too, and passes the guards if
    and only if `cl` does. -/
def PrintPreserves (host : Host Addr) (crate : TomlCrate α) (fs : PathBuf → Except String String)
    (cl : CommandLine α Addr) (cli : Cli α Addr) : Prop :=
  ∃ text, start host crate fs { cl with printConfig := true } = .ok (.printed text) ∧
    ∀ fs' p, fs' p = .ok text →
      (∃ chosen, resolve host crate fs' (.onlyConfig p) = .ok (cli, chosen)) ∧
      (Accepts (start host crate fs' (.onlyConfig p)) ↔
        Accepts (start host crate fs { cl with printConfig := false }))

/-- Settings that can be printed, under a command line and a configuration of which one chose a
    duration, or for which no choice is asked, or none helps. -/
structure Printable (cl : CommandLine α Addr) (cfg : AppConfig α) (cli : Cli α Addr) : Prop where
  seed : cli.seed.toNat < 2 ^ 63
  forensicDir : ∀ p ∈ cli.forensicDir, p.IsUtf8
  jsonLog : ∀ p ∈ cli.jsonLog, p.IsUtf8
  duration : (cl.duration.isSome ∨ cfg.process.duration.isSome) ∨ cli.synthSource ∨
    cli.needsMav ∧ (cli.vehicle = none ∨ cli.expectedHome = none)

/-- What the guards ask of settings without bypasses. -/
theorem startupGuards_ok_iff {α Addr : Type} {cli : Cli α Addr} (h : cli.NoBypass) (chosen : Bool) :
    (∃ v, cli.startupGuards chosen = .ok v) ↔
      ¬ (cli.synthSource ∧ cli.controller = .mav) ∧ (cli.synthSource ∨ chosen) ∧
        ¬ (cli.needsMav ∧ (cli.vehicle = none ∨ cli.expectedHome = none)) := by
  unfold Cli.startupGuards
  rw [h.allowSynthToMav, h.allowNoBootAnchorCheck]
  split
  · next hsynth =>
    exact iff_of_false (fun ⟨_, h⟩ => nomatch h) fun h => h.1 (by simpa using hsynth)
  · next hsynth =>
    split
    · next hduration =>
      refine iff_of_false (fun ⟨_, h⟩ => nomatch h) fun ⟨_, hor, _⟩ => ?_
      simp at hduration
      rcases hor with hor | hor <;> simp_all
    · next hduration =>
      split
      · next hvehicle =>
        refine iff_of_false (fun ⟨_, h⟩ => nomatch h) fun h => h.2.2 ?_
        simp at hvehicle
        exact ⟨hvehicle.1, .inl hvehicle.2⟩
      · next hvehicle =>
        split
        · next hhome =>
          refine iff_of_false (fun ⟨_, h⟩ => nomatch h) fun h => h.2.2 ?_
          simp at hhome
          exact ⟨hhome.1, .inr hhome.2⟩
        · next hhome =>
          simp at hsynth hduration hvehicle hhome
          refine iff_of_true ⟨_, rfl⟩ ⟨fun h => hsynth h.1 h.2, ?_, ?_⟩
          · cases h : cli.synthSource with
            | true => exact .inl rfl
            | false => exact .inr (hduration h)
          · rintro ⟨hmav, hnone | hnone⟩
            · exact hvehicle hmav hnone
            · exact hhome hmav hnone

/-- A duration counted as chosen makes no difference where one was, where none is asked for, and
    where another guard refuses anyway. -/
theorem guards_agree_iff {α Addr : Type} {cli : Cli α Addr} (h : cli.NoBypass) (chosen : Bool) :
    ((∃ v, cli.startupGuards true = .ok v) ↔ ∃ v, cli.startupGuards chosen = .ok v) ↔
      chosen ∨ cli.synthSource ∨
        cli.needsMav ∧ (cli.vehicle = none ∨ cli.expectedHome = none) := by
  rw [startupGuards_ok_iff h, startupGuards_ok_iff h]
  cases chosen with
  | true => simp
  | false =>
    cases hsynth : cli.synthSource with
    | true => simp
    | false => simp [or_iff_not_imp_left]

section Start

variable {host : Host Addr} {crate : TomlCrate α} {fs : PathBuf → Except String String}
  {cl : CommandLine α Addr} {cfg : AppConfig α} {cli : Cli α Addr}

theorem resolve_eq (hload : AppConfig.load host crate fs cl.config = .ok cfg)
    (hmerge : mergeConfigIntoCli host cl cfg = .ok cli) (b : Bool) :
    resolve host crate fs { cl with printConfig := b } =
      .ok (cli, cl.duration.isSome || cfg.process.duration.isSome) := by
  have hmerge' : mergeConfigIntoCli host { cl with printConfig := b } cfg = .ok cli := hmerge
  unfold resolve
  rw [hload, ok_bind, hmerge', ok_bind]
  rfl

theorem start_print (b : Bool)
    (h : resolve host crate fs { cl with printConfig := true } = .ok (cli, b)) :
    start host crate fs { cl with printConfig := true } =
      ((cliToAppConfig host cli).toToml crate).map .printed := by
  unfold start
  rw [h, ok_bind]
  dsimp only
  rw [if_pos rfl]
  cases (cliToAppConfig host cli).toToml crate <;> rfl

theorem accepts_start (hprint : cl.printConfig = false) {b : Bool}
    (h : resolve host crate fs cl = .ok (cli, b)) :
    Accepts (start host crate fs cl) ↔ ∃ v, cli.startupGuards b = .ok v := by
  unfold start
  rw [h, ok_bind]
  dsimp only
  rw [hprint, if_neg Bool.false_ne_true]
  cases cli.startupGuards b with
  | error e => exact iff_of_false (fun ⟨_, _, h⟩ => nomatch h) (fun ⟨_, h⟩ => nomatch h)
  | ok v => exact iff_of_true ⟨_, _, rfl⟩ ⟨v, rfl⟩

/-- Starting on the printed text: the settings with their paths reread, and a duration chosen. -/
theorem resolve_printed (hsafe : cli.NoBypass) {text : String} {p : PathBuf}
    (hbind : host.addrParse (host.addrToString cli.mavBind) = .ok cli.mavBind)
    (htarget : host.addrParse (host.addrToString cli.mavTarget) = .ok cli.mavTarget)
    (hfs : fs p = .ok text)
    (hparse : crate.fromStr text = .ok (cliToAppConfig host cli).toDocument) :
    resolve host crate fs (.onlyConfig p) =
      .ok ({ cli with
        forensicDir := cli.forensicDir.map (reread host)
        jsonLog := cli.jsonLog.map (reread host) }, true) := by
  have hload := AppConfig.load_toDocument host hfs hparse (cliToAppConfig_offenders host hsafe)
  unfold resolve
  rw [show (CommandLine.onlyConfig p : CommandLine α Addr).config = some p from rfl, hload,
    ok_bind, mergeConfigIntoCli_printed p hbind htarget, ok_bind]
  rfl

/-- **Printing preserves the start-up decision exactly of what is printable.** -/
theorem print_preserves
    (hload : AppConfig.load host crate fs cl.config = .ok cfg)
    (hmerge : mergeConfigIntoCli host cl cfg = .ok cli) (hcl : cl.NoBypass)
    (hcrate : crate.Faithful (cliToAppConfig host cli).toDocument)
    (hbind : host.addrParse (host.addrToString cli.mavBind) = .ok cli.mavBind)
    (htarget : host.addrParse (host.addrToString cli.mavTarget) = .ok cli.mavTarget) :
    PrintPreserves host crate fs cl cli ↔ Printable cl cfg cli := by
  have hsafe := mergeConfigIntoCli_noBypass hmerge hcl (AppConfig.load_offenders hload)
  have hstart := accepts_start rfl (resolve_eq hload hmerge false)
  have hagree := guards_agree_iff hsafe (cl.duration.isSome || cfg.process.duration.isSome)
  have hseed := AppConfig.toDocument_inRange (cliToAppConfig host cli)
  unfold PrintPreserves
  rw [start_print _ (resolve_eq hload hmerge true), AppConfig.toToml, hstart]
  rw [Bool.or_eq_true] at hagree
  constructor
  · rintro ⟨text, hprint, hback⟩
    have hrange : (cliToAppConfig host cli).toDocument.InRange := by
      by_contra hout
      obtain ⟨e, he⟩ := hcrate.outOfRange hout
      rw [he] at hprint
      cases hprint
    obtain ⟨_, htext, hparse⟩ := hcrate.inRange hrange
    rw [htext] at hprint
    cases hprint
    -- any file with this text will do
    have hres : resolve host crate (fun _ => .ok text) (.onlyConfig []) = _ :=
      resolve_printed hsafe hbind htarget rfl hparse
    obtain ⟨⟨chosen, hsame⟩, hacc⟩ := hback (fun _ => .ok text) [] rfl
    rw [hres] at hsame
    have hcli := congrArg Prod.fst (Except.ok.inj hsame)
    dsimp only at hcli
    rw [hcli] at hres
    rw [accepts_start rfl hres] at hacc
    exact ⟨hseed.mp hrange, map_reread_eq_iff.mp (congrArg Cli.forensicDir hcli),
      map_reread_eq_iff.mp (congrArg Cli.jsonLog hcli), hagree.mp hacc⟩
  · intro h
    obtain ⟨text, htext, hparse⟩ := hcrate.inRange (hseed.mpr h.seed)
    refine ⟨text, by rw [htext]; rfl, ?_⟩
    intro fs' p hfs
    have hres := resolve_printed hsafe hbind htarget hfs hparse
    rw [map_reread_eq_iff.mpr h.forensicDir, map_reread_eq_iff.mpr h.jsonLog] at hres
    exact ⟨⟨true, hres⟩, (accepts_start rfl hres).trans (hagree.mpr h.duration)⟩

end Start

end Resolve

/-! ## A serial GPS and an I2C IMU, on the console -/

/-- Loopback addresses, by port. -/
def loopbackHost : Host Nat where
  fromUtf8Lossy _ := "\uFFFD"
  debugStr s := "\"" ++ s ++ "\""
  addrToString port := "127.0.0.1:" ++ toString port
  addrParse s :=
    if s = "127.0.0.1:14551" then .ok 14551
    else if s = "127.0.0.1:14550" then .ok 14550
    else .error "invalid socket address syntax"

/-- The crate on one document. -/
def crateOn (doc : Document ℚ) (text : String) : TomlCrate ℚ where
  toStringPretty d := if d = doc then .ok text else .error "unsupported value"
  fromStr t := if t = text then .ok doc else .error "key with no value, expected '='"
  describe
    | .unknownField name => "unknown field: " ++ name
    | .invalidType => "invalid type"
    | .outOfRange _ => "invalid value"

theorem crateOn_faithful {doc : Document ℚ} (text : String) (h : doc.InRange) :
    (crateOn doc text).Faithful doc :=
  ⟨fun _ => ⟨text, if_pos rfl, if_pos rfl⟩, fun hout => absurd h hout⟩

def serialRun (duration : Option UInt32) : CommandLine ℚ Nat :=
  { CommandLine.onlyConfig [] with
    config := none
    gpsSource := some .serial
    imuSource := some .i2c
    duration := duration }

def serialSettings (duration : UInt32) : Cli ℚ Nat where
  gpsSource := .serial
  imuSource := .i2c
  controller := .console
  scenario := .gradualDrift
  seed := 0x7F1F518400000000
  gpsPort := "/dev/ttyUSB0"
  gpsBaud := 9600
  imuBus := "/dev/i2c-1"
  imuAddr := 0x68
  imuRate := 100.0
  imuAxisMap := "X,Y,Z"
  mavBind := 14551
  mavTarget := 14550
  mavTargetSystem := 1
  mavTargetComponent := 1
  mavNoSourceFilter := false
  mavNoSysidFilter := false
  mavAllowAnySourcePort := false
  allowSynthToMav := false
  allowNoBootAnchorCheck := false
  forensicDir := none
  forensicWindowS := 30.0
  vehicle := none
  expectedHome := none
  maxHomeDistanceM := 1000.0
  duration := duration
  jsonLog := none
  logLevel := "info"

/-- What is printed for them. -/
def serialToml (duration : String) : String :=
  "[sources]\ngps_source = \"serial\"\nimu_source = \"i2c\"\ncontroller = \"console\"\n\n" ++
  "[scenario]\nscenario = \"gradual-drift\"\nseed = 9160129794472411136\n\n" ++
  "[serial]\ngps_port = \"/dev/ttyUSB0\"\ngps_baud = 9600\n\n" ++
  "[i2c]\nimu_bus = \"/dev/i2c-1\"\nimu_addr = 104\nimu_rate = 100.0\n" ++
  "axis_map = \"X,Y,Z\"\n\n" ++
  "[mav]\nbind = \"127.0.0.1:14551\"\ntarget = \"127.0.0.1:14550\"\ntarget_system = 1\n" ++
  "target_component = 1\nno_source_filter = false\nno_sysid_filter = false\n" ++
  "allow_any_source_port = false\n\n" ++
  "[boot_anchor]\nmax_home_distance_m = 1000.0\nallow_no_boot_anchor_check = false\n\n" ++
  "[forensic]\nwindow_s = 30.0\n\n" ++
  "[process]\nduration = " ++ duration ++ "\nlog_level = \"info\"\nallow_synth_to_mav = false\n"

def serialCrate (duration : UInt32) (text : String) : TomlCrate ℚ :=
  crateOn (cliToAppConfig loopbackHost (serialSettings duration)).toDocument (serialToml text)

theorem serialSettings_inRange (duration : UInt32) :
    (cliToAppConfig loopbackHost (serialSettings duration)).toDocument.InRange :=
  (AppConfig.toDocument_inRange _).mpr
    (show (0x7F1F518400000000 : UInt64).toNat < 2 ^ 63 by decide)

theorem serialRun_noBypass (duration : Option UInt32) : (serialRun duration).NoBypass :=
  ⟨rfl, rfl, rfl, rfl, rfl⟩

theorem serialSettings_noBypass (duration : UInt32) : (serialSettings duration).NoBypass :=
  ⟨rfl, rfl, rfl, rfl, rfl⟩

theorem serialRun_merge (duration : Option UInt32) :
    mergeConfigIntoCli loopbackHost (serialRun duration) AppConfig.default =
      .ok (serialSettings (duration.getD 60)) := by
  rfl

theorem loopback_bind : loopbackHost.addrParse (loopbackHost.addrToString 14551) = .ok 14551 := by
  decide +kernel

theorem loopback_target :
    loopbackHost.addrParse (loopbackHost.addrToString 14550) = .ok 14550 := by
  decide +kernel

/-- With a duration chosen, printing preserves the decision. -/
theorem print_preserves_chosen :
    PrintPreserves loopbackHost (serialCrate 0 "0") (fun _ => .error "not found")
      (serialRun (some 0)) (serialSettings 0) :=
  (print_preserves rfl (serialRun_merge (some 0)) (serialRun_noBypass _)
    (crateOn_faithful _ (serialSettings_inRange 0)) loopback_bind loopback_target).mpr
    ⟨show (0x7F1F518400000000 : UInt64).toNat < 2 ^ 63 by decide, (fun _ h => nomatch h),
      (fun _ h => nomatch h), .inl (.inl rfl)⟩

/-- Without one the guard refuses to start; what is printed has the default as its duration, and
    starts. -/
theorem print_drops_duration_guard :
    AppConfig.load loopbackHost (serialCrate 60 "60") (fun _ => .error "not found")
        (serialRun none).config = .ok AppConfig.default ∧
      mergeConfigIntoCli loopbackHost (serialRun none) AppConfig.default =
        .ok (serialSettings 60) ∧
      (serialRun none).NoBypass ∧
      (serialCrate 60 "60").Faithful
        (cliToAppConfig loopbackHost (serialSettings 60)).toDocument ∧
      loopbackHost.addrParse (loopbackHost.addrToString 14551) = .ok 14551 ∧
      loopbackHost.addrParse (loopbackHost.addrToString 14550) = .ok 14550 ∧
      ¬ PrintPreserves loopbackHost (serialCrate 60 "60") (fun _ => .error "not found")
        (serialRun none) (serialSettings 60) := by
  have hcrate : (serialCrate 60 "60").Faithful _ :=
    crateOn_faithful _ (serialSettings_inRange 60)
  refine ⟨rfl, serialRun_merge none, serialRun_noBypass none, hcrate, loopback_bind,
    loopback_target, ?_⟩
  rintro ⟨text, hprint, hback⟩
  have hrun (b : Bool) : resolve loopbackHost (serialCrate 60 "60") (fun _ => .error "not found")
      { serialRun none with printConfig := b } = .ok (serialSettings 60, false) :=
    resolve_eq rfl (serialRun_merge none) b
  obtain ⟨_, htext, hparse⟩ := hcrate.inRange (serialSettings_inRange 60)
  rw [start_print _ (hrun true), AppConfig.toToml, htext] at hprint
  cases hprint
  have hres : resolve loopbackHost (serialCrate 60 "60") (fun _ => .ok text) (.onlyConfig []) = _ :=
    resolve_printed (serialSettings_noBypass 60) loopback_bind loopback_target rfl hparse
  obtain ⟨-, hacc⟩ := hback (fun _ => .ok text) [] rfl
  rw [accepts_start rfl hres, accepts_start rfl (hrun false)] at hacc
  have hchosen := (guards_agree_iff (serialSettings_noBypass 60) false).mp hacc
  revert hchosen
  decide

end FlyingSquirrel
