import FlyingSquirrel.ForensicDump

/-!
# A dump is written whole, over nothing

Where the temporary file has been written, two things are left that can go wrong: the sync, after
which nothing tidies up, and the rename, which asks nobody what is there. Every other failure
leaves the files as they were.
-/

set_option autoImplicit false

namespace FlyingSquirrel

open Lib

namespace Forensic

variable {α Utc Addr : Type} {host : Host Addr} {os : DumpHost α Utc} {faults : Faults}
  {snap : StampedSnapshot α Utc} {dir : PathBuf} {fs : Files PathBuf} {json : List UInt8}

/-- What a dump promises: on success the document is there in full and no file of before was
    touched, on failure nothing has changed. -/
def AtomicDump (document : Except String (List UInt8)) (before : Files PathBuf) :
    Except FsError PathBuf × Files PathBuf → Prop
  | (.ok path, after) => ∃ json, document = .ok json ∧ before.Added after path json
  | (.error _, after) => after = before

/-- The temporary file gets its whole content. -/
structure Written (os : DumpHost α Utc) (faults : Faults) (snap : StampedSnapshot α Utc)
    (dir : PathBuf) (fs : Files PathBuf) (json : List UInt8) : Prop where
  serialised : os.toVecPretty snap = .ok json
  made : faults.createDirAll = none
  opened : faults.createNew = none
  absent : fs (tmpPath os snap dir) = none
  written : faults.writeAll = none

/-! ## The two names -/

theorem ofString_append (s t : String) :
    PathBuf.ofString (s ++ t) = PathBuf.ofString s ++ PathBuf.ofString t := by
  unfold PathBuf.ofString
  rw [String.toByteArray_append, ByteArray.data_append, Array.toList_append]

theorem join_head (dir : PathBuf) :
    ∃ head : PathBuf, ∀ name, dir.join name = head ++ PathBuf.ofString name := by
  unfold PathBuf.join
  dsimp only
  cases dir.getLast? with
  | none => exact ⟨[], fun name => rfl⟩
  | some last =>
    by_cases hsep : last = 47
    · exact ⟨dir, fun name => if_pos hsep⟩
    · exact ⟨dir ++ [47], fun name => by simp [hsep]⟩

theorem finalPath_ne_tmpPath (os : DumpHost α Utc) (snap : StampedSnapshot α Utc)
    (dir : PathBuf) : finalPath os snap dir ≠ tmpPath os snap dir := by
  obtain ⟨head, hjoin⟩ := join_head dir
  unfold finalPath tmpPath
  have htmp : ".json.tmp" = ".json" ++ ".tmp" := by decide
  rw [hjoin, hjoin, htmp, ← String.append_assoc, ofString_append _ ".tmp"]
  intro h
  have hlen := congrArg List.length (List.append_cancel_left h)
  rw [List.length_append] at hlen
  have htail : (PathBuf.ofString ".tmp").length = 4 := by decide
  omega

/-! ## The calls in turn -/

theorem dumpToDisk_of_not_written (host : Host Addr) (hremove : faults.removeFile = none)
    (h : ∀ json, ¬ Written os faults snap dir fs json) :
    ∃ e, dumpToDisk host os faults snap dir fs = (.error e, fs) := by
  unfold dumpToDisk
  cases hjson : os.toVecPretty snap with
  | error e => exact ⟨_, rfl⟩
  | ok json =>
    dsimp only
    cases hmade : faults.createDirAll with
    | some e => exact ⟨_, rfl⟩
    | none =>
      dsimp only
      generalize hopen : fs.createNew alreadyExists faults.createNew (tmpPath os snap dir) = opened
      obtain ⟨result, fs'⟩ := opened
      cases result with
      | error e =>
        have hsame := Files.createNew_error (congrArg Prod.fst hopen)
        rw [hopen] at hsame
        exact ⟨_, congrArg _ hsame⟩
      | ok u =>
        obtain ⟨hopened, habsent, heq⟩ := Files.createNew_ok (congrArg Prod.fst hopen)
        rw [hopen] at heq
        obtain rfl := congrArg Prod.snd heq
        cases hwrite : faults.writeAll with
        | none => exact absurd ⟨hjson, hmade, hopened, habsent, hwrite⟩ (h json)
        | some fault =>
          obtain ⟨n, e⟩ := fault
          dsimp only [Files.writeAll]
          rw [hremove, Function.update_self, Option.map_some, Function.update_idem,
            Files.removeFile_created notFound habsent]
          exact ⟨_, rfl⟩

theorem dumpToDisk_of_written (h : Written os faults snap dir fs json) :
    dumpToDisk host os faults snap dir fs =
      publishDump host os faults snap dir
        (Function.update fs (tmpPath os snap dir) (some json)) := by
  have hopen : fs.createNew alreadyExists faults.createNew (tmpPath os snap dir) =
      (.ok (), Function.update fs (tmpPath os snap dir) (some [])) := by
    unfold Files.createNew
    rw [h.opened, h.absent]
  unfold dumpToDisk
  rw [h.serialised]
  dsimp only
  rw [h.made]
  dsimp only
  rw [hopen]
  dsimp only
  unfold Files.writeAll
  rw [h.written]
  dsimp only
  rw [Function.update_self, Option.map_some, List.nil_append, Function.update_idem]

theorem publishDump_atomic_iff (hremove : faults.removeFile = none)
    (h : Written os faults snap dir fs json) :
    AtomicDump (os.toVecPretty snap) fs
        (publishDump host os faults snap dir
          (Function.update fs (tmpPath os snap dir) (some json))) ↔
      faults.syncAll = none ∧ (faults.rename = none →
        ∀ old, fs (finalPath os snap dir) = some old → old = json) := by
  unfold publishDump
  cases hsync : faults.syncAll with
  | some e =>
    have hleft : Function.update fs (tmpPath os snap dir) (some json) ≠ fs := fun heq => by
      have htmp := congrFun heq (tmpPath os snap dir)
      rw [Function.update_self, h.absent] at htmp
      cases htmp
    simp [AtomicDump, hleft]
  | none =>
    dsimp only
    unfold Files.rename
    cases hrename : faults.rename with
    | some e =>
      dsimp only
      rw [hremove, Files.removeFile_created notFound h.absent]
      simp [AtomicDump]
    | none =>
      rw [Function.update_self]
      dsimp only [AtomicDump]
      rw [h.serialised]
      have hmoved := Files.added_moved_iff json h.absent (finalPath_ne_tmpPath os snap dir)
      constructor
      · rintro ⟨json', hjson, hadded⟩
        obtain rfl := Except.ok.inj hjson
        exact ⟨rfl, fun _ => hmoved.mp hadded⟩
      · rintro ⟨-, hkept⟩
        exact ⟨json, rfl, hmoved.mpr (hkept rfl)⟩

/-- **When a dump is whole and over nothing.** Whatever the directory holds and whichever calls
    fail, the removal of the temporary file apart: just if a temporary file that was written is
    synced, and is not renamed over a file that holds something else. -/
theorem atomicDump_iff (host : Host Addr) (os : DumpHost α Utc) (faults : Faults)
    (snap : StampedSnapshot α Utc) (dir : PathBuf) (fs : Files PathBuf)
    (hremove : faults.removeFile = none) :
    AtomicDump (os.toVecPretty snap) fs (dumpToDisk host os faults snap dir fs) ↔
      ∀ json, Written os faults snap dir fs json → faults.syncAll = none ∧
        (faults.rename = none → ∀ old, fs (finalPath os snap dir) = some old → old = json) := by
  by_cases h : ∃ json, Written os faults snap dir fs json
  · obtain ⟨json, hjson⟩ := h
    rw [dumpToDisk_of_written hjson, publishDump_atomic_iff hremove hjson]
    refine ⟨fun hok json' hjson' => ?_, fun hok => hok json hjson⟩
    obtain rfl : json = json' := Except.ok.inj (hjson.serialised.symm.trans hjson'.serialised)
    exact hok
  · obtain ⟨e, he⟩ := dumpToDisk_of_not_written host hremove (not_exists.mp h)
    rw [he]
    exact ⟨fun _ json hjson => absurd ⟨json, hjson⟩ h, fun _ => rfl⟩

/-! ## A clock that starts where it started before -/

/-- A snapshot of empty buffers, at the start of 2026 by its clock. -/
def newYear (monoNs : Nat) : StampedSnapshot Nat Nat where
  schemaVersion := 1
  capturedAtMonoNs := monoNs
  windowS := 30
  trigger := .spoofedTransition .suspicious .spoofed 50 (.obj [])
  residuals := []
  gpsFixes := []
  imuSamples := []
  capturedAtUtc := 1767225600
  attestation := ⟨"0.1.0", none, "linux", "aarch64"⟩

/-- The document of `newYear`. -/
def newYearText (monoNs : Nat) : String :=
  "\n".intercalate
    ["\x7b", "  \"schema_version\": 1,", "  \"captured_at_utc\": \"2026-01-01T00:00:00Z\",",
      "  \"captured_at_mono_ns\": " ++ toString monoNs ++ ",", "  \"window_s\": 30.0,",
      "  \"attestation\": \x7b", "    \"crate_version\": \"0.1.0\",",
      "    \"binary_sha256\": null,", "    \"host_os\": \"linux\",",
      "    \"host_arch\": \"aarch64\"", "  \x7d,", "  \"trigger\": \x7b",
      "    \"kind\": \"spoofed_transition\",", "    \"from\": \"Suspicious\",",
      "    \"to\": \"Spoofed\",", "    \"residual_m\": 50.0,",
      "    \"event_detail\": \x7b\x7d", "  \x7d,", "  \"residuals\": [],",
      "  \"gps_fixes\": [],", "  \"imu_samples\": []", "\x7d"]

/-- Process 1 of its container, which is what every boot makes of it. -/
def inContainer : DumpHost Nat Nat where
  toVecPretty snap := .ok (PathBuf.ofString (newYearText snap.capturedAtMonoNs))
  formatUtc _ := "20260101T000000Z"
  pid := 1

def utf8Host : Host Unit := ⟨fun _ => "", id, fun _ => "", fun _ => .error ""⟩

def noFaults : Faults := ⟨none, none, none, none, none, none⟩

def forensics : PathBuf := PathBuf.ofString "/var/lib/forensics"

def nothingThere : Files PathBuf := fun _ => none

/-- The dump of an earlier boot. -/
def earlierDump : Files PathBuf :=
  Function.update nothingThere (finalPath inContainer (newYear 60) forensics)
    (some (PathBuf.ofString (newYearText 60)))

/-- Where nothing is there, a dump is written whole. -/
theorem atomicDump_nothingThere :
    AtomicDump (inContainer.toVecPretty (newYear 75)) nothingThere
      (dumpToDisk utf8Host inContainer noFaults (newYear 75) forensics nothingThere) :=
  (atomicDump_iff utf8Host inContainer noFaults (newYear 75) forensics nothingThere rfl).mpr
    fun _ _ => ⟨rfl, fun _ _ hold => absurd hold (by simp [nothingThere])⟩

/-- Every call succeeds and the earlier dump is gone; or the sync fails, and the temporary file
    is still there. -/
theorem dump_replaces_earlier :
    ¬ AtomicDump (inContainer.toVecPretty (newYear 75)) earlierDump
        (dumpToDisk utf8Host inContainer noFaults (newYear 75) forensics earlierDump) ∧
    ¬ AtomicDump (inContainer.toVecPretty (newYear 75)) nothingThere
        (dumpToDisk utf8Host inContainer
          { noFaults with syncAll := some "Input/output error (os error 5)" } (newYear 75)
          forensics nothingThere) := by
  constructor
  · have habsent : earlierDump (tmpPath inContainer (newYear 75) forensics) = none :=
      Function.update_of_ne (finalPath_ne_tmpPath inContainer (newYear 75) forensics).symm ..
    have h : Written inContainer noFaults (newYear 75) forensics earlierDump
        (PathBuf.ofString (newYearText 75)) := ⟨rfl, rfl, rfl, habsent, rfl⟩
    rw [dumpToDisk_of_written h, publishDump_atomic_iff rfl h]
    rintro ⟨-, hkept⟩
    have hsame := hkept rfl (PathBuf.ofString (newYearText 60)) (Function.update_self ..)
    exact absurd hsame (by decide +kernel)
  · have h : Written inContainer
        { noFaults with syncAll := some "Input/output error (os error 5)" } (newYear 75)
        forensics nothingThere (PathBuf.ofString (newYearText 75)) := ⟨rfl, rfl, rfl, rfl, rfl⟩
    rw [dumpToDisk_of_written h, publishDump_atomic_iff rfl h]
    exact fun habs => absurd habs.1 (by simp)

end Forensic
end FlyingSquirrel
