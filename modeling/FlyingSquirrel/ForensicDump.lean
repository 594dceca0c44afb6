import FlyingSquirrel.Config
import FlyingSquirrel.Forensic
import FlyingSquirrel.Lib.Files

/-!
# Writing the dump (`forensic.rs`)

The document is written to a temporary name, synced, and renamed. It is the temporary name that
is opened exclusively: the rename takes whatever stands at the final one. A failed write and a
failed rename take the temporary file away again, a failed sync does not.

Serialisation and the format of a date are parameters. A call that fails has an error text, and
`Faults` says for each call whether it does. The sync of the directory after the rename touches
no file, and its failure is only logged.
-/

set_option autoImplicit false

namespace FlyingSquirrel

open Lib

/-- `Path::join`, of a relative name. -/
def PathBuf.join (dir : PathBuf) (name : String) : PathBuf :=
  let name := PathBuf.ofString name
  match dir.getLast? with
  | none => name
  | some last => if last = 47 then dir ++ name else dir ++ 47 :: name

namespace Forensic

structure AttestationSummary where
  crateVersion : String
  binarySha256 : Option String
  hostOs : String
  hostArch : String

/-- A snapshot with its date and the binary it was taken by. -/
structure StampedSnapshot (α Utc : Type) extends ForensicSnapshot α where
  capturedAtUtc : Utc
  attestation : AttestationSummary

structure DumpHost (α Utc : Type) where
  /-- `serde_json::to_vec_pretty`. -/
  toVecPretty : StampedSnapshot α Utc → Except String (List UInt8)
  /-- `format("%Y%m%dT%H%M%SZ")`. -/
  formatUtc : Utc → String
  pid : Nat

/-- Which of the calls fail, and with what text. -/
structure Faults where
  createDirAll : Option String
  createNew : Option String
  /-- With the number of bytes that were written before. -/
  writeAll : Option (Nat × String)
  syncAll : Option String
  rename : Option String
  removeFile : Option String

def alreadyExists : String := "File exists (os error 17)"
def notFound : String := "No such file or directory (os error 2)"

section

variable {α Utc Addr : Type} (host : Host Addr) (os : DumpHost α Utc) (faults : Faults)
  (snap : StampedSnapshot α Utc) (dir : PathBuf)

def finalPath : PathBuf :=
  dir.join ("spoof-" ++ os.formatUtc snap.capturedAtUtc ++ "-" ++ toString os.pid ++ ".json")

def tmpPath : PathBuf :=
  dir.join ("spoof-" ++ os.formatUtc snap.capturedAtUtc ++ "-" ++ toString os.pid ++ ".json.tmp")

/-- What `dump_to_disk` does once the temporary file is written. -/
def publishDump (fs : Files PathBuf) : Except FsError PathBuf × Files PathBuf :=
  let final := finalPath os snap dir
  let tmp := tmpPath os snap dir
  match faults.syncAll with
  -- `?` alone: nothing takes the temporary file away
  | some e => (.error (.io e), fs)
  | none =>
    match fs.rename notFound faults.rename tmp final with
    | (.error e, fs) =>
      (.error (.io ("forensic rename " ++ host.display tmp ++ " → " ++ host.display final ++
          ": " ++ e)),
        (fs.removeFile notFound faults.removeFile tmp).2)
    | (.ok (), fs) => (.ok final, fs)

def dumpToDisk (fs : Files PathBuf) : Except FsError PathBuf × Files PathBuf :=
  match os.toVecPretty snap with
  | .error e => (.error (.io ("forensic serialize: " ++ e)), fs)
  | .ok json =>
    let tmp := tmpPath os snap dir
    match faults.createDirAll with
    | some e => (.error (.io ("forensic mkdir " ++ host.display dir ++ ": " ++ e)), fs)
    | none =>
      match fs.createNew alreadyExists faults.createNew tmp with
      | (.error e, fs) => (.error (.io ("forensic open " ++ host.display tmp ++ ": " ++ e)), fs)
      | (.ok (), fs) =>
        match fs.writeAll faults.writeAll tmp json with
        | (.error e, fs) => (.error (.io e), (fs.removeFile notFound faults.removeFile tmp).2)
        | (.ok (), fs) => publishDump host os faults snap dir fs

end

end Forensic
end FlyingSquirrel
