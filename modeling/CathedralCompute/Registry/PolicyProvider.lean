import CathedralCompute.Platform
import Mathlib.Logic.Function.Basic

/-!
# The provider of admission policies

A provider reads and verifies the signed policy on every call, and refuses a version
lower than the highest it accepted. Its mark is read from the state file once, when it
is created, and is written back through a scratch file that is renamed over the state
file. Providers of many processes share the state file, and those of one process share
the scratch file too; the lock of a provider is its own.

The files are inodes behind two kinds of names, so that a rename moves what another
provider still has open. Every system call is a step of its own.

## Main definitions

* `World.step` — the steps of the providers: creation, the comparison of a call, the
  system calls of a write, and the end of a process
* `readMark` — the number a state file holds
-/

set_option autoImplicit false

namespace Cathedral.AdmissionPolicy

open Codec Semantics

/-! ## Snapshots -/

/-- What the callers and the guard read of a verified policy. -/
structure AdmissionPolicySnapshot where
  configVersion : ℤ
  digest : Text
  bounded : 0 < configVersion ∧ configVersion ≤ maxSqliteInteger

/-! ## Files -/

/-- Inodes with their contents, the inode of the state file and those of the scratch
files, one for each process. -/
structure Files where
  contents : ℕ → Bytes
  state : Option ℕ
  scratch : ℕ → Option ℕ
  unused : ℕ

/-- What the state file holds, if it is there. -/
def Files.stateContent (files : Files) : Option Bytes := files.state.map files.contents

/-- `os.open` of the scratch file with `O_CREAT | O_TRUNC`. -/
def Files.openScratch (pid : ℕ) (files : Files) : ℕ × Files :=
  match files.scratch pid with
  | some inode => (inode, { files with contents := Function.update files.contents inode [] })
  | none =>
    (files.unused, {
      contents := Function.update files.contents files.unused []
      state := files.state
      scratch := Function.update files.scratch pid (some files.unused)
      unused := files.unused + 1 })

/-- Octets written from the start of an inode. -/
def Files.write (inode : ℕ) (data : Bytes) (files : Files) : Files :=
  { files with
    contents := Function.update files.contents inode
      (data ++ (files.contents inode).drop data.length) }

/-- `os.replace` of the state file by the scratch file; `none` where there is none. -/
def Files.replace (pid : ℕ) (files : Files) : Option Files :=
  (files.scratch pid).map fun inode =>
    { files with state := some inode, scratch := Function.update files.scratch pid none }

/-- `scratch.unlink()`. -/
def Files.unlink (pid : ℕ) (files : Files) : Files :=
  { files with scratch := Function.update files.scratch pid none }

/-- The number in the content of a state file: none is zero, and one that cannot be
read is the largest. -/
def readMark : Option Bytes → ℤ
  | none => 0
  | some content =>
    match (asciiDecode (content.take 64)).map Text.strip with
    | none => maxSqliteInteger
    | some raw =>
      if raw ≠ [] ∧ raw.all Text.isDigit then natValue raw else maxSqliteInteger

/-- The number the state file stands for. -/
def Files.mark (files : Files) : ℤ := readMark files.stateContent

/-- `str(config_version).encode("ascii")`. -/
def markOctets (version : ℤ) : Bytes := (intText version).ascii

/-! ## Providers -/

/-- Where a call under the lock of its provider stands. -/
inductive Phase where
  | idle
  | advancing (snapshot : AdmissionPolicySnapshot)
  | opened (snapshot : AdmissionPolicySnapshot) (inode : ℕ)
  | written (snapshot : AdmissionPolicySnapshot) (inode : ℕ)
  | replaced (snapshot : AdmissionPolicySnapshot)

structure Provider where
  pid : ℕ
  pinnedDigest : Option Text
  highestConfigVersion : ℤ
  phase : Phase

/-- The files, the providers by name, and the versions that were returned, latest
first. -/
structure World where
  files : Files
  providers : ℕ → Option Provider
  returned : List ℤ

/-- A step of a provider. -/
inductive Op where
  /-- `__init__`; the state file may be unreadable. -/
  | create (name pid : ℕ) (pinnedDigest : Option Text) (readable : Bool)
  /-- `load` with what it read and verified, up to the comparison. -/
  | load (name : ℕ) (verified : Option AdmissionPolicySnapshot)
  | openScratch (name : ℕ)
  | write (name : ℕ)
  | replace (name : ℕ)
  | sync (name : ℕ)
  /-- The next system call of a write raises, after some octets were written; the
  scratch file is unlinked if that works. -/
  | fail (name : ℕ) (cut : ℕ) (unlinks : Bool)
  /-- The process ends, with all its providers. -/
  | exit (pid : ℕ)

/-- `_load_high_water`. -/
def loadHighWater (files : Files) (readable : Bool) : ℤ :=
  if readable then files.mark else maxSqliteInteger

namespace World

/-- A provider with a new mark and phase, in the files it leaves. -/
def put (name : ℕ) (provider : Provider) (files : Files) (w : World) : World :=
  { w with files := files, providers := Function.update w.providers name (some provider) }

theorem providers_put (name : ℕ) (provider : Provider) (files : Files) (w : World) (other : ℕ) :
    (w.put name provider files).providers other =
      if other = name then some provider else w.providers other :=
  Function.update_apply _ _ _ _

/-- The end of a call that returns a version. -/
def give (version : ℤ) (w : World) : World := { w with returned := version :: w.returned }

/-- The comparison of a call: what was verified is refused, returned, or to be
written first. -/
def compare (name : ℕ) (provider : Provider) (snapshot : AdmissionPolicySnapshot) (w : World) :
    World :=
  if provider.pinnedDigest.any (· ≠ snapshot.digest) then w
  else if snapshot.configVersion < provider.highestConfigVersion then w
  else if provider.highestConfigVersion < snapshot.configVersion then
    w.put name { provider with phase := .advancing snapshot } w.files
  else w.give snapshot.configVersion

/-- `load`. A call that finds the lock of the provider taken waits for it. -/
def load (name : ℕ) (provider : Provider) (verified : Option AdmissionPolicySnapshot)
    (w : World) : World :=
  match provider.phase, verified with
  | .idle, some snapshot => w.compare name provider snapshot
  | _, _ => w

/-- The scratch file is opened, and emptied. -/
def openScratch (name : ℕ) (provider : Provider) (w : World) : World :=
  match provider.phase with
  | .advancing snapshot =>
    let opened := w.files.openScratch provider.pid
    w.put name { provider with phase := .opened snapshot opened.1 } opened.2
  | _ => w

/-- The version is written and synchronised. -/
def write (name : ℕ) (provider : Provider) (w : World) : World :=
  match provider.phase with
  | .opened snapshot inode =>
    w.put name { provider with phase := .written snapshot inode }
      (w.files.write inode (markOctets snapshot.configVersion))
  | _ => w

/-- The end of a call whose write raised. -/
def abandon (name : ℕ) (provider : Provider) (unlinks : Bool) (files : Files) (w : World) :
    World :=
  w.put name { provider with phase := .idle }
    (if unlinks then files.unlink provider.pid else files)

/-- The scratch file is renamed over the state file, if it is still there. -/
def replace (name : ℕ) (provider : Provider) (w : World) : World :=
  match provider.phase with
  | .written snapshot _ =>
    match w.files.replace provider.pid with
    | some files => w.put name { provider with phase := .replaced snapshot } files
    | none => w.abandon name provider false w.files
  | _ => w

/-- The directory is synchronised, and the call returns. -/
def sync (name : ℕ) (provider : Provider) (w : World) : World :=
  match provider.phase with
  | .replaced snapshot =>
    let provider := { provider with
      highestConfigVersion := snapshot.configVersion
      phase := .idle }
    (w.put name provider w.files).give snapshot.configVersion
  | _ => w

/-- A system call of a write raises. A write may have written some octets before. -/
def fail (name : ℕ) (provider : Provider) (cut : ℕ) (unlinks : Bool) (w : World) : World :=
  match provider.phase with
  | .idle => w
  | .opened snapshot inode =>
    w.abandon name provider unlinks
      (w.files.write inode ((markOctets snapshot.configVersion).take cut))
  | _ => w.abandon name provider unlinks w.files

/-- A step of the provider with a name, if there is one. -/
def on (name : ℕ) (act : Provider → World → World) (w : World) : World :=
  match w.providers name with
  | some provider => act provider w
  | none => w

def step (w : World) : Op → World
  | .create name pid pinnedDigest readable =>
    match w.providers name with
    | some _ => w
    | none => w.put name ⟨pid, pinnedDigest, loadHighWater w.files readable, .idle⟩ w.files
  | .load name verified => w.on name fun provider => load name provider verified
  | .openScratch name => w.on name (openScratch name)
  | .write name => w.on name (write name)
  | .replace name => w.on name (replace name)
  | .sync name => w.on name (sync name)
  | .fail name cut unlinks => w.on name fun provider => fail name provider cut unlinks
  | .exit pid =>
    { w with providers := fun name => (w.providers name).filter fun provider => provider.pid ≠ pid }

/-- A state file with some content or none, and no provider yet. -/
def start (content : Option Bytes) : World where
  files := ⟨fun _ => content.getD [], content.map fun _ => 0, fun _ => none, 1⟩
  providers _ := none
  returned := []

end World

end Cathedral.AdmissionPolicy
