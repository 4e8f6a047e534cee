import Shortlink.Json.Reader
import Shortlink.Json.Writer
import Shortlink.Log.Level
import Shortlink.Store.Memory
import Shortlink.Text.Utf8

/-!
# Records in a file

The records are kept in memory and written to a file after every operation that may change them,
also when the operation fails. The file holds an object with the list of records.

## Contents

- `Disk`: what stands under the name of the file.
- `FileStore.LoadError`, `FileStore.load`: reading the file.
- `FileStore.saveFault?`, `FileStore.save`: writing it.
- `FileStore.start`, `FileStore.startNotices`: opening a store, on an old file or a new one.
- `FileStore.create`, `update`, `delete`.
-/

namespace Shortlink

/-- What stands under a name: nothing, a file with its bytes, or a directory. -/
inductive Disk where
  | vacant
  | file (bytes : List UInt8)
  | directory
deriving DecidableEq

/-- The file holding a text. -/
def Disk.ofText (text : String) : Disk :=
  .file (Text.Utf8.encode text.toList)

/-- Records in memory with the file that they are written to. -/
structure FileStore where
  path : String
  disk : Disk
  memory : Memory

namespace FileStore

open Text

/-! ## Reading -/

/-- Why the bytes of a file cannot be read as records. -/
inductive LoadError where
  /-- The bytes are no UTF-8. -/
  | notText
  /-- The text leaves the grammar of JSON. -/
  | notJson
  /-- A number has too many digits. -/
  | longInteger
  /-- The object has no list of records. -/
  | noRecords
  /-- The value, or what it has in the place of the list, is of a wrong kind. -/
  | wrongShape
  /-- A record is wrong. -/
  | record (fault : Redirect.Fault)
deriving DecidableEq, Repr

/-- The error is reported as that of an unreadable file. Two faults of records are not: one whose
number is infinite, and something else in the place of a record. -/
def LoadError.isReported : LoadError → Bool
  | record .notAnObject | record .infiniteNumber => false
  | _ => true

/-- The values listed under `redirects`. The characters of a text and the names of fields are no
records, but an empty text or object lists nothing. -/
def items : Json → Except LoadError (List Json)
  | .obj fields =>
    match Json.lookup? "redirects" fields with
    | none => .error .noRecords
    | some (.arr vs) => .ok vs
    | some (.str s) => .ok (s.toList.map fun c => .str (String.singleton c))
    | some (.torn t) => .ok (t.text.toList.map fun c => .str (String.singleton c))
    | some (.obj fs) => .ok (fs.map fun (k, _) => .str k)
    | some _ => .error .wrongShape
  | _ => .error .wrongShape

/-- The records in a list of values. -/
def recordsOf (now : Timestamp) (vs : List Json) : Except LoadError (List Redirect) :=
  vs.mapM fun v =>
    match Redirect.ofJson now v with
    | .ok r => .ok r
    | .error fault => .error (.record fault)

/-- The records that the bytes of a file hold. -/
def load (now : Timestamp) (bytes : List UInt8) : Except LoadError (List Redirect) :=
  match Text.Utf8.decode? bytes with
  | none => .error .notText
  | some text =>
    match Json.readChars text with
    | .error (.malformed _) => .error .notJson
    | .error .longInteger => .error .longInteger
    | .ok value =>
      match items value with
      | .error e => .error e
      | .ok vs => recordsOf now vs

/-! ## Writing -/

/-- The text that is written for a list of records. -/
def fileText (records : List Redirect) : String :=
  (Json.obj [("redirects", .arr (records.map (·.toJson)))]).indented

/-- The number of a record has more digits than can be read back. -/
def hasLongNumber (records : List Redirect) : Bool :=
  records.any fun r => numberBound ≤ r.id.natAbs

/-- What prevents the records from being written: a number that is too long, or a directory of the
same name. The text is made before the file is opened. -/
def saveFault? (s : FileStore) : Option StoreError :=
  if hasLongNumber s.memory.records then some .longNumber
  else
    match s.disk with
    | .directory => some (.unwritable s.path)
    | _ => none

/-- Writes the records, unless something prevents it. -/
def save (s : FileStore) : Except StoreError FileStore :=
  match s.saveFault? with
  | some e => .error e
  | none => .ok { s with disk := Disk.ofText (fileText s.memory.records) }

/-! ## Opening -/

/-- Why a store cannot be opened on what stands under its name. -/
inductive OpenError where
  | isDirectory
  | load (e : LoadError)
deriving DecidableEq, Repr

/-- Opens a store; under a vacant name a file without records is made. -/
def start (now : Timestamp) (path : String) (disk : Disk) : Except OpenError FileStore :=
  match disk with
  | .vacant => .ok ⟨path, Disk.ofText (fileText []), Memory.empty⟩
  | .directory => .error .isDirectory
  | .file bytes =>
    match load now bytes with
    | .ok records => .ok ⟨path, disk, ⟨records⟩⟩
    | .error e => .error (.load e)

/-- The message about a file that cannot be read, without the details. -/
def unreadableMessage (path : String) : String :=
  "Unable to read JSON file " ++ path

/-- A report on the file. -/
def notice (level : Log.Level) (message : String) : Log.Notice :=
  ⟨level, "golinks.database.json_file", "[JSON] " ++ message⟩

/-- What is reported when a store is opened: that there was no file, or that it cannot be read. -/
def startNotices (now : Timestamp) (path : String) (disk : Disk) : List Log.Notice :=
  match disk, start now path disk with
  | .vacant, _ => [notice .warning (path ++ " does not exist, creating new file.")]
  | _, .error (.load e) => if e.isReported then [notice .error (unreadableMessage path)] else []
  | _, _ => []

/-! ## Operations -/

/-- Takes over a step of the memory and writes the file; if that fails, so does the step. -/
def commit {α : Type} (s : FileStore) (step : Step Memory α) : Step FileStore α :=
  let changed := { s with memory := step.state }
  match save changed with
  | .ok saved => ⟨step.answer, saved⟩
  | .error e => ⟨.error e, changed⟩

/-- Adds a record unless its alias is taken. -/
def create (s : FileStore) (fresh : Fresh) (aliasName : String) (destination : Text.Loose)
    (user : Option String) : Step FileStore Redirect :=
  s.commit (s.memory.create fresh aliasName destination user)

/-- Gives the record that answers to a reference another destination. -/
def update (s : FileStore) (reference : String) (destination : Text.Loose) (user : Option String) :
    Step FileStore Redirect :=
  s.commit (s.memory.update reference destination user)

/-- Removes the record that answers to a reference. -/
def delete (s : FileStore) (reference : String) : Step FileStore Nat :=
  s.commit (s.memory.delete reference)

end FileStore

end Shortlink
