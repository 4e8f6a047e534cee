import Shortlink.Path
import Shortlink.Store

/-!
# Where records are stored

The place of the records is named by a URL: `memory://` for records that do not outlast the
program, `file://` and a path for a file, `sqlite://` and a path for a table.

## Contents

- `Location`, `Location.ofUrl?`: the place that a URL names.
- `Location.path`: its path, if it has one.
- `Location.Fault`, `Location.start`: the store that is opened there on what stands at the path.
- `Location.notices`: what is reported then.
-/

namespace Shortlink

/-- Where records are stored. -/
inductive Location where
  | memory
  | file (path : String)
  | table (path : String)
deriving DecidableEq, Repr

namespace Location

/-! ## The URL -/

/-- The path behind a beginning of a URL, in plain form. -/
def pathBehind? (start url : String) : Option String :=
  (start.toList.isPrefixOf? url.toList).map fun rest => String.ofList (Path.plain rest)

/-- The place that a URL names. -/
def ofUrl? (url : String) : Option Location :=
  if "memory://".toList.isPrefixOf url.toList then some memory
  else
    match pathBehind? "file://" url, pathBehind? "sqlite://" url with
    | some path, _ => some (file path)
    | none, some path => some (table path)
    | none, none => none

/-- The message about a URL that names no place. -/
def unknownMessage (url : String) : String :=
  "Unknown backend for " ++ url

/-- The path of the place; records in memory have none. -/
def path : Location → String
  | memory => ""
  | file path | table path => path

/-! ## Opening -/

/-- Why no store can be opened at a place. -/
inductive Fault where
  /-- No file can have the name. -/
  | badName
  /-- The file cannot be read as records. -/
  | file (e : FileStore.OpenError)
  /-- No table can be kept at the path. -/
  | noTable
deriving DecidableEq, Repr

/-- The path that stands for a table which is gone as soon as it has been made. -/
def fleetingTable : String := ":memory:"

/-- Opens a store at a place where `disk` stands. A table is always a new one. -/
def start (now : Timestamp) (disk : Disk) (l : Location) : Except Fault Store :=
  if l.path.toList.contains '\x00' then .error .badName
  else
    match l with
    | memory => .ok (.memory .empty)
    | file path =>
      match FileStore.start now path disk with
      | .ok f => .ok (.file f)
      | .error e => .error (.file e)
    | table path =>
      if path = fleetingTable ∨ disk = .directory then .error .noTable else .ok (.table .empty)

/-- What is reported when a store is opened. -/
def notices (now : Timestamp) (disk : Disk) : Location → List Log.Notice
  | file path => FileStore.startNotices now path disk
  | _ => []

end Location

end Shortlink
