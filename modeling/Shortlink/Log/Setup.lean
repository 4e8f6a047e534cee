import Shortlink.Log.Event
import Shortlink.Settings.Environment
import Shortlink.Text.LowerCase
import Shortlink.Version

/-!
# Where events go

Events go to the console and to two files, one for everything and one for errors. Each of these
sinks has a bar of its own. Before them, an event must pass the bar of the logger that it is
reported to; for chatty libraries that bar is high.

## Contents

- `barNamed`: the bar that a name asks for.
- `Wishes`: what the caller asks for.
- `Sink`, `Setup`: the sinks that are set up.
- `Setup.ofWishes`: setting up, from the wishes of a caller and the environment.
- `Setup.startNotices`: the first events.
- `loggerBar`, `Sink.accepts`: which events reach a sink.
-/

namespace Shortlink.Log

open Text

/-! ## Names of bars -/

/-- The capital of a letter, as far as names of levels are concerned: besides the letters of ASCII
only the dotless i and the long s have capitals there. -/
def capital (c : Char) : Char :=
  if c = 'ı' then 'I' else if c = 'ſ' then 'S' else c.toUpper

/-- A name in capitals. -/
def inCapitals (name : String) : String :=
  String.ofList (name.toList.map capital)

/-- Why a name is refused: it stands for a setting that is no bar. -/
inductive BarFault where
  /-- The default layout of a line, which is a text. -/
  | layoutText
  /-- The table of layouts. -/
  | layoutTable
deriving DecidableEq, Repr

/-- The names that stand for settings that are no bars. -/
def refusedNames : List (String × BarFault) :=
  [("BASIC_FORMAT", .layoutText), ("_STYLES", .layoutTable)]

/-- The bar that a name stands for, in small or capital letters, if it stands for one. -/
def barNamed (name : String) : Except BarFault (Option Level) :=
  match refusedNames.lookup (inCapitals name) with
  | some fault => .error fault
  | none => .ok (Level.named? (inCapitals name))

/-! ## Wishes -/

/-- What the caller asks for. What is left open is taken from the environment. -/
structure Wishes where
  level : Option String := none
  directory : Option String := none
  json : Option Bool := none
  toFiles : Bool := true
deriving DecidableEq, Repr

/-- The bar of the console in the environment. -/
def environmentBar (e : Environment) : Except BarFault Level :=
  (barNamed ((e.get? "LOG_LEVEL").getD "INFO")).map (·.getD .info)

/-- The bar of the console: what the caller asks for, unless it is everything or no bar at all. -/
def Wishes.bar (w : Wishes) (e : Environment) : Except BarFault Level := do
  match ← barNamed (w.level.getD "") with
  | none | some .everything => environmentBar e
  | some l => return l

/-- The directory of log files in the environment; `root` is the directory of the program. -/
def environmentDirectory (root : String) (e : Environment) : String :=
  let named := (e.get? "LOG_DIR").getD ""
  String.ofList
    (if named.isEmpty then root.toList ++ "/logs".toList else Path.plain named.toList)

/-- The directory of log files. -/
def Wishes.directoryIn (w : Wishes) (root : String) (e : Environment) : String :=
  match w.directory with
  | some d => if d.isEmpty then environmentDirectory root e
    else String.ofList (Path.plain d.toList)
  | none => environmentDirectory root e

/-- Lines are written for machines. -/
def Wishes.isJson (w : Wishes) (e : Environment) : Bool :=
  w.json.getD (lowerCase ((e.get? "LOG_FORMAT").getD "text").toList == "json".toList)

/-! ## Sinks -/

/-- A file that is put aside when it has become too long. -/
structure LogFile where
  path : String
  maxBytes : Nat := 10485760
  /-- The number of files put aside that are kept. -/
  backups : Nat
deriving DecidableEq, Repr

/-- A place where events are written: a file, or the console. -/
structure Sink where
  bar : Level
  file : Option LogFile
deriving DecidableEq, Repr

/-- The sinks in the order in which they are served, and the form of their lines. -/
structure Setup where
  bar : Level
  json : Bool
  /-- The directory of the files, if files are written. -/
  directory : Option String
  sinks : List Sink
deriving DecidableEq, Repr

/-- The path of a file in a directory; a relative directory is one of the directory `cwd`. -/
def fileIn (cwd directory name : String) : String :=
  String.ofList (Path.absolute cwd.toList (directory.toList ++ '/' :: name.toList))

/-- The files in a directory: one for everything, one for errors. -/
def fileSinks (cwd directory : String) : List Sink := [
  ⟨.debug, some { path := fileIn cwd directory "golinks.log", backups := 5 }⟩,
  ⟨.error, some { path := fileIn cwd directory "golinks_errors.log", backups := 3 }⟩]

/-- Sets the sinks up. -/
def Setup.ofWishes (root cwd : String) (w : Wishes) (e : Environment) : Except BarFault Setup := do
  let bar ← w.bar e
  let directory := w.directoryIn root e
  return {
    bar := bar
    json := w.isJson e
    directory := if w.toFiles then some directory else none
    sinks := ⟨bar, none⟩ :: if w.toFiles then fileSinks cwd directory else [] }

/-- The events with which a program starts. -/
def Setup.startNotices (s : Setup) : List Notice :=
  let say (text : String) : Notice := ⟨.info, "golinks", "[STARTUP] " ++ text⟩
  [say ("golinks " ++ version), say ("Log level: " ++ s.bar.name)]
    ++ (s.directory.toList.map fun d => say ("Log directory: " ++ d))
    ++ [say ("Log format: " ++ if s.json then "JSON" else "text")]

/-! ## Loggers -/

/-- The loggers with a bar of their own. -/
def loggerBars : List (String × Level) := [
  ("uvicorn", .warning), ("uvicorn.access", .warning), ("uvicorn.error", .info),
  ("httpx", .warning), ("httpcore", .warning), ("httpcore.connection", .warning),
  ("httpcore.http11", .warning), ("watchfiles", .warning)]

/-- The bar of all other loggers. -/
def rootBar : Level := .debug

/-- A logger and those above it: its name with one part after another cut off at the end. -/
def lineage (parts : List (List Char)) : List String :=
  (List.range parts.length).map fun n =>
    String.ofList (List.intercalate ['.'] (parts.take (parts.length - n)))

/-- The bar of a logger: its own or that of the nearest logger above. -/
def loggerBar (name : String) : Level :=
  ((lineage (name.toList.splitOn '.')).findSome? fun n => loggerBars.lookup n).getD rootBar

/-- An event passes the bar of its logger and that of the sink. -/
def Sink.accepts (s : Sink) (e : Notice) : Bool :=
  e.level.reaches (loggerBar e.logger) && e.level.reaches s.bar

/-- The name of a level as it stands in a line for readers, eight characters wide. -/
def Level.column (l : Level) : String :=
  String.ofList (l.name.toList ++ List.replicate (8 - l.name.length) ' ')

end Shortlink.Log
