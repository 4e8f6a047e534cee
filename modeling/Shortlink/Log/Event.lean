import Shortlink.Log.Level
import Shortlink.Log.Message
import Shortlink.Json.Writer
import Shortlink.Path
import Shortlink.Timestamp.Basic

/-!
# Log events

An event as a program reports it, and the line that is written about it in the form for machines:
an object with a field for each thing that is known of the event.

## Contents

- `Event`: template and arguments, level, logger, place in the program, and a failure.
- `Event.message`: the text of the event.
- `Event.fields`, `Event.jsonLine`: the object and its line.
-/

namespace Shortlink.Log

/-- A failure that an event reports: its kind and its text. -/
structure Failure where
  kind : String
  text : String
deriving DecidableEq, Repr

/-- Kind and text of a failure; an empty text is left out. -/
def Failure.description (f : Failure) : String :=
  if f.text.isEmpty then f.kind else f.kind ++ ": " ++ f.text

/-- An event. -/
structure Event where
  template : String
  arguments : List Json := []
  level : Level := .info
  logger : String := "golinks"
  /-- The file of the program in which it is reported. -/
  path : String := "/x/mod.py"
  line : Int := 1
  failure : Option Failure := none

namespace Event

/-- The text of the event. -/
def message (e : Event) : Except FillError String :=
  (fill e.template.toList e.arguments).map String.ofList

/-- The name of the file without its extension. -/
def module (e : Event) : String :=
  String.ofList (Path.stem e.path.toList)

/-- What is known of an event with a given text, under the names of the fields. -/
def fields (e : Event) (now : Timestamp) (message : String) : List (String × Json) :=
  [("timestamp", .str ({ now with offset := none }.text ++ "Z")), ("level", .str e.level.name),
    ("logger", .str e.logger), ("message", .str message), ("module", .str e.module),
    ("line", .int e.line)]
    ++ (e.failure.toList.map fun f => ("exception", .str f.description))

/-- The line for machines. -/
def jsonLine (e : Event) (now : Timestamp) : Except FillError String :=
  e.message.map fun message => (Json.obj (e.fields now message)).line

end Event

end Shortlink.Log
