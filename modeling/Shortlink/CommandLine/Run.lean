import Shortlink.Client.Table
import Shortlink.CommandLine.Command
import Shortlink.Log.Value

/-!
# Running commands

A command sends requests to the service and prints what it is answered.

## Contents

- `Trace`: what a command prints, reports and leaves behind.
- `runList`, `runGet`, `runCreate`, `runUpdate`, `runDelete`: the commands.
- `Exit`, `Report`, `run`: the program.
-/

namespace Shortlink.CommandLine

open Client

/-- How a command ends, the lines that it has printed and what it has reported until then, and the
connection afterwards. -/
structure Trace (σ : Type) where
  result : Except Failure Unit
  printed : List String := []
  notices : List Log.Notice := []
  connection : Connection σ

variable {σ : Type}

/-- A value of an answer as it is printed. -/
def shown (v : Json) : String :=
  String.ofList (Log.plainValue v)

/-! ## The commands -/

/-- Prints a table of all records. -/
def runList (ex : Exchange σ) (c : Connection σ) : Trace σ :=
  let (records, c) := c.fetchAll ex pageSize maxPages
  match records.bind Client.Table.rows with
  | .ok rows => { result := .ok (), printed := [Client.Table.text rows], connection := c }
  | .error e => { result := .error e, connection := c }

/-- The path of a record. -/
def recordPath (aliasName : String) : String :=
  "/redirect/" ++ aliasName

/-- What a link makes of an option, as it is printed. -/
def evaluation (link : Link) (option : String) : String :=
  "Evaluating \x60" ++ option ++ "\x60 => " ++ String.ofList (link.evaluate option.toList)

/-- Prints the destination of a record and what its link makes of the options. -/
def runGet (ex : Exchange σ) (aliasName : String) (options : List String) (c : Connection σ) :
    Trace σ :=
  let (answer, c) := c.request ex "GET" (recordPath aliasName) none
  match answer.bind fun body => (field "destination" body).map fun d => (body, d) with
  | .error e => { result := .error e, connection := c }
  | .ok (body, destination) =>
    let target := "Redirect target: " ++ shown destination
    match field "alias" body, destination with
    | .error e, _ => { result := .error e, printed := [target], connection := c }
    | .ok (.str aliasName), .str destination =>
      let link := Link.ofDestination aliasName destination
      { result := .ok ()
        printed := target :: options.map (evaluation link)
        notices := (Link.warning? destination).toList.map fun w =>
          ⟨.warning, "golinks.redirects.compiler", w⟩
        connection := c }
    | _, _ => { result := .error .wrongKind, printed := [target], connection := c }

/-- Creates a record and prints what the service made of it. -/
def runCreate (ex : Exchange σ) (aliasName destination : String) (c : Connection σ) : Trace σ :=
  let asked := Json.obj [("alias", .str aliasName), ("destination", .str destination)]
  let (answer, c) := c.request ex "POST" "/redirect" (some asked)
  let line := do
    let body ← answer
    let a ← field "alias" body
    let d ← field "destination" body
    return "Created " ++ shown a ++ " => " ++ shown d
  match line with
  | .ok line => { result := .ok (), printed := [line], connection := c }
  | .error e => { result := .error e, connection := c }

/-- Prints a line if the request before it was answered. -/
def confirm (answer : Except Failure Json) (line : String) (c : Connection σ) : Trace σ :=
  match answer with
  | .ok _ => { result := .ok (), printed := [line], connection := c }
  | .error e => { result := .error e, connection := c }

/-- Gives a record another destination. -/
def runUpdate (ex : Exchange σ) (aliasName destination : String) (c : Connection σ) : Trace σ :=
  let asked := Json.obj [("destination", .str destination)]
  let (answer, c) := c.request ex "PUT" (recordPath aliasName) (some asked)
  confirm answer ("Updated " ++ aliasName ++ " => " ++ destination) c

/-- Removes a record. -/
def runDelete (ex : Exchange σ) (aliasName : String) (c : Connection σ) : Trace σ :=
  let (answer, c) := c.request ex "DELETE" (recordPath aliasName) none
  confirm answer ("Deleted " ++ aliasName) c

/-- Runs a command that talks to the service. -/
def runCommand (ex : Exchange σ) (command : Command) (c : Connection σ) : Trace σ :=
  match command with
  | .list => runList ex c
  | .get aliasName options => runGet ex aliasName options c
  | .create aliasName destination => runCreate ex aliasName destination c
  | .update aliasName destination => runUpdate ex aliasName destination c
  | .delete aliasName => runDelete ex aliasName c
  | .serve _ _ => { result := .ok (), connection := c }

/-! ## The program -/

/-- How the program ends: with a number, or broken off. -/
inductive Exit where
  | code (n : Nat)
  | broken (f : Failure)
deriving DecidableEq, Repr

/-- What a run of the program shows and leaves behind. -/
structure Report (σ : Type) where
  exit : Exit
  printed : List String := []
  /-- The last line of what is said about a wrong use. -/
  complaint : Option String := none
  /-- Where the service is to listen, if it is to be started. -/
  served : Option (String × Int) := none
  notices : List Log.Notice := []
  sent : List (String × String) := []
  state : σ

/-- The report on a trace. -/
def Report.ofTrace (t : Trace σ) : Report σ :=
  let (exit, notices) : Exit × List Log.Notice :=
    match t.result with
    | .ok _ => (.code 0, [])
    | .error e =>
      match e.message? with
      | some message => (.code 1, [⟨.error, "golinks.cli", message⟩])
      | none => (.broken e, [])
  { exit := exit
    printed := t.printed
    notices := t.notices ++ notices
    sent := t.connection.sent
    state := t.connection.state }

/-- How a program is used, in short. -/
def usage (program : String) : String :=
  "usage: " ++ program ++ " [-h] ..."

/-- The report on a run that ends while the arguments are read. -/
def Report.ofStop (s : σ) : Stop → Report σ
  | .complaint program c =>
    { exit := .code 2, complaint := some (program ++ ": error: " ++ c.message), state := s }
  | .help program => { exit := .code 0, printed := [usage program], state := s }
  | .version => { exit := .code 0, printed := [programName ++ " " ++ version], state := s }

/-- Runs the program. `isFile` tells which files there are. -/
def run (ex : Exchange σ) (settings : Settings) (isFile : String → Bool) (arguments : List String)
    (s : σ) : Report σ :=
  match Invocation.ofArguments settings arguments with
  | .error stop => .ofStop s stop
  | .ok i =>
    match i.command with
    | .serve host port => { exit := .code 0, served := some (host, port), state := s }
    | command =>
      match connect isFile i.server i.auth i.certificate i.authority with
      | .error e => .ofTrace { result := .error e, connection := { server := "", state := s } }
      | .ok server => .ofTrace (runCommand ex command { server := server, state := s })

end Shortlink.CommandLine
