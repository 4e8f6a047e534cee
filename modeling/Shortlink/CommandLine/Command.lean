import Shortlink.Client.Connection
import Shortlink.CommandLine.Reader
import Shortlink.Path
import Shortlink.Settings

/-!
# Commands

What the command line can be asked to do, and how that is written.

## Contents

- `Command`, `Invocation`: what is asked for.
- `mainGrammar`, `commandGrammar`: how it is written.
- `Invocation.ofArguments`: reading it.
-/

namespace Shortlink.CommandLine

/-- What the command line is asked to do. -/
inductive Command where
  | list
  | get (aliasName : String) (options : List String)
  | create (aliasName destination : String)
  | update (aliasName destination : String)
  | delete (aliasName : String)
  | serve (host : String) (port : Int)
deriving DecidableEq, Repr

/-- A command and the service that it is for. -/
structure Invocation where
  server : String
  auth : Client.Auth
  /-- The path of a certificate, in plain form. -/
  certificate : Option String
  /-- The path of the certificates that the service is checked by, in plain form. -/
  authority : Option String
  verbose : Bool
  command : Command
deriving DecidableEq, Repr

/-! ## Grammars -/

/-- The name of the program. -/
def programName : String := "golinks"

/-- The option that shows how a program is used. -/
def helpOption : Opt := ⟨["-h", "--help"], .help, false⟩

/-- An option with any value. -/
def textOption (name : String) (required : Bool) : Opt := ⟨[name], .value .anything, required⟩

/-- The names of the commands. -/
def commandNames : List String := ["list", "get", "create", "update", "delete", "serve"]

/-- The label of the command in messages. -/
def commandLabel : String := "command"

/-- The arguments before and with the command. -/
def mainGrammar : Grammar where
  program := programName
  options := [
    helpOption,
    ⟨["--version"], .version, false⟩,
    textOption "--server-name" false,
    ⟨["--auth"], .value (.oneOf ["none", "mtls", "x509"]), false⟩,
    textOption "--cert" false,
    textOption "--ca" false,
    ⟨["-v", "--verbose"], .flag, false⟩]
  slot := .command commandLabel commandNames

/-- The arguments of a command. -/
def commandGrammar (name : String) : Grammar :=
  let (options, slot) : List Opt × Slot :=
    match name with
    | "get" => ([textOption "--options" false], .one "alias")
    | "create" | "update" =>
      ([textOption "--alias" true, textOption "--destination" true], .none)
    | "delete" => ([], .one "alias")
    | "serve" => ([textOption "--host" false, ⟨["--port"], .value .whole, false⟩], .none)
    | _ => ([], .none)
  { program := programName ++ " " ++ name
    options := helpOption :: options
    slot := slot }

/-! ## Reading -/

/-- The command with a name, from what was found among its arguments. -/
def Command.ofFound (settings : Settings) (name : String) (f : Found) : Command :=
  let operand := f.operands.headD ""
  let value (key : String) : String := (f.value? key).getD ""
  match name with
  | "get" => get operand (f.valuesOf "--options")
  | "create" => create (value "--alias") (value "--destination")
  | "update" => update (value "--alias") (value "--destination")
  | "delete" => delete operand
  | "serve" =>
    serve ((f.value? "--host").getD settings.apiHost)
      (((f.value? "--port").bind fun p => Text.readInteger? p.toList).getD settings.apiPort)
  | _ => list

/-- A path in plain form. -/
def plainPath (path : String) : String :=
  String.ofList (Path.plain path.toList)

/-- Reads the arguments of the program. First those before the command are read, then those of the
command; last comes what is left over. -/
def Invocation.ofArguments (settings : Settings) (arguments : List String) :
    Except Stop Invocation := do
  let main ← mainGrammar.read arguments
  match main.operands with
  | [] => mainGrammar.complain (.missing (mainGrammar.missing main))
  | name :: rest =>
    if !commandNames.contains name then
      mainGrammar.complain (.invalidChoice commandLabel name commandNames)
    else
      let g := commandGrammar name
      let found ← g.read rest
      g.checkComplete found
      mainGrammar.checkComplete main
      let leftOver := main.leftOver ++ found.leftOver
      if !leftOver.isEmpty then mainGrammar.complain (.leftOver leftOver)
      else
        let auth := (main.value? "--auth").getD "none"
        return {
          server := (main.value? "--server-name").getD settings.apiServer
          auth := if auth = "x509" then .certificate else .named auth
          certificate := (main.value? "--cert").map plainPath
          authority := (main.value? "--ca").map plainPath
          verbose := (main.value? "--verbose").isSome
          command := .ofFound settings name found }

end Shortlink.CommandLine
