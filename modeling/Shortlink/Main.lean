import Std.Time.DateTime
import Shortlink.CommandLine.Run
import Shortlink.Log.Setup
import Shortlink.Store.Location
import Shortlink.Timestamp.Epoch

/-!
# The program

The command line at work on the service in the same process: settings come from the environment and
from a file `.env`, records from the place that they name. Started as a service, the program answers
requests that stand on its input, one on a line: method, target and content.
-/

namespace Shortlink.Main

/-! ## Surroundings -/

/-- The time, in universal time. -/
def currentTime : IO Timestamp := do
  let now ← Std.Time.Timestamp.now
  let microseconds := now.toNanosecondsSinceUnixEpoch.val / 1000
  match Timestamp.ofEpoch? microseconds.toNat with
  | some t => return t
  | none => throw (IO.userError "the clock is out of range")

/-- The characters of public references. -/
def refAlphabet : List Char :=
  "ABCDEFGHIJKLMNOPQRSTUVWXYZabcdefghijklmnopqrstuvwxyz0123456789".toList

/-- What a new record gets from outside: the time and ten random characters. -/
def currentFresh : IO Fresh := do
  let mut ref : List Char := []
  for _ in [0:10] do
    let n ← IO.rand 0 (refAlphabet.length - 1)
    ref := refAlphabet.getD n 'A' :: ref
  return ⟨← currentTime, String.ofList ref⟩

/-- What stands under the name of a file. -/
def diskAt (path : String) : IO Disk := do
  try
    let bytes ← IO.FS.readBinFile path
    return .file bytes.toList
  catch
    | .noFileOrDirectory .. => return .vacant
    | _ => return .directory

/-- The text of a file, if it can be read. -/
def textAt? (path : String) : IO (Option String) := do
  match ← diskAt path with
  | .file bytes => return (Text.Utf8.decode? bytes).map String.ofList
  | _ => return none

/-- The variables that the program looks at, as far as they are set. -/
def environment : IO Environment := do
  let names := ["DATABASE_URL", "API_HOST", "API_PORT", "UI_PATH", "GOLINKS_API_SERVER"]
  let mut e : Environment := []
  for name in names do
    if let some value ← IO.getEnv name then
      e := e.set name value
  return e

/-- The pages of the user interface that are there. -/
def siteAt (directory : String) : IO (Option Web.Site) := do
  let mut files : List (String × String) := []
  for name in ["index.html", "404.html"] do
    if let some content ← textAt? (directory ++ "/" ++ name) then
      files := files ++ [(name, content)]
  return if files.isEmpty then none else some ⟨files⟩

/-! ## The service -/

/-- The service, and what the next record gets from outside. -/
structure Running where
  app : Web.App
  fresh : Fresh
  notices : List Log.Notice := []

/-- Lets the service answer. -/
def Running.answer (s : Running) (r : Web.Request) : Web.Reply × Running :=
  let o := s.app.handle s.fresh r
  (o.reply, { s with app := s.app.after o, notices := s.notices ++ o.notices })

/-- The service as the other side of a client. -/
def exchange : Client.Exchange Running := fun r s =>
  let (reply, s) := s.answer r
  (.ofReply reply, s)

/-- Writes what is reported. -/
def report (notices : List Log.Notice) : IO Unit := do
  for n in notices do
    (← IO.getStderr).putStrLn (n.level.column ++ " | " ++ n.logger ++ " | " ++ n.message)

/-- Writes the file of the records if there is one. -/
def save (app : Web.App) : IO Unit :=
  match app.catalog.store with
  | .file f =>
    match f.disk with
    | .file bytes => IO.FS.writeBinFile f.path ⟨bytes.toArray⟩
    | _ => pure ()
  | _ => pure ()

/-- The content of a response. -/
def contentText : Web.Body → String
  | .empty | .generated _ => ""
  | .json v => v.line
  | .text t => t
  | .file _ t => t

/-- Writes a reply: its status, where it sends the client, and its content. -/
def writeReply : Web.Reply → IO Unit
  | .response r => do
    IO.println (toString r.status ++ String.join (r.location.toList.map (" " ++ ·)))
    IO.println (contentText r.body)
  | .crash _ => IO.println "500"

/-- The request on a line: method and target, and after these perhaps content. -/
def requestOf (line : String) : Web.Request :=
  let words := line.trimAscii.toString.splitOn " "
  let body := String.intercalate " " (words.drop 2)
  let headers := if body.isEmpty then [] else [("content-type", "application/json")]
  Web.Request.ofTarget (words.getD 0 "GET") (words.getD 1 "/") headers
    (Text.Utf8.encode body.toList) true

/-- Answers the requests on the input until it ends. -/
partial def serve (s : Running) : IO Unit := do
  let line ← (← IO.getStdin).getLine
  if line.isEmpty then return
  let (reply, next) := { s with fresh := ← currentFresh, notices := [] }.answer (requestOf line)
  writeReply reply
  report next.notices
  save next.app
  serve next

/-! ## The command line -/

/-- The arguments that are, or end in, the path of something that exists, in plain form. -/
def existingPaths (arguments : List String) : IO (List String) := do
  let mut found : List String := []
  for argument in arguments do
    for path in [argument, String.intercalate "=" ((argument.splitOn "=").drop 1)] do
      unless (← diskAt path) = .vacant do
        found := CommandLine.plainPath path :: found
  return found

/-- Opens the store that the settings name. -/
def openStore (settings : Settings) : IO Store := do
  match Location.ofUrl? settings.databaseUrl with
  | none => throw (IO.userError (Location.unknownMessage settings.databaseUrl))
  | some l =>
    let disk ← if l.path.isEmpty then pure .vacant else diskAt l.path
    let now ← currentTime
    report (l.notices now disk)
    match l.start now disk with
    | .ok store => return store
    | .error _ => throw (IO.userError ("no store can be opened at " ++ l.path))

/-- Runs the program. -/
def run (arguments : List String) : IO UInt32 := do
  let file := (← textAt? ".env").getD ""
  match Settings.load? "." (← environment) file with
  | none => throw (IO.userError "the settings cannot be read")
  | some settings =>
    let existing ← existingPaths arguments
    let store ← openStore settings
    let app : Web.App := ⟨.ofStore store, ← siteAt settings.uiDirectory, Text.spellChar⟩
    let r := CommandLine.run exchange settings existing.contains arguments
      ⟨app, ← currentFresh, []⟩
    for line in r.printed do
      IO.println line
    report (r.state.notices ++ r.notices)
    save r.state.app
    if let some complaint := r.complaint then
      (← IO.getStderr).putStrLn complaint
    if r.served.isSome then
      serve r.state
    match r.exit with
    | .code n => return n.toUInt32
    | .broken _ => return 70

end Shortlink.Main

/-- The program, with its arguments. -/
def main (arguments : List String) : IO UInt32 :=
  Shortlink.Main.run arguments
