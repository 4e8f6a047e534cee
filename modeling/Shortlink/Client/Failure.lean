import Shortlink.Json.Basic

/-!
# Failures of the client

Why a command that talks to the service fails. Some failures are foreseen and are reported in a
sentence; the others end the program.

## Contents

- `Failure`: the causes.
- `Failure.message?`: the sentence about a cause that is foreseen.
- `field`: reading a field of an answer.
-/

namespace Shortlink.Client

/-- Why a command fails. -/
inductive Failure where
  /-- A certificate has to be given. -/
  | certificateRequired
  /-- There is no file with the certificate. -/
  | certificateMissing (path : String)
  /-- The service refuses a request. -/
  | refused (method url : String) (status : Nat)
  /-- No service answers. -/
  | unreachable
  /-- The text is no URL. -/
  | invalidUrl
  /-- The URL names no server. -/
  | noServer
  /-- The answer is no JSON. -/
  | notJson
  /-- A field is missing in the answer. -/
  | missingField (name : String)
  /-- A value in the answer is of a wrong kind. -/
  | wrongKind
  /-- A value in the answer is an object or a list, but not what is expected of it. -/
  | wrongShape
  /-- The pages of a list do not come to an end. -/
  | endless
deriving DecidableEq, Repr

/-- The sentence about a failure that is foreseen. -/
def Failure.message? : Failure → Option String
  | certificateRequired => some "--cert is required with --auth mtls"
  | certificateMissing path =>
    some ("Certificate " ++ path ++ " does not exist or cannot be read")
  | refused method url status =>
    some ("Request " ++ method ++ " " ++ url ++ " failed with " ++ toString status
      ++ ". See debug logs for actual response")
  | unreachable => some "Connection refused"
  | _ => none

/-- The value of a field that an answer must have. -/
def field (name : String) : Json → Except Failure Json
  | .obj fields =>
    match Json.lookup? name fields with
    | some v => .ok v
    | none => .error (.missingField name)
  | _ => .error .wrongKind

end Shortlink.Client
