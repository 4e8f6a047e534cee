import Shortlink.Json.Reader
import Shortlink.Suggestion
import Shortlink.Text.Encoding
import Shortlink.Web.Message
import Shortlink.Web.Number
import Shortlink.Web.Query

/-!
# Validation

What clients send is checked before it is used: the parameters of queries and the objects in
bodies. All faults of a request are reported together, each with its place. The report also quotes
what is faulty; if that is no text, there is no report.

## Contents

- `Issue`: a fault and its place.
- `refusal`, `refused`: the responses to requests with faults.
- `Checked`: values with the faults found on the way.
- `wholeParameter`, `realParameter`, `textParameter`: parameters of queries.
- `readBody`, `bodyFields`: the value in a body, by its content type.
- `looseField`, `textField`: the fields of an object.
- `NewRedirect`, `ChangedRedirect`: the two kinds of objects.
-/

namespace Shortlink.Web

open Text

/-- A fault and the place of what is faulty. -/
structure Issue where
  kind : String
  place : List Json
  /-- What is faulty holds what is no text. -/
  torn : Bool := false

/-- The report on an issue. -/
def Issue.toJson (i : Issue) : Json :=
  .arr [.str i.kind, .arr i.place]

/-- The response to a request with issues. -/
def refusal (issues : List Issue) : Response :=
  .ofJson 422 (.obj [("detail", .arr (issues.map (·.toJson)))])

/-- What becomes of a request whose body has issues. -/
def refused (issues : List Issue) : Reply :=
  if issues.any (·.torn) then .crash .tornQuote else .response (refusal issues)

/-- A value that passed, or the issues it has. -/
abbrev Checked (α : Type) := Except (List Issue) α

/-- Two values of which both must pass; the issues of both are reported. -/
def Checked.both {α β : Type} (a : Checked α) (b : Checked β) : Checked (α × β) :=
  match a, b with
  | .ok x, .ok y => .ok (x, y)
  | .error is, .ok _ => .error is
  | .ok _, .error js => .error js
  | .error is, .error js => .error (is ++ js)

/-! ## Parameters -/

/-- An issue of the parameter with the given name. -/
def parameterIssue (kind name : String) : List Issue :=
  [{ kind := kind, place := [.str "query", .str name] }]

/-- A whole number within bounds, or its default. -/
def wholeParameter (name : String) (default : Int) (least : Int) (most : Option Int)
    (query : List Char) : Checked Int :=
  match queryValue? name query with
  | none => .ok default
  | some s =>
    match readWhole s with
    | .error .malformed => .error (parameterIssue "int_parsing" name)
    | .error .tooLong => .error (parameterIssue "int_parsing_size" name)
    | .ok n =>
      if most.any (· < n) then .error (parameterIssue "less_than_equal" name)
      else if n < least then .error (parameterIssue "greater_than_equal" name)
      else .ok n

/-- A threshold between two scores, or its default. What is no number passes, and admits nothing. -/
def thresholdParameter (name : String) (default : Threshold) (least most : Rat)
    (query : List Char) : Checked Threshold :=
  match queryValue? name query with
  | none => .ok default
  | some s =>
    match readReal? s with
    | none => .error (parameterIssue "float_parsing" name)
    | some x =>
      match x, x.toRat? with
      | .infinite false, _ => .error (parameterIssue "less_than_equal" name)
      | .infinite true, _ => .error (parameterIssue "greater_than_equal" name)
      | _, some q =>
        if most < q then .error (parameterIssue "less_than_equal" name)
        else if q < least then .error (parameterIssue "greater_than_equal" name)
        else .ok (.atLeast q)
      | _, none => .ok .unreachable

/-- A text that must be given. -/
def textParameter (name : String) (query : List Char) : Checked String :=
  match queryValue? name query with
  | none => .error (parameterIssue "missing" name)
  | some s => .ok (String.ofList s)

/-! ## Bodies -/

/-- What a body holds. -/
inductive Content where
  /-- There is nothing, or nothing but null. -/
  | absent
  /-- The value that is written in it. -/
  | value (v : Json)
  /-- Bytes that are not to be read as a value. -/
  | bytes

/-- Why a body cannot be read. -/
inductive BodyError where
  | malformed (offset : Nat)
  | unreadable

/-- The content type is that of a value: the plain one or one that builds on it. -/
def isJsonType (header : String) : Bool :=
  let essence := (trim (header.toList.takeWhile (· != ';'))).map Char.toLower
  match essence.splitOn '/' with
  | [main, sub] =>
    main == "application".toList && (sub == "json".toList || "+json".toList.isSuffixOf sub)
  | _ => false

/-- Reads a body. Without a content type it is taken for a value. -/
def readBody (r : Request) : Except BodyError Content :=
  if r.body.isEmpty then .ok .absent
  else if (r.header? "content-type").all fun h => h.isEmpty || isJsonType h then
    match decodeAny? r.body with
    | none => .error .unreadable
    | some text =>
      match Json.readChars text with
      | .ok .null => .ok .absent
      | .ok v => .ok (.value v)
      | .error (.malformed offset) => .error (.malformed offset)
      | .error .longInteger => .error .unreadable
  else .ok .bytes

/-- The fields of the object in a body, or the reply to a body without one. -/
def bodyFields (r : Request) : Except Reply (List (String × Json)) :=
  let refuse (kind : String) (place : List Json) (torn : Bool) :
      Except Reply (List (String × Json)) :=
    .error (refused [⟨kind, .str "body" :: place, torn⟩])
  match readBody r with
  | .error (.malformed offset) => refuse "json_invalid" [.int offset] false
  | .error .unreadable => .error (.response (.message 400 "There was an error parsing the body"))
  | .ok .absent => refuse "missing" [] false
  | .ok (.value (.obj fields)) => .ok fields
  | .ok (.value v) => refuse "model_attributes_type" [] v.holdsTorn
  | .ok .bytes => refuse "model_attributes_type" [] false

/-- An issue of the field with the given name. -/
def fieldIssue (kind name : String) (torn : Bool) : List Issue :=
  [⟨kind, [.str "body", .str name], torn⟩]

/-- What is written as a string in a field, which must be there. -/
def looseField (name : String) (fields : List (String × Json)) : Checked Loose :=
  match Json.lookup? name fields with
  | none => .error (fieldIssue "missing" name (Json.obj fields).holdsTorn)
  | some (.str s) => .ok (.whole s)
  | some (.torn t) => .ok (.torn t)
  | some v => .error (fieldIssue "string_type" name v.holdsTorn)

/-- A text in a field, which must not be empty. -/
def textField (name : String) (fields : List (String × Json)) : Checked String :=
  match looseField name fields with
  | .error issues => .error issues
  | .ok (.torn _) => .error (fieldIssue "string_unicode" name true)
  | .ok (.whole s) =>
    if s.isEmpty then .error (fieldIssue "string_too_short" name false) else .ok s

/-- What a client sends to make a record. -/
structure NewRedirect where
  aliasName : String
  written : Loose

/-- What a client sends to change a record. -/
structure ChangedRedirect where
  written : Loose

/-- The destination of a new record as a text. -/
def NewRedirect.destination (asked : NewRedirect) : String :=
  asked.written.text

/-- The new destination as a text. -/
def ChangedRedirect.destination (asked : ChangedRedirect) : String :=
  asked.written.text

/-- The record that a client asks to be made. -/
def newRedirect (r : Request) : Except Reply NewRedirect :=
  match bodyFields r with
  | .error reply => .error reply
  | .ok fields =>
    match Checked.both (textField "alias" fields) (looseField "destination" fields) with
    | .ok (aliasName, destination) => .ok ⟨aliasName, destination⟩
    | .error issues => .error (refused issues)

/-- The change that a client asks for. -/
def changedRedirect (r : Request) : Except Reply ChangedRedirect :=
  match bodyFields r with
  | .error reply => .error reply
  | .ok fields =>
    match looseField "destination" fields with
    | .ok destination => .ok ⟨destination⟩
    | .error issues => .error (refused issues)

end Shortlink.Web
