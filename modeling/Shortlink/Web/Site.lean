import Shortlink.Web.Message

/-!
# The user interface

A directory of files that are served as they are. A directory is shown by its index, and what does
not exist by a page of its own, if there is one. Files are always served whole: a client may ask for
a part of one, or under the condition that it has changed, but that is not looked at here.

## Contents

- `Site`: the files by their paths.
- `normalizePath`: a path without empty parts and without steps back.
- `Site.answer`: the response for a path below the directory.
-/

namespace Shortlink.Web

/-- Files by their paths below a directory, slashes between the parts. -/
structure Site where
  files : List (String × String)

/-- The parts of a path with empty parts and dots dropped and each step back taken; `none` if it
leads out of the directory. -/
def normalizePath (parts : List String) : Option (List String) :=
  go [] parts
where
  /-- Walks along the parts; `stack` holds those that are in force, the last one first. -/
  go (stack : List String) : List String → Option (List String)
    | [] => some stack.reverse
    | part :: rest =>
      if part = "" ∨ part = "." then go stack rest
      else if part = ".." then
        match stack with
        | [] => none
        | _ :: stack => go stack rest
      else go (part :: stack) rest

namespace Site

/-- The parts of the path of a file. -/
def partsOf (name : String) : List String :=
  (name.toList.splitOn '/').map String.ofList

/-- The file with a path. -/
def file? (s : Site) (parts : List String) : Option (String × String) :=
  s.files.find? fun (name, _) => partsOf name == parts

/-- The path is that of a directory: of the whole site, or of one that holds a file. -/
def isDirectory (s : Site) (parts : List String) : Bool :=
  parts.isEmpty || s.files.any fun (name, _) =>
    parts.isPrefixOf (partsOf name) && parts.length < (partsOf name).length

/-- A file with a status. A client that asks for the head alone gets no content. -/
def serve (method : String) (status : Nat) (f : String × String) : Response :=
  if method = "HEAD" then { status := status } else { status := status, body := .file f.1 f.2 }

/-- The response for what is not there. -/
def missing (s : Site) (method : String) : Response :=
  match s.file? ["404.html"] with
  | some f => serve method 404 f
  | none => .notFound

/-- The response to a request for a path below the directory. -/
def answer (s : Site) (r : Request) (rest : List Char) (selfUrl : List Char) : Response :=
  if r.method ≠ "GET" ∧ r.method ≠ "HEAD" then .methodNotAllowed
  else
    match normalizePath ((rest.splitOn '/').map String.ofList) with
    | none => s.missing r.method
    | some parts =>
      match s.file? parts with
      | some f => serve r.method 200 f
      | none =>
        if s.isDirectory parts then
          match s.file? (parts ++ ["index.html"]) with
          | some f =>
            if r.path.getLast? = some '/' then serve r.method 200 f else .redirect selfUrl
          | none => s.missing r.method
        else s.missing r.method

end Site

end Shortlink.Web
