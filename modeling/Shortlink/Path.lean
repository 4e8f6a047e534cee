/-!
# Paths of files

A path is a text whose parts stand between slashes. Its plain form holds no empty part and no part
that is a single dot; steps back are kept, because a link may stand before them.

## Contents

- `Path.root`, `Path.parts`: the slashes in front and the parts.
- `Path.plain`: the plain form.
- `Path.absolute`: the place that a path names, seen from a directory.
- `Path.fileName`, `Path.stem`: the last part, with and without its extension.
-/

namespace Shortlink.Path

/-! ## Parts -/

/-- The root of a path: two slashes in front are kept apart from one, and more count as one. -/
def root : List Char → List Char
  | '/' :: '/' :: '/' :: _ => ['/']
  | '/' :: '/' :: _ => ['/', '/']
  | '/' :: _ => ['/']
  | _ => []

/-- The parts of a path, without empty ones and single dots. -/
def parts (path : List Char) : List (List Char) :=
  (path.splitOn '/').filter fun part => !part.isEmpty && part != ['.']

/-- The parts with slashes between them. -/
def join (parts : List (List Char)) : List Char :=
  List.intercalate ['/'] parts

/-- The plain form of a path; that of no path at all is a dot. -/
def plain (path : List Char) : List Char :=
  match root path ++ join (parts path) with
  | [] => ['.']
  | p => p

/-- The parts with each step back taken; nothing lies above the root. -/
def walk (stack : List (List Char)) : List (List Char) → List (List Char)
  | [] => stack.reverse
  | part :: rest =>
    if part = ['.', '.'] then walk (stack.drop 1) rest else walk (part :: stack) rest

/-- The place that a path names if it is seen from the directory `cwd`, steps back taken. -/
def absolute (cwd path : List Char) : List Char :=
  let path := if (root path).isEmpty then cwd ++ '/' :: path else path
  root path ++ join (walk [] (parts path))

/-! ## The name of a file -/

/-- What follows the last slash. -/
def fileName (path : List Char) : List Char :=
  (path.reverse.takeWhile (· != '/')).reverse

/-- The name of the file without its last extension. Dots in front of a name begin no extension. -/
def stem (path : List Char) : List Char :=
  let name := fileName path
  let lead := name.takeWhile (· == '.')
  let rest := name.dropWhile (· == '.')
  match rest.reverse.dropWhile (· != '.') with
  | [] => name
  | _ :: before => lead ++ before.reverse

end Shortlink.Path
