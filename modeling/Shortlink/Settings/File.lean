import Shortlink.Settings.Environment
import Shortlink.Text.Blank

/-!
# Files of settings

A file of settings gives variables values, one to a line: a name, an equal sign and a value, which
may stand between quotes and then go over several lines. The word `export` may stand in front, a
comment behind. A line that does not have this form is passed over.

A value may refer to a variable by its name between `$` and braces, with a default after `:-`.

## Contents

- `SettingsFile.Entry`: a name, and the value if there is one.
- `SettingsFile.entries`: what a text says.
- `SettingsFile.resolve`: a value with its references filled in.
- `SettingsFile.overlay?`: the environment with the values of a text.
-/

namespace Shortlink.SettingsFile

open Text

/-- A name, and the value that is given to it. -/
structure Entry where
  name : String
  value : Option String
deriving DecidableEq, Repr

/-! ## Lines -/

/-- The text with every way of ending a line made a line feed. -/
def unifyLineEnds : List Char → List Char
  | '\r' :: '\n' :: rest => '\n' :: unifyLineEnds rest
  | '\r' :: rest => '\n' :: unifyLineEnds rest
  | c :: rest => c :: unifyLineEnds rest
  | [] => []

/-- A blank within a line. -/
def isGap (c : Char) : Bool :=
  isBlank c && c != '\n'

/-- The text after the line that it begins with. -/
def dropLine (s : List Char) : List Char :=
  (s.dropWhile (· != '\n')).drop 1

/-- The text after a comment, if it begins with one; blanks may stand before it. -/
def dropComment (s : List Char) : List Char :=
  match s.dropWhile isGap with
  | '#' :: rest => rest.dropWhile (· != '\n')
  | _ => s

/-- The text after a line end that only blanks stand before. -/
def lineEnd? (s : List Char) : Option (List Char) :=
  match s.dropWhile isGap with
  | [] => some []
  | '\n' :: rest => some rest
  | _ => none

/-! ## Names and values -/

/-- The text after the word `export` and the blanks behind it, if it begins with these. -/
def dropExport (s : List Char) : List Char :=
  match "export".toList.isPrefixOf? s with
  | some (c :: rest) => if isGap c then rest.dropWhile isGap else s
  | _ => s

/-- A character of a name that stands without quotes. -/
def isNameChar (c : Char) : Bool :=
  c != '=' && c != '#' && !isBlank c

/-- What is found at a place, and the text behind it; `none` if the form is another one. -/
abbrev Reading (α : Type) := Option (α × List Char)

/-- A name, perhaps in single quotes. A comment stands for no name. -/
def name? (s : List Char) : Reading (Option (List Char)) :=
  match s with
  | '#' :: _ => some (none, s)
  | '\'' :: rest =>
    match rest.span (· != '\'') with
    | (n, _ :: after) => if n.isEmpty then none else some (some n, after)
    | (_, []) => none
  | _ =>
    match s.span isNameChar with
    | ([], _) => none
    | (n, after) => some (some n, after)

/-- The text up to the quote that closes it, and what follows. A backslash keeps the next quote
from closing, unless no other quote does. -/
def untilQuote? (quote : Char) : List Char → Reading (List Char)
  | [] => none
  | [c] => if c = quote then some ([], []) else none
  | c :: d :: rest =>
    if c = quote then some ([], d :: rest)
    else if c = '\\' ∧ d = quote then
      match untilQuote? quote rest with
      | some (s, after) => some (c :: d :: s, after)
      | none => some ([c], rest)
    else (untilQuote? quote (d :: rest)).map fun (s, after) => (c :: s, after)

/-- The characters that a backslash may stand before in single quotes, and what it makes them. -/
def singleEscapes : List (Char × Char) := [('\\', '\\'), ('\'', '\'')]

/-- The characters that a backslash may stand before in double quotes, and what it makes them. -/
def doubleEscapes : List (Char × Char) := [
  ('\\', '\\'), ('\'', '\''), ('"', '"'), ('a', '\x07'), ('b', '\x08'), ('f', '\x0c'),
  ('n', '\n'), ('r', '\r'), ('t', '\t'), ('v', '\x0b')]

/-- Resolves the escapes of a table. -/
def unescape (escapes : List (Char × Char)) : List Char → List Char
  | '\\' :: c :: rest =>
    match escapes.lookup c with
    | some d => d :: unescape escapes rest
    | none => '\\' :: unescape escapes (c :: rest)
  | c :: rest => c :: unescape escapes rest
  | [] => []

/-- The part of a line before a number sign that follows a blank. -/
def beforeComment : List Char → List Char
  | c :: '#' :: rest => if isBlank c then [] else c :: beforeComment ('#' :: rest)
  | c :: rest => c :: beforeComment rest
  | [] => []

/-- The value after an equal sign. -/
def value? (s : List Char) : Reading (List Char) :=
  match s with
  | '\'' :: rest => (untilQuote? '\'' rest).map fun (v, after) => (unescape singleEscapes v, after)
  | '"' :: rest => (untilQuote? '"' rest).map fun (v, after) => (unescape doubleEscapes v, after)
  | _ =>
    let (line, after) := s.span (· != '\n')
    some (trimEnd (beforeComment line), after)

/-! ## Entries -/

/-- One line, or several that a value goes over: the entry, and the text behind. Where the form is
broken, the rest of that line is dropped and with it the entry. -/
def entry? (s : List Char) : Option Entry × List Char :=
  match name? (dropExport s) with
  | none => (none, dropLine (dropExport s))
  | some (name, s) =>
    let s := s.dropWhile isGap
    let found : Option (List Char) × List Char × Bool :=
      match s with
      | '=' :: rest =>
        let rest := rest.dropWhile isGap
        match value? rest with
        | some (v, after) => (some v, after, true)
        | none => (none, rest, false)
      | _ => (none, s, true)
    match found with
    | (_, rest, false) => (none, dropLine rest)
    | (value, rest, true) =>
      let rest := dropComment rest
      match lineEnd? rest with
      | none => (none, dropLine rest)
      | some after =>
        (name.map fun n => ⟨String.ofList n, value.map String.ofList⟩, after)

/-- The entries of a text whose lines end in line feeds, read in at most `fuel` steps. -/
def entriesFrom : Nat → List Char → List Entry
  | 0, _ => []
  | fuel + 1, s =>
    match s.dropWhile isBlank with
    | [] => []
    | s =>
      let (e, rest) := entry? s
      e.toList ++ entriesFrom fuel rest

/-- The entries of a text, in order. Each step takes a character at least. -/
def entries (text : String) : List Entry :=
  entriesFrom (text.length + 1) (unifyLineEnds text.toList)

/-! ## References -/

/-- A reference behind `$`: name and default, and the text behind it. -/
def reference? (s : List Char) : Reading (List Char × List Char) :=
  match s with
  | '\x7b' :: rest =>
    let (name, after) := rest.span fun c => c != '\x7d' && c != ':'
    match after with
    | '\x7d' :: after => some ((name, []), after)
    | ':' :: '-' :: after =>
      match after.span (· != '\x7d') with
      | (default, _ :: after) => some ((name, default), after)
      | (_, []) => none
    | _ => none
  | _ => none

/-- Fills in the references of a text, in at most `fuel` steps. -/
def resolveFrom (e : Environment) : Nat → List Char → List Char
  | 0, s => s
  | _, [] => []
  | fuel + 1, '$' :: rest =>
    match reference? rest with
    | some ((name, default), after) =>
      ((e.get? (String.ofList name)).getD (String.ofList default)).toList
        ++ resolveFrom e fuel after
    | none => '$' :: resolveFrom e fuel rest
  | fuel + 1, c :: rest => c :: resolveFrom e fuel rest

/-- The value with each reference replaced by what the environment has for it. -/
def resolve (e : Environment) (value : String) : String :=
  String.ofList (resolveFrom e value.length value.toList)

/-! ## Values in force -/

/-- The entries of a text with their references filled in. A value sees the environment and the
entries before it; an entry without a value counts as an empty text there. -/
def resolved (e : Environment) : List Entry → List Entry
  | [] => []
  | ⟨name, none⟩ :: rest => ⟨name, none⟩ :: resolved (e.set name "") rest
  | ⟨name, some value⟩ :: rest =>
    let v := resolve e value
    ⟨name, some v⟩ :: resolved (e.set name v) rest

/-- No variable can have the name or the value. -/
def isUnusable (e : Entry) : Bool :=
  match e.value with
  | none => false
  | some v => e.name.toList.contains '=' || e.name.toList.contains '\x00'
      || v.toList.contains '\x00'

/-- The last entry for each name, in the order in which the names come up first. -/
def latest (es : List Entry) : List Entry :=
  (es.map (·.name)).eraseDups.filterMap fun n => es.reverse.find? (·.name == n)

/-- The environment with the values of a text, which go before its own; `none` if one of them
cannot be set. -/
def overlay? (e : Environment) (text : String) : Option Environment :=
  let es := latest (resolved e (entries text))
  if es.any isUnusable then none
  else
    some (es.foldl (fun e entry =>
      match entry.value with
      | some v => e.set entry.name v
      | none => e) e)

end Shortlink.SettingsFile
