import Shortlink.Text.Digits
import Shortlink.Text.Quoted

/-!
# Reading a command line

The arguments of a program are options, with or without a value, and operands. An option may be
written by any beginning of its long name that fits no other, its value after an equal sign or as
the next argument. Short options without values may be written together. After two hyphens
everything is an operand. A negative number is an operand, and so is what holds a space.

All arguments are sorted first; then they are taken in order from left to right. What nobody asks
for is kept as left over.

## Contents

- `Domain`, `Opt`, `Slot`, `Grammar`: what a program expects.
- `Complaint`: what can be wrong, and its wording.
- `Mark`, `mark`, `markAll`: sorting the arguments.
- `Found`, `Grammar.read`: taking them.
-/

namespace Shortlink.CommandLine

open Text

/-! ## What is expected -/

/-- The values that an option takes. -/
inductive Domain where
  | anything
  | oneOf (choices : List String)
  | whole
deriving DecidableEq, Repr

/-- What an option is for. -/
inductive Effect where
  /-- Shows how the program is used. -/
  | help
  /-- Shows the version. -/
  | version
  /-- Is set or not. -/
  | flag
  /-- Has a value. -/
  | value (domain : Domain)
deriving DecidableEq, Repr

/-- An option with its names, short ones first. -/
structure Opt where
  names : List String
  effect : Effect
  required : Bool := false
deriving DecidableEq, Repr

/-- The option as it is called in messages. -/
def Opt.label (o : Opt) : String :=
  String.intercalate "/" o.names

/-- The operand that a program takes. -/
inductive Slot where
  | none
  /-- One argument with a name. -/
  | one (name : String)
  /-- A command, to which all further arguments belong. -/
  | command (name : String) (choices : List String)
deriving DecidableEq, Repr

/-- What a program expects. -/
structure Grammar where
  program : String
  options : List Opt
  slot : Slot
deriving DecidableEq, Repr

/-! ## Complaints -/

/-- What is wrong with the arguments. -/
inductive Complaint where
  /-- The beginning of a name fits more than one. -/
  | ambiguous (argument : String) (names : List String)
  /-- The value of an option is missing. -/
  | valueMissing (label : String)
  /-- An option without a value is given one. -/
  | valueIgnored (label value : String)
  /-- A value is none of those to choose from. -/
  | invalidChoice (label value : String) (choices : List String)
  /-- A value is no whole number. -/
  | invalidWhole (label value : String)
  /-- Something that is needed is missing. -/
  | missing (labels : List String)
  /-- Arguments are left over. -/
  | leftOver (arguments : List String)
deriving DecidableEq, Repr

/-- A text between quotes. -/
def inQuotes (s : String) : String :=
  String.ofList (quoted s.toList)

/-- The wording of a complaint. -/
def Complaint.message : Complaint → String
  | ambiguous argument names =>
    "ambiguous option: " ++ argument ++ " could match " ++ String.intercalate ", " names
  | valueMissing label => "argument " ++ label ++ ": expected one argument"
  | valueIgnored label value =>
    "argument " ++ label ++ ": ignored explicit argument " ++ inQuotes value
  | invalidChoice label value choices =>
    "argument " ++ label ++ ": invalid choice: " ++ inQuotes value ++ " (choose from "
      ++ String.intercalate ", " (choices.map inQuotes) ++ ")"
  | invalidWhole label value => "argument " ++ label ++ ": invalid int value: " ++ inQuotes value
  | missing labels =>
    "the following arguments are required: " ++ String.intercalate ", " labels
  | leftOver arguments => "unrecognized arguments: " ++ String.intercalate " " arguments

/-! ## Sorting -/

/-- What an argument is. -/
inductive Mark where
  | operand
  /-- Two hyphens, after which there are only operands. -/
  | separator
  /-- An option, and the value that is written with it. -/
  | option (o : Opt) (name : String) (value : Option (List Char))
  /-- Something like an option, but none that is expected. -/
  | stranger
deriving DecidableEq, Repr

/-- The option with a name. -/
def optionNamed? (options : List Opt) (name : String) : Option Opt :=
  options.find? (·.names.contains name)

/-- Name and value on the two sides of the first equal sign. -/
def splitValue (argument : List Char) : List Char × Option (List Char) :=
  match argument.span (· != '=') with
  | (name, _ :: value) => (name, some value)
  | (name, []) => (name, none)

/-- A minus sign and a number, positional and in digits of any script. A line end may follow. -/
def isNegativeNumber (argument : List Char) : Bool :=
  let isDigit (c : Char) : Bool := (digitValue? c).isSome
  let argument := if argument.getLast? = some '\n' then argument.dropLast else argument
  match argument with
  | '-' :: rest =>
    match rest.dropWhile isDigit with
    | [] => !rest.isEmpty
    | '.' :: places => !places.isEmpty && places.all isDigit
    | _ => false
  | _ => false

/-- The names that an argument may stand for as a beginning, with the value that it brings. -/
def candidates (options : List Opt) (argument : List Char) :
    List (Opt × String × Option (List Char)) :=
  let named := options.flatMap fun o => o.names.map fun n => (o, n)
  match argument with
  | '-' :: '-' :: _ =>
    let (start, value) := splitValue argument
    named.filterMap fun (o, n) => if start.isPrefixOf n.toList then some (o, n, value) else none
  | '-' :: c :: rest =>
    named.filterMap fun (o, n) =>
      if n.toList = ['-', c] then some (o, n, some rest)
      else if argument.isPrefixOf n.toList then some (o, n, none)
      else none
  | _ => []

/-- Sorts one argument. -/
def mark (options : List Opt) (argument : String) : Except Complaint Mark :=
  let s := argument.toList
  match s with
  | '-' :: _ :: _ =>
    match optionNamed? options argument with
    | some o => .ok (.option o argument none)
    | none =>
      let (name, value) := splitValue s
      let exact := if value.isSome then optionNamed? options (String.ofList name) else none
      match exact with
      | some o => .ok (.option o (String.ofList name) value)
      | none =>
        match candidates options s with
        | [(o, n, value)] => .ok (.option o n value)
        | [] => .ok (if isNegativeNumber s || s.contains ' ' then .operand else .stranger)
        | several => .error (.ambiguous argument (several.map (·.2.1)))
  | _ => .ok .operand

/-- Sorts all arguments. -/
def markAll (options : List Opt) : List String → Except Complaint (List (String × Mark))
  | [] => .ok []
  | "--" :: rest => .ok (("--", .separator) :: rest.map fun a => (a, .operand))
  | a :: rest => do
    let m ← mark options a
    return (a, m) :: (← markAll options rest)

/-! ## Taking -/

/-- What was found so far. -/
structure Found where
  /-- Options with their values, by the last of their names. -/
  given : List (String × String) := []
  /-- What the operand holds: one argument, or a command with its arguments. -/
  operands : List String := []
  leftOver : List String := []
deriving DecidableEq, Repr

/-- Why reading ends early. -/
inductive Stop where
  | complaint (program : String) (c : Complaint)
  | help (program : String)
  | version
deriving DecidableEq, Repr

/-- The name under which an option is kept. -/
def Opt.key (o : Opt) : String :=
  o.names.getLastD ""

/-- The values of an option, in order. -/
def Found.valuesOf (f : Found) (key : String) : List String :=
  (f.given.filter (·.1 == key)).map (·.2)

/-- The last value of an option. -/
def Found.value? (f : Found) (key : String) : Option String :=
  (f.valuesOf key).getLast?

/-- Checks a value. -/
def Domain.check (label value : String) : Domain → Except Complaint Unit
  | anything => .ok ()
  | oneOf choices =>
    if choices.contains value then .ok () else .error (.invalidChoice label value choices)
  | whole =>
    if (readInteger? value.toList).isSome then .ok () else .error (.invalidWhole label value)

namespace Grammar

variable (g : Grammar)

/-- Ends reading with a complaint. -/
def complain {α : Type} (c : Complaint) : Except Stop α :=
  .error (.complaint g.program c)

/-- Options without a value that are written together: behind `o` the letters of the others. -/
def together (o : Opt) : List Char → Except Complaint (List Opt)
  | [] => .ok [o]
  | c :: rest =>
    match optionNamed? g.options (String.ofList ['-', c]) with
    | some next =>
      match next.effect with
      | .value _ => .error (.valueIgnored o.label (String.ofList (c :: rest)))
      | _ => (together next rest).map (o :: ·)
    | none => .error (.valueIgnored o.label (String.ofList (c :: rest)))

/-- Sets options without a value, one after another. -/
def setFlags (f : Found) : List Opt → Except Stop Found
  | [] => .ok f
  | o :: os =>
    match o.effect with
    | .help => .error (.help g.program)
    | .version => .error .version
    | _ => setFlags { f with given := f.given ++ [(o.key, "")] } os

/-- The options that an option without a value and what is written with it stand for. -/
def flagsOf (o : Opt) (name : String) (value : Option (List Char)) : Except Complaint (List Opt) :=
  match value with
  | none => .ok [o]
  | some v =>
    if v.isEmpty || ['-', '-'].isPrefixOf name.toList then
      .error (.valueIgnored o.label (String.ofList v))
    else g.together o v

/-- Takes over a value. -/
def setValue (f : Found) (o : Opt) (domain : Domain) (value : String) : Except Stop Found :=
  match domain.check o.label value with
  | .ok _ => .ok { f with given := f.given ++ [(o.key, value)] }
  | .error c => g.complain c

/-- Takes the arguments in order. The operand is taken at the first place that it fits; the
separator goes with it. -/
def take (f : Found) : List (String × Mark) → Except Stop Found
  | [] => .ok f
  | (a, .stranger) :: rest => take { f with leftOver := f.leftOver ++ [a] } rest
  | (_, .option o name value) :: rest =>
    match o.effect, value, rest with
    | .value domain, some v, rest => do take (← g.setValue f o domain (String.ofList v)) rest
    | .value domain, none, (v, .operand) :: rest => do take (← g.setValue f o domain v) rest
    | .value _, none, _ => g.complain (.valueMissing o.label)
    | _, value, rest =>
      match g.flagsOf o name value with
      | .error c => g.complain c
      | .ok os => do take (← g.setFlags f os) rest
  | (a, .separator) :: rest =>
    match g.slot, f.operands, rest with
    | .one _, [], (b, _) :: rest => take { f with operands := [b] } rest
    | .command _ _, [], _ :: _ => .ok { f with operands := a :: rest.map (·.1) }
    | _, _, rest => take { f with leftOver := f.leftOver ++ [a] } rest
  | (a, .operand) :: rest =>
    match g.slot, f.operands, rest with
    | .one _, [], (_, .separator) :: rest => take { f with operands := [a] } rest
    | .one _, [], rest => take { f with operands := [a] } rest
    | .command _ _, [], rest => .ok { f with operands := a :: rest.map (·.1) }
    | _, _, rest => take { f with leftOver := f.leftOver ++ [a] } rest

/-- The labels of what is needed and was not found. -/
def missing (f : Found) : List String :=
  let options := g.options.filter fun o => o.required && (f.value? o.key).isNone
  options.map Opt.label ++
    match g.slot with
    | .none => []
    | .one name | .command name _ => if f.operands.isEmpty then [name] else []

/-- Complains if something that is needed is missing. -/
def checkComplete (f : Found) : Except Stop Unit :=
  if (g.missing f).isEmpty then .ok () else g.complain (.missing (g.missing f))

/-- Sorts the arguments and takes them. -/
def read (arguments : List String) : Except Stop Found :=
  match markAll g.options arguments with
  | .error c => g.complain c
  | .ok marked => g.take {} marked

end Grammar

end Shortlink.CommandLine
