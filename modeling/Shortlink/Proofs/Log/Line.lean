import Shortlink.Log.Event
import Shortlink.Proofs.Json.RoundTrip

/-!
# The line about an event

An event is written for machines as an object on one line. Whatever its texts hold, the line holds
nothing but printable ASCII, so that it is one line and no text of an event can pass for another
event. Who reads the line as a value gets an object with the fields of the event, each with the
value that it has in the event: `Event.jsonLine_faithful`.

## Contents

- `isAsciiText_lineChars`: plain values on one line.
- `Event.IsToldBy`: the fields that tell of an event.
- `Event.jsonLine_faithful`.
-/

namespace Shortlink

open Text

namespace Json

/-! ## Values on one line -/

theorem isAsciiText_intText (i : Int) : IsAsciiText (intText i) := by
  have hdigits : IsAsciiText (natText i.natAbs) := by
    intro c hc
    obtain ⟨d, hd, rfl⟩ := exists_digit_of_mem_natText hc
    rw [toNat_digit hd]
    omega
  unfold intText
  split
  · exact hdigits.cons (by decide)
  · exact hdigits

theorem IsAsciiText.behindComma {s : List Char} (h : IsAsciiText s) :
    IsAsciiText (',' :: ' ' :: s) :=
  (h.cons (by decide)).cons (by decide)

theorem IsAsciiText.behindColon {s : List Char} (h : IsAsciiText s) :
    IsAsciiText (':' :: ' ' :: s) :=
  (h.cons (by decide)).cons (by decide)

mutual

/-- **A plain value is written in printable ASCII.** -/
theorem isAsciiText_lineChars : ∀ v : Json, IsPlain v → IsAsciiText (lineChars v)
  | .null, _ => by decide
  | .bool true, _ => by decide
  | .bool false, _ => by decide
  | .int i, _ => isAsciiText_intText i
  | .real _, h => absurd h id
  | .str s, _ => isAsciiText_stringText s.toList
  | .torn t, _ => isAsciiText_tornText t
  | .arr [], _ => by decide
  | .arr (v :: vs), h => by
      have hfirst : IsAsciiText ('[' :: lineChars v) :=
        (isAsciiText_lineChars v h.1).cons (by decide)
      exact (hfirst.append (isAsciiText_lineItems vs h.2)).append (by decide)
  | .obj [], _ => by decide
  | .obj ((name, v) :: fs), h => by
      have hname : IsAsciiText ('\x7b' :: stringText name.toList) :=
        (isAsciiText_stringText name.toList).cons (by decide)
      have hfirst := hname.append (isAsciiText_lineChars v h.2.1).behindColon
      exact (hfirst.append (isAsciiText_lineFields fs h.2.2)).append (by decide)

/-- So are further items. -/
theorem isAsciiText_lineItems : ∀ vs : List Json, ArePlain vs → IsAsciiText (lineItems vs)
  | [], _ => by decide
  | v :: vs, h => (isAsciiText_lineChars v h.1).behindComma.append (isAsciiText_lineItems vs h.2)

/-- So are further fields. -/
theorem isAsciiText_lineFields : ∀ fs : List (String × Json), FieldsPlain fs →
    IsAsciiText (lineFields fs)
  | [], _ => by decide
  | (name, v) :: fs, h => by
      have hname := (isAsciiText_stringText name.toList).behindComma
      have hfirst := hname.append (isAsciiText_lineChars v h.1).behindColon
      exact hfirst.append (isAsciiText_lineFields fs h.2)

end

end Json

namespace Log

/-! ## Events -/

/-- **The fields tell of an event**, which happens at a time and whose text is the given one: there
are just the fields for what is known of it, each once, and each holds what is known. -/
structure Event.IsToldBy (e : Event) (now : Timestamp) (message : String)
    (fields : List (String × Json)) : Prop where
  names : fields.map (·.1) = ["timestamp", "level", "logger", "message", "module", "line"]
    ++ if e.failure.isSome then ["exception"] else []
  timestamp : Json.lookup? "timestamp" fields
    = some (.str ({ now with offset := none }.text ++ "Z"))
  level : Json.lookup? "level" fields = some (.str e.level.name)
  logger : Json.lookup? "logger" fields = some (.str e.logger)
  message : Json.lookup? "message" fields = some (.str message)
  module : Json.lookup? "module" fields = some (.str e.module)
  line : Json.lookup? "line" fields = some (.int e.line)
  exception : Json.lookup? "exception" fields = e.failure.map fun f => .str f.description

namespace Event

variable {e : Event} {message : String} (now : Timestamp)

theorem isToldBy_fields : e.IsToldBy now message (e.fields now message) := by
  unfold fields
  constructor <;> cases e.failure <;> rfl

theorem isPlain_fields (hline : e.line.natAbs < numberBound) :
    (Json.obj (e.fields now message)).IsPlain := by
  have hnames : ((e.fields now message).map (·.1)).Nodup := by
    rw [(isToldBy_fields now).names]
    cases e.failure <;> simp
  refine ⟨hnames, ?_⟩
  unfold fields
  cases e.failure <;> simp [Json.FieldsPlain, Json.IsPlain, hline]

/-- **A line tells of an event, and of nothing else.** If the text of an event can be filled and the
number of its place is short enough to be read, then a line is written that consists of printable
ASCII. So it holds no line end, whatever the texts of the event are. Who reads it gets an object
that tells of the event. -/
theorem jsonLine_faithful (hmessage : e.message = .ok message)
    (hline : e.line.natAbs < numberBound) :
    ∃ line fields, e.jsonLine now = .ok line
      ∧ (∀ c ∈ line.toList, 0x20 ≤ c.toNat ∧ c.toNat < 0x7F)
      ∧ Json.read line = .ok (.obj fields) ∧ e.IsToldBy now message fields := by
  have hplain : (Json.obj (e.fields now message)).IsPlain := isPlain_fields now hline
  refine ⟨(Json.obj (e.fields now message)).line, e.fields now message, ?_, ?_, ?_,
    isToldBy_fields now⟩
  · rw [jsonLine, hmessage]
    rfl
  · rw [Json.line, String.toList_ofList]
    exact Json.isAsciiText_lineChars _ hplain
  · rw [Json.read, Json.line, String.toList_ofList]
    exact Json.readChars_lineChars hplain

/-- An event whose texts hold quotes, backslashes, line ends, a control character and a character
outside of the first plane. -/
def hostile : Event where
  template := "%s\n"
  arguments := [.str "\"level\": \\ \x7f \u2028 😀"]
  level := .error
  logger := "go\tlinks"
  path := "/x/a\"b.tar.py"
  line := 42
  failure := some ⟨"OSError", "a\r\nb"⟩

theorem jsonLine_faithful_hostile :
    let now : Timestamp := ⟨⟨2024, 2, 29, by decide⟩, Clock.midnight, none⟩
    ∃ line fields, hostile.jsonLine now = .ok line
      ∧ (∀ c ∈ line.toList, 0x20 ≤ c.toNat ∧ c.toNat < 0x7F)
      ∧ Json.read line = .ok (.obj fields)
      ∧ hostile.IsToldBy now "\"level\": \\ \x7f \u2028 😀\n" fields :=
  jsonLine_faithful _ rfl (by decide +kernel)

end Event

end Log

end Shortlink
