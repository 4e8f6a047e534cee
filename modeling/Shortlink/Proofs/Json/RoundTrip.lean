import Mathlib.Data.List.Basic
import Shortlink.Proofs.Alias
import Shortlink.Proofs.Json.Strings
import Shortlink.Proofs.Text.Digits

/-!
# A value is read as it is written

A file is written on many lines through `indentedChars`, and an event on one line through
`lineChars`; both are read back through `readChars`. A value without floating-point numbers, whose
whole numbers are short enough to be read and whose objects name each field once, comes back as it
was.

The two ways of writing differ only in the blanks between the parts of a value, which the reader
passes over. So what is shown is shown of any `Layout` of such blanks.

The readers of values, of items and of fields call one another, each time with one unit of fuel
less, and the proofs about them do so too: twice the length of the text is fuel enough. The text
may stand before anything that does not go on the number that it ends in.

## Contents

* `number?_intText`: **a whole number is read as it is written**;
* `Layout`, `Layout.chars`: the blanks in a text, and the text of a value with them;
  `indentedChars_eq`, `lineChars_eq`: the two layouts that are used;
* `IsPlain`: **a plain value**, one that is written without loss;
* `Layout.readValue_chars`, `Layout.readItems_chars`, `Layout.readFields_chars`: what the three
  readers make of a plain value's text, with something behind it;
* `readChars_indentedChars`, `readChars_lineChars`: **the text of a plain value is read as that
  value**.
-/

namespace Shortlink.Json

open Text

/-! ## Numbers -/

/-- No number goes on into what follows. -/
def EndsNumber (rest : List Char) : Prop :=
  ∀ c ∈ rest.head?, isDigit c = false ∧ c ≠ '.' ∧ c ≠ 'e' ∧ c ≠ 'E'

theorem isDigit_digit {d : Nat} (h : d < 10) : isDigit (digit d) = true := by
  have hall : ∀ d < 10, isDigit (digit d) = true := by decide
  exact hall d h

theorem isDigit_of_mem_natText {n : Nat} {c : Char} (h : c ∈ natText n) : isDigit c = true := by
  obtain ⟨d, hd, rfl⟩ := exists_digit_of_mem_natText h
  exact isDigit_digit hd

theorem spanDigits_natText (n : Nat) {rest : List Char} (h : EndsNumber rest) :
    spanDigits (natText n ++ rest) = (natText n, rest) := by
  have hall : ∀ c ∈ natText n, isDigit c = true := fun c hc => isDigit_of_mem_natText hc
  have hstop : rest.takeWhile isDigit = [] ∧ rest.dropWhile isDigit = rest := by
    cases rest with
    | nil => exact ⟨rfl, rfl⟩
    | cons c rest =>
        have hc : ¬ isDigit c = true := by simp [(h c rfl).1]
        exact ⟨List.takeWhile_cons_of_neg hc, List.dropWhile_cons_of_neg hc⟩
  rw [spanDigits, List.takeWhile_append_of_pos hall, List.dropWhile_append_of_pos hall, hstop.1,
    hstop.2, List.append_nil]

theorem fraction_of_endsNumber {rest : List Char} (h : EndsNumber rest) :
    fraction rest = ([], rest) := by
  unfold fraction
  split
  · exact absurd rfl (h '.' rfl).2.1
  · rfl

theorem exponent?_of_endsNumber {rest : List Char} (h : EndsNumber rest) :
    exponent? rest = none := by
  unfold exponent?
  split
  · next e rest =>
      obtain ⟨-, -, hlower, hupper⟩ := h e rfl
      simp [hlower, hupper]
  · rfl

/-- The digits of a number, behind a minus sign or not, are read as that number. -/
theorem number?_natText {n : Nat} (hpos : 0 < n) (hn : n < numberBound) {rest : List Char}
    (h : EndsNumber rest) :
    number? (natText n ++ rest) = some (.ok (.int n, rest))
      ∧ number? ('-' :: (natText n ++ rest)) = some (.ok (.int (-n), rest)) := by
  have hlength : (natText n).length ≤ maxDigits := length_natText_le_maxDigits hn
  have hvalue : digitsValue (natText n) = n := natOfDigits_natText n
  have hspan := spanDigits_natText n h
  have hhead := head?_natText hpos
  have hminus : (natText n).head? ≠ some '-' := by
    intro hc
    have hdigit := isDigit_of_mem_natText (List.mem_of_head? hc)
    exact absurd hdigit (by decide)
  -- the reader looks at the first character alone before it takes the digits
  obtain ⟨c, cs, hcs⟩ := List.exists_cons_of_ne_nil (natText_ne_nil n)
  rw [hcs] at hspan hlength hvalue hhead hminus ⊢
  have hzero : c ≠ '0' := fun hc => hhead (congrArg some hc)
  have hsign : c ≠ '-' := fun hc => hminus (congrArg some hc)
  rw [List.length_cons] at hlength
  rw [List.cons_append] at hspan ⊢
  constructor
  · simp [number?, hzero, hsign, hspan, fraction_of_endsNumber h, exponent?_of_endsNumber h,
      hvalue]
    omega
  · simp [number?, hzero, hspan, fraction_of_endsNumber h, exponent?_of_endsNumber h, hvalue]
    omega

/-- **A whole number is read as it is written**, if it has no more digits than may be read. -/
theorem number?_intText {i : Int} (hi : i.natAbs < numberBound) {rest : List Char}
    (h : EndsNumber rest) : number? (intText i ++ rest) = some (.ok (.int i, rest)) := by
  unfold intText
  by_cases hneg : i < 0
  · rw [if_pos hneg, List.cons_append, (number?_natText (by omega) hi h).2]
    rw [show -(i.natAbs : Int) = i by omega]
  rw [if_neg hneg]
  by_cases hzero : i = 0
  · subst hzero
    rw [Int.natAbs_zero, natText_of_lt (by decide)]
    show number? ('0' :: rest) = _
    simp [number?, fraction_of_endsNumber h, exponent?_of_endsNumber h, digitsValue, natOfDigits,
      maxDigits]
  · rw [(number?_natText (by omega) hi h).1]
    rw [show (i.natAbs : Int) = i by omega]

/-- A whole number begins with a minus sign or with a digit. -/
theorem exists_intText (i : Int) :
    ∃ c cs, intText i = c :: cs ∧ (c = '-' ∨ ∃ d, d < 10 ∧ c = digit d) := by
  obtain ⟨c, cs, hcs⟩ := List.exists_cons_of_ne_nil (natText_ne_nil i.natAbs)
  unfold intText
  split
  · exact ⟨'-', _, rfl, Or.inl rfl⟩
  · exact ⟨c, cs, hcs, Or.inr (exists_digit_of_mem_natText (hcs ▸ List.mem_cons_self))⟩

/-! ## Values by name -/

/-- No name begins like a number. -/
theorem name?_intText (i : Int) (rest : List Char) : name? (intText i ++ rest) = none := by
  have hnot : ∀ {c : Char}, isDigit c = true →
      c ≠ 'n' ∧ c ≠ 't' ∧ c ≠ 'f' ∧ c ≠ 'N' ∧ c ≠ 'I' ∧ c ≠ '-' := by
    intro c hc
    refine ⟨?_, ?_, ?_, ?_, ?_, ?_⟩ <;> (rintro rfl; exact absurd hc (by decide))
  obtain ⟨c, cs, hcs⟩ := List.exists_cons_of_ne_nil (natText_ne_nil i.natAbs)
  obtain ⟨hn, ht, hf, hN, hI, hminus⟩ :=
    hnot (isDigit_of_mem_natText (hcs ▸ List.mem_cons_self : c ∈ natText i.natAbs))
  unfold intText
  split
  · simp [hcs, name?, names, List.isPrefixOf?, hI.symm]
  · simp [hcs, name?, names, List.isPrefixOf?, hn.symm, ht.symm, hf.symm, hN.symm, hI.symm,
      hminus.symm]

/-! ## Blanks -/

/-- The text consists of blanks. -/
def IsGap (gap : List Char) : Prop :=
  ∀ c ∈ gap, isSpace c = true

theorem isGap_nil : IsGap [] :=
  fun _ hc => absurd hc List.not_mem_nil

theorem isGap_newline (depth : Nat) : IsGap (newline depth) := by
  intro c hc
  rcases List.mem_cons.mp hc with rfl | hspace
  · rfl
  · rw [List.eq_of_mem_replicate hspace]
    rfl

theorem skipSpace_of_head {s : List Char} (h : s.head?.any isSpace = false) : skipSpace s = s :=
  dropWhile_of_head h

/-- Blanks are passed over. -/
theorem skipSpace_gap {gap : List Char} (hgap : IsGap gap) {s : List Char}
    (h : s.head?.any isSpace = false) : skipSpace (gap ++ s) = s := by
  rw [skipSpace, List.dropWhile_append_of_pos hgap]
  exact dropWhile_of_head h

theorem skipSpace_space {c : Char} (h : isSpace c = false) (s : List Char) :
    skipSpace (' ' :: c :: s) = c :: s := by
  rw [skipSpace, List.dropWhile_cons_of_pos rfl, List.dropWhile_cons_of_neg (by simp [h])]

/-- Neither blanks nor what closes a list or an object goes on a number. -/
theorem endsNumber_gap {gap : List Char} (hgap : IsGap gap) {c : Char} (hc : c = ']' ∨ c = '\x7d')
    (s : List Char) : EndsNumber (gap ++ c :: s) := by
  intro d hd
  cases gap with
  | nil =>
      cases hd
      rcases hc with rfl | rfl <;> decide
  | cons b more =>
      obtain rfl : b = d := Option.some.inj hd
      have hspace := hgap b List.mem_cons_self
      simp only [isSpace, Bool.or_eq_true, beq_iff_eq] at hspace
      rcases hspace with ((rfl | rfl) | rfl) | rfl <;> decide

theorem endsNumber_comma (s : List Char) : EndsNumber (',' :: s) := by
  intro c hc
  cases hc
  decide

/-! ## Layouts -/

/-- **A layout** of the parts of lists and objects: the blanks behind the opening bracket and behind
a comma in front of an item at a depth, and those in front of a closing bracket at a depth. -/
structure Layout where
  opening : Nat → List Char
  comma : Nat → List Char
  closing : Nat → List Char
  isGap_opening : ∀ depth, IsGap (opening depth)
  isGap_comma : ∀ depth, IsGap (comma depth)
  isGap_closing : ∀ depth, IsGap (closing depth)

mutual

/-- The text of a value at a depth. -/
def Layout.chars (l : Layout) (depth : Nat) : Json → List Char
  | null => "null".toList
  | bool true => "true".toList
  | bool false => "false".toList
  | int i => intText i
  | real x => x.text
  | str s => stringText s.toList
  | torn t => tornText t
  | arr [] => "[]".toList
  | arr (v :: vs) =>
    '[' :: l.opening (depth + 1) ++ l.chars (depth + 1) v ++ l.items (depth + 1) vs
      ++ l.closing depth ++ [']']
  | obj [] => ['\x7b', '\x7d']
  | obj ((k, v) :: fs) =>
    '\x7b' :: l.opening (depth + 1) ++ stringText k.toList ++ ':' :: ' ' :: l.chars (depth + 1) v
      ++ l.fields (depth + 1) fs ++ l.closing depth ++ ['\x7d']

/-- The text of further items, each behind a comma. -/
def Layout.items (l : Layout) (depth : Nat) : List Json → List Char
  | [] => []
  | v :: vs => ',' :: l.comma depth ++ l.chars depth v ++ l.items depth vs

/-- The text of further fields, each behind a comma. -/
def Layout.fields (l : Layout) (depth : Nat) : List (String × Json) → List Char
  | [] => []
  | (k, v) :: fs =>
    ',' :: l.comma depth ++ stringText k.toList ++ ':' :: ' ' :: l.chars depth v
      ++ l.fields depth fs

end

/-- Every item stands on a line of its own. -/
def Layout.manyLines : Layout where
  opening := newline
  comma := newline
  closing := newline
  isGap_opening := isGap_newline
  isGap_comma := isGap_newline
  isGap_closing := isGap_newline

/-- All stands on one line, with a space behind each comma. -/
def Layout.oneLine : Layout where
  opening _ := []
  comma _ := [' ']
  closing _ := []
  isGap_opening _ := isGap_nil
  isGap_comma _ := by simp [IsGap, isSpace]
  isGap_closing _ := isGap_nil

mutual

theorem indentedChars_eq : ∀ (depth : Nat) (v : Json),
    indentedChars depth v = Layout.manyLines.chars depth v
  | _, .null | _, .bool true | _, .bool false | _, .int _ | _, .real _ | _, .str _ | _, .torn _
  | _, .arr [] | _, .obj [] => by simp only [indentedChars, Layout.chars]
  | depth, .arr (v :: vs) => by
      rw [indentedChars, Layout.chars, indentedChars_eq, indentedItems_eq]
      rfl
  | depth, .obj ((name, v) :: fs) => by
      rw [indentedChars, Layout.chars, indentedChars_eq, indentedFields_eq]
      rfl

theorem indentedItems_eq : ∀ (depth : Nat) (vs : List Json),
    indentedItems depth vs = Layout.manyLines.items depth vs
  | _, [] => by simp only [indentedItems, Layout.items]
  | depth, v :: vs => by
      rw [indentedItems, Layout.items, indentedChars_eq, indentedItems_eq]
      rfl

theorem indentedFields_eq : ∀ (depth : Nat) (fs : List (String × Json)),
    indentedFields depth fs = Layout.manyLines.fields depth fs
  | _, [] => by simp only [indentedFields, Layout.fields]
  | depth, (name, v) :: fs => by
      rw [indentedFields, Layout.fields, indentedChars_eq, indentedFields_eq]
      rfl

end

mutual

theorem lineChars_eq : ∀ (depth : Nat) (v : Json), lineChars v = Layout.oneLine.chars depth v
  | _, .null | _, .bool true | _, .bool false | _, .int _ | _, .real _ | _, .str _ | _, .torn _
  | _, .arr [] | _, .obj [] => by simp only [lineChars, Layout.chars]
  | depth, .arr (v :: vs) => by
      rw [lineChars, Layout.chars, lineChars_eq (depth + 1), lineItems_eq (depth + 1)]
      simp [Layout.oneLine]
  | depth, .obj ((name, v) :: fs) => by
      rw [lineChars, Layout.chars, lineChars_eq (depth + 1), lineFields_eq (depth + 1)]
      simp [Layout.oneLine]

theorem lineItems_eq : ∀ (depth : Nat) (vs : List Json),
    lineItems vs = Layout.oneLine.items depth vs
  | _, [] => by simp only [lineItems, Layout.items]
  | depth, v :: vs => by
      rw [lineItems, Layout.items, lineChars_eq depth, lineItems_eq depth]
      rfl

theorem lineFields_eq : ∀ (depth : Nat) (fs : List (String × Json)),
    lineFields fs = Layout.oneLine.fields depth fs
  | _, [] => by simp only [lineFields, Layout.fields]
  | depth, (name, v) :: fs => by
      rw [lineFields, Layout.fields, lineChars_eq depth, lineFields_eq depth]
      rfl

end

/-! ## Plain values -/

mutual

/-- **A plain value** is written without loss: it holds no floating-point numbers, its whole numbers
have no more digits than may be read, and no object names a field twice. -/
def IsPlain : Json → Prop
  | null => True
  | bool _ => True
  | int i => i.natAbs < numberBound
  | real _ => False
  | str _ => True
  | torn _ => True
  | arr items => ArePlain items
  | obj fields => (fields.map (·.1)).Nodup ∧ FieldsPlain fields

/-- All items are plain. -/
def ArePlain : List Json → Prop
  | [] => True
  | v :: vs => IsPlain v ∧ ArePlain vs

/-- All fields have plain values. -/
def FieldsPlain : List (String × Json) → Prop
  | [] => True
  | (_, v) :: fs => IsPlain v ∧ FieldsPlain fs

end

theorem isPlain_ofLoose (s : Loose) : IsPlain (ofLoose s) := by
  cases s <;> exact trivial

variable {l : Layout}

/-- A written value begins with a character that is no blank, closes nothing and is no mark. -/
theorem Layout.exists_chars {v : Json} (h : IsPlain v) (depth : Nat) :
    ∃ c rest, l.chars depth v = c :: rest ∧ isSpace c = false ∧ c ≠ ']' ∧ c ≠ '\uFEFF' := by
  cases v with
  | null => exact ⟨_, _, rfl, by decide⟩
  | bool b => cases b <;> exact ⟨_, _, rfl, by decide⟩
  | int i =>
      obtain ⟨c, cs, hcs, hc⟩ := exists_intText i
      have hall : ∀ d < 10, isSpace (digit d) = false ∧ digit d ≠ ']' ∧ digit d ≠ '\uFEFF' := by
        decide
      refine ⟨c, cs, hcs, ?_⟩
      rcases hc with rfl | ⟨d, hd, rfl⟩
      · decide
      · exact hall d hd
  | real x => exact absurd h id
  | str s => exact ⟨_, _, rfl, by decide⟩
  | torn t => exact ⟨_, _, rfl, by decide⟩
  | arr items => cases items <;> exact ⟨_, _, rfl, by decide⟩
  | obj fields => cases fields <;> exact ⟨_, _, rfl, by decide⟩

/-! ## One step of the reader -/

theorem stringText_append (s rest : List Char) :
    stringText s ++ rest = '"' :: (s.flatMap escapeChar ++ '"' :: rest) := by
  simp [stringText]

theorem readValue_string (fuel : Nat) (s : String) (rest : List Char) :
    readValue (fuel + 1) (stringText s.toList ++ rest) = .ok (.str s, rest) := by
  rw [stringText_append]
  obtain ⟨ps, hread, hps⟩ := stringBody_chars s.toList
    ('"' :: (s.toList.flatMap escapeChar ++ '"' :: rest)) rest
  simp [readValue, hread, hps, ofLoose, bind, Except.bind, pure, Except.pure]

theorem readValue_torn (fuel : Nat) (t : Torn) (rest : List Char) :
    readValue (fuel + 1) (tornText t ++ rest) = .ok (.torn t, rest) := by
  have htext : tornText t ++ rest = '"' :: (t.pieces.flatMap escapePiece ++ '"' :: rest) := by
    simp [tornText]
  rw [htext]
  obtain ⟨ps, hread, hps⟩ := stringBody_torn t
    ('"' :: (t.pieces.flatMap escapePiece ++ '"' :: rest)) rest
  simp [readValue, hread, hps, ofLoose, bind, Except.bind, pure, Except.pure]

theorem readValue_integer (fuel : Nat) {i : Int} (hi : i.natAbs < numberBound)
    {rest : List Char} (h : EndsNumber rest) :
    readValue (fuel + 1) (intText i ++ rest) = .ok (.int i, rest) := by
  have hname := name?_intText i rest
  have hnumber := number?_intText hi h
  obtain ⟨c, cs, hcs, hc⟩ := exists_intText i
  have hopens : c ≠ '"' ∧ c ≠ '[' ∧ c ≠ '\x7b' := by
    have hall : ∀ d < 10, digit d ≠ '"' ∧ digit d ≠ '[' ∧ digit d ≠ '\x7b' := by decide
    rcases hc with rfl | ⟨d, hd, rfl⟩
    · decide
    · exact hall d hd
  rw [hcs, List.cons_append] at hname hnumber ⊢
  simp [readValue, hopens, hname, hnumber]

section

variable {gap : List Char} (hgap : IsGap gap)

include hgap

/-- Behind an opening bracket and blanks come the items. -/
theorem readValue_array {fuel : Nat} {c : Char} {s rest : List Char} {items : List Json}
    (hblank : isSpace c = false) (hclose : c ≠ ']')
    (h : readItems fuel (c :: s) = .ok (items, rest)) :
    readValue (fuel + 1) ('[' :: (gap ++ c :: s)) = .ok (.arr items, rest) := by
  have hskip : skipSpace (gap ++ c :: s) = c :: s := skipSpace_gap hgap (by simp [hblank])
  simp [readValue, hskip, h, hclose, bind, Except.bind, pure, Except.pure]

theorem readValue_object {fuel : Nat} {s rest : List Char} {fields : List (String × Json)}
    (h : readFields fuel [] ('"' :: s) = .ok (fields, rest)) :
    readValue (fuel + 1) ('\x7b' :: (gap ++ '"' :: s)) = .ok (.obj fields, rest) := by
  have hskip : skipSpace (gap ++ '"' :: s) = '"' :: s := skipSpace_gap hgap rfl
  simp [readValue, hskip, h, bind, Except.bind, pure, Except.pure]

theorem readItems_last {fuel : Nat} {s rest : List Char} {v : Json}
    (h : readValue fuel s = .ok (v, gap ++ ']' :: rest)) :
    readItems (fuel + 1) s = .ok ([v], rest) := by
  have hskip : skipSpace (gap ++ ']' :: rest) = ']' :: rest := skipSpace_gap hgap rfl
  simp [readItems, h, hskip, bind, Except.bind, pure, Except.pure]

theorem readItems_more {fuel : Nat} {c : Char} {s s' rest : List Char} {v : Json}
    {vs : List Json} (h : readValue fuel s = .ok (v, ',' :: (gap ++ c :: s')))
    (hblank : isSpace c = false) (hmore : readItems fuel (c :: s') = .ok (vs, rest)) :
    readItems (fuel + 1) s = .ok (v :: vs, rest) := by
  have hcomma : skipSpace (',' :: (gap ++ c :: s')) = ',' :: (gap ++ c :: s') :=
    skipSpace_of_head rfl
  have hskip : skipSpace (gap ++ c :: s') = c :: s' := skipSpace_gap hgap (by simp [hblank])
  simp [readItems, h, hcomma, hskip, hmore, bind, Except.bind, pure, Except.pure]

end

/-- A field of a new name is put behind the others. -/
theorem setField_of_not_mem {name : String} {fields : List (String × Json)}
    (h : name ∉ fields.map (·.1)) (value : Json) :
    setField name value fields = fields ++ [(name, value)] := by
  induction fields with
  | nil => rfl
  | cons field rest ih =>
      rw [List.map_cons, List.mem_cons, not_or] at h
      rw [setField, if_neg (fun heq => h.1 heq.symm), ih h.2]
      rfl

theorem not_mem_of_nodup_names {before fs : List (String × Json)} {name : String} {v : Json}
    (h : ((before ++ (name, v) :: fs).map (·.1)).Nodup) : name ∉ before.map (·.1) := by
  rw [List.map_append, List.map_cons, List.nodup_append] at h
  intro hmem
  exact h.2.2 name hmem name List.mem_cons_self rfl

section

variable {gap : List Char} (hgap : IsGap gap)

include hgap

theorem readFields_last {fuel : Nat} {before : List (String × Json)} {name : String}
    {c : Char} {s rest : List Char} {v : Json} (hname : name ∉ before.map (·.1))
    (hblank : isSpace c = false) (h : readValue fuel (c :: s) = .ok (v, gap ++ '\x7d' :: rest)) :
    readFields (fuel + 1) before (stringText name.toList ++ ':' :: ' ' :: c :: s)
      = .ok (before ++ [(name, v)], rest) := by
  have hskip : skipSpace (gap ++ '\x7d' :: rest) = '\x7d' :: rest := skipSpace_gap hgap rfl
  have hcolon : skipSpace (':' :: ' ' :: c :: s) = ':' :: ' ' :: c :: s := skipSpace_of_head rfl
  rw [stringText_append]
  obtain ⟨ps, hread, hps⟩ := stringBody_chars name.toList
    ('"' :: (name.toList.flatMap escapeChar ++ '"' :: ':' :: ' ' :: c :: s)) (':' :: ' ' :: c :: s)
  simp [readFields, hread, hps, Loose.text, hcolon, skipSpace_space hblank, h, hskip,
    setField_of_not_mem hname, bind, Except.bind, pure, Except.pure]

theorem readFields_more {fuel : Nat} {before fields : List (String × Json)}
    {name : String} {c : Char} {s s' rest : List Char} {v : Json}
    (hname : name ∉ before.map (·.1)) (hblank : isSpace c = false)
    (h : readValue fuel (c :: s) = .ok (v, ',' :: (gap ++ '"' :: s')))
    (hmore : readFields fuel (before ++ [(name, v)]) ('"' :: s') = .ok (fields, rest)) :
    readFields (fuel + 1) before (stringText name.toList ++ ':' :: ' ' :: c :: s)
      = .ok (fields, rest) := by
  have hcomma : skipSpace (',' :: (gap ++ '"' :: s')) = ',' :: (gap ++ '"' :: s') :=
    skipSpace_of_head rfl
  have hskip : skipSpace (gap ++ '"' :: s') = '"' :: s' := skipSpace_gap hgap rfl
  have hcolon : skipSpace (':' :: ' ' :: c :: s) = ':' :: ' ' :: c :: s := skipSpace_of_head rfl
  rw [stringText_append]
  obtain ⟨ps, hread, hps⟩ := stringBody_chars name.toList
    ('"' :: (name.toList.flatMap escapeChar ++ '"' :: ':' :: ' ' :: c :: s)) (':' :: ' ' :: c :: s)
  simp [readFields, hread, hps, Loose.text, hcolon, skipSpace_space hblank, h, hcomma, hskip,
    setField_of_not_mem hname, hmore, bind, Except.bind]

end

/-! ## Whole values -/

mutual

/-- **A plain value is read as it is written**, in any layout, given enough fuel. -/
theorem Layout.readValue_chars (l : Layout) : ∀ (v : Json) (fuel depth : Nat) (rest : List Char),
    IsPlain v → EndsNumber rest → 2 * (l.chars depth v).length ≤ fuel →
      readValue fuel (l.chars depth v ++ rest) = .ok (v, rest)
  | .null, fuel + 1, depth, rest, _, _, _ => by
      simp [Layout.chars, readValue, name?, names, List.isPrefixOf?]
  | .bool b, fuel + 1, depth, rest, _, _, _ => by
      cases b <;> simp [Layout.chars, readValue, name?, names, List.isPrefixOf?]
  | .int i, fuel + 1, depth, rest, h, hrest, _ => readValue_integer fuel h hrest
  | .real x, _, _, _, h, _, _ => absurd h id
  | .str s, fuel + 1, depth, rest, _, _, _ => readValue_string fuel s rest
  | .torn t, fuel + 1, depth, rest, _, _, _ => readValue_torn fuel t rest
  | .arr [], fuel + 1, depth, rest, _, _, _ => by
      simp [Layout.chars, readValue, skipSpace, isSpace]
  | .arr (v :: vs), fuel + 1, depth, rest, h, _, hfuel => by
      -- the first item must not look like the end of the list
      obtain ⟨c, s, hchars, hblank, hclose, -⟩ := Layout.exists_chars (l := l) h.1 (depth + 1)
      simp only [Layout.chars, List.length_cons, List.length_append] at hfuel
      have hitems := l.readItems_chars v vs fuel (depth + 1) depth rest h.1 h.2 (by omega)
      rw [hchars, List.cons_append] at hitems
      have hread := readValue_array (l.isGap_opening (depth + 1)) hblank hclose hitems
      simpa [Layout.chars, hchars] using hread
  | .obj [], fuel + 1, depth, rest, _, _, _ => by
      simp [Layout.chars, readValue, skipSpace, isSpace]
  | .obj ((name, v) :: fs), fuel + 1, depth, rest, h, _, hfuel => by
      simp only [Layout.chars, List.length_cons, List.length_append] at hfuel
      have hfields := l.readFields_chars name v fs fuel (depth + 1) depth [] rest h.2.1 h.2.2 h.1
        (by omega)
      rw [stringText_append] at hfields
      have hread := readValue_object (l.isGap_opening (depth + 1)) hfields
      simpa [Layout.chars, stringText_append] using hread
  | v, 0, depth, rest, h, _, hfuel => by
      obtain ⟨c, s, hchars, -, -⟩ := Layout.exists_chars (l := l) h depth
      rw [hchars] at hfuel
      exact absurd hfuel (by simp)
termination_by v => sizeOf v

/-- The items of a list, from one of them on. -/
theorem Layout.readItems_chars (l : Layout) : ∀ (v : Json) (vs : List Json)
    (fuel depth outer : Nat) (rest : List Char), IsPlain v → ArePlain vs →
      2 * ((l.chars depth v).length + (l.items depth vs).length) + 1 ≤ fuel →
        readItems fuel (l.chars depth v
          ++ (l.items depth vs ++ (l.closing outer ++ ']' :: rest))) = .ok (v :: vs, rest)
  | v, [], fuel + 1, depth, outer, rest, h, _, hfuel => by
      have hgap := l.isGap_closing outer
      have hvalue := l.readValue_chars v fuel depth (l.closing outer ++ ']' :: rest) h
        (endsNumber_gap hgap (Or.inl rfl) _) (by omega)
      exact readItems_last hgap hvalue
  | v, v' :: vs, fuel + 1, depth, outer, rest, h, hmore, hfuel => by
      simp only [Layout.items, List.length_cons, List.length_append] at hfuel
      obtain ⟨c, s, hchars, hblank, -⟩ := Layout.exists_chars (l := l) hmore.1 depth
      have hvalue := l.readValue_chars v fuel depth
        (l.items depth (v' :: vs) ++ (l.closing outer ++ ']' :: rest)) h
        (endsNumber_comma _) (by omega)
      have hitems := l.readItems_chars v' vs fuel depth outer rest hmore.1 hmore.2 (by omega)
      rw [hchars, List.cons_append] at hitems
      refine readItems_more (l.isGap_comma depth) (hvalue.trans ?_) hblank hitems
      simp [Layout.items, hchars]
  | _, _, 0, _, _, _, _, _, hfuel => by omega
termination_by v vs => sizeOf v + sizeOf vs

/-- The fields of an object, from one of them on, behind those that came before. -/
theorem Layout.readFields_chars (l : Layout) : ∀ (name : String) (v : Json)
    (fs : List (String × Json)) (fuel depth outer : Nat) (before : List (String × Json))
    (rest : List Char), IsPlain v → FieldsPlain fs → ((before ++ (name, v) :: fs).map (·.1)).Nodup →
        2 * ((l.chars depth v).length + (l.fields depth fs).length) + 1 ≤ fuel →
          readFields fuel before (stringText name.toList ++ ':' :: ' ' :: (l.chars depth v
            ++ (l.fields depth fs ++ (l.closing outer ++ '\x7d' :: rest))))
              = .ok (before ++ (name, v) :: fs, rest)
  | name, v, [], fuel + 1, depth, outer, before, rest, h, _, hnames, hfuel => by
      obtain ⟨c, s, hchars, hblank, -⟩ := Layout.exists_chars (l := l) h depth
      have hgap := l.isGap_closing outer
      have hvalue := l.readValue_chars v fuel depth (l.closing outer ++ '\x7d' :: rest) h
        (endsNumber_gap hgap (Or.inr rfl) _) (by omega)
      rw [hchars, List.cons_append] at hvalue
      rw [hchars]
      exact readFields_last hgap (not_mem_of_nodup_names hnames) hblank hvalue
  | name, v, (name', v') :: fs, fuel + 1, depth, outer, before, rest, h, hmore, hnames, hfuel => by
      simp only [Layout.fields, List.length_cons, List.length_append] at hfuel
      obtain ⟨c, s, hchars, hblank, -⟩ := Layout.exists_chars (l := l) h depth
      have hvalue := l.readValue_chars v fuel depth
        (l.fields depth ((name', v') :: fs) ++ (l.closing outer ++ '\x7d' :: rest)) h
        (endsNumber_comma _) (by omega)
      have hfields := l.readFields_chars name' v' fs fuel depth outer (before ++ [(name, v)]) rest
        hmore.1 hmore.2 (by simpa using hnames) (by omega)
      rw [stringText_append, List.append_assoc, List.singleton_append] at hfields
      rw [hchars, List.cons_append] at hvalue ⊢
      refine readFields_more (l.isGap_comma depth) (not_mem_of_nodup_names hnames) hblank
        (hvalue.trans ?_) hfields
      simp [Layout.fields, stringText_append]
  | _, _, _, 0, _, _, _, _, _, _, _, hfuel => by omega
termination_by _ v fs => sizeOf v + sizeOf fs

end

/-! ## Whole texts -/

/-- The text of a plain value is read as that value, in any layout. -/
theorem Layout.readChars_chars (l : Layout) {v : Json} (h : IsPlain v) :
    readChars (l.chars 0 v) = .ok v := by
  obtain ⟨c, s, hchars, hblank, -, hmark⟩ := Layout.exists_chars (l := l) h 0
  have hread := l.readValue_chars v (2 * (l.chars 0 v).length + 2) 0 [] h
    (by intro c hc; exact absurd hc (by simp)) (by omega)
  have hskip : skipSpace (l.chars 0 v) = l.chars 0 v :=
    skipSpace_of_head (by rw [hchars]; simpa using hblank)
  have hhead : (l.chars 0 v).head? ≠ some '\uFEFF' := by
    rw [hchars]
    exact fun heq => hmark (Option.some.inj heq)
  rw [List.append_nil] at hread
  rw [readChars, if_neg hhead, hskip, hread]
  rfl

/-- **The text of a plain value on many lines is read as that value.** -/
theorem readChars_indentedChars {v : Json} (h : IsPlain v) :
    readChars (indentedChars 0 v) = .ok v := by
  rw [indentedChars_eq]
  exact Layout.manyLines.readChars_chars h

/-- **The text of a plain value on one line is read as that value.** -/
theorem readChars_lineChars {v : Json} (h : IsPlain v) : readChars (lineChars v) = .ok v := by
  rw [lineChars_eq 0]
  exact Layout.oneLine.readChars_chars h

end Shortlink.Json
