import Shortlink.Timestamp.Reader
import Shortlink.Proofs.Alias
import Shortlink.Proofs.Text.Digits

/-!
# A point in time is read as it is written

The written form of a point in time has parts of fixed width, so the reader finds each of them where
it looks: the date in the first ten characters, and behind one more the time of day up to the sign
of the distance. Time of day and distance are both read as hours, minutes and seconds, of which a
distance may leave out the last (`readClock?_full`, `readClock?_short`).

## Contents

- **Places.** `leadingNumber?_of_lt`: a part of fixed width.
- **Dates.** `dateLength_chars`, `readDate?_chars`.
- **Clocks.** `readParts?_colon`, `readParts?_last`, `readParts?_decimals`; `readClock?_full`,
  `readClock?_short`.
- **Times and distances.** `exists_offset_chars`, `readOffset?_chars`, `readTime?_chars`.
- **The whole.** `Timestamp.read?_text`.
-/

namespace Shortlink.Timestamp

open Text

/-! ## Places in a text -/

theorem charAt_zero_cons (c : Char) (s : List Char) : charAt (c :: s) 0 = c := rfl

/-- A digit differs from whatever is no digit. -/
theorem digit_ne {d : Nat} {c : Char} (h : d < 10) (hc : isAsciiDigit c = false) : digit d ≠ c := by
  intro heq
  rw [← heq, isAsciiDigit, asciiDigit?_digit h] at hc
  exact absurd hc (by simp)

theorem leadingNumber?_padded (width n : Nat) (rest : List Char) :
    leadingNumber? width (padded width n ++ rest) = some (n % Nat.pow 10 width, rest) := by
  obtain ⟨ds, hds, hvalue⟩ := mapM_asciiDigit?_padded width n
  have htake : (padded width n ++ rest).take width = padded width n :=
    List.take_left' (length_padded width n)
  have hdrop : (padded width n ++ rest).drop width = rest :=
    List.drop_left' (length_padded width n)
  rw [leadingNumber?, htake, hdrop, hds]
  simp [length_padded, hvalue]

theorem leadingNumber?_of_lt {width n : Nat} (h : n < Nat.pow 10 width) (rest : List Char) :
    leadingNumber? width (padded width n ++ rest) = some (n, rest) := by
  rw [leadingNumber?_padded, Nat.mod_eq_of_lt h]

theorem leadingNumber?_two {n : Nat} (h : n < 100) (rest : List Char) :
    leadingNumber? 2 (padded 2 n ++ rest) = some (n, rest) :=
  leadingNumber?_of_lt h rest

/-! ## Dates -/

/-- The date takes ten characters. -/
theorem dateLength_chars (d : Date) (rest : List Char) :
    dateLength (d.chars ++ 'T' :: rest) = 10 := by
  have hlength : (d.chars ++ 'T' :: rest).length = rest.length + 11 := by
    simp [Date.chars, length_padded]
    omega
  -- a date of weeks has a `W` behind its year, and a short one has no hyphens
  have hhyphen : charAt (d.chars ++ 'T' :: rest) 4 = '-' := rfl
  have hmonth : charAt (d.chars ++ 'T' :: rest) 5 = digit (d.month / 10 % 10) := rfl
  simp only [dateLength, hlength, hhyphen, hmonth]
  rw [if_neg (by omega), if_pos trivial, if_neg (digit_ne (by omega) (by decide))]

theorem readDate?_chars (d : Date) (rest : List Char) (length : Nat) :
    readDate? (d.chars ++ rest) length = some d := by
  obtain ⟨-, hyear, -, hmonth, -, hday⟩ := d.valid
  have hdays : daysInMonth d.year d.month ≤ 31 := by
    unfold daysInMonth
    repeat' split
    all_goals omega
  have hdate : Date.of? d.year d.month d.day = some d := by rw [Date.of?, dif_pos d.valid]
  have hfirst : charAt (padded 2 d.month ++ '-' :: padded 2 d.day ++ rest) 0
      = digit (d.month / 10 % 10) := rfl
  have hnoWeek : ¬ digit (d.month / 10 % 10) = 'W' := digit_ne (by omega) (by decide)
  have hyear' : leadingNumber? 4 (d.chars ++ rest)
      = some (d.year, '-' :: (padded 2 d.month ++ '-' :: padded 2 d.day ++ rest)) := by
    have happend : d.chars ++ rest
        = padded 4 d.year ++ '-' :: (padded 2 d.month ++ '-' :: padded 2 d.day ++ rest) := by
      simp [Date.chars]
    have hbound : d.year < Nat.pow 10 4 := Nat.lt_succ_of_le hyear
    rw [happend, leadingNumber?_of_lt hbound]
  have hmonth' : leadingNumber? 2 (padded 2 d.month ++ '-' :: padded 2 d.day ++ rest)
      = some (d.month, '-' :: (padded 2 d.day ++ rest)) := by
    rw [List.append_assoc, leadingNumber?_two (by omega), List.cons_append]
  simp only [readDate?, hyear', Option.bind_eq_bind, Option.bind_some, charAt_zero_cons,
    beq_self_eq_true, if_true, List.drop_succ_cons, List.drop_zero, hfirst, hnoWeek, if_false,
    hmonth', bne_self_eq_false, Bool.and_false, Bool.false_eq_true]
  rw [leadingNumber?_two (by omega), Option.bind_some, hdate]

/-! ## Hours, minutes and seconds -/

/-- A part with a colon behind it is followed by the other parts. -/
theorem readParts?_colon {n length : Nat} (hn : n < 100) (hlength : 3 < length) (rest : List Char)
    (parts : Nat) : readParts? true (padded 2 n ++ ':' :: rest) length (parts + 1)
      = (readParts? true rest (length - 3) parts).map fun (ns, micro, more) =>
          (n :: ns, micro, more) := by
  simp only [readParts?, leadingNumber?_two hn, Option.bind_eq_bind, Option.bind_some,
    charAt_zero_cons, if_neg (by omega : ¬ length ≤ 3), beq_self_eq_true, Bool.and_self, if_true,
    List.drop_succ_cons, List.drop_zero]
  cases readParts? true rest (length - 3) parts <;> rfl

/-- The last part ends the reading. -/
theorem readParts?_last {n : Nat} (hn : n < 100) (rest : List Char) (parts : Nat) :
    readParts? true (padded 2 n ++ rest) 2 (parts + 1)
      = some ([n], 0, charAt rest 0 != '\x00') := by
  simp [readParts?, leadingNumber?_two hn]

/-- Six decimals are all read. -/
theorem readParts?_decimals {n micro : Nat} (hn : n < 100) (hmicro : micro < 1000000)
    {rest : List Char} (hrest : isAsciiDigit (charAt rest 0) = false) (parts : Nat) :
    readParts? true (padded 2 n ++ '.' :: (padded 6 micro ++ rest)) 9 (parts + 1)
      = some ([n], micro, charAt rest 0 != '\x00') := by
  have hdrop : rest.dropWhile isAsciiDigit = rest := by
    apply dropWhile_of_head
    cases rest with
    | nil => rfl
    | cons c rest => simpa [charAt] using hrest
  have hdecimals : readDecimals? (padded 6 micro ++ rest) 6
      = some (micro, charAt rest 0 != '\x00') := by
    have hbound : micro < Nat.pow 10 6 := hmicro
    simp only [readDecimals?, Nat.min_self, leadingNumber?_of_lt hbound, Option.bind_eq_bind,
      Option.bind_some, hdrop, Nat.sub_self]
    simp
  simp [readParts?, leadingNumber?_two hn, charAt_zero_cons, hdecimals]

/-- The parts of a time of day. -/
def partsChars (hour minute second micro : Nat) : List Char :=
  padded 2 hour ++ ':' :: padded 2 minute ++ ':' :: padded 2 second
    ++ (if micro = 0 then [] else '.' :: padded 6 micro)

theorem readClock?_full {hour minute second micro : Nat} (hhour : hour < 100)
    (hminute : minute < 100) (hsecond : second < 100) (hmicro : micro < 1000000)
    {rest : List Char} (hrest : isAsciiDigit (charAt rest 0) = false) :
    readClock? (partsChars hour minute second micro ++ rest)
        (partsChars hour minute second micro).length
      = some (⟨hour, minute, second, micro⟩, charAt rest 0 != '\x00') := by
  have hcolon : charAt (partsChars hour minute second micro ++ rest) 2 = ':' := rfl
  rw [readClock?, hcolon]
  by_cases hzero : micro = 0
  · subst hzero
    have hchars : partsChars hour minute second 0 ++ rest
        = padded 2 hour ++ ':' :: (padded 2 minute ++ ':' :: (padded 2 second ++ rest)) := by
      simp [partsChars]
    have hlength : (partsChars hour minute second 0).length = 8 := rfl
    rw [hchars, hlength, beq_self_eq_true, readParts?_colon hhour (by omega),
      readParts?_colon hminute (by omega), readParts?_last hsecond]
    rfl
  · have hchars : partsChars hour minute second micro ++ rest
        = padded 2 hour ++ ':' :: (padded 2 minute ++ ':' :: (padded 2 second
          ++ '.' :: (padded 6 micro ++ rest))) := by
      simp [partsChars, hzero]
    have hlength : (partsChars hour minute second micro).length = 15 := by
      simp [partsChars, hzero, length_padded]
    rw [hchars, hlength, beq_self_eq_true, readParts?_colon hhour (by omega),
      readParts?_colon hminute (by omega), readParts?_decimals hsecond hmicro hrest]
    rfl

theorem readClock?_short {hour minute : Nat} (hhour : hour < 100) (hminute : minute < 100)
    (rest : List Char) : readClock? (padded 2 hour ++ ':' :: (padded 2 minute ++ rest)) 5
      = some (⟨hour, minute, 0, 0⟩, charAt rest 0 != '\x00') := by
  have hcolon : charAt (padded 2 hour ++ ':' :: (padded 2 minute ++ rest)) 2 = ':' := rfl
  rw [readClock?, hcolon, beq_self_eq_true, readParts?_colon hhour (by omega),
    readParts?_last hminute]
  rfl

/-! ## Times of day and distances -/

theorem clock_of?_eq (t : Clock) :
    Clock.of? t.hour t.minute t.second t.microsecond = some t := by
  rw [Clock.of?, dif_pos t.valid]

/-- Nothing in a time of day looks like the start of a distance. -/
theorem startsOffset_of_mem_chars {t : Clock} {c : Char} (h : c ∈ t.chars) :
    startsOffset c = false := by
  have hdigit : ∀ d, d < 10 → startsOffset (digit d) = false := by decide
  have hpadded : ∀ {width n : Nat}, c ∈ padded width n → startsOffset c = false := by
    intro width n hmem
    obtain ⟨d, hd, rfl⟩ := exists_digit_of_mem_padded hmem
    exact hdigit d hd
  simp only [Clock.chars, List.mem_append, List.mem_cons] at h
  rcases h with ((hhour | rfl | hminute) | rfl | hsecond) | hmicro
  · exact hpadded hhour
  · rfl
  · exact hpadded hminute
  · rfl
  · exact hpadded hsecond
  · split at hmicro
    · exact absurd hmicro List.not_mem_nil
    · rcases List.mem_cons.mp hmicro with rfl | hdecimals
      · rfl
      · exact hpadded hdecimals

/-- The seconds of a reading. -/
def Reading.seconds (r : Reading) : Nat :=
  3600 * r.hour + 60 * r.minute + r.second

/-- A sign and a reading up to the end give a distance. -/
theorem readOffset?_cons {sign : Char} (hsign : sign ≠ 'Z') {rest : List Char} {r : Reading}
    (h : readClock? rest rest.length = some (r, false)) :
    readOffset? (sign :: rest) = Offset.of? (if sign = '-'
      then -(if r.seconds = 0 then 0 else 1000000 * (r.seconds : Int) + r.microsecond)
      else if r.seconds = 0 then 0 else 1000000 * (r.seconds : Int) + r.microsecond) := by
  unfold readOffset?
  split
  · next heq => exact absurd (List.cons.inj heq).1 hsign
  · next heq =>
      obtain ⟨rfl, rfl⟩ := List.cons.inj heq
      rw [h]
      rfl
  · next heq => exact absurd heq (by simp)

/-- The reading that a distance is written as. -/
def offsetReading (o : Offset) : Reading :=
  ⟨o.microseconds.natAbs / 1000000 / 3600, o.microseconds.natAbs / 1000000 / 60 % 60,
    o.microseconds.natAbs / 1000000 % 60, o.microseconds.natAbs % 1000000⟩

/-- Behind the sign of a distance its reading follows. -/
theorem exists_offset_chars (o : Offset) :
    ∃ rest, o.chars = (if o.microseconds < 0 then '-' else '+') :: rest
      ∧ readClock? rest rest.length = some (offsetReading o, false) := by
  obtain ⟨hday, -⟩ := o.valid
  have hhour : o.microseconds.natAbs / 1000000 / 3600 < 100 := by omega
  have hminute : o.microseconds.natAbs / 1000000 / 60 % 60 < 100 := by omega
  by_cases hshort : o.microseconds.natAbs / 1000000 % 60 = 0 ∧ o.microseconds.natAbs % 1000000 = 0
  · have hreading : offsetReading o = ⟨o.microseconds.natAbs / 1000000 / 3600,
        o.microseconds.natAbs / 1000000 / 60 % 60, 0, 0⟩ := by
      rw [offsetReading, hshort.1, hshort.2]
    refine ⟨padded 2 (o.microseconds.natAbs / 1000000 / 3600)
      ++ ':' :: (padded 2 (o.microseconds.natAbs / 1000000 / 60 % 60) ++ []), ?_, ?_⟩
    · simp [Offset.chars, hshort]
    · rw [hreading]
      exact readClock?_short hhour hminute []
  · have hread := readClock?_full hhour hminute
      (by omega : o.microseconds.natAbs / 1000000 % 60 < 100)
      (by omega : o.microseconds.natAbs % 1000000 < 1000000)
      (by decide : isAsciiDigit (charAt [] 0) = false)
    rw [List.append_nil] at hread
    exact ⟨_, by simp [Offset.chars, partsChars, hshort], hread⟩

/-- **A distance is read as it is written.** -/
theorem readOffset?_chars (o : Offset) : readOffset? o.chars = some o := by
  obtain ⟨hday, hlong⟩ := o.valid
  obtain ⟨rest, hchars, hread⟩ := exists_offset_chars o
  have hsign : (if o.microseconds < 0 then '-' else '+') ≠ 'Z' := by
    split <;> decide
  have hsize : (if (offsetReading o).seconds = 0 then 0
      else 1000000 * ((offsetReading o).seconds : Int) + (offsetReading o).microsecond)
        = o.microseconds.natAbs := by
    have hseconds : (offsetReading o).seconds = o.microseconds.natAbs / 1000000 := by
      simp only [offsetReading, Reading.seconds]
      omega
    have hmicro : (offsetReading o).microsecond = o.microseconds.natAbs % 1000000 := rfl
    rw [hseconds, hmicro]
    by_cases hzero : o.microseconds.natAbs / 1000000 = 0
    · rw [if_pos hzero]
      omega
    · rw [if_neg hzero]
      omega
  -- the sign was written apart from the size, and is put back
  rw [hchars, readOffset?_cons hsign hread, hsize]
  have hsigned : (if (if o.microseconds < 0 then '-' else '+') = '-'
      then -(o.microseconds.natAbs : Int) else o.microseconds.natAbs) = o.microseconds := by
    by_cases hneg : o.microseconds < 0
    · rw [if_pos hneg, if_pos rfl]
      omega
    · rw [if_neg hneg, if_neg (by decide)]
      omega
  rw [hsigned, Offset.of?, dif_pos o.valid]

/-- A time of day is read up to the end, or up to the start of a distance. -/
theorem readTime?_append (t : Clock) {rest : List Char}
    (hrest : rest.takeWhile (fun c => !startsOffset c) = [])
    (hdigit : isAsciiDigit (charAt rest 0) = false) :
    readTime? (t.chars ++ rest) =
      if rest = [] then some (t, none) else (readOffset? rest).map fun o => (t, some o) := by
  obtain ⟨hhour, hminute, hsecond, hmicro⟩ := t.valid
  have hread : readClock? (t.chars ++ rest) t.chars.length
      = some (⟨t.hour, t.minute, t.second, t.microsecond⟩, charAt rest 0 != '\x00') :=
    readClock?_full (by omega) (by omega) (by omega) hmicro hdigit
  -- the time of day goes up to the first sign of a distance, and holds none itself
  have hlength : ((t.chars ++ rest).takeWhile fun c => !startsOffset c).length
      = t.chars.length := by
    rw [List.takeWhile_append_of_pos, hrest, List.append_nil]
    intro c hc
    rw [startsOffset_of_mem_chars hc]
    rfl
  simp only [readTime?, hlength, hread, Option.bind_eq_bind, Option.bind_some, clock_of?_eq,
    List.drop_left, List.length_append]
  cases rest with
  | nil => rw [if_pos (by simp), if_pos rfl, if_neg (by decide), Option.pure_def]
  | cons c rest =>
      rw [if_neg (by simp), if_neg (by simp)]
      cases readOffset? (c :: rest) <;> rfl

/-- **Time of day and distance are read as they are written.** -/
theorem readTime?_chars (t : Timestamp) :
    readTime? (t.clock.chars ++ match t.offset with | none => [] | some o => o.chars)
      = some (t.clock, t.offset) := by
  cases t.offset with
  | none => rw [readTime?_append t.clock rfl (by decide), if_pos rfl]
  | some o =>
      obtain ⟨rest, hchars, -⟩ := exists_offset_chars o
      have hstart : o.chars.takeWhile (fun c => !startsOffset c) = []
          ∧ isAsciiDigit (charAt o.chars 0) = false := by
        rw [hchars]
        split <;> exact ⟨rfl, rfl⟩
      rw [readTime?_append t.clock hstart.1 hstart.2, readOffset?_chars,
        if_neg (by rw [hchars]; simp)]
      rfl

/-! ## The whole -/

/-- **A point in time is read as it is written.** -/
theorem read?_text (t : Timestamp) : read? t.text = some t := by
  obtain ⟨rest, hrest⟩ : ∃ rest,
      rest = t.clock.chars ++ match t.offset with | none => [] | some o => o.chars := ⟨_, rfl⟩
  have hchars : t.chars = t.date.chars ++ 'T' :: rest := by
    rw [chars, hrest, List.append_assoc]
    rfl
  have hdate : t.date.chars.length = 10 := by simp [Date.chars, length_padded]
  have hlength : (t.date.chars ++ 'T' :: rest).length = rest.length + 11 := by
    rw [List.length_append, List.length_cons, hdate]
    omega
  have hdrop : (t.date.chars ++ 'T' :: rest).drop 11 = rest := by
    rw [List.drop_append, hdate, List.drop_eq_nil_of_le (by omega)]
    rfl
  have htime : readTime? rest = some (t.clock, t.offset) := hrest ▸ readTime?_chars t
  rw [read?, text, String.toList_ofList, hchars, readChars?, hlength, if_neg (by omega)]
  simp only [dateLength_chars, readDate?_chars, Option.bind_eq_bind, Option.bind_some, hdrop, htime]
  rw [if_neg (by omega), Option.pure_def]

end Shortlink.Timestamp
