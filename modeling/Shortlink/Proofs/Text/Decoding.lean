import Shortlink.Proofs.Text.Escapes

/-!
# Decoding undoes every way of writing

A text is written by leaving characters as they are and escaping others, byte by byte and with the
digits of each byte in either case. Whatever is chosen for each character, decoding gives the text
back if the percent signs are escaped: `decode_write`. It never has to keep a text as it stands
because its bytes spell nothing.

Only characters of ASCII can be part of an escape, so a text may as well be decoded run by run: the
bytes of each run of such characters by themselves, and every other character as it is. That comes
to the same, whether the bytes spell a text or not: `decodeRuns?_eq`. For no character can begin
with a byte that continues another one (`piecesFrom_append`).

## Contents

- **Bytes.** `isContinuation`, `piecesFrom_append`, `Utf8.decode?_append`.
- **Runs.** `isAscii`, `decodeRuns?`; `unescape_append`, `decodeRuns?_eq`; `asciiRuns`,
  `spellsText_iff_asciiRuns`.
- **In front of escapes.** `decode_append_of_not_mem`; `IsSettled`.
- **Writing.** `Manner`, `write`; `isWritten_write`, `decode_write`.
-/

namespace Shortlink.Text

namespace Utf8

/-! ## Bytes -/

/-- The byte continues a character that another one has begun. -/
def isContinuation (b : UInt8) : Bool :=
  0x80 ≤ b.toNat && b.toNat ≤ 0xBF

theorem isContinuation_iff {b : UInt8} :
    isContinuation b = true ↔ 0x80 ≤ b.toNat ∧ b.toNat ≤ 0xBF := by
  rw [isContinuation, Bool.and_eq_true, decide_eq_true_eq, decide_eq_true_eq]

/-- What is under way is continued by no other bytes. -/
theorem bounds_of_lead {b : UInt8} {p : Pending} (h : lead b = .opens p) :
    0x80 ≤ p.low ∧ p.high ≤ 0xBF := by
  by_cases hone : b.toNat < 0x80
  · rw [lead_one hone] at h
    cases h
  by_cases hstray : b.toNat < 0xC2 ∨ 0xF4 < b.toNat
  · rw [lead_stray (by omega)] at h
    cases h
  by_cases htwo : b.toNat < 0xE0
  · rw [lead_two (by omega) htwo] at h
    cases h
    exact ⟨Nat.le_refl _, Nat.le_refl _⟩
  by_cases hthree : b.toNat < 0xF0
  · rw [lead_three (by omega) hthree] at h
    cases h
    constructor <;> simp only <;> split <;> omega
  · rw [lead_four (by omega) (by omega)] at h
    cases h
    constructor <;> simp only <;> split <;> omega

/-- A byte that does not fit leaves a gap and is read anew. -/
theorem piecesFrom_breaks {p : Pending} {b : UInt8} {rest : List UInt8}
    (h : ¬ (p.low ≤ b.toNat ∧ b.toNat ≤ p.high)) :
    piecesFrom (some p) (b :: rest) = none :: piecesFrom none (b :: rest) := by
  simp only [piecesFrom, if_neg h]
  cases lead b <;> rfl

/-- **Bytes are read in two parts** if the second one does not begin with a continuation. -/
theorem piecesFrom_append {back : List UInt8}
    (hback : ∀ b, back.head? = some b → isContinuation b = false) (front : List UInt8) :
    ∀ {pending : Option Pending}, (∀ p, pending = some p → 0x80 ≤ p.low ∧ p.high ≤ 0xBF) →
      piecesFrom pending (front ++ back) = piecesFrom pending front ++ pieces back := by
  induction front with
  | nil =>
      intro pending hpending
      cases back with
      | nil => simp [pieces, piecesFrom]
      | cons b back =>
          cases pending with
          | none => rfl
          | some p =>
              obtain ⟨hlow, hhigh⟩ := hpending p rfl
              have hfits : ¬ (p.low ≤ b.toNat ∧ b.toNat ≤ p.high) := by
                rintro ⟨hl, hh⟩
                have hcontinues : isContinuation b = true :=
                  isContinuation_iff.mpr ⟨by omega, by omega⟩
                rw [hback b rfl] at hcontinues
                exact absurd hcontinues (by simp)
              rw [List.nil_append, piecesFrom_breaks hfits]
              rfl
  | cons b front ih =>
      intro pending hpending
      have hnone : ∀ p : Pending, none = some p → 0x80 ≤ p.low ∧ p.high ≤ 0xBF := by
        intro p hp
        cases hp
      -- the first byte, when nothing is under way
      have hfresh : piecesFrom none (b :: front ++ back)
          = piecesFrom none (b :: front) ++ pieces back := by
        rw [List.cons_append]
        cases hlead : lead b with
        | whole c =>
            rw [piecesFrom_whole hlead, piecesFrom_whole hlead, ih hnone, List.cons_append]
        | stray =>
            rw [piecesFrom_stray hlead, piecesFrom_stray hlead, ih hnone, List.cons_append]
        | opens p =>
            rw [piecesFrom_opens hlead, piecesFrom_opens hlead]
            apply ih
            intro q hq
            cases hq
            exact bounds_of_lead hlead
      cases pending with
      | none => exact hfresh
      | some p =>
          by_cases hfits : p.low ≤ b.toNat ∧ b.toNat ≤ p.high
          · rw [List.cons_append, piecesFrom_fits hfits, piecesFrom_fits hfits]
            split
            · rw [ih hnone, List.cons_append]
            · apply ih
              intro q hq
              cases hq
              exact ⟨Nat.le_refl _, Nat.le_refl _⟩
          · rw [List.cons_append, piecesFrom_breaks hfits, piecesFrom_breaks hfits,
              List.cons_append, ← hfresh, List.cons_append]

/-- Such bytes spell a text if both parts do. -/
theorem decode?_append {front back : List UInt8}
    (hback : ∀ b, back.head? = some b → isContinuation b = false) :
    decode? (front ++ back)
      = (decode? front).bind fun s => (decode? back).map fun t => s ++ t := by
  have hpieces : pieces (front ++ back) = pieces front ++ pieces back :=
    piecesFrom_append hback front fun p hp => nomatch hp
  rw [decode?, hpieces, List.mapM_append, decode?, decode?]
  cases (pieces front).mapM id with
  | none => rfl
  | some s => cases (pieces back).mapM id <;> rfl

/-- The first byte of a character continues no other one. -/
theorem isContinuation_of_head?_encodeChar {c : Char} {b : UInt8} {rest : List UInt8}
    (h : (encodeChar c ++ rest).head? = some b) : isContinuation b = false := by
  have hcode := isCodePoint_toNat c
  unfold IsCodePoint at hcode
  have hvalue : ∀ n, n < 256 → (n < 0x80 ∨ 0xBF < n) → isContinuation (UInt8.ofNat n) = false := by
    intro n hn hout
    rw [← Bool.not_eq_true, isContinuation_iff, toNat_ofNat_of_lt hn]
    omega
  simp only [encodeChar] at h
  repeat' split at h
  all_goals
    rw [List.cons_append, List.head?_cons] at h
    rw [← Option.some.inj h]
    exact hvalue _ (by omega) (by omega)

theorem decode?_encodeChar_append (c : Char) (bytes : List UInt8) :
    decode? (encodeChar c ++ bytes) = (decode? bytes).map (c :: ·) := by
  have hpieces : pieces (encodeChar c ++ bytes) = some c :: pieces bytes :=
    piecesFrom_encodeChar c bytes
  rw [decode?, decode?, hpieces, List.mapM_cons]
  cases (pieces bytes).mapM id <;> rfl

end Utf8

namespace Percent

/-! ## Runs -/

/-- The character belongs to ASCII. -/
def isAscii (c : Char) : Bool :=
  c.toNat < 0x80

/-- The text with its escapes resolved, run by run: the bytes of each run of ASCII by themselves,
every other character as it is. -/
def decodeRuns? : List Char → Option (List Char)
  | [] => some []
  | c :: rest =>
    if isAscii c then
      (Utf8.decode? (unescape (c :: rest.takeWhile isAscii))).bind fun front =>
        (decodeRuns? (rest.dropWhile isAscii)).map fun back => front ++ back
    else (decodeRuns? rest).map (c :: ·)
termination_by s => s.length
decreasing_by
  · have hle := (List.dropWhile_sublist (p := isAscii) (l := rest)).length_le
    simp only [List.length_cons]
    omega
  · simp

/-- A hexadecimal digit belongs to ASCII. -/
theorem isAscii_of_hexValue? {c : Char} (h : (hexValue? c).isSome = true) : isAscii c = true := by
  simp only [hexValue?] at h
  rw [isAscii, decide_eq_true_eq]
  repeat' split at h
  all_goals first | omega | exact absurd h (by simp)

/-- **No escape stands across the end of a run.** -/
theorem unescape_append {back : List Char} (hback : ∀ c, back.head? = some c → isAscii c = false)
    (front : List Char) : unescape (front ++ back) = unescape front ++ unescape back := by
  -- what is not of ASCII is no digit of an escape
  have hdigit : ∀ c rest, back = c :: rest → hexValue? c = none := by
    intro c rest heq
    rw [← Option.not_isSome_iff_eq_none]
    intro hsome
    have hascii := isAscii_of_hexValue? hsome
    rw [hback c (by rw [heq]; rfl)] at hascii
    exact absurd hascii (by simp)
  fun_induction unescape front with
  | case1 high low rest b hbyte ih =>
      show unescape ('%' :: high :: low :: (rest ++ back)) = _
      rw [unescape_escape hbyte, ih, List.cons_append]
  | case2 high low rest hbyte ih =>
      show unescape ('%' :: (high :: low :: rest ++ back)) = _
      rw [unescape_percent_of_ne, ih, List.append_assoc]
      intro high' low' rest' heq
      cases heq
      exact hbyte
  | case3 c rest hplain ih =>
      by_cases hc : c = '%'
      · subst hc
        rw [List.cons_append, unescape_percent_of_ne, ih, List.append_assoc]
        -- fewer than two characters of the front are left for the digits
        intro high low rest' heq
        rw [← Option.not_isSome_iff_eq_none, isSome_byte?_iff]
        rintro ⟨hhigh, hlow⟩
        rcases rest with _ | ⟨r, _ | ⟨r', more⟩⟩
        · rw [hdigit high (low :: rest') heq] at hhigh
          exact absurd hhigh (by simp)
        · rw [hdigit low rest' (List.cons.inj heq).2] at hlow
          exact absurd hlow (by simp)
        · exact hplain r r' more rfl rfl
      · rw [List.cons_append, unescape_cons_of_ne hc, ih, List.append_assoc]
  | case4 => rfl

theorem head?_dropWhile_isAscii {s : List Char} {c : Char}
    (h : (s.dropWhile isAscii).head? = some c) : isAscii c = false := by
  have hhead := List.head?_dropWhile_not isAscii s
  rw [h] at hhead
  simpa using hhead

/-- A byte that a character begins with comes first where a character comes first that stands for
itself. -/
theorem isContinuation_of_head?_unescape {s : List Char}
    (hs : ∀ c, s.head? = some c → isAscii c = false) {b : UInt8}
    (h : (unescape s).head? = some b) : Utf8.isContinuation b = false := by
  cases s with
  | nil => exact absurd h (by simp [unescape])
  | cons c rest =>
      have hc : c ≠ '%' := by
        rintro rfl
        exact absurd (hs '%' rfl) (by decide)
      rw [unescape_cons_of_ne hc] at h
      exact Utf8.isContinuation_of_head?_encodeChar h

/-- **Decoding run by run** comes to decoding all bytes at once. -/
theorem decodeRuns?_eq (s : List Char) : decodeRuns? s = Utf8.decode? (unescape s) := by
  fun_induction decodeRuns? s with
  | case1 => rfl
  | case2 c rest hascii ih =>
      have hrest : ∀ d, (rest.dropWhile isAscii).head? = some d → isAscii d = false :=
        fun d => head?_dropWhile_isAscii
      have hbytes : unescape (c :: rest) = unescape (c :: rest.takeWhile isAscii)
          ++ unescape (rest.dropWhile isAscii) := by
        rw [← unescape_append hrest, List.cons_append, List.takeWhile_append_dropWhile]
      rw [hbytes, Utf8.decode?_append fun b => isContinuation_of_head?_unescape hrest, ih]
  | case3 c rest hascii ih =>
      have hc : c ≠ '%' := by
        rintro rfl
        exact hascii (by decide)
      rw [unescape_cons_of_ne hc, Utf8.decode?_encodeChar_append, ih]

/-- The maximal runs of ASCII in a text, in order. -/
def asciiRuns (s : List Char) : List (List Char) :=
  runs (fun c => !isAscii c) s

/-- Other characters belong to no run. -/
theorem asciiRuns_cons {c : Char} (h : isAscii c = false) (rest : List Char) :
    asciiRuns (c :: rest) = asciiRuns rest :=
  runs_cons (by rw [h]; rfl) rest

/-- A run ends where another character comes first. -/
theorem asciiRuns_append {front back : List Char} (hne : front ≠ [])
    (hfront : ∀ c ∈ front, isAscii c = true)
    (hback : ∀ c, back.head? = some c → isAscii c = false) :
    asciiRuns (front ++ back) = front :: asciiRuns back := by
  have hrun : asciiRuns front = [front] := by
    apply runs_self hne
    intro c hc
    rw [hfront c hc, Bool.not_true]
  cases back with
  | nil => rw [List.append_nil, hrun, asciiRuns, runs_nil]
  | cons d back =>
      have hd := hback d rfl
      have hparted : asciiRuns (front ++ d :: back) = asciiRuns front ++ asciiRuns back :=
        runs_append_cons (by rw [hd]; rfl) front back
      rw [hparted, hrun, asciiRuns_cons hd, List.singleton_append]

theorem isSome_decode?_iff {s : List Char} :
    (Utf8.decode? (unescape s)).isSome ↔ SpellsText s := by
  rw [Option.isSome_iff_exists]
  exact exists_congr fun t => Utf8.decode?_eq_some_iff

instance (s : List Char) : Decidable (SpellsText s) :=
  decidable_of_iff _ isSome_decode?_iff

theorem isSome_decodeRuns?_iff (s : List Char) :
    (decodeRuns? s).isSome ↔ ∀ run ∈ asciiRuns s, SpellsText run := by
  fun_induction decodeRuns? s with
  | case1 => simp [asciiRuns, runs_nil]
  | case2 c rest hascii ih =>
      have hfront : ∀ d ∈ c :: rest.takeWhile isAscii, isAscii d = true := by
        refine List.forall_mem_cons.mpr ⟨hascii, ?_⟩
        intro d hd
        exact List.mem_takeWhile_imp hd
      have hruns := asciiRuns_append (List.cons_ne_nil _ _) hfront
        fun d => head?_dropWhile_isAscii (s := rest)
      rw [List.cons_append, List.takeWhile_append_dropWhile] at hruns
      rw [hruns, List.forall_mem_cons, ← isSome_decode?_iff, ← ih]
      cases Utf8.decode? (unescape (c :: rest.takeWhile isAscii)) <;> simp
  | case3 c rest hascii ih =>
      rw [asciiRuns_cons (Bool.eq_false_iff.mpr hascii), Option.isSome_map, ih]

/-- **A text spells a text just if each of its runs does.** -/
theorem spellsText_iff_asciiRuns {s : List Char} :
    SpellsText s ↔ ∀ run ∈ asciiRuns s, SpellsText run := by
  rw [← isSome_decodeRuns?_iff, decodeRuns?_eq, isSome_decode?_iff]

/-! ## In front of escapes -/

theorem decode_cons_of_ne {c : Char} (h : c ≠ '%') (rest : List Char) :
    decode (c :: rest) = c :: decode rest := by
  rw [decode, unescape_cons_of_ne h, Utf8.decode?_encodeChar_append, decode]
  cases Utf8.decode? (unescape rest) <;> rfl

/-- **What stands in front of a text stays in front of it**, whether it can be decoded or is kept as
it stands, if there is no percent sign in front. -/
theorem decode_append_of_not_mem {front : List Char} (h : '%' ∉ front) (back : List Char) :
    decode (front ++ back) = front ++ decode back := by
  induction front with
  | nil => rfl
  | cons c front ih =>
      obtain ⟨hc, hfront⟩ := not_or.mp fun hmem => h (List.mem_cons.mpr hmem)
      rw [List.cons_append, decode_cons_of_ne (Ne.symm hc), ih hfront, List.cons_append]

/-- **One decoding settles the text**: a second one leaves what the first one makes of it. -/
def IsSettled (s : List Char) : Prop :=
  decode (decode s) = decode s

instance (s : List Char) : Decidable (IsSettled s) :=
  inferInstanceAs (Decidable (_ = _))

/-! ## Writing -/

/-- The escape of a byte; its two digits may be in either case. -/
def escapeIn (upper : Bool × Bool) (b : UInt8) : List Char :=
  ['%', hexDigit upper.1 (b.toNat / 16), hexDigit upper.2 (b.toNat % 16)]

/-- **The manner in which a character is written**: as it is, or escaped, with the cases of the
digits of its first byte, its second byte and so on. -/
inductive Manner where
  | asItIs
  | escaped (upper : Nat → Bool × Bool)

/-- The bytes of a character, escaped from the one with the given number on. -/
def escapeFrom (upper : Nat → Bool × Bool) (number : Nat) : List UInt8 → List Char
  | [] => []
  | b :: bytes => escapeIn (upper number) b ++ escapeFrom upper (number + 1) bytes

/-- A character as it is written. -/
def writeChar : Char × Manner → List Char
  | (c, .asItIs) => [c]
  | (c, .escaped upper) => escapeFrom upper 0 (Utf8.encodeChar c)

/-- A text as it is written, each character in its manner. -/
def write (s : List (Char × Manner)) : List Char :=
  s.flatMap writeChar

theorem areEscapes_escapeFrom (upper : Nat → Bool × Bool) (bytes : List UInt8) :
    ∀ number, AreEscapes bytes (escapeFrom upper number bytes) := by
  induction bytes with
  | nil =>
      intro number
      exact .nil
  | cons b bytes ih =>
      intro number
      exact .cons (byte?_hexDigit (upper number) b) (ih (number + 1))

/-- What is written is a written form of the text. -/
theorem isWritten_write {s : List (Char × Manner)} (h : ∀ p ∈ s, p.1 = '%' → p.2 ≠ .asItIs) :
    IsWritten (· != '%') (s.map Prod.fst) (write s) := by
  induction s with
  | nil => exact .nil
  | cons p s ih =>
      obtain ⟨hp, hs⟩ := List.forall_mem_cons.mp h
      obtain ⟨c, manner⟩ := p
      cases manner with
      | asItIs =>
          have hc : (c != '%') = true := by
            rw [bne_iff_ne]
            exact fun heq => hp heq rfl
          exact .plain hc (ih hs)
      | escaped upper => exact .escaped (areEscapes_escapeFrom upper _ 0) (ih hs)

/-- **Decoding undoes every way of writing** in which each percent sign is escaped, whichever other
characters are and whatever the cases of the digits. Every run of ASCII spells a text by itself, so
it is never the written form that is kept. -/
theorem decode_write {s : List (Char × Manner)} (h : ∀ p ∈ s, p.1 = '%' → p.2 ≠ .asItIs) :
    decode (write s) = s.map Prod.fst ∧ decodeRuns? (write s) = some (s.map Prod.fst) := by
  have hwritten := isWritten_write h
  have hbytes : unescape (write s) = Utf8.encode (s.map Prod.fst) := hwritten.unescape_eq rfl
  constructor
  · exact hwritten.decode_eq rfl
  · rw [decodeRuns?_eq, hbytes, Utf8.decode?_encode]

/-- A percent sign, a letter whose bytes are written in both cases, and one that stands for itself
between two escapes. -/
theorem decode_write_mixed :
    let s : List (Char × Manner) :=
      [('%', .escaped fun _ => (false, false)), ('4', .asItIs),
        ('é', .escaped fun i => (i = 0, false)), ('ß', .asItIs),
        ('𝄞', .escaped fun _ => (true, false))]
    (∀ p ∈ s, p.1 = '%' → p.2 ≠ .asItIs) ∧ write s = "%254%C3%a9ß%F0%9d%84%9e".toList
      ∧ decode "%254%C3%a9ß%F0%9d%84%9e".toList = "%4éß𝄞".toList := by
  intro s
  have hs : ∀ p ∈ s, p.1 = '%' → p.2 ≠ .asItIs := by simp [s]
  have hwrite : write s = "%254%C3%a9ß%F0%9d%84%9e".toList := by decide +kernel
  refine ⟨hs, hwrite, ?_⟩
  rw [← hwrite, (decode_write hs).1]
  rfl

end Percent

end Shortlink.Text
