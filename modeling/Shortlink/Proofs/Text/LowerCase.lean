import Shortlink.Text.Blank
import Shortlink.Text.LowerCase

/-!
# Laws of lower-casing

Lower-casing settles a text: what it gives is in lower case, so a second pass changes nothing. And
it leaves alone what the cutting of texts rests on: a blank stays where it is, a slash stays where
it is, and no letter becomes either of them.

Both rest on one fact about the table of letters: no run of it leads to a letter of another run, nor
to or from one of the characters that are set apart. The table is checked run against run, by the
ends of the runs, rather than letter by letter.

## Contents

- **The table.** `CaseRun.low`, `CaseRun.high`, `CaseRun.avoids`, `CaseRun.misses` and the checks.
- **One character.** `IsLower`, `isLower_of_mem_lowerChar`; `IsCaseBlind`.
- **A text.** `lowerHead`; `lowerCase_lowerCase`, `head?_lowerCase`, `getLast?_lowerFrom`.
- **ASCII.** `ascii_induction`; `lowerChar_of_ascii`, `lowerCase_of_ascii`.
-/

namespace Shortlink.Text

/-! ## The table -/

/-- The first partner of a run. -/
def CaseRun.low (r : CaseRun) : Nat :=
  (r.first + r.shift).toNat

/-- The last partner of a run. -/
def CaseRun.high (r : CaseRun) : Nat :=
  (r.last + r.shift).toNat

/-- No partner of the run `r` is a letter of the run `s`: the ranges lie apart, or they interleave
as even and odd numbers. -/
def CaseRun.avoids (r s : CaseRun) : Bool :=
  Nat.blt r.high s.first || Nat.blt s.last r.low
    || ((r.step == 2 || r.first == r.last) && s.step == 2 && (r.low + s.first) % 2 == 1)

/-- Neither the letters of the run nor their partners lie in the range. -/
def CaseRun.misses (r : CaseRun) (p : CodeRange) : Bool :=
  (Nat.blt r.last p.first || Nat.blt p.last r.first)
    && (Nat.blt r.high p.first || Nat.blt p.last r.low)

/-- The partners of the run are code points of characters. -/
def CaseRun.isValid (r : CaseRun) : Bool :=
  decide (0 ≤ r.first + r.shift) && Nat.blt r.high 0x110000
    && (Nat.blt r.high 0xD800 || Nat.blt 0xDFFF r.low)

/-- The blanks, the slash, and the two letters that have rules of their own. -/
def setApartRanges : List CodeRange := [
  ⟨9, 13⟩, ⟨28, 32⟩, ⟨47, 47⟩, ⟨133, 133⟩, ⟨160, 160⟩, ⟨304, 304⟩, ⟨931, 931⟩, ⟨5760, 5760⟩,
  ⟨8192, 8202⟩, ⟨8232, 8233⟩, ⟨8239, 8239⟩, ⟨8287, 8287⟩, ⟨12288, 12288⟩]

/-- A character that no run of the table leads to or from. -/
def isSetApart (c : Char) : Bool :=
  inRanges setApartRanges c.toNat

theorem lowerCaseRuns_avoid : (lowerCaseRuns.all fun r => lowerCaseRuns.all r.avoids) = true := by
  decide +kernel

theorem lowerCaseRuns_miss : (lowerCaseRuns.all fun r => setApartRanges.all r.misses) = true := by
  decide +kernel

theorem lowerCaseRuns_valid : lowerCaseRuns.all CaseRun.isValid = true := by
  decide +kernel

theorem CaseRun.covers_iff {r : CaseRun} {n : Nat} :
    r.covers n = true ↔ r.first ≤ n ∧ n ≤ r.last ∧ (n - r.first) % r.step = 0 := by
  simp [CaseRun.covers, and_assoc]

/-- The partner of a letter of a valid run, counted from the first one. -/
theorem CaseRun.partner_eq {r : CaseRun} (hr : r.isValid = true) {n : Nat}
    (hn : r.covers n = true) :
    (n + r.shift).toNat = r.low + (n - r.first) ∧ r.low + (n - r.first) ≤ r.high := by
  simp only [CaseRun.isValid, Bool.and_eq_true, decide_eq_true_eq] at hr
  have hlo := (covers_iff.mp hn).1
  have hhi := (covers_iff.mp hn).2.1
  unfold low high
  omega

/-- The partner of a letter is not a letter of a run that is avoided. -/
theorem CaseRun.not_covers_partner {r s : CaseRun} (hr : r.isValid = true)
    (hrs : r.avoids s = true) {n : Nat} (hn : r.covers n = true) :
    s.covers (n + r.shift).toNat = false := by
  obtain ⟨heq, hle⟩ := partner_eq hr hn
  rw [heq, Bool.eq_false_iff]
  intro hs
  obtain ⟨hlo, hhi, hmod⟩ := covers_iff.mp hn
  obtain ⟨slo, shi, smod⟩ := covers_iff.mp hs
  simp only [avoids, Bool.or_eq_true, Bool.and_eq_true, Nat.blt_eq, beq_iff_eq] at hrs
  rcases hrs with (h | h) | ⟨⟨hstep, hs2⟩, hodd⟩
  · omega
  · omega
  · -- both numbers keep the parity of the first ones, which differ
    rw [hs2] at smod
    rcases hstep with h2 | h1
    · rw [h2] at hmod
      omega
    · omega

/-- Neither a letter of the table nor its partner lies in a range that is missed. -/
theorem CaseRun.not_covers_range {r : CaseRun} {p : CodeRange} (hr : r.isValid = true)
    (hrp : r.misses p = true) {n : Nat} (hn : r.covers n = true) :
    p.covers n = false ∧ p.covers (n + r.shift).toNat = false := by
  obtain ⟨heq, hle⟩ := partner_eq hr hn
  obtain ⟨hlo, hhi, -⟩ := covers_iff.mp hn
  simp only [misses, Bool.or_eq_true, Bool.and_eq_true, Nat.blt_eq] at hrp
  rw [heq, Bool.eq_false_iff, Bool.eq_false_iff, ne_eq, ne_eq, CodeRange.covers_iff,
    CodeRange.covers_iff]
  omega

/-- The partner of a letter of the table is a character. -/
theorem CaseRun.toNat_partner {r : CaseRun} (hr : r.isValid = true) {n : Nat}
    (hn : r.covers n = true) :
    (Char.ofNat (n + r.shift).toNat).toNat = (n + r.shift).toNat := by
  obtain ⟨heq, hle⟩ := partner_eq hr hn
  simp only [isValid, Bool.or_eq_true, Bool.and_eq_true, Nat.blt_eq] at hr
  have hvalid : (n + r.shift).toNat.isValidChar := by
    unfold Nat.isValidChar
    omega
  rw [Char.ofNat, dif_pos hvalid]
  rfl

/-! ## One character -/

/-- The character is in lower case: it is not a capital sigma, and it stands for itself. -/
def IsLower (c : Char) : Prop :=
  c ≠ 'Σ' ∧ lowerChar c = [c]

/-- A letter of the table and its partner are not set apart, and the partner is in no run. -/
theorem partner_of_find? {c : Char} {r : CaseRun}
    (h : lowerCaseRuns.find? (·.covers c.toNat) = some r) :
    isSetApart c = false ∧ isSetApart (Char.ofNat (c.toNat + r.shift).toNat) = false
      ∧ lowerCaseRuns.find? (·.covers (Char.ofNat (c.toNat + r.shift).toNat).toNat) = none := by
  have hmem : r ∈ lowerCaseRuns := List.mem_of_find?_eq_some h
  have hcov : r.covers c.toNat = true := by simpa using List.find?_some h
  have hr : r.isValid = true := List.all_eq_true.mp lowerCaseRuns_valid r hmem
  have hmiss := List.all_eq_true.mp (List.all_eq_true.mp lowerCaseRuns_miss r hmem)
  have havoid := List.all_eq_true.mp (List.all_eq_true.mp lowerCaseRuns_avoid r hmem)
  rw [isSetApart, isSetApart, CaseRun.toNat_partner hr hcov]
  refine ⟨?_, ?_, ?_⟩
  · apply List.any_eq_false.mpr
    intro p hp
    rw [(CaseRun.not_covers_range hr (hmiss p hp) hcov).1]
    exact Bool.false_ne_true
  · apply List.any_eq_false.mpr
    intro p hp
    rw [(CaseRun.not_covers_range hr (hmiss p hp) hcov).2]
    exact Bool.false_ne_true
  · apply List.find?_eq_none.mpr
    intro s hs
    rw [CaseRun.not_covers_partner hr (havoid s hs) hcov]
    exact Bool.false_ne_true

/-- What stands for a character in lower case is itself in lower case. -/
theorem isLower_of_mem_lowerChar {c d : Char} (hc : c ≠ 'Σ') (hd : d ∈ lowerChar c) :
    IsLower d := by
  unfold lowerChar at hd
  split at hd
  · rcases List.mem_cons.mp hd with rfl | hd
    · exact ⟨by decide, by decide +kernel⟩
    · rw [List.mem_singleton.mp hd]
      exact ⟨by decide, by decide +kernel⟩
  · rename_i hdotted
    cases hf : lowerCaseRuns.find? (·.covers c.toNat) with
    | none =>
        rw [hf] at hd
        rw [List.mem_singleton.mp hd]
        exact ⟨hc, by rw [lowerChar, if_neg hdotted, hf]⟩
    | some r =>
        rw [hf] at hd
        rw [List.mem_singleton.mp hd]
        -- the partner is in no run, and it is neither of the letters that have rules of their own
        obtain ⟨-, hset, hnone⟩ := partner_of_find? hf
        have hsigma : Char.ofNat (c.toNat + r.shift).toNat ≠ 'Σ' := by
          intro he
          rw [he] at hset
          exact absurd hset (by decide)
        have hdotted' : Char.ofNat (c.toNat + r.shift).toNat ≠ 'İ' := by
          intro he
          rw [he] at hset
          exact absurd hset (by decide)
        exact ⟨hsigma, by rw [lowerChar, if_neg hdotted', hnone]⟩

theorem isSetApart_of_isBlank {c : Char} (h : isBlank c = true) : isSetApart c = true := by
  simp only [isBlank, Bool.or_eq_true, Bool.and_eq_true, decide_eq_true_eq, beq_iff_eq] at h
  simp only [isSetApart, setApartRanges, inRanges_iff, List.mem_cons, List.not_mem_nil, or_false,
    exists_eq_or_imp, exists_eq_left]
  omega

/-- A property of characters that lower-casing leaves alone: no letter with a lower-case form of its
own has it, and it does not tell the forms of sigma apart. -/
structure IsCaseBlind (p : Char → Bool) : Prop where
  setApart : ∀ c, p c = true → isSetApart c = true
  plain : p 'İ' = false ∧ p 'i' = false ∧ p '\u0307' = false ∧ p 'Σ' = false ∧ p 'σ' = false
    ∧ p 'ς' = false

theorem isCaseBlind_isBlank : IsCaseBlind isBlank :=
  ⟨fun _ => isSetApart_of_isBlank, by decide⟩

theorem isCaseBlind_slash : IsCaseBlind (· == '/') :=
  ⟨fun c h => by rw [eq_of_beq h]; decide, by decide⟩

/-- A character has such a property just when what stands for it in lower case has. -/
theorem IsCaseBlind.of_mem_lowerChar {p : Char → Bool} (hp : IsCaseBlind p) {c d : Char}
    (hd : d ∈ lowerChar c) : p d = p c := by
  unfold lowerChar at hd
  split at hd
  · rename_i hc
    rw [hc, hp.plain.1]
    rcases List.mem_cons.mp hd with rfl | hd
    · exact hp.plain.2.1
    · rw [List.mem_singleton.mp hd]
      exact hp.plain.2.2.1
  · cases hf : lowerCaseRuns.find? (·.covers c.toNat) with
    | none =>
        rw [hf] at hd
        rw [List.mem_singleton.mp hd]
    | some r =>
        rw [hf] at hd
        rw [List.mem_singleton.mp hd]
        -- neither the letter nor its partner is set apart, so neither has the property
        obtain ⟨hc, hset, -⟩ := partner_of_find? hf
        have hfalse : ∀ e : Char, isSetApart e = false → p e = false := by
          intro e he
          rw [Bool.eq_false_iff]
          intro hpe
          rw [hp.setApart e hpe] at he
          exact absurd he (by simp)
        rw [hfalse c hc, hfalse _ hset]

/-! ## A text -/

/-- What stands in lower case for a character with `rest` behind it. -/
def lowerHead (afterCased : Bool) (c : Char) (rest : List Char) : List Char :=
  if c = 'Σ' then
    if afterCased && !startsCased rest then ['ς'] else ['σ']
  else lowerChar c

theorem lowerFrom_cons (afterCased : Bool) (c : Char) (rest : List Char) :
    lowerFrom afterCased (c :: rest) = lowerHead afterCased c rest
      ++ lowerFrom (if isCaseIgnorable c then afterCased else isCased c) rest := rfl

/-- A capital sigma has one of the two small ones. -/
theorem lowerHead_sigma (afterCased : Bool) (rest : List Char) :
    lowerHead afterCased 'Σ' rest = ['ς'] ∨ lowerHead afterCased 'Σ' rest = ['σ'] := by
  unfold lowerHead
  rw [if_pos rfl]
  split
  · exact Or.inl rfl
  · exact Or.inr rfl

theorem lowerHead_of_ne {afterCased : Bool} {c : Char} {rest : List Char} (h : c ≠ 'Σ') :
    lowerHead afterCased c rest = lowerChar c := by
  rw [lowerHead, if_neg h]

theorem lowerChar_ne_nil (c : Char) : lowerChar c ≠ [] := by
  unfold lowerChar
  split
  · simp
  · split <;> simp

theorem lowerHead_ne_nil (afterCased : Bool) (c : Char) (rest : List Char) :
    lowerHead afterCased c rest ≠ [] := by
  by_cases hc : c = 'Σ'
  · subst hc
    rcases lowerHead_sigma afterCased rest with h | h <;> rw [h] <;> simp
  · rw [lowerHead_of_ne hc]
    exact lowerChar_ne_nil c

theorem isLower_of_mem_lowerHead {afterCased : Bool} {c d : Char} {rest : List Char}
    (hd : d ∈ lowerHead afterCased c rest) : IsLower d := by
  by_cases hc : c = 'Σ'
  · subst hc
    rcases lowerHead_sigma afterCased rest with h | h
    · rw [h] at hd
      rw [List.mem_singleton.mp hd]
      exact ⟨by decide, by decide +kernel⟩
    · rw [h] at hd
      rw [List.mem_singleton.mp hd]
      exact ⟨by decide, by decide +kernel⟩
  · rw [lowerHead_of_ne hc] at hd
    exact isLower_of_mem_lowerChar hc hd

theorem IsCaseBlind.of_mem_lowerHead {p : Char → Bool} (hp : IsCaseBlind p) {afterCased : Bool}
    {c d : Char} {rest : List Char} (hd : d ∈ lowerHead afterCased c rest) : p d = p c := by
  by_cases hc : c = 'Σ'
  · subst hc
    obtain ⟨-, -, -, hbig, hsmall, hfinal⟩ := hp.plain
    rcases lowerHead_sigma afterCased rest with h | h
    · rw [h] at hd
      rw [List.mem_singleton.mp hd, hbig, hfinal]
    · rw [h] at hd
      rw [List.mem_singleton.mp hd, hbig, hsmall]
  · rw [lowerHead_of_ne hc] at hd
    exact hp.of_mem_lowerChar hd

/-- All of a lower-cased text is in lower case. -/
theorem isLower_of_mem_lowerFrom {s : List Char} :
    ∀ {afterCased : Bool} {d : Char}, d ∈ lowerFrom afterCased s → IsLower d := by
  induction s with
  | nil =>
      intro afterCased d hd
      exact absurd hd (by simp [lowerFrom])
  | cons c rest ih =>
      intro afterCased d hd
      rw [lowerFrom_cons] at hd
      rcases List.mem_append.mp hd with h | h
      · exact isLower_of_mem_lowerHead h
      · exact ih h

/-- A text in lower case stays as it is. -/
theorem lowerFrom_of_isLower {s : List Char} :
    ∀ {afterCased : Bool}, (∀ c ∈ s, IsLower c) → lowerFrom afterCased s = s := by
  induction s with
  | nil =>
      intro afterCased _
      rfl
  | cons c rest ih =>
      intro afterCased h
      obtain ⟨hsigma, hself⟩ := h c (List.mem_cons_self)
      rw [lowerFrom_cons, lowerHead_of_ne hsigma, hself,
        ih fun d hd => h d (List.mem_cons_of_mem c hd)]
      rfl

/-- **Lower-casing is idempotent.** -/
theorem lowerCase_lowerCase (s : List Char) : lowerCase (lowerCase s) = lowerCase s :=
  lowerFrom_of_isLower fun _ hd => isLower_of_mem_lowerFrom hd

theorem lowerFrom_eq_nil {s : List Char} {afterCased : Bool} (h : lowerFrom afterCased s = []) :
    s = [] := by
  cases s with
  | nil => rfl
  | cons c rest =>
      rw [lowerFrom_cons, List.append_eq_nil_iff] at h
      exact absurd h.1 (lowerHead_ne_nil afterCased c rest)

/-- **Lower-casing leaves the front of a text in its class**: the first character of the lower-case
form is a blank, or a slash, just when that of the text is. -/
theorem IsCaseBlind.head?_lowerCase {p : Char → Bool} (hp : IsCaseBlind p) (s : List Char) :
    (lowerCase s).head?.any p = s.head?.any p := by
  cases s with
  | nil => rfl
  | cons c rest =>
      rw [lowerCase, lowerFrom_cons]
      cases hh : lowerHead false c rest with
      | nil => exact absurd hh (lowerHead_ne_nil false c rest)
      | cons d more =>
          have hd : p d = p c := hp.of_mem_lowerHead (hh ▸ List.mem_cons_self)
          simp [hd]

/-- The same for the end of a text, whatever stands before it. -/
theorem IsCaseBlind.getLast?_lowerFrom {p : Char → Bool} (hp : IsCaseBlind p) {s : List Char} :
    ∀ {afterCased : Bool}, (lowerFrom afterCased s).getLast?.any p = s.getLast?.any p := by
  induction s with
  | nil =>
      intro afterCased
      rfl
  | cons c rest ih =>
      intro afterCased
      rw [lowerFrom_cons, List.getLast?_append]
      generalize (if isCaseIgnorable c then afterCased else isCased c) = behind
      cases hl : (lowerFrom behind rest).getLast? with
      | none =>
          -- nothing is behind the first character, so it is the last one as well
          have hrest : rest = [] := lowerFrom_eq_nil (List.getLast?_eq_none_iff.mp hl)
          subst hrest
          cases hd : (lowerHead afterCased c []).getLast? with
          | none =>
              have hnil := List.getLast?_eq_none_iff.mp hd
              exact absurd hnil (lowerHead_ne_nil afterCased c [])
          | some d =>
              have hpd : p d = p c := hp.of_mem_lowerHead (List.mem_of_getLast? hd)
              simp [hpd]
      | some e =>
          have hrest := @ih behind
          rw [hl] at hrest
          cases rest with
          | nil => exact absurd hl (by simp [lowerFrom])
          | cons d more =>
              rw [List.getLast?_cons_cons, ← hrest]
              rfl

/-! ## ASCII -/

/-- What holds of every code below 128 holds of every character of ASCII. -/
theorem ascii_induction {p : Char → Prop} (h : ∀ n < 0x80, p (Char.ofNat n)) {c : Char}
    (hc : c.toNat < 0x80) : p c := by
  have hp := h c.toNat hc
  rwa [Char.ofNat_toNat] at hp

theorem lowerChar_of_ascii {c : Char} (h : c.toNat < 0x80) : lowerChar c = [c.toLower] :=
  ascii_induction (p := fun c => lowerChar c = [c.toLower]) (by decide +kernel) h

/-- A text of ASCII is put in lower case letter by letter. -/
theorem lowerCase_of_ascii {s : List Char} (h : ∀ c ∈ s, c.toNat < 0x80) :
    lowerCase s = s.map Char.toLower := by
  have hfrom : ∀ afterCased, lowerFrom afterCased s = s.map Char.toLower := by
    induction s with
    | nil =>
        intro afterCased
        rfl
    | cons c rest ih =>
        intro afterCased
        obtain ⟨hc, hrest⟩ := List.forall_mem_cons.mp h
        have hsigma : c ≠ 'Σ' := by
          rintro rfl
          exact absurd hc (by decide)
        rw [lowerFrom_cons, lowerHead_of_ne hsigma, lowerChar_of_ascii hc, ih hrest, List.map_cons,
          List.singleton_append]
  exact hfrom false

end Shortlink.Text
