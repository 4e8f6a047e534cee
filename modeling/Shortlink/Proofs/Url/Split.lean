import Shortlink.Proofs.Text.Cutting
import Shortlink.Url.Split

/-!
# How a URL is cut

A URL with a scheme and an authority is, once it is clean, the scheme, a colon, two slashes and the
rest (`IsAbsolute`), and what is cut off it can be read off that form: `IsAbsolute.split?_eq`. Every
destination has the form (`exists_isAbsolute`), and it is one just if its authority is not empty and
passes the checks (`IsAbsolute.isDestination_iff`).

## Contents

- **Dropping.** `withoutMarks`; `clean_cons`, `clean_append_of_low`.
- **Cutting.** `toNat_of_isSchemeChar`; `splitScheme_append`, `authorityOf`, `behindAuthority`.
- **The whole.** `IsAbsolute`; `IsAbsolute.split?_eq`, `exists_isAbsolute`.
-/

namespace Shortlink.Url

open Text

/-! ## Dropping -/

/-- The text without tabs and line ends. -/
def withoutMarks (s : List Char) : List Char :=
  s.filter fun c => !isLineMark c

theorem toNat_of_isLineMark {c : Char} (h : isLineMark c = true) : c.toNat ≤ 0x20 := by
  rw [isLineMark, Bool.or_eq_true, Bool.or_eq_true, beq_iff_eq, beq_iff_eq, beq_iff_eq] at h
  rcases h with (rfl | rfl) | rfl <;> decide

/-- Nothing is dropped in front of a character that is neither a control nor a space. -/
theorem clean_cons {c : Char} (hc : 0x20 < c.toNat) (rest : List Char) :
    clean (c :: rest) = withoutMarks (c :: rest) := by
  rw [clean, List.dropWhile_cons_of_neg (by simpa using hc)]
  rfl

/-- Controls and spaces in front are dropped. -/
theorem clean_append_of_low {low : List Char} (hlow : ∀ c ∈ low, c.toNat ≤ 0x20)
    (rest : List Char) :
    clean (low ++ rest) = clean rest := by
  rw [clean, clean, List.dropWhile_append_of_pos fun c hc => decide_eq_true (hlow c hc)]

theorem withoutMarks_append (front back : List Char) :
    withoutMarks (front ++ back) = withoutMarks front ++ withoutMarks back :=
  List.filter_append front back

theorem withoutMarks_eq_self {s : List Char} (h : ∀ c ∈ s, isLineMark c = false) :
    withoutMarks s = s :=
  List.filter_eq_self.mpr fun c hc => by simp [h c hc]

/-! ## Cutting -/

/-- All characters of a scheme stand between the plus sign and the last small letter. -/
theorem toNat_of_isSchemeChar {c : Char} (h : isSchemeChar c = true) :
    43 ≤ c.toNat ∧ c.toNat ≤ 122 := by
  have hrange : ∀ low high : Char, '+' ≤ low → high ≤ 'z' →
      c.val ≥ low.val ∧ c.val ≤ high.val → 43 ≤ c.toNat ∧ c.toNat ≤ 122 :=
    fun low high hlow hhigh hc => ⟨Nat.le_trans hlow hc.1, Nat.le_trans hc.2 hhigh⟩
  have hupper : c.isUpper = true → 43 ≤ c.toNat ∧ c.toNat ≤ 122 := fun h =>
    hrange 'A' 'Z' (by decide) (by decide) (of_decide_eq_true h)
  have hlower : c.isLower = true → 43 ≤ c.toNat ∧ c.toNat ≤ 122 := fun h =>
    hrange 'a' 'z' (by decide) (by decide)
      ((Bool.and_eq_true_iff.mp h).imp of_decide_eq_true of_decide_eq_true)
  have hdigit : c.isDigit = true → 43 ≤ c.toNat ∧ c.toNat ≤ 122 := fun h =>
    hrange '0' '9' (by decide) (by decide)
      ((Bool.and_eq_true_iff.mp h).imp of_decide_eq_true of_decide_eq_true)
  rw [isSchemeChar, Bool.or_eq_true, Bool.or_eq_true, Bool.or_eq_true, beq_iff_eq, beq_iff_eq,
    beq_iff_eq] at h
  rcases h with ((halphanum | rfl) | rfl) | rfl
  · rcases Bool.or_eq_true_iff.mp halphanum with halpha | h
    · exact (Bool.or_eq_true_iff.mp halpha).elim hupper hlower
    · exact hdigit h
  · decide
  · decide
  · decide

/-- **A scheme**: a letter, and then letters, digits, plus signs, hyphens and dots. -/
structure IsScheme (name : List Char) : Prop where
  head : name.head?.any Char.isAlpha = true
  chars : ∀ c ∈ name, isSchemeChar c = true

theorem IsScheme.ne_nil {name : List Char} (h : IsScheme name) : name ≠ [] := by
  rintro rfl
  exact absurd h.head (by simp)

/-- No tab or line end, and nothing that would be dropped in front, stands in a scheme. -/
theorem IsScheme.not_isLineMark {name : List Char} (h : IsScheme name) {c : Char} (hc : c ∈ name) :
    isLineMark c = false := by
  rw [Bool.eq_false_iff]
  intro hmark
  have hlow := toNat_of_isLineMark hmark
  have hrange := toNat_of_isSchemeChar (h.chars c hc)
  omega

theorem bne_of_isSchemeChar {c : Char} (h : isSchemeChar c = true) : (c != ':') = true := by
  rw [bne_iff_ne]
  rintro rfl
  exact absurd h (by decide)

/-- A scheme is cut off at its colon, and put in lower case. -/
theorem splitScheme_append {name : List Char} (h : IsScheme name) (rest : List Char) :
    splitScheme (name ++ ':' :: rest) = (name.map Char.toLower, rest) := by
  have hcolon : ∀ c ∈ name, (c != ':') = true := fun c hc => bne_of_isSchemeChar (h.chars c hc)
  have hall : name.all isSchemeChar = true := List.all_eq_true.mpr h.chars
  have hstop : (':' != ':') = false := by decide
  simp only [splitScheme, takeWhile_cut hcolon hstop, dropWhile_cut hcolon hstop]
  cases name with
  | nil => exact absurd rfl h.ne_nil
  | cons c others =>
      have hc : c.isAlpha = true := h.head
      exact if_pos (Bool.and_eq_true_iff.mpr ⟨hc, hall⟩)

/-- If a scheme is cut off, then at its colon. -/
theorem exists_of_splitScheme {s name rest : List Char} (h : splitScheme s = (name, rest))
    (hne : name ≠ []) : ∃ written, IsScheme written ∧ name = written.map Char.toLower
      ∧ s = written ++ ':' :: rest := by
  simp only [splitScheme] at h
  split at h
  · rename_i back hback
    split at h
    · rename_i c others hname
      split at h
      · -- the one case in which something is cut off
        rename_i hscheme
        rw [Bool.and_eq_true, List.all_eq_true] at hscheme
        obtain ⟨rfl, rfl⟩ := Prod.mk.inj h
        refine ⟨s.takeWhile (· != ':'), ⟨by rw [hname]; exact hscheme.1, hscheme.2⟩, rfl, ?_⟩
        rw [← hback, List.takeWhile_append_dropWhile]
      · exact absurd (Prod.mk.inj h).1.symm hne
    · exact absurd (Prod.mk.inj h).1.symm hne
  · exact absurd (Prod.mk.inj h).1.symm hne

/-- What stands in front of the first slash, question mark or hash. -/
def authorityOf (s : List Char) : List Char :=
  s.takeWhile fun c => !endsAuthority c

/-- What stands from there on. -/
def behindAuthority (s : List Char) : List Char :=
  s.dropWhile fun c => !endsAuthority c

theorem authorityOf_append_behindAuthority (s : List Char) :
    authorityOf s ++ behindAuthority s = s :=
  List.takeWhile_append_dropWhile

section

variable {host : List Char} (hhost : ∀ c ∈ host, endsAuthority c = false)

include hhost

theorem authorityOf_cut {stop : Char} (hstop : endsAuthority stop = true) (rest : List Char) :
    authorityOf (host ++ stop :: rest) = host :=
  takeWhile_cut (fun c hc => by simp [hhost c hc]) (by simp [hstop])

theorem behindAuthority_cut {stop : Char} (hstop : endsAuthority stop = true) (rest : List Char) :
    behindAuthority (host ++ stop :: rest) = stop :: rest :=
  dropWhile_cut (fun c hc => by simp [hhost c hc]) (by simp [hstop])

end

theorem not_endsAuthority_of_mem_authorityOf {s : List Char} {c : Char} (h : c ∈ authorityOf s) :
    endsAuthority c = false := by
  simpa using List.mem_takeWhile_imp h

/-- An authority is followed by the character that ends it, or by nothing. -/
theorem head?_behindAuthority {s : List Char} {c : Char} (h : (behindAuthority s).head? = some c) :
    endsAuthority c = true := by
  have hhead := List.head?_dropWhile_not (fun c => !endsAuthority c) s
  rw [behindAuthority] at h
  rw [h] at hhead
  simpa using hhead

/-! ## The whole -/

/-- **An absolute URL**: once it is clean, the text is a scheme, a colon, two slashes and the
rest. -/
structure IsAbsolute (s scheme behind : List Char) : Prop where
  isScheme : IsScheme scheme
  clean_eq : clean s = scheme ++ ':' :: '/' :: '/' :: behind

section

variable {s scheme behind : List Char}

/-- **An absolute URL is cut** into its scheme, its authority and what stands behind. -/
theorem IsAbsolute.split?_eq (h : IsAbsolute s scheme behind) :
    split? s = if isAuthority (authorityOf behind) = true
      then some ⟨scheme.map Char.toLower, authorityOf behind, behindAuthority behind⟩
      else none := by
  simp only [split?, h.clean_eq, splitScheme_append h.isScheme]
  rfl

/-- **An absolute URL is a destination** just if its authority is not empty and passes the
checks. -/
theorem IsAbsolute.isDestination_iff (h : IsAbsolute s scheme behind) :
    isDestination (String.ofList s) = true
      ↔ authorityOf behind ≠ [] ∧ isAuthority (authorityOf behind) = true := by
  rw [isDestination, String.toList_ofList, h.split?_eq]
  by_cases hchecks : isAuthority (authorityOf behind) = true
  · simp [hchecks, h.isScheme.ne_nil]
  · simp [hchecks]

/-- **What has a scheme and an authority is absolute**; behind the slashes stand the authority and
the rest. -/
theorem exists_isAbsolute {parts : Parts} (h : split? s = some parts) (hscheme : parts.scheme ≠ [])
    (hauthority : parts.authority ≠ []) : ∃ scheme, parts.scheme = scheme.map Char.toLower
      ∧ parts.authority = authorityOf (parts.authority ++ parts.rest)
      ∧ IsAbsolute s scheme (parts.authority ++ parts.rest) := by
  simp only [split?] at h
  rcases hcut : splitScheme (clean s) with ⟨name, rest⟩
  rcases hslashes : splitAuthority rest with ⟨authority, others⟩
  rw [hcut] at h
  dsimp only at h
  rw [hslashes] at h
  dsimp only at h
  split at h
  · cases h
    obtain ⟨written, hwritten, hname, hclean⟩ := exists_of_splitScheme hcut hscheme
    -- an authority stands behind two slashes only
    unfold splitAuthority at hslashes
    split at hslashes
    · rename_i behind
      obtain ⟨hfront, hback⟩ := Prod.mk.inj hslashes
      have hbehind : authority ++ others = behind := by
        rw [← hfront, ← hback, List.takeWhile_append_dropWhile]
      refine ⟨written, hname, ?_, hwritten, ?_⟩
      · show authority = authorityOf (authority ++ others)
        rw [hbehind, ← hfront]
        rfl
      · show clean s = written ++ ':' :: '/' :: '/' :: (authority ++ others)
        rw [hbehind, hclean]
    · exact absurd (Prod.mk.inj hslashes).1.symm hauthority
  · cases h

end

end Shortlink.Url
