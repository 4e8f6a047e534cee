import Shortlink.Proofs.Filling
import Shortlink.Proofs.Url.Split

/-!
# Arguments do not change where a link points

The **origin** of a URL is its scheme and its authority, up to the character behind the authority.
If no mark can begin in it, every pass that fills in an argument leaves it in front, whatever the
arguments are and whatever they bring (`fillFrom_append_of_not_mem`); and what stands behind it has
no say in how the URL is cut (`Origin.split?_append`). So the destination has the scheme and the
authority of the text that was filled in: `Variant.fill_keeps_origin`.

Of all blanks and controls only tabs and line ends matter: they are dropped from a URL wherever they
stand, so none may stand in the authority.

## Contents

- `Origin`, `Origin.chars`; `Origin.isAbsolute`, `Origin.split?_append`.
- `fillFrom_append_of_not_mem`, `Variant.exists_fill_append`.
- `Variant.fill_keeps_origin`.
-/

namespace Shortlink

open Text Url

/-! ## Origins -/

namespace Url

/-- **Where a URL points to**: a scheme, an authority behind two slashes, and the character that
ends it. No mark can begin in the authority, and nothing is dropped from it. -/
structure Origin where
  scheme : List Char
  host : List Char
  stop : Char
  isScheme : IsScheme scheme
  host_ne_nil : host ≠ []
  host_chars : ∀ c ∈ host, endsAuthority c = false ∧ c ≠ '$' ∧ isLineMark c = false
  stop_ends : endsAuthority stop = true

namespace Origin

/-- The origin as it is written. -/
def chars (o : Origin) : List Char :=
  o.scheme ++ ':' :: '/' :: '/' :: (o.host ++ [o.stop])

variable (o : Origin) (rest : List Char)

theorem not_isLineMark_stop : isLineMark o.stop = false := by
  have hstop := o.stop_ends
  rw [endsAuthority, Bool.or_eq_true, Bool.or_eq_true, beq_iff_eq, beq_iff_eq, beq_iff_eq] at hstop
  rcases hstop with (heq | heq) | heq <;> rw [heq] <;> decide

/-- No tab or line end stands in an origin. -/
theorem withoutMarks_chars : withoutMarks o.chars = o.chars := by
  refine withoutMarks_eq_self fun c hc => ?_
  simp only [chars, List.mem_append, List.mem_cons, List.not_mem_nil, or_false] at hc
  rcases hc with hscheme | rfl | rfl | rfl | hhost | rfl
  · exact o.isScheme.not_isLineMark hscheme
  · decide
  · decide
  · decide
  · exact (o.host_chars c hhost).2.2
  · exact o.not_isLineMark_stop

/-- No mark begins in an origin. -/
theorem dollar_not_mem_chars : '$' ∉ o.chars := by
  intro h
  have hstop : o.stop ≠ '$' := fun heq => absurd o.stop_ends (by rw [heq]; decide)
  simp only [chars, List.mem_append, List.mem_cons, List.not_mem_nil, or_false] at h
  rcases h with hscheme | h | h | h | hhost | h
  · exact absurd (o.isScheme.chars _ hscheme) (by decide)
  · exact absurd h (by decide)
  · exact absurd h (by decide)
  · exact absurd h (by decide)
  · exact (o.host_chars _ hhost).2.1 rfl
  · exact hstop h.symm

/-- An origin stays in front when a URL is cleaned. -/
theorem clean_append : clean (o.chars ++ rest) = o.chars ++ withoutMarks rest := by
  obtain ⟨c, others, hscheme⟩ := List.exists_cons_of_ne_nil o.isScheme.ne_nil
  have hc : 43 ≤ c.toNat := (toNat_of_isSchemeChar (o.isScheme.chars c (by simp [hscheme]))).1
  have hclean : clean (o.chars ++ rest) = withoutMarks (o.chars ++ rest) := by
    rw [chars, hscheme]
    exact clean_cons (by omega) _
  rw [hclean, withoutMarks_append, o.withoutMarks_chars]

theorem isAbsolute :
    IsAbsolute (o.chars ++ rest) o.scheme (o.host ++ o.stop :: withoutMarks rest) := by
  refine ⟨o.isScheme, ?_⟩
  rw [o.clean_append, chars]
  simp

/-- **What stands behind an origin has no say** in the scheme and the authority of a URL, nor in
whether it can be cut. -/
theorem split?_append : split? (o.chars ++ rest) = if isAuthority o.host = true
    then some ⟨o.scheme.map Char.toLower, o.host, o.stop :: withoutMarks rest⟩ else none := by
  have hhost : ∀ c ∈ o.host, endsAuthority c = false := fun c hc => (o.host_chars c hc).1
  rw [(o.isAbsolute rest).split?_eq, authorityOf_cut hhost o.stop_ends,
    behindAuthority_cut hhost o.stop_ends]

theorem isDestination_append_iff :
    isDestination (String.ofList (o.chars ++ rest)) = true ↔ isAuthority o.host = true := by
  have hhost : ∀ c ∈ o.host, endsAuthority c = false := fun c hc => (o.host_chars c hc).1
  rw [(o.isAbsolute rest).isDestination_iff, authorityOf_cut hhost o.stop_ends]
  exact and_iff_right o.host_ne_nil

end Origin

end Url

/-! ## Filling in behind an origin -/

/-- Passes leave alone what stands in front of all marks. -/
theorem fillFrom_append_of_not_mem {front : List Char} (h : '$' ∉ front) (args : List (List Char)) :
    ∀ (number : Nat) (back : List Char),
      fillFrom number (front ++ back) args = front ++ fillFrom number back args := by
  induction args with
  | nil =>
      intro number back
      rfl
  | cons t ts ih =>
      intro number back
      rw [fillFrom, fillFrom, mark, replaceAll_append_of_not_mem h, ih]

/-- **What stands in front of all marks stands in front of the destination**, whatever the arguments
are. -/
theorem Variant.exists_fill_append {v : Variant} {front back : List Char}
    (htext : v.text.toList = front ++ back) (h : '$' ∉ front) (args : List (List Char)) :
    ∃ rest, v.fill args = front ++ rest := by
  rw [fill, htext, fillFrom_append_of_not_mem h]
  cases args.drop v.arity with
  | nil => exact ⟨_, rfl⟩
  | cons u extra => exact ⟨_, List.append_assoc _ _ _⟩

/-- **Arguments do not change where a link points.** If the text of a variant begins with an origin
and can be cut as a URL, then whatever is filled in, and for any number of arguments, the
destination begins with the same origin, can be cut as a URL, and has the scheme and the authority
of the text; so it passes as a destination. -/
theorem Variant.fill_keeps_origin {v : Variant} {o : Origin} {rest : List Char}
    (htext : v.text.toList = o.chars ++ rest) (hsplit : (split? v.text.toList).isSome = true)
    (args : List (List Char)) :
    o.chars <+: v.fill args
    ∧ (∃ parts filled, split? v.text.toList = some parts ∧ split? (v.fill args) = some filled
      ∧ filled.scheme = parts.scheme ∧ filled.authority = parts.authority)
    ∧ isDestination (String.ofList (v.fill args)) = true := by
  obtain ⟨rest', hfill⟩ := v.exists_fill_append htext o.dollar_not_mem_chars args
  have hchecks : isAuthority o.host = true := by
    by_contra hno
    rw [htext, o.split?_append, if_neg hno] at hsplit
    exact absurd hsplit (by simp)
  refine ⟨⟨rest', hfill.symm⟩, ?_, ?_⟩
  · rw [htext, hfill, o.split?_append, o.split?_append, if_pos hchecks, if_pos hchecks]
    exact ⟨_, _, rfl, rfl, rfl, rfl⟩
  · rw [hfill]
    exact (o.isDestination_append_iff rest').mpr hchecks

/-- `HTTPS://a.io:8/`, with a scheme that is put in lower case and a port. -/
def portOrigin : Origin where
  scheme := "HTTPS".toList
  host := "a.io:8".toList
  stop := '/'
  isScheme := ⟨by decide, List.all_eq_true.mp (by decide)⟩
  host_ne_nil := by decide
  host_chars := by
    have hall : "a.io:8".toList.all
        (fun c => !endsAuthority c && c != '$' && !isLineMark c) = true := by decide
    intro c hc
    have hc' := List.all_eq_true.mp hall c hc
    rw [Bool.and_eq_true, Bool.and_eq_true, bne_iff_ne] at hc'
    exact ⟨by simpa using hc'.1.1, hc'.1.2, by simpa using hc'.2⟩
  stop_ends := by decide

/-- Arguments with slashes, an at sign, a line end and marks, one of them in excess, lead to a place
of the same server. -/
theorem Variant.fill_keeps_origin_hostile :
    let v : Variant := ⟨2, "HTTPS://a.io:8/$1@$2"⟩
    let args := ["//b.io/$2".toList, "\n@c.io:9".toList, "://d.io".toList]
    v.fill args = "HTTPS://a.io:8///b.io/\n@c.io:9@\n@c.io:9 ://d.io".toList
    ∧ portOrigin.chars <+: v.fill args
    ∧ (∃ parts filled, split? v.text.toList = some parts ∧ split? (v.fill args) = some filled
      ∧ filled.scheme = parts.scheme ∧ filled.authority = parts.authority)
    ∧ isDestination (String.ofList (v.fill args)) = true := by
  intro v args
  have htext : v.text.toList = portOrigin.chars ++ "$1@$2".toList := by decide +kernel
  have hsplit : (split? v.text.toList).isSome = true := by decide +kernel
  exact ⟨by decide +kernel, Variant.fill_keeps_origin htext hsplit args⟩

end Shortlink
