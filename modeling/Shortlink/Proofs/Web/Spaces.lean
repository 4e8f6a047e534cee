import Shortlink.Proofs.Lookup
import Shortlink.Proofs.Text.Decoding
import Shortlink.Proofs.Web.Target

/-!
# Writing escaped spaces early

A look-up has each `%20` written as a space before anything is decoded. This is harmless: the text
stands for the same bytes as before, so where these spell a text the decoded look-up is what it
would have been. Where they spell none, the look-up is kept as it stands, with the spaces that were
written: its tokens are those between all spaces, whether a client has escaped them or not
(`spaced_is_harmless`).

Which tokens these are is said without the rewriting: `IsSpacedOut` relates a text to the tokens
that it consists of, and a text consists of no others (`tokens_spaced_eq_iff`).

## Contents

- `spaced_eq_replaceAll`, `spaced_append`: the rewriting, and what it leaves in front.
- `IsSpaceless`, `IsSpacedOut`; `IsSpacedOut.cons`, `tokens_spaced_eq_iff`.
- `spaced_is_harmless`.
-/

namespace Shortlink.Web

open Text Request

/-! ## The rewriting -/

/-- A space as it is written when it is escaped. -/
def escapedSpace : List Char :=
  ['%', '2', '0']

theorem spaced_escapedSpace (back : List Char) :
    spaced (escapedSpace ++ back) = ' ' :: spaced back := rfl

theorem escapedSpace_prefix_cons_iff {c : Char} {rest : List Char} :
    escapedSpace <+: c :: rest ↔ ∃ back, c = '%' ∧ rest = '2' :: '0' :: back := by
  constructor
  · rintro ⟨back, hback⟩
    obtain ⟨hc, hrest⟩ := List.cons.inj hback
    exact ⟨back, hc.symm, hrest.symm⟩
  · rintro ⟨back, rfl, rfl⟩
    exact List.prefix_append escapedSpace back

/-- A character with which no escaped space begins stays. -/
theorem spaced_cons_of_no_escapedSpace {c : Char} {rest : List Char}
    (h : ¬ escapedSpace <+: c :: rest) : spaced (c :: rest) = c :: spaced rest := by
  rw [spaced]
  intro back hc hrest
  exact h (escapedSpace_prefix_cons_iff.mpr ⟨back, hc, hrest⟩)

/-- The rewriting replaces every escaped space, from left to right. -/
theorem spaced_eq_replaceAll (s : List Char) : spaced s = replaceAll escapedSpace [' '] s := by
  fun_induction spaced s with
  | case1 rest ih =>
      show _ = replaceAll escapedSpace [' '] (escapedSpace ++ rest)
      rw [replaceAll_append (by decide), ih, List.singleton_append]
  | case2 c rest hplain ih =>
      have hstarts : ¬ escapedSpace <+: c :: rest := by
        rw [escapedSpace_prefix_cons_iff]
        rintro ⟨back, hc, hrest⟩
        exact hplain back hc hrest
      rw [replaceAll_cons_of_apart hstarts, ih]
  | case3 => rw [replaceAll_nil]

/-! ## Tokens -/

/-- No space stands in the text, neither as it is nor escaped. -/
structure IsSpaceless (t : List Char) : Prop where
  plain : ' ' ∉ t
  escaped : ¬ escapedSpace <:+: t

/-- **The text consists of the tokens, with a space between each two**, as it is or escaped. -/
inductive IsSpacedOut : List (List Char) → List Char → Prop where
  | last {t : List Char} (ht : IsSpaceless t) : IsSpacedOut [t] t
  | plain {t s : List Char} {ts : List (List Char)} (ht : IsSpaceless t) (hs : IsSpacedOut ts s) :
      IsSpacedOut (t :: ts) (t ++ ' ' :: s)
  | escaped {t s : List Char} {ts : List (List Char)} (ht : IsSpaceless t)
      (hs : IsSpacedOut ts s) : IsSpacedOut (t :: ts) (t ++ (escapedSpace ++ s))

theorem isSpaceless_nil : IsSpaceless [] :=
  ⟨List.not_mem_nil, by decide⟩

/-- No escaped space begins in a text without one, if what follows cannot complete it. -/
theorem escapedSpace_not_prefix_append {t back : List Char} (ht : ¬ escapedSpace <:+: t)
    (hne : t ≠ []) (hback : ∀ c, back.head? = some c → c ≠ '2' ∧ c ≠ '0') :
    ¬ escapedSpace <+: t ++ back := by
  rintro ⟨rest, hrest⟩
  -- the escaped space ends in front of the cut, or one of its digits comes first behind it
  rcases t with _ | ⟨a, _ | ⟨b, _ | ⟨c, t⟩⟩⟩
  · exact hne rfl
  · simp only [escapedSpace, List.cons_append, List.nil_append, List.cons.injEq] at hrest
    exact (hback '2' (by rw [← hrest.2]; rfl)).1 rfl
  · simp only [escapedSpace, List.cons_append, List.nil_append, List.cons.injEq] at hrest
    exact (hback '0' (by rw [← hrest.2.2]; rfl)).2 rfl
  · simp only [escapedSpace, List.cons_append, List.nil_append, List.cons.injEq] at hrest
    obtain ⟨ha, hb, hc, -⟩ := hrest
    subst ha hb hc
    exact ht (List.prefix_append escapedSpace t).isInfix

/-- A text without an escaped space stays as it is in front of what cannot complete one. -/
theorem spaced_append {t back : List Char} (ht : ¬ escapedSpace <:+: t)
    (hback : ∀ c, back.head? = some c → c ≠ '2' ∧ c ≠ '0') :
    spaced (t ++ back) = t ++ spaced back := by
  induction t with
  | nil => rfl
  | cons c t ih =>
      have hstarts := escapedSpace_not_prefix_append ht (List.cons_ne_nil c t) hback
      have hlater : ¬ escapedSpace <:+: t := fun hinside => ht (List.infix_cons hinside)
      rw [List.cons_append] at hstarts ⊢
      rw [spaced_cons_of_no_escapedSpace hstarts, ih hlater, List.cons_append]

/-- One more character that is no space, and with which none begins, belongs to the first token. -/
theorem IsSpacedOut.cons {c : Char} {s : List Char} {ts : List (List Char)}
    (h : IsSpacedOut ts s) (hc : c ≠ ' ') (hstarts : ¬ escapedSpace <+: c :: s) :
    IsSpacedOut (ts.modifyHead (c :: ·)) (c :: s) := by
  have hlonger : ∀ t back, s = t ++ back → IsSpaceless t → IsSpaceless (c :: t) := by
    rintro t back rfl ht
    constructor
    · intro hmem
      exact (List.mem_cons.mp hmem).elim (fun heq => hc heq.symm) ht.plain
    · intro hinside
      rcases List.infix_cons_iff.mp hinside with hfront | hlater
      · exact hstarts (hfront.trans (List.prefix_append (c :: t) back))
      · exact ht.escaped hlater
  cases h with
  | last ht => exact .last (hlonger _ [] (List.append_nil _).symm ht)
  | plain ht hs => exact .plain (hlonger _ _ rfl ht) hs
  | escaped ht hs => exact .escaped (hlonger _ _ rfl ht) hs

theorem tokens_cons {c : Char} (h : c ≠ ' ') (s : List Char) :
    tokens (c :: s) = (tokens s).modifyHead (c :: ·) := by
  rw [tokens, List.splitOn, List.splitOnP_cons_eq_if_modifyHead, if_neg (by simpa using h)]
  rfl

/-- The text consists of the tokens that the rewriting leads to. -/
theorem isSpacedOut_tokens (s : List Char) : IsSpacedOut (tokens (spaced s)) s := by
  fun_induction spaced s with
  | case1 rest ih =>
      rw [← List.nil_append (' ' :: spaced rest), tokens_append List.not_mem_nil]
      exact .escaped isSpaceless_nil ih
  | case2 c rest hplain ih =>
      by_cases hc : c = ' '
      · subst hc
        rw [← List.nil_append (' ' :: spaced rest), tokens_append List.not_mem_nil]
        exact .plain isSpaceless_nil ih
      · have hstarts : ¬ escapedSpace <+: c :: rest := by
          rw [escapedSpace_prefix_cons_iff]
          rintro ⟨back, hpercent, hrest⟩
          exact hplain back hpercent hrest
        rw [tokens_cons hc]
        exact ih.cons hc hstarts
  | case3 => exact .last isSpaceless_nil

/-- **The tokens are those between all spaces**, as they are or escaped, and no others are. -/
theorem tokens_spaced_eq_iff {s : List Char} {ts : List (List Char)} :
    tokens (spaced s) = ts ↔ IsSpacedOut ts s := by
  constructor
  · rintro rfl
    exact isSpacedOut_tokens s
  · intro h
    induction h with
    | @last t ht =>
        have hspaced : spaced (t ++ []) = t ++ spaced [] := spaced_append ht.escaped (by simp)
        rw [List.append_nil, spaced, List.append_nil] at hspaced
        rw [hspaced, tokens_of_not_mem ht.plain]
    | plain ht hs ih =>
        rw [spaced_append ht.escaped (by simp), spaced_cons_of_ne (by decide),
          tokens_append ht.plain, ih]
    | escaped ht hs ih =>
        rw [spaced_append ht.escaped (by simp [escapedSpace]), spaced_escapedSpace,
          tokens_append ht.plain, ih]

/-! ## Decoding -/

/-- **Writing `%20` as spaces early is harmless.** If every run of ASCII stands for bytes that spell
a text, the look-up is decoded to what it would be decoded to without the rewriting. If not, it is
kept as it was written with spaces, and its tokens are those that stand between all the spaces of
the text, as they are or escaped. -/
theorem spaced_is_harmless (s : List Char) :
    spaced s = replaceAll "%20".toList [' '] s
    ∧ ((∀ run ∈ Percent.asciiRuns s, Percent.SpellsText run) →
        Percent.decode (spaced s) = Percent.decode s)
    ∧ (¬ (∀ run ∈ Percent.asciiRuns s, Percent.SpellsText run) →
        Percent.decode (spaced s) = spaced s
        ∧ ∀ ts, tokens (Percent.decode (spaced s)) = ts ↔ IsSpacedOut ts s) := by
  refine ⟨spaced_eq_replaceAll s, fun hruns => ?_, fun hruns => ?_⟩
  · obtain ⟨t, ht⟩ := Percent.spellsText_iff_asciiRuns.mpr hruns
    rw [Percent.decode, Percent.decode, unescape_spaced, ht, Utf8.decode?_encode,
      Option.getD_some, Option.getD_some]
  · have hgap : ¬ Percent.SpellsText (spaced s) := by
      rw [Percent.SpellsText, unescape_spaced]
      exact fun hspells => hruns (Percent.spellsText_iff_asciiRuns.mp hspells)
    have hkept : Percent.decode (spaced s) = spaced s :=
      Percent.decode_eq_self_iff.mpr (Or.inr hgap)
    rw [hkept]
    exact ⟨rfl, fun ts => tokens_spaced_eq_iff⟩

/-- Around an escaped percent sign, an escape that is cut short and a letter whose bytes are
escaped, the rewriting makes no difference. Where a byte spells nothing the escapes stay, but for
those of spaces, and the tokens are parted at these as well. -/
theorem spaced_is_harmless_mixed :
    let sound := "wiki%20%2520é%C3%A9%2%20".toList
    let broken := "x%20%FFé y%2%20".toList
    ((∀ run ∈ Percent.asciiRuns sound, Percent.SpellsText run)
      ∧ Percent.decode (spaced sound) = "wiki %20éé%2 ".toList)
    ∧ ¬ (∀ run ∈ Percent.asciiRuns broken, Percent.SpellsText run)
      ∧ Percent.decode (spaced broken) = "x %FFé y%2 ".toList
      ∧ IsSpacedOut ["x".toList, "%FFé".toList, "y%2".toList, []] broken := by
  intro sound broken
  have hsound : ∀ run ∈ Percent.asciiRuns sound, Percent.SpellsText run := by decide +kernel
  have hbroken : ¬ ∀ run ∈ Percent.asciiRuns broken, Percent.SpellsText run := by decide +kernel
  have hdecode := (spaced_is_harmless sound).2.1 hsound
  obtain ⟨hkept, htokens⟩ := (spaced_is_harmless broken).2.2 hbroken
  refine ⟨⟨hsound, ?_⟩, hbroken, ?_, (htokens _).mp ?_⟩
  · rw [hdecode]
    decide +kernel
  · rw [hkept]
    decide +kernel
  · rw [hkept]
    decide +kernel

end Shortlink.Web
