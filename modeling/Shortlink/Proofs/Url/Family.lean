import Shortlink.Proofs.Braces
import Shortlink.Proofs.Url.Split

/-!
# Families of destinations

A destination is checked as a template, but a client is sent to a text of its family. The scheme and
the slashes of a destination hold no brace, so they stand in front of every text of the family, and
behind them stand the texts of the family of the rest (`expand_clean`). Each of these begins with an
authority of its own, and all texts are destinations just if all these authorities are proper:
`variants_isDestination_iff`. They are if the braces stand behind the authority; where one stands in
it, a text may have no host at all.

## Contents

- **Related templates.** `Template.fault?_eq_none_iff_of_braces`; `Template.expand_append`,
  `Template.expand_filter`.
- **Absolute templates.** `expand_clean`, `map_clean_expand`.
- **Authorities.** `authorities`; `authorities_of_not_isBrace`, `nil_mem_authorities_iff`;
  `IsAbsolute.forall_isDestination_iff`.
- **Variants.** `variants_isDestination_iff`, and a host that stands between braces.
-/

namespace Shortlink

open Text

/-! ## Related templates -/

namespace Template

/-- Whether a template is faulty depends on its braces only. -/
theorem fault?_eq_none_iff_of_braces {s t : List Char} (h : braces s = braces t) :
    fault? s = none ↔ fault? t = none := by
  rw [← Option.not_isSome_iff_eq_none, ← Option.not_isSome_iff_eq_none, isSome_fault?_iff_not,
    isSome_fault?_iff_not]
  unfold IsNested IsLopsided
  rw [h]

/-- The family of a template, by whether it is faulty. -/
theorem expand_eq_nested {template : List Char} (h : fault? template = none) :
    ∃ base inner, pieces template = base :: inner ∧ expand template = nested base [] inner := by
  obtain ⟨base, inner, hpieces⟩ := exists_pieces_eq_cons template
  refine ⟨base, inner, hpieces, ?_⟩
  unfold expand
  rw [h, hpieces]

section

variable {front : List Char}

/-- What is put in front of a template belongs to its first piece. -/
theorem pieces_append (h : ∀ c ∈ front, isBrace c = false) (template : List Char) :
    pieces (front ++ template) = (pieces template).modifyHead (front ++ ·) := by
  induction front with
  | nil =>
      obtain ⟨base, inner, hpieces⟩ := exists_pieces_eq_cons template
      rw [List.nil_append, hpieces]
      rfl
  | cons c front ih =>
      obtain ⟨hc, hfront⟩ := List.forall_mem_cons.mp h
      obtain ⟨base, inner, hpieces⟩ := exists_pieces_eq_cons template
      rw [List.cons_append, pieces_cons, if_neg (by simp [hc]), ih hfront, hpieces]
      rfl

theorem nested_append (front base back : List Char) (inner : List (List Char)) :
    nested (front ++ base) back inner = (nested base back inner).map (front ++ ·) := by
  fun_induction nested base back inner with
  | case1 base back => simp [nested]
  | case2 base back piece rest ih =>
      rw [nested, List.map_cons, ← ih, List.append_assoc, List.append_assoc]

/-- **What is put in front of a template stands in front of each of its texts**, if it holds no
brace. -/
theorem expand_append (h : ∀ c ∈ front, isBrace c = false) (template : List Char) :
    expand (front ++ template) = (expand template).map (front ++ ·) := by
  have hbraces : braces (front ++ template) = braces template := by
    have hnone : braces front = [] := List.filter_eq_nil_iff.mpr fun c hc => by simp [h c hc]
    rw [braces_append, hnone, List.nil_append]
  by_cases hfault : fault? template = none
  · obtain ⟨base, inner, hpieces, hexpand⟩ := expand_eq_nested hfault
    obtain ⟨base', inner', hpieces', hexpand'⟩ :=
      expand_eq_nested ((fault?_eq_none_iff_of_braces hbraces).mpr hfault)
    rw [pieces_append h, hpieces, List.modifyHead_cons] at hpieces'
    obtain ⟨rfl, rfl⟩ := List.cons.inj hpieces'
    rw [hexpand', hexpand, nested_append]
  · have hfault' := mt (fault?_eq_none_iff_of_braces hbraces).mp hfault
    rw [expand_of_fault (Option.isSome_iff_ne_none.mpr hfault),
      expand_of_fault (Option.isSome_iff_ne_none.mpr hfault')]
    rfl

end

section

variable {keep : Char → Bool} (hkeep : ∀ c, isBrace c = true → keep c = true)

include hkeep

/-- What is dropped from a template is dropped from its pieces. -/
theorem pieces_filter (template : List Char) :
    pieces (template.filter keep) = (pieces template).map (List.filter keep) := by
  induction template with
  | nil => simp [pieces_nil]
  | cons c rest ih =>
      obtain ⟨base, inner, hpieces⟩ := exists_pieces_eq_cons rest
      rw [hpieces] at ih
      rw [pieces_cons, hpieces]
      by_cases hbrace : isBrace c = true
      · rw [List.filter_cons_of_pos (hkeep c hbrace), pieces_cons, if_pos hbrace, if_pos hbrace, ih]
        simp
      · rw [if_neg hbrace, List.modifyHead_cons]
        by_cases hc : keep c = true
        · rw [List.filter_cons_of_pos hc, pieces_cons, if_neg hbrace, ih]
          simp [hc]
        · rw [List.filter_cons_of_neg hc, ih]
          simp [hc]

omit hkeep in
theorem nested_filter (front back : List Char) (inner : List (List Char)) :
    nested (front.filter keep) (back.filter keep) (inner.map (List.filter keep))
      = (nested front back inner).map (List.filter keep) := by
  fun_induction nested front back inner with
  | case1 front back => simp [nested]
  | case2 front back piece rest ih =>
      have hlast : ((rest.map (List.filter keep)).getLast?.getD [])
          = (rest.getLast?.getD []).filter keep := by
        rw [List.getLast?_map]
        cases rest.getLast? <;> rfl
      rw [List.map_cons, nested, List.map_cons, ← ih, hlast, ← List.map_dropLast,
        List.filter_append, List.filter_append, List.filter_append]

/-- **What is dropped from a template is dropped from each of its texts**, if it is no brace. -/
theorem expand_filter (template : List Char) :
    expand (template.filter keep) = (expand template).map (List.filter keep) := by
  have hbraces : braces (template.filter keep) = braces template := by
    rw [braces, braces, List.filter_filter]
    congr
    funext c
    cases hc : isBrace c with
    | false => rfl
    | true => rw [hkeep c hc, Bool.and_self]
  by_cases hfault : fault? template = none
  · obtain ⟨base, inner, hpieces, hexpand⟩ := expand_eq_nested hfault
    obtain ⟨base', inner', hpieces', hexpand'⟩ :=
      expand_eq_nested ((fault?_eq_none_iff_of_braces hbraces).mpr hfault)
    rw [pieces_filter hkeep, hpieces, List.map_cons] at hpieces'
    obtain ⟨rfl, rfl⟩ := List.cons.inj hpieces'
    rw [hexpand', hexpand, ← nested_filter]
    rfl
  · have hfault' := mt (fault?_eq_none_iff_of_braces hbraces).mp hfault
    rw [expand_of_fault (Option.isSome_iff_ne_none.mpr hfault),
      expand_of_fault (Option.isSome_iff_ne_none.mpr hfault')]
    rfl

end

end Template

namespace Url

open Template

/-! ## Absolute templates -/

theorem isBrace_of_isSchemeChar {c : Char} (h : isSchemeChar c = true) : isBrace c = false := by
  have hrange := toNat_of_isSchemeChar h
  rw [Bool.eq_false_iff]
  intro hbrace
  rcases isBrace_iff.mp hbrace with rfl | rfl
  · exact absurd hrange.2 (by decide)
  · exact absurd hrange.2 (by decide)

theorem isBrace_of_endsAuthority {c : Char} (h : endsAuthority c = true) : isBrace c = false := by
  rw [endsAuthority, Bool.or_eq_true, Bool.or_eq_true, beq_iff_eq, beq_iff_eq, beq_iff_eq] at h
  rcases h with (rfl | rfl) | rfl <;> decide

theorem isLineMark_of_isBrace {c : Char} (h : isBrace c = true) : (!isLineMark c) = true := by
  rcases isBrace_iff.mp h with rfl | rfl <;> decide

theorem isBrace_of_low {c : Char} (h : c.toNat ≤ 0x20) : isBrace c = false := by
  rw [Bool.eq_false_iff]
  intro hbrace
  rcases isBrace_iff.mp hbrace with rfl | rfl
  · exact absurd h (by decide)
  · exact absurd h (by decide)

/-- What is dropped in front of a text, and the text that is left. -/
theorem exists_low_append (s : List Char) : ∃ low rest, s = low ++ rest
    ∧ (∀ c ∈ low, c.toNat ≤ 0x20) ∧ clean s = withoutMarks rest
    ∧ ∀ c, rest.head? = some c → 0x20 < c.toNat := by
  refine ⟨s.takeWhile fun c => c.toNat ≤ 0x20, s.dropWhile fun c => c.toNat ≤ 0x20,
    List.takeWhile_append_dropWhile.symm, ?_, rfl, ?_⟩
  · intro c hc
    simpa using List.mem_takeWhile_imp hc
  · intro c hc
    have hhead := List.head?_dropWhile_not (fun c : Char => decide (c.toNat ≤ 0x20)) s
    rw [hc] at hhead
    simpa using hhead

/-- **To clean a template is to clean each of its texts**, if what it begins with, once it is clean,
is no brace. -/
theorem expand_clean {s : List Char} {c : Char} (hclean : (clean s).head? = some c)
    (hc : isBrace c = false) : expand (clean s) = (expand s).map clean := by
  obtain ⟨low, rest, rfl, hlow, heq, hhead⟩ := exists_low_append s
  cases rest with
  | nil =>
      rw [heq] at hclean
      exact absurd hclean (by simp [withoutMarks])
  | cons d others =>
      -- the first character that is not dropped stands in front of every text
      have hd : 0x20 < d.toNat := hhead d rfl
      have hmark : isLineMark d = false := by
        rw [Bool.eq_false_iff]
        intro hmark
        have hle := toNat_of_isLineMark hmark
        omega
      have hdc : d = c := by
        rw [heq, withoutMarks, List.filter_cons_of_pos (by simp [hmark])] at hclean
        exact Option.some.inj hclean
      have hfirst : ∀ a ∈ [d], isBrace a = false := by
        intro a ha
        rw [List.mem_singleton.mp ha, hdc]
        exact hc
      have hfront : expand (low ++ d :: others)
          = (expand others).map fun t => low ++ d :: t := by
        rw [expand_append fun a ha => isBrace_of_low (hlow a ha),
          show d :: others = [d] ++ others from rfl, expand_append hfirst, List.map_map]
        rfl
      have hback : expand (clean (low ++ d :: others))
          = (expand others).map fun t => d :: withoutMarks t := by
        rw [heq, withoutMarks, List.filter_cons_of_pos (by simp [hmark]),
          show ∀ t, d :: t = [d] ++ t from fun _ => rfl, expand_append hfirst,
          expand_filter fun a ha => isLineMark_of_isBrace ha, List.map_map]
        rfl
      rw [hfront, hback, List.map_map]
      apply List.map_congr_left
      intro t _
      rw [Function.comp_apply, clean_append_of_low hlow, clean_cons hd, withoutMarks, withoutMarks,
        List.filter_cons_of_pos (by simp [hmark])]

/-- **The texts of an absolute template are absolute**, with the same scheme; behind the slashes
stand the texts of what stands behind those of the template. -/
theorem map_clean_expand {s scheme behind : List Char} (h : IsAbsolute s scheme behind) :
    (expand s).map clean = (expand behind).map fun t => scheme ++ ':' :: '/' :: '/' :: t := by
  have hscheme : ∀ c ∈ scheme ++ [':', '/', '/'], isBrace c = false := by
    intro c hc
    rcases List.mem_append.mp hc with hmem | hslashes
    · exact isBrace_of_isSchemeChar (h.isScheme.chars c hmem)
    · simp only [List.mem_cons, List.not_mem_nil, or_false] at hslashes
      rcases hslashes with rfl | rfl | rfl <;> decide
  obtain ⟨c, others, hcons⟩ := List.exists_cons_of_ne_nil h.isScheme.ne_nil
  have hhead : (clean s).head? = some c := by rw [h.clean_eq, hcons]; rfl
  have hc : isBrace c = false := hscheme c (by simp [hcons])
  have happend : scheme ++ ':' :: '/' :: '/' :: behind = scheme ++ [':', '/', '/'] ++ behind := by
    simp
  rw [← expand_clean hhead hc, h.clean_eq, happend, expand_append hscheme]
  apply List.map_congr_left
  intro t _
  simp

/-! ## Authorities -/

/-- The authorities of the texts of a template, read off what stands behind its slashes. -/
def authorities (behind : List Char) : List (List Char) :=
  (expand behind).map authorityOf

/-- If no brace stands in the authority of a template, all its texts have that authority. -/
theorem authorities_of_not_isBrace {authority rest : List Char}
    (h : ∀ c ∈ authority, isBrace c = false) (hself : authority = authorityOf (authority ++ rest)) :
    ∀ a ∈ authorities (authority ++ rest), a = authority := by
  have hends : ∀ c ∈ authority, endsAuthority c = false := by
    intro c hc
    rw [hself] at hc
    exact not_endsAuthority_of_mem_authorityOf hc
  have hrest : behindAuthority (authority ++ rest) = rest := by
    have hboth := authorityOf_append_behindAuthority (authority ++ rest)
    rw [← hself] at hboth
    exact List.append_cancel_left hboth
  intro a ha
  obtain ⟨t, ht, rfl⟩ := List.mem_map.mp ha
  rw [expand_append h] at ht
  obtain ⟨u, hu, rfl⟩ := List.mem_map.mp ht
  cases rest with
  | nil =>
      have hnil : expand [] = [[]] := by decide +kernel
      rw [hnil, List.mem_singleton] at hu
      rw [hu]
      exact hself.symm
  | cons stop others =>
      -- the character that ends the authority is no brace, so it comes first in every text
      have hstop : endsAuthority stop = true := head?_behindAuthority (by rw [hrest]; rfl)
      have hfirst : ∀ c ∈ [stop], isBrace c = false := by
        intro c hc
        rw [List.mem_singleton.mp hc]
        exact isBrace_of_endsAuthority hstop
      rw [show stop :: others = [stop] ++ others from rfl, expand_append hfirst] at hu
      obtain ⟨v, -, rfl⟩ := List.mem_map.mp hu
      exact authorityOf_cut hends hstop v

/-- **A text of a template has no authority** just if the template is read by its braces and one of
them stands right behind the slashes: it is the text for no arguments. -/
theorem nil_mem_authorities_iff {behind : List Char} (h : authorityOf behind ≠ []) :
    [] ∈ authorities behind
      ↔ fault? behind = none ∧ ∃ c, behind.head? = some c ∧ isBrace c = true := by
  obtain ⟨c, others, rfl⟩ : ∃ c others, behind = c :: others := by
    apply List.exists_cons_of_ne_nil
    rintro rfl
    exact h rfl
  have hc : endsAuthority c = false := by
    by_contra hends
    exact h (List.takeWhile_cons_of_neg (by simpa using hends))
  have hcons : ∀ t, authorityOf (c :: t) ≠ [] := by
    intro t
    rw [authorityOf, List.takeWhile_cons_of_pos (by simp [hc])]
    exact List.cons_ne_nil _ _
  rw [authorities, List.mem_map]
  constructor
  · rintro ⟨t, ht, hnil⟩
    by_cases hfault : fault? (c :: others) = none
    · refine ⟨hfault, c, rfl, ?_⟩
      by_contra hbrace
      have hfirst : ∀ a ∈ [c], isBrace a = false := by
        intro a ha
        rw [List.mem_singleton.mp ha]
        simpa using hbrace
      rw [show c :: others = [c] ++ others from rfl, expand_append hfirst] at ht
      obtain ⟨u, -, rfl⟩ := List.mem_map.mp ht
      exact hcons u hnil
    · rw [expand_of_fault (Option.isSome_iff_ne_none.mpr hfault), List.mem_singleton] at ht
      rw [ht] at hnil
      exact absurd hnil (hcons others)
  · rintro ⟨hfault, d, hd, hbrace⟩
    cases hd
    obtain ⟨base, inner, hpieces, hexpand⟩ := expand_eq_nested hfault
    -- the piece in front of the first brace is empty
    rw [pieces_cons, if_pos hbrace] at hpieces
    obtain ⟨rfl, rfl⟩ := List.cons.inj hpieces
    refine ⟨[], ?_, rfl⟩
    rw [hexpand]
    cases pieces others <;> simp [nested]

section

variable {s scheme behind t u : List Char}

/-- A text of an absolute template has, behind the slashes, a text of what stands there. -/
theorem IsAbsolute.exists_of_mem_expand (h : IsAbsolute s scheme behind) (ht : t ∈ expand s) :
    ∃ u ∈ expand behind, IsAbsolute t scheme u := by
  have hclean : clean t ∈ (expand s).map clean := List.mem_map_of_mem ht
  rw [map_clean_expand h] at hclean
  obtain ⟨u, hu, heq⟩ := List.mem_map.mp hclean
  exact ⟨u, hu, h.isScheme, heq.symm⟩

/-- And each of these stands there in one. -/
theorem IsAbsolute.exists_mem_expand (h : IsAbsolute s scheme behind) (hu : u ∈ expand behind) :
    ∃ t ∈ expand s, IsAbsolute t scheme u := by
  have hfull := List.mem_map_of_mem (f := fun t => scheme ++ ':' :: '/' :: '/' :: t) hu
  rw [← map_clean_expand h] at hfull
  obtain ⟨t, ht, heq⟩ := List.mem_map.mp hfull
  exact ⟨t, ht, h.isScheme, heq⟩

/-- **All texts of an absolute template are destinations** just if none of their authorities is
empty and all pass the checks. -/
theorem IsAbsolute.forall_isDestination_iff (h : IsAbsolute s scheme behind) :
    (∀ t ∈ expand s, isDestination (String.ofList t) = true)
      ↔ [] ∉ authorities behind ∧ ∀ a ∈ authorities behind, isAuthority a = true := by
  constructor
  · intro hall
    have hproper : ∀ a ∈ authorities behind, a ≠ [] ∧ isAuthority a = true := by
      intro a ha
      obtain ⟨u, hu, rfl⟩ := List.mem_map.mp ha
      obtain ⟨t, ht, habs⟩ := h.exists_mem_expand hu
      exact habs.isDestination_iff.mp (hall t ht)
    exact ⟨fun hnil => (hproper [] hnil).1 rfl, fun a ha => (hproper a ha).2⟩
  · rintro ⟨hnil, hall⟩ t ht
    obtain ⟨u, hu, habs⟩ := h.exists_of_mem_expand ht
    have ha : authorityOf u ∈ authorities behind := List.mem_map_of_mem hu
    exact habs.isDestination_iff.mpr ⟨fun heq => hnil (heq ▸ ha), hall _ ha⟩

end

/-! ## Variants -/

/-- What holds of the texts of all variants holds of all texts of the family. -/
theorem forall_mem_variantsOf_iff {destination : String} {P : String → Prop} :
    (∀ v ∈ Link.variantsOf destination, P v.text)
      ↔ ∀ t ∈ expand destination.toList, P (String.ofList t) := by
  rw [Link.variantsOf]
  constructor
  · intro h t ht
    obtain ⟨i, hi, rfl⟩ := List.mem_iff_getElem.mp ht
    exact h ⟨i, String.ofList (expand destination.toList)[i]⟩
      (List.mem_mapIdx.mpr ⟨i, hi, rfl⟩)
  · intro h v hv
    obtain ⟨i, hi, rfl⟩ := List.mem_mapIdx.mp hv
    exact h _ (List.getElem_mem hi)

theorem exists_parts_of_isDestination {destination : String}
    (h : isDestination destination = true) : ∃ parts, split? destination.toList = some parts
      ∧ parts.scheme ≠ [] ∧ parts.authority ≠ [] ∧ isAuthority parts.authority = true := by
  rw [isDestination] at h
  split at h
  · rename_i parts hparts
    rw [Bool.and_eq_true, Bool.not_eq_true', Bool.not_eq_true', List.isEmpty_eq_false_iff,
      List.isEmpty_eq_false_iff] at h
    refine ⟨parts, hparts, h.1, h.2, ?_⟩
    simp only [split?] at hparts
    split at hparts
    · rename_i hchecks
      cases hparts
      exact hchecks
    · cases hparts
  · exact absurd h (by simp)

/-- **All texts of a destination are destinations** just if no brace stands right behind the
slashes, unless the braces are faulty, and the authorities of the texts pass the checks: they are
those of the family of what stands behind the slashes. That is so if the authority of the
destination holds no brace; then all texts have its scheme and its authority. -/
theorem variants_isDestination_iff {destination : String} (h : isDestination destination = true) :
    ∃ parts, split? destination.toList = some parts
    ∧ ((∀ v ∈ Link.variantsOf destination, isDestination v.text = true) ↔
      (fault? (parts.authority ++ parts.rest) = none →
        ∀ c, parts.authority.head? = some c → isBrace c = false)
      ∧ ∀ authority ∈ authorities (parts.authority ++ parts.rest), isAuthority authority = true)
    ∧ ((∀ c ∈ parts.authority, isBrace c = false) →
      ∀ v ∈ Link.variantsOf destination, isDestination v.text = true
        ∧ ∃ rest, split? v.text.toList = some { parts with rest := rest }) := by
  obtain ⟨parts, hparts, hscheme, hauthority, hchecks⟩ := exists_parts_of_isDestination h
  obtain ⟨scheme, hlower, hself, habsolute⟩ := exists_isAbsolute hparts hscheme hauthority
  have hhead : (parts.authority ++ parts.rest).head? = parts.authority.head? := by
    obtain ⟨c, others, hcons⟩ := List.exists_cons_of_ne_nil hauthority
    rw [hcons]
    rfl
  have hempty := nil_mem_authorities_iff (by rw [← hself]; exact hauthority)
  rw [hhead] at hempty
  refine ⟨parts, hparts, ?_, ?_⟩
  · rw [forall_mem_variantsOf_iff (P := fun text => isDestination text = true),
      habsolute.forall_isDestination_iff, hempty]
    refine and_congr_left' ?_
    simp only [not_and, not_exists, Bool.not_eq_true]
  · intro hplain
    refine (forall_mem_variantsOf_iff (P := fun text => isDestination text = true
      ∧ ∃ rest, split? text.toList = some { parts with rest := rest })).mpr ?_
    intro t ht
    obtain ⟨u, hu, habs⟩ := habsolute.exists_of_mem_expand ht
    have hsame : authorityOf u = parts.authority :=
      authorities_of_not_isBrace hplain hself _ (List.mem_map_of_mem hu)
    refine ⟨?_, behindAuthority u, ?_⟩
    · rw [habs.isDestination_iff, hsame]
      exact ⟨hauthority, hchecks⟩
    · rw [String.toList_ofList, habs.split?_eq, hsame, if_pos hchecks, hlower]

/-- Part of a host may stand between braces, if some of it stands in front of them. -/
theorem variants_isDestination_iff_partial :
    Link.variantsOf "https://wiki\x7b.a.io/$1\x7d"
      = [⟨0, "https://wiki"⟩, ⟨1, "https://wiki.a.io/$1"⟩]
    ∧ ∀ v ∈ Link.variantsOf "https://wiki\x7b.a.io/$1\x7d", isDestination v.text = true := by
  have h : isDestination "https://wiki\x7b.a.io/$1\x7d" = true := by decide +kernel
  obtain ⟨parts, hparts, hiff, -⟩ := variants_isDestination_iff h
  have hsplit : split? "https://wiki\x7b.a.io/$1\x7d".toList
      = some ⟨"https".toList, "wiki\x7b.a.io".toList, "/$1\x7d".toList⟩ := by
    decide +kernel
  rw [hsplit] at hparts
  cases hparts
  refine ⟨by decide +kernel, hiff.mpr ⟨?_, by decide +kernel⟩⟩
  intro _ c hc
  cases hc
  decide

/-- **Where the whole host stands between braces**, the destination passes, and the text for a bare
alias has no host. -/
theorem host_between_braces :
    isDestination "https://\x7bx\x7d" = true
    ∧ Link.variantsOf "https://\x7bx\x7d" = [⟨0, "https://"⟩, ⟨1, "https://x"⟩]
    ∧ isDestination "https://" = false := by
  decide +kernel

end Url

end Shortlink
