import Mathlib.Data.List.Basic
import Shortlink.Web.Route

/-!
# Which paths the look-ups get

The routes are tried in order, and the look-ups come last. They are alone in claiming a path just
when it is a **look-up path** (`candidates_eq_gateway_iff`): it begins with a slash, lies outside of
what is reserved, is none of four fixed paths, and holds no line end but perhaps one at its end. The
fixed paths count with a line end behind them as well, for a line end may follow the form of a
route.

## Contents

- `oneLine?_isSome_iff`: texts of one line.
- `fixedForms`, `IsLookupPath`, `isLookupPath_iff`.
- `exists_candidates_eq`, `candidates_eq_gateway_iff`: the routes that claim a path.
- `find?_of_choose`, `choose_get_of_isLookupPath`, `choose_get_of_not_isLookupPath`: the route that
  answers.
-/

namespace Shortlink.Web

/-! ## Lines -/

/-- A text is of one line just when no line end stands before its last character. -/
theorem oneLine?_isSome_iff (s : List Char) : (oneLine? s).isSome = true ↔ '\n' ∉ s.dropLast := by
  unfold oneLine?
  by_cases hlast : s.getLast? = some '\n'
  · rw [if_pos hlast]
    by_cases hline : '\n' ∈ s.dropLast <;> simp [hline]
  · -- a line end that is not the last character is one of those before it
    have hmem : '\n' ∈ s ↔ '\n' ∈ s.dropLast := by
      constructor
      · intro h
        rcases List.eq_nil_or_concat s with rfl | ⟨front, c, rfl⟩
        · exact absurd h List.not_mem_nil
        · rw [List.concat_eq_append, List.getLast?_concat] at hlast
          rw [List.concat_eq_append, List.mem_append, List.mem_singleton] at h
          rw [List.concat_eq_append, List.dropLast_concat]
          exact h.resolve_right fun heq => hlast (congrArg some heq.symm)
      · exact fun h => List.dropLast_subset s h
    rw [if_neg hlast]
    by_cases hline : '\n' ∈ s
    · simp [hline, hmem.mp hline]
    · simp [hline, mt hmem.mpr hline]

/-! ## Beginnings -/

theorem after?_eq_some_iff {start : String} {path rest : List Char} :
    after? start path = some rest ↔ path = start.toList ++ rest := by
  rw [after?, List.isPrefixOf?_eq_some_iff_append_eq, eq_comm]

/-- A path has one of two beginnings if none of them begins the other. -/
theorem after?_of_apart {start other : String} (h : ¬ start.toList <+: other.toList)
    (h' : ¬ other.toList <+: start.toList) (rest : List Char) :
    after? start (other.toList ++ rest) = none := by
  refine Option.eq_none_iff_forall_ne_some.mpr fun back hback => ?_
  have hstart : start.toList <+: other.toList ++ rest := by
    rw [after?_eq_some_iff.mp hback]
    exact List.prefix_append _ _
  exact (List.prefix_or_prefix_of_prefix hstart (List.prefix_append _ _)).elim h h'

/-! ## Look-up paths -/

/-- The paths outside of what is reserved that have routes of their own. -/
def fixedForms : List String :=
  ["/docs/oauth2-redirect", "/health", "/status", "/favicon.ico"]

/-- The beginning of the paths that are reserved. -/
def reservedStart : String := "/_gadget/"

/-- **A path that is only looked up.** -/
structure IsLookupPath (path : List Char) : Prop where
  slash : path.head? = some '/'
  notReserved : ¬ reservedStart.toList <+: path
  notFixed : ∀ form ∈ fixedForms, isPath form path = false
  oneLine : '\n' ∉ path.dropLast

theorem isPath_iff {form : String} {path : List Char} :
    isPath form path = true ↔ path = form.toList ∨ path = form.toList ++ ['\n'] := by
  rw [isPath, Bool.or_eq_true, beq_iff_eq, beq_iff_eq]

/-- A path with a long beginning is none of the short forms. -/
theorem isPath_of_start {start form : String} (h : ¬ start.toList <+: form.toList ++ ['\n'])
    (rest : List Char) : isPath form (start.toList ++ rest) = false := by
  refine Bool.eq_false_iff.mpr fun hpath => h ?_
  rcases isPath_iff.mp hpath with heq | heq
  · exact (heq ▸ List.prefix_append _ _ : start.toList <+: form.toList).trans
      (List.prefix_append _ _)
  · exact heq ▸ List.prefix_append _ _

/-- Without line ends, a path is a look-up path if it is neither reserved nor fixed. -/
theorem isLookupPath_iff {rest : List Char} (hline : '\n' ∉ rest) :
    IsLookupPath ('/' :: rest) ↔ ¬ reservedStart.toList <+: '/' :: rest
      ∧ ∀ form ∈ fixedForms, '/' :: rest ≠ form.toList := by
  have hpath : '\n' ∉ '/' :: rest := by
    rw [List.mem_cons, not_or]
    exact ⟨by decide, hline⟩
  constructor
  · intro h
    refine ⟨h.notReserved, fun form hform heq => ?_⟩
    have hnot := h.notFixed form hform
    rw [isPath, heq, beq_self_eq_true, Bool.true_or] at hnot
    exact absurd hnot (by simp)
  · rintro ⟨hreserved, hfixed⟩
    refine ⟨rfl, hreserved, fun form hform => ?_, fun hmem => hpath (List.dropLast_subset _ hmem)⟩
    refine Bool.eq_false_iff.mpr fun hform' => ?_
    rcases isPath_iff.mp hform' with heq | heq
    · exact hfixed form hform heq
    · rw [heq] at hpath
      exact hpath (List.mem_append_right _ (List.mem_singleton_self _))

/-- A path that is not reserved is none of the reserved forms. -/
theorem isPath_of_not_reserved {form : String} {path : List Char}
    (hform : reservedStart.toList <+: form.toList) (h : ¬ reservedStart.toList <+: path) :
    isPath form path = false := by
  refine Bool.eq_false_iff.mpr fun hpath => h ?_
  rcases isPath_iff.mp hpath with rfl | rfl
  · exact hform
  · exact hform.trans (List.prefix_append _ _)

theorem after?_of_not_reserved {start : String} {path : List Char}
    (hstart : reservedStart.toList <+: start.toList) (h : ¬ reservedStart.toList <+: path) :
    after? start path = none := by
  refine Option.eq_none_iff_forall_ne_some.mpr fun rest hrest => h ?_
  rw [after?_eq_some_iff.mp hrest]
  exact hstart.trans (List.prefix_append _ _)

/-- The look-ups, if the rest of the path is of one line. -/
theorem gateway_candidates (path : List Char) :
    (((after? "/" path).bind oneLine?).map fun _ => Route.gateway).toList
      = if path.head? = some '/' ∧ '\n' ∉ path.dropLast then [.gateway] else [] := by
  cases path with
  | nil => rfl
  | cons c rest =>
      by_cases hslash : c = '/'
      · subst hslash
        have hline : '\n' ∉ ('/' :: rest).dropLast ↔ '\n' ∉ rest.dropLast := by
          cases rest <;> simp
        show (((some rest).bind oneLine?).map fun _ => Route.gateway).toList = _
        simp only [Option.bind_some, List.head?_cons, true_and, hline, ← oneLine?_isSome_iff]
        cases oneLine? rest <;> rfl
      · have hafter : after? "/" (c :: rest) = none := by
          refine Option.eq_none_iff_forall_ne_some.mpr fun back hback => hslash ?_
          exact (List.cons.inj (after?_eq_some_iff.mp hback)).1
        rw [hafter, if_neg (by simp [hslash])]
        rfl

/-- **The routes that claim a path which is not reserved.** -/
theorem candidates_of_not_reserved {path : List Char} (h : ¬ reservedStart.toList <+: path)
    (hasUi : Bool) : candidates hasUi path
      = (if isPath "/docs/oauth2-redirect" path then [.signIn] else [])
        ++ (if isPath "/health" path then [.health] else [])
        ++ (if isPath "/status" path then [.health] else [])
        ++ (if isPath "/favicon.ico" path then [.icon] else [])
        ++ if path.head? = some '/' ∧ '\n' ∉ path.dropLast then [.gateway] else [] := by
  have hschema : isPath "/_gadget/openapi.json" path = false :=
    isPath_of_not_reserved (by decide) h
  have hdocs : isPath "/_gadget/docs" path = false := isPath_of_not_reserved (by decide) h
  have hrecords : isPath "/_gadget/api/redirect" path = false :=
    isPath_of_not_reserved (by decide) h
  have hsearch : isPath "/_gadget/api/search" path = false := isPath_of_not_reserved (by decide) h
  have hrecord : after? "/_gadget/api/redirect/" path = none := after?_of_not_reserved (by decide) h
  have hui : after? "/_gadget/ui/" path = none := after?_of_not_reserved (by decide) h
  have hreserved : after? "/_gadget/" path = none := after?_of_not_reserved (by decide) h
  simp only [candidates, hschema, hdocs, hrecords, hsearch, hrecord, hui, hreserved,
    gateway_candidates, Option.bind_none, Option.map_none, Option.toList_none, Bool.false_eq_true,
    if_false, ite_self, List.nil_append, List.append_nil]

/-- The look-ups come last, and no other route is theirs. -/
theorem exists_candidates_eq (hasUi : Bool) (path : List Char) :
    ∃ others, Route.gateway ∉ others ∧ candidates hasUi path
      = others ++ if path.head? = some '/' ∧ '\n' ∉ path.dropLast then [.gateway] else [] := by
  have hfixed : ∀ (form : String) (route : Route), route ≠ .gateway →
      Route.gateway ∉ (if isPath form path then [route] else []) := by
    intro form route hne
    split
    · exact fun hmem => hne (List.mem_singleton.mp hmem).symm
    · exact List.not_mem_nil
  have hread : ∀ (read : Option (List Char)) (route : List Char → Route),
      (∀ text, route text ≠ .gateway) → Route.gateway ∉ (read.map route).toList := by
    intro read route hne hmem
    obtain ⟨text, -, htext⟩ := Option.map_eq_some_iff.mp (Option.mem_toList.mp hmem)
    exact hne text htext
  have hui : Route.gateway ∉
      (if hasUi then (((after? "/_gadget/ui/" path).bind oneLine?).map .ui).toList else []) := by
    split
    · exact hread _ _ (by simp)
    · exact List.not_mem_nil
  -- the last of the lists that are joined is that of the look-ups
  refine ⟨_, ?_, by rw [candidates, gateway_candidates]⟩
  simp only [List.mem_append, hfixed, hread, hui, ne_eq, reduceCtorEq, not_false_eq_true,
    implies_true, or_self]

theorem gateway_mem_candidates_iff {hasUi : Bool} {path : List Char} :
    Route.gateway ∈ candidates hasUi path ↔ path.head? = some '/' ∧ '\n' ∉ path.dropLast := by
  obtain ⟨others, hothers, heq⟩ := exists_candidates_eq hasUi path
  rw [heq, List.mem_append, or_iff_right hothers]
  split
  · next h => simp [h]
  · next h => simp [h]

theorem reserved_mem_candidates {path rest : List Char} (h : path = reservedStart.toList ++ rest)
    (hline : '\n' ∉ path.dropLast) (hasUi : Bool) :
    ∃ endpoint, Route.reserved endpoint ∈ candidates hasUi path := by
  have hrest : '\n' ∉ rest.dropLast := by
    intro hmem
    have hne : rest ≠ [] := by
      rintro rfl
      exact List.not_mem_nil hmem
    rw [h, List.dropLast_append_of_ne_nil hne] at hline
    exact hline (List.mem_append_right _ hmem)
  obtain ⟨endpoint, hendpoint⟩ := Option.isSome_iff_exists.mp ((oneLine?_isSome_iff rest).mpr hrest)
  have hafter : after? "/_gadget/" path = some rest := after?_eq_some_iff.mpr h
  exact ⟨endpoint, by simp [candidates, hafter, hendpoint]⟩

/-- A fixed path is claimed by a route of its own. -/
theorem exists_mem_candidates {path : List Char} {form : String} (hform : form ∈ fixedForms)
    (hpath : isPath form path = true) (h : ¬ reservedStart.toList <+: path) (hasUi : Bool) :
    ∃ route ∈ candidates hasUi path, route ≠ .gateway := by
  rw [candidates_of_not_reserved h]
  simp only [fixedForms, List.mem_cons, List.not_mem_nil, or_false] at hform
  rcases hform with rfl | rfl | rfl | rfl
  · exact ⟨.signIn, by simp [hpath], by simp⟩
  · exact ⟨.health, by simp [hpath], by simp⟩
  · exact ⟨.health, by simp [hpath], by simp⟩
  · exact ⟨.icon, by simp [hpath], by simp⟩

/-- **The look-ups are alone in claiming a path just when it is a look-up path.** -/
theorem candidates_eq_gateway_iff {hasUi : Bool} {path : List Char} :
    candidates hasUi path = [.gateway] ↔ IsLookupPath path := by
  constructor
  · intro h
    have hgateway : Route.gateway ∈ candidates hasUi path := by
      rw [h]
      exact List.mem_singleton_self _
    obtain ⟨hslash, hline⟩ := gateway_mem_candidates_iff.mp hgateway
    have honly : ∀ route ∈ candidates hasUi path, route = .gateway := by
      intro route hroute
      rw [h] at hroute
      exact List.mem_singleton.mp hroute
    have hreserved : ¬ reservedStart.toList <+: path := by
      rintro ⟨rest, hrest⟩
      obtain ⟨endpoint, hmem⟩ := reserved_mem_candidates hrest.symm hline hasUi
      exact absurd (honly _ hmem) (by simp)
    refine ⟨hslash, hreserved, ?_, hline⟩
    intro form hform
    refine Bool.eq_false_iff.mpr fun hpath => ?_
    obtain ⟨route, hroute, hne⟩ := exists_mem_candidates hform hpath hreserved hasUi
    exact hne (honly route hroute)
  · intro h
    have hfixed : ∀ form ∈ fixedForms, isPath form path = false := h.notFixed
    simp only [fixedForms, List.forall_mem_cons] at hfixed
    obtain ⟨hsignIn, hhealth, hstatus, hicon, -⟩ := hfixed
    have hlookup : path.head? = some '/' ∧ '\n' ∉ path.dropLast := ⟨h.slash, h.oneLine⟩
    rw [candidates_of_not_reserved h.notReserved, if_pos hlookup]
    simp only [hsignIn, hhealth, hstatus, hicon, Bool.false_eq_true, if_false, List.nil_append]

/-! ## The choice of a route -/

/-- The route that answers is the first of those that claim the path to offer the method. -/
theorem find?_of_choose {hasUi : Bool} {method : String} {path : List Char} {route : Route}
    (h : choose hasUi method path = .answer route) :
    (candidates hasUi path).find? (·.offers method) = some route := by
  unfold choose at h
  grind

theorem Route.offers_get (route : Route) : route.offers "GET" = true := by
  cases route <;> rfl

/-- Every route can be read, so the first one that claims a path reads it. -/
theorem choose_get_of_cons {hasUi : Bool} {path : List Char} {route : Route} {others : List Route}
    (h : candidates hasUi path = route :: others) : choose hasUi "GET" path = .answer route := by
  rw [choose, h]
  simp only [List.find?_cons, route.offers_get]

/-- A look-up path is read by the look-ups. -/
theorem choose_get_of_isLookupPath {path : List Char} (h : IsLookupPath path) (hasUi : Bool) :
    choose hasUi "GET" path = .answer .gateway :=
  choose_get_of_cons (candidates_eq_gateway_iff.mpr h)

/-- **Any other path** is read by another route, or by none. -/
theorem choose_get_of_not_isLookupPath {path : List Char} (h : ¬ IsLookupPath path)
    (hasUi : Bool) :
    (∃ route, route ≠ .gateway ∧ choose hasUi "GET" path = .answer route)
      ∨ choose hasUi "GET" path = .nowhere
      ∨ ∃ other, choose hasUi "GET" path = .elsewhere other := by
  cases hclaimed : candidates hasUi path with
  | nil =>
      right
      rw [choose, hclaimed]
      dsimp only
      split
      · exact Or.inl rfl
      · split
        · exact Or.inl rfl
        · exact Or.inr ⟨_, rfl⟩
  | cons route others =>
      refine Or.inl ⟨route, ?_, choose_get_of_cons hclaimed⟩
      -- what comes last comes first only when it is alone
      rintro rfl
      obtain ⟨front, hfront, heq⟩ := exists_candidates_eq hasUi path
      have halone : candidates hasUi path = [.gateway] := by
        cases front with
        | nil =>
            rw [List.nil_append] at heq
            split at heq
            · exact heq
            · rw [hclaimed] at heq
              exact absurd heq (List.cons_ne_nil _ _)
        | cons first front =>
            rw [hclaimed, List.cons_append] at heq
            exact absurd (List.mem_cons.mpr (Or.inl (List.cons.inj heq).1)) hfront
      exact h (candidates_eq_gateway_iff.mp halone)

end Shortlink.Web
