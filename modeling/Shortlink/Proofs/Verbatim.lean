import Mathlib.Data.List.Induction
import Shortlink.Proofs.Filling
import Shortlink.Proofs.Lookup

/-!
# Arguments that stand verbatim in the destination

The pass for a mark reads what the passes before it put in, so an argument can be read as part of a
mark itself: as a whole mark, as the dollar sign of one whose digit follows, or as the digit of one
whose dollar sign stands in front. Where nothing of the kind happens the argument stays as it was
typed, and what stands on either side of it is filled in as if it stood alone (`fillFrom_place`).

Whether it happens depends on the neighbours that an argument has when the turn of a later mark
comes. An argument stays whatever its neighbours are if it stays between the worst of them, a dollar
sign and the digit of the mark; every other one is lost in some text: `Variant.fill_keeps_argument`.

## Contents

- **Pairs.** `pair_infix_append_iff`, `mark_of_lt`.
- **One pass.** `replaceAll_eq_self`, `replaceAll_append_of_cut`; `inContext`, `replaceAll_between`.
- **All passes.** `fillFrom_append`, `fillFrom_between`; `Stays`, `fillFrom_place`.
- **Erasing.** `replaceAll_nil_sublist`, `count_replaceAll_nil_lt`; `exists_count_fillFrom_lt`.
- **Loss.** `aloneAt`, `showing`, `not_infix_fill_showing`.
- **Inert arguments.** `IsInert`; `stays_of_isInert`, `exists_not_infix_of_not_isInert`.
- **Arguments without dollar signs.** `stays_of_noDollar`.
- **Which arguments are data.** `Variant.fill_keeps_argument`.
-/

namespace Shortlink

open Text

/-! ## Pairs -/

/-- **Two characters that stand side by side in a text** stand on one side of a cut or across it. -/
theorem pair_infix_append_iff {x y : Char} {front back : List Char} :
    [x, y] <:+: front ++ back ↔
      [x, y] <:+: front ∨ [x, y] <:+: back ∨ (front.getLast? = some x ∧ back.head? = some y) := by
  induction front with
  | nil => simp
  | cons c front ih =>
      rw [List.cons_append, List.infix_cons_iff, ih, List.infix_cons_iff]
      cases front with
      | nil =>
          -- the only character in front is the one that can stand across the cut
          have hshort : ¬ [x, y] <+: [c] := fun h => absurd h.length_le (by simp)
          have hacross : [x, y] <+: c :: ([] ++ back)
              ↔ [c].getLast? = some x ∧ back.head? = some y := by
            cases back with
            | nil => simp
            | cons b back =>
                simp only [List.nil_append, List.cons_prefix_cons, List.nil_prefix, and_true,
                  List.getLast?_singleton, List.head?_cons, Option.some.injEq]
                rw [eq_comm (a := x), eq_comm (a := y)]
          simp only [hshort, hacross, List.infix_nil, List.cons_ne_nil, List.getLast?_nil,
            reduceCtorEq, false_and, false_or, or_false]
          exact or_comm
      | cons d front =>
          rw [List.cons_append, List.getLast?_cons_cons]
          simp only [List.cons_prefix_cons, List.nil_prefix, and_true, or_assoc]

/-- A mark of one digit is a pair. -/
theorem mark_of_lt {n : Nat} (h : n < 10) : mark n = ['$', digit n] := by
  rw [mark, natText_of_lt h]

theorem digit_injOn {m n : Nat} (hm : m < 10) (hn : n < 10) (h : digit m = digit n) : m = n := by
  have hvalue := asciiDigit?_digit hm
  rw [h, asciiDigit?_digit hn] at hvalue
  exact (Option.some.inj hvalue).symm

theorem digit_ne_dollar {n : Nat} (h : n < 10) : digit n ≠ '$' := by
  intro hdollar
  have hvalue := asciiDigit?_digit h
  rw [hdollar] at hvalue
  exact absurd hvalue (by simp [asciiDigit?])

/-! ## One pass -/

/-- A pass leaves a text without its marker alone. -/
theorem replaceAll_eq_self {marker value text : List Char} (h : ¬ marker <:+: text) :
    replaceAll marker value text = text := by
  induction text with
  | nil => exact replaceAll_nil marker value
  | cons c text ih =>
      have hfront : ¬ marker <+: c :: text := fun hfront => h hfront.isInfix
      rw [replaceAll_cons_of_apart hfront, ih (not_infix_of_cons h)]

/-- **A pass goes over both sides of a cut alike**, unless its marker stands across the cut. -/
theorem replaceAll_append_of_cut {m d : Char} {value front back : List Char}
    (h : ¬ (front.getLast? = some m ∧ back.head? = some d)) :
    replaceAll [m, d] value (front ++ back)
      = replaceAll [m, d] value front ++ replaceAll [m, d] value back := by
  induction front using List.twoStepInduction with
  | nil => rw [replaceAll_nil, List.nil_append, List.nil_append]
  | singleton c =>
      have hcut : ¬ [m, d] <+: c :: back := by
        rintro ⟨rest, hrest⟩
        obtain ⟨rfl, rfl⟩ := List.cons.inj hrest
        exact h ⟨rfl, rfl⟩
      have hshort : ¬ [m, d] <:+: [c] := by
        intro hinfix
        exact absurd hinfix.length_le (by simp)
      rw [List.singleton_append, replaceAll_cons_of_apart hcut, replaceAll_eq_self hshort,
        List.singleton_append]
  | cons_cons c c' rest ih ih' =>
      by_cases hmarker : c = m ∧ c' = d
      · -- the marker is replaced, and the cut comes later
        obtain ⟨rfl, rfl⟩ := hmarker
        have hrest : ¬ (rest.getLast? = some c ∧ back.head? = some c') := by
          rintro ⟨hlast, hhead⟩
          apply h
          refine ⟨?_, hhead⟩
          rw [List.getLast?_cons_cons, List.getLast?_cons, hlast]
          rfl
        show replaceAll [c, c'] value ([c, c'] ++ (rest ++ back)) = _
        rw [replaceAll_append (List.cons_ne_nil _ _), ih hrest]
        show _ = replaceAll [c, c'] value ([c, c'] ++ rest) ++ _
        rw [replaceAll_append (List.cons_ne_nil _ _), List.append_assoc]
      · have hfront : ∀ s, ¬ [m, d] <+: c :: c' :: s := by
          rintro s ⟨r, hr⟩
          obtain ⟨hc, hr⟩ := List.cons.inj hr
          exact hmarker ⟨hc.symm, (List.cons.inj hr).1.symm⟩
        have hrest : ¬ ((c' :: rest).getLast? = some m ∧ back.head? = some d) := by
          rwa [List.getLast?_cons_cons] at h
        rw [List.cons_append, List.cons_append, replaceAll_cons_of_apart (hfront _),
          ← List.cons_append, ih' c' hrest, replaceAll_cons_of_apart (hfront _),
          List.cons_append]

/-- A text with the characters that stand next to it on either side. -/
def inContext (front t back : List Char) : List Char :=
  front.getLast?.toList ++ (t ++ back.head?.toList)

/-- **A pass over what stands on either side.** If its marker is not found in a text or across one
of its ends, the text stays and the pass goes over both sides alike. -/
theorem replaceAll_between {d : Char} {value front t back : List Char}
    (h : ¬ ['$', d] <:+: inContext front t back) :
    replaceAll ['$', d] value (front ++ (t ++ back))
      = replaceAll ['$', d] value front ++ (t ++ replaceAll ['$', d] value back) := by
  have hin : ¬ ['$', d] <:+: t := by
    intro hinfix
    apply h
    exact hinfix.trans ⟨front.getLast?.toList, back.head?.toList, by simp [inContext]⟩
  have hback : ¬ (t.getLast? = some '$' ∧ back.head? = some d) := by
    rintro ⟨hlast, hhead⟩
    apply h
    refine (pair_infix_append_iff.mpr (Or.inr (Or.inl ?_)))
    exact pair_infix_append_iff.mpr (Or.inr (Or.inr ⟨hlast, by rw [hhead]; rfl⟩))
  have hfront : ¬ (front.getLast? = some '$' ∧ (t ++ back).head? = some d) := by
    rintro ⟨hlast, hhead⟩
    apply h
    refine pair_infix_append_iff.mpr (Or.inr (Or.inr ⟨by rw [hlast]; rfl, ?_⟩))
    cases t with
    | nil =>
        rw [List.nil_append] at hhead ⊢
        rw [hhead]
        rfl
    | cons c t => exact hhead
  rw [replaceAll_append_of_cut hfront, replaceAll_append_of_cut hback, replaceAll_eq_self hin]

/-! ## All passes -/

theorem fillFrom_append (number : Nat) (text : List Char) (args more : List (List Char)) :
    fillFrom number text (args ++ more)
      = fillFrom (number + args.length) (fillFrom number text args) more := by
  induction args generalizing number text with
  | nil => rfl
  | cons t args ih =>
      rw [List.cons_append, fillFrom, fillFrom, ih, List.length_cons]
      congr 1
      omega

/-- **All passes over what stands on either side** of a text in which no mark is found when its turn
comes, nor across its ends. -/
theorem fillFrom_between {t : List Char} (args : List (List Char)) :
    ∀ {number : Nat} {front back : List Char}, number + args.length ≤ 10 →
      (∀ m < args.length, ¬ mark (number + m)
        <:+: inContext (fillFrom number front (args.take m)) t
          (fillFrom number back (args.take m))) →
      fillFrom number (front ++ (t ++ back)) args
        = fillFrom number front args ++ (t ++ fillFrom number back args) := by
  induction args with
  | nil =>
      intro number front back _ _
      rfl
  | cons u args ih =>
      intro number front back hroom h
      rw [List.length_cons] at hroom
      -- the first pass, with the neighbours that the text has at the start
      have hfirst := h 0 (Nat.succ_pos _)
      rw [Nat.add_zero, mark_of_lt (by omega), List.take_zero, fillFrom, fillFrom] at hfirst
      have hpass : replaceAll (mark number) u (front ++ (t ++ back))
          = replaceAll (mark number) u front ++ (t ++ replaceAll (mark number) u back) := by
        rw [mark_of_lt (by omega)]
        exact replaceAll_between hfirst
      rw [fillFrom, fillFrom, fillFrom, hpass]
      apply ih (by omega)
      intro m hm
      have hlater := h (m + 1) (Nat.succ_lt_succ hm)
      rwa [List.take_succ_cons, fillFrom, fillFrom, show number + (m + 1) = number + 1 + m by omega]
        at hlater

/-- A mark of one digit is never part of another one. -/
theorem not_mark_infix_inContext_mark {m n : Nat} (hm : m < 10) (hn : n < 10) (hne : m ≠ n)
    (front back : List Char) : ¬ mark m <:+: inContext front (mark n) back := by
  have hdigit : digit m ≠ digit n := fun heq => hne (digit_injOn hm hn heq)
  have hdollar : '$' ≠ digit n := (digit_ne_dollar hn).symm
  have hdollar' : digit m ≠ '$' := digit_ne_dollar hm
  rw [mark_of_lt hm, mark_of_lt hn, inContext]
  cases front.getLast? <;> cases back.head? <;>
    simp [List.infix_cons_iff, List.cons_prefix_cons, hdigit, hdollar, hdollar']

/-- The pass for a mark puts the argument in its place. -/
theorem replaceAll_mark_between {n : Nat} (hn : n < 10) (t front back : List Char) :
    replaceAll (mark n) t (front ++ (mark n ++ back))
      = replaceAll (mark n) t front ++ (t ++ replaceAll (mark n) t back) := by
  have hcut : ¬ (front.getLast? = some '$' ∧ (mark n ++ back).head? = some (digit n)) := by
    rintro ⟨-, hhead⟩
    rw [mark_of_lt hn] at hhead
    exact digit_ne_dollar hn (Option.some.inj hhead).symm
  rw [← replaceAll_append (by simp [mark]), mark_of_lt hn]
  rw [mark_of_lt hn] at hcut
  exact replaceAll_append_of_cut hcut

/-- **The argument behind the first `n` stays** in the place between two texts: no later mark is
found in it or across one of its ends when the turn of that mark comes. Its neighbours are then
those that the arguments in front of the mark's own have left. -/
def Stays (args : List (List Char)) (room n : Nat) (t front back : List Char) : Prop :=
  ∀ m, n < m → m < min room args.length →
    ¬ mark (m + 1) <:+: inContext (fillFrom 1 front (args.take m)) t (fillFrom 1 back (args.take m))

/-- The arguments up to one that is there, and some behind it. -/
theorem take_of_getElem? {args : List (List Char)} {n : Nat} {t : List Char}
    (ht : args[n]? = some t) (k : Nat) :
    args.take (n + 1 + k) = args.take n ++ t :: (args.drop (n + 1)).take k := by
  obtain ⟨hlength, hget⟩ := List.getElem?_eq_some_iff.mp ht
  rw [Nat.add_assoc, List.take_add, List.drop_eq_getElem_cons hlength, hget, Nat.add_comm 1 k,
    List.take_succ_cons]

/-- **The place of an argument that stays**: it stands there as it is, and both sides are filled in
as if they stood alone. -/
theorem fillFrom_place {args : List (List Char)} {room n : Nat} {t front back : List Char}
    (hroom : room ≤ 9) (hn : n < room) (ht : args[n]? = some t)
    (hstays : Stays args room n t front back) :
    fillFrom 1 (front ++ (mark (n + 1) ++ back)) (args.take room)
      = fillFrom 1 front (args.take room) ++ (t ++ fillFrom 1 back (args.take room)) := by
  obtain ⟨hlength, -⟩ := List.getElem?_eq_some_iff.mp ht
  have hdone : (args.take n).length = n := by
    rw [List.length_take]
    omega
  obtain ⟨k, rfl⟩ : ∃ k, room = n + 1 + k := ⟨room - (n + 1), by omega⟩
  have hused := take_of_getElem? ht k
  -- the passes before that of the argument leave its mark alone
  have hbefore : fillFrom 1 (front ++ (mark (n + 1) ++ back)) (args.take n)
      = fillFrom 1 front (args.take n) ++ (mark (n + 1) ++ fillFrom 1 back (args.take n)) := by
    apply fillFrom_between (args.take n) (by omega)
    intro m hm
    exact not_mark_infix_inContext_mark (by omega) (by omega) (by omega) _ _
  rw [hused, fillFrom_append, fillFrom_append, fillFrom_append, hbefore, hdone, fillFrom, fillFrom,
    fillFrom, Nat.add_comm 1 n, replaceAll_mark_between (by omega)]
  -- the passes behind it leave the argument alone
  apply fillFrom_between
  · rw [List.length_take]
    omega
  · intro m hm
    rw [List.length_take, List.length_drop] at hm
    have hlater := hstays (n + 1 + m) (by omega) (by omega)
    rw [take_of_getElem? ht m, fillFrom_append, fillFrom_append, hdone, fillFrom, fillFrom,
      Nat.add_comm 1 n] at hlater
    rwa [List.take_take, Nat.min_eq_left (by omega), show n + 1 + 1 + m = n + 1 + m + 1 by omega]

/-- What follows the text that was filled in consists of spaces and of arguments for which there was
no room. -/
theorem Variant.exists_fill_eq (v : Variant) (args : List (List Char)) :
    ∃ extra, v.fill args = fillFrom 1 v.text.toList (args.take v.arity) ++ extra
      ∧ ∀ c ∈ extra, c = ' ' ∨ ∃ u ∈ args.drop v.arity, c ∈ u := by
  rw [fill]
  cases hdrop : args.drop v.arity with
  | nil => exact ⟨[], by simp, by simp⟩
  | cons u extra =>
      refine ⟨' ' :: joinTokens (u :: extra), rfl, ?_⟩
      intro c hc
      rcases List.mem_cons.mp hc with hspace | hjoined
      · exact Or.inl hspace
      · exact mem_joinTokens hjoined

/-- **An argument that stays stands in the destination.** -/
theorem Variant.infix_fill_of_stays {v : Variant} {args : List (List Char)} {n : Nat}
    {t front back : List Char} (hroom : v.arity ≤ 9) (hn : n < v.arity) (ht : args[n]? = some t)
    (htext : v.text.toList = front ++ (mark (n + 1) ++ back))
    (hstays : Stays args v.arity n t front back) : t <:+: v.fill args := by
  obtain ⟨extra, hfill, -⟩ := v.exists_fill_eq args
  rw [hfill, htext, fillFrom_place hroom hn ht hstays]
  refine ⟨fillFrom 1 front (args.take v.arity),
    fillFrom 1 back (args.take v.arity) ++ extra, ?_⟩
  simp only [List.append_assoc]

/-! ## Erasing -/

/-- Filling in an empty argument only takes characters away. -/
theorem replaceAll_nil_sublist (marker text : List Char) :
    (replaceAll marker [] text).Sublist text := by
  fun_induction replaceAll marker [] text with
  | case1 => exact List.Sublist.refl []
  | case2 c rest hmarker ih =>
      rw [List.nil_append]
      exact (ih.trans (List.drop_sublist _ _)).trans (List.sublist_cons_self c rest)
  | case3 c rest hmarker ih => exact ih.cons_cons c

/-- Where there is a marker, some of each of its characters go. -/
theorem count_replaceAll_nil_lt {marker text : List Char} {c : Char} (hc : c ∈ marker)
    (h : marker <:+: text) : (replaceAll marker [] text).count c < text.count c := by
  have hne : marker ≠ [] := List.ne_nil_of_mem hc
  induction text with
  | nil => exact absurd (List.infix_nil.mp h) hne
  | cons d text ih =>
      by_cases hmarker : marker <+: d :: text
      · obtain ⟨rest, hrest⟩ := hmarker
        have hless := (replaceAll_nil_sublist marker rest).count_le c
        have hsome := List.count_pos_iff.mpr hc
        rw [← hrest, replaceAll_append hne, List.nil_append, List.count_append]
        omega
      · have hlater := ih ((List.infix_cons_iff.mp h).resolve_left hmarker)
        rw [replaceAll_cons_of_apart hmarker, List.count_cons, List.count_cons]
        omega

theorem fillFrom_nil_sublist (r : Nat) :
    ∀ (number : Nat) (text : List Char),
      (fillFrom number text (List.replicate r [])).Sublist text := by
  induction r with
  | zero =>
      intro number text
      exact List.Sublist.refl text
  | succ r ih =>
      intro number text
      rw [List.replicate_succ, fillFrom]
      exact (ih (number + 1) _).trans (replaceAll_nil_sublist _ text)

/-- A text in which no mark is found stays as it is. -/
theorem fillFrom_eq_self {text : List Char} (args : List (List Char)) :
    ∀ {number : Nat}, (∀ j < args.length, ¬ mark (number + j) <:+: text) →
      fillFrom number text args = text := by
  induction args with
  | nil =>
      intro number _
      rfl
  | cons u args ih =>
      intro number h
      have hfirst : ¬ mark number <:+: text := h 0 (Nat.succ_pos _)
      rw [fillFrom, replaceAll_eq_self hfirst]
      apply ih
      intro j hj
      rw [Nat.add_assoc, Nat.add_comm 1 j]
      exact h (j + 1) (Nat.succ_lt_succ hj)

/-- **Where there is a mark, empty arguments take something away**: of the first mark that is found
when its turn comes, each character. -/
theorem exists_count_fillFrom_lt {text : List Char} {r : Nat} :
    ∀ {number : Nat}, (∃ j < r, mark (number + j) <:+: text) → ∃ j < r, ∀ c ∈ mark (number + j),
      (fillFrom number text (List.replicate r [])).count c < text.count c := by
  induction r with
  | zero =>
      rintro number ⟨j, hj, -⟩
      exact absurd hj (Nat.not_lt_zero j)
  | succ r ih =>
      rintro number ⟨j, hj, hmark⟩
      rw [List.replicate_succ, fillFrom]
      by_cases hfirst : mark number <:+: text
      · refine ⟨0, Nat.succ_pos r, ?_⟩
        intro c hc
        have hothers := fillFrom_nil_sublist r (number + 1) (replaceAll (mark number) [] text)
        exact Nat.lt_of_le_of_lt (hothers.count_le c) (count_replaceAll_nil_lt hc hfirst)
      · -- the pass changes nothing, so the mark is still there for one of the others
        have hlater : ∃ j < r, mark (number + 1 + j) <:+: text := by
          cases j with
          | zero => exact absurd hmark hfirst
          | succ j =>
              refine ⟨j, Nat.lt_of_succ_lt_succ hj, ?_⟩
              rwa [Nat.add_assoc, Nat.add_comm 1 j]
        obtain ⟨i, hi, hless⟩ := ih hlater
        refine ⟨i + 1, Nat.succ_lt_succ hi, ?_⟩
        rw [replaceAll_eq_self hfirst, ← Nat.add_assoc, Nat.add_right_comm]
        exact hless

/-! ## Loss -/

/-- Empty arguments, but for one. -/
def aloneAt (count n : Nat) (t : List Char) : List (List Char) :=
  List.replicate n [] ++ t :: List.replicate (count - (n + 1)) []

theorem length_aloneAt {count n : Nat} (h : n < count) (t : List Char) :
    (aloneAt count n t).length = count := by
  rw [aloneAt, List.length_append, List.length_cons, List.length_replicate, List.length_replicate]
  omega

theorem getElem?_aloneAt (count n : Nat) (t : List Char) : (aloneAt count n t)[n]? = some t := by
  simp [aloneAt]

theorem drop_aloneAt (count n : Nat) (t : List Char) :
    (aloneAt count n t).drop (n + 1) = List.replicate (count - (n + 1)) [] := by
  rw [aloneAt, List.append_cons]
  apply List.drop_left'
  rw [List.length_append, List.length_replicate, List.length_singleton]

/-- A text that shows the argument with number `n + 1` between two characters, if there are any. -/
def showing (room n : Nat) (left right : Option Char) : Variant where
  arity := room
  text := String.ofList (left.toList ++ (mark (n + 1) ++ right.toList))

theorem not_mark_infix_toList {n : Nat} (hn : n < 10) (o : Option Char) :
    ¬ mark n <:+: o.toList := by
  rw [mark_of_lt hn]
  intro hinfix
  have hlength := hinfix.length_le
  cases o <;> simp at hlength

/-- The text that shows an argument alone comes down to what empty arguments leave of it. -/
theorem fillFrom_showing {room count n : Nat} (hroom : room ≤ 9) (hn : n < room)
    (left right : Option Char) (t : List Char) :
    fillFrom 1 (showing room n left right).text.toList ((aloneAt count n t).take room)
      = fillFrom (n + 2) (left.toList ++ (t ++ right.toList))
          (List.replicate (min (room - (n + 1)) (count - (n + 1))) []) := by
  have htake : (aloneAt count n t).take room
      = List.replicate n [] ++ t :: List.replicate (min (room - (n + 1)) (count - (n + 1))) [] := by
    obtain ⟨k, rfl⟩ : ∃ k, room = n + 1 + k := ⟨room - (n + 1), by omega⟩
    rw [take_of_getElem? (getElem?_aloneAt count n t) k, drop_aloneAt, List.take_replicate,
      Nat.add_sub_cancel_left]
    simp [aloneAt]
  have hcontext : left.toList ++ (mark (n + 1) ++ right.toList)
      = inContext left.toList (mark (n + 1)) right.toList := by
    cases left <;> cases right <;> rfl
  have hbefore : fillFrom 1 (left.toList ++ (mark (n + 1) ++ right.toList)) (List.replicate n [])
      = left.toList ++ (mark (n + 1) ++ right.toList) := by
    apply fillFrom_eq_self
    intro j hj
    rw [List.length_replicate] at hj
    rw [hcontext]
    exact not_mark_infix_inContext_mark (by omega) (by omega) (by omega) _ _
  rw [showing, String.toList_ofList, htake, fillFrom_append, hbefore, List.length_replicate,
    fillFrom, Nat.add_comm 1 n, replaceAll_mark_between (by omega),
    replaceAll_eq_self (not_mark_infix_toList (by omega) left),
    replaceAll_eq_self (not_mark_infix_toList (by omega) right)]

/-- **An argument that is part of a mark is lost** where the other arguments are empty, if the marks
have something that its neighbours have not. -/
theorem not_infix_fill_showing {room count n : Nat} (hroom : room ≤ 9) (hn : n < room)
    {left right : Option Char} {t : List Char}
    (hmark : ∃ j < min (room - (n + 1)) (count - (n + 1)),
      mark (n + 2 + j) <:+: left.toList ++ (t ++ right.toList))
    (hneighbours : ∀ j < min (room - (n + 1)) (count - (n + 1)),
      ∃ c ∈ mark (n + 2 + j), c ∉ left.toList ∧ c ∉ right.toList) :
    ¬ t <:+: (showing room n left right).fill (aloneAt count n t) := by
  intro hinfix
  obtain ⟨j, hj, hless⟩ := exists_count_fillFrom_lt hmark
  obtain ⟨c, hc, hleft, hright⟩ := hneighbours j hj
  have hless := hless c hc
  obtain ⟨extra, hfill, hextra⟩ := (showing room n left right).exists_fill_eq (aloneAt count n t)
  have harity : (showing room n left right).arity = room := rfl
  rw [harity, fillFrom_showing hroom hn] at hfill
  rw [harity] at hextra
  -- neither the neighbours nor what follows have the character that is taken away
  have hspace : c ≠ ' ' := by
    rintro rfl
    obtain ⟨d, hd, hdigit⟩ := exists_digit_of_mem_natText (List.mem_of_ne_of_mem (by decide) hc)
    have hvalue := asciiDigit?_digit hd
    rw [← hdigit] at hvalue
    exact absurd hvalue (by simp [asciiDigit?])
  have hempty : (aloneAt count n t).drop room
      = List.replicate (count - (n + 1) - (room - (n + 1))) [] := by
    rw [← List.drop_replicate, ← drop_aloneAt count n t, List.drop_drop, Nat.add_sub_cancel' hn]
  have hnone : extra.count c = 0 := by
    apply List.count_eq_zero.mpr
    intro hmem
    rcases hextra c hmem with heq | ⟨u, hu, hcu⟩
    · exact hspace heq
    · rw [hempty] at hu
      rw [List.eq_of_mem_replicate hu] at hcu
      exact List.not_mem_nil hcu
  have hall := hinfix.sublist.count_le c
  rw [hfill, List.count_append, hnone] at hall
  rw [List.count_append, List.count_append, List.count_eq_zero.mpr hleft,
    List.count_eq_zero.mpr hright] at hless
  omega

/-! ## Inert arguments -/

/-- **An argument is inert** in its place if no later mark is found in it when it stands between a
dollar sign and the digit of that mark; an empty one always is. -/
def IsInert (room count n : Nat) (t : List Char) : Prop :=
  t = [] ∨ ∀ m, n < m → m < min room count →
    ¬ mark (m + 1) <:+: ['$'] ++ (t ++ [digit (m + 1)])

/-- An inert argument stays between whatever it is put. -/
theorem stays_of_isInert {args : List (List Char)} {room n : Nat} {t : List Char} (hroom : room ≤ 9)
    (hne : t ≠ []) (h : IsInert room args.length n t) (front back : List Char) :
    Stays args room n t front back := by
  intro m hnm hm hinfix
  apply h.resolve_left hne m hnm hm
  rw [mark_of_lt (by omega)] at hinfix ⊢
  generalize fillFrom 1 front (args.take m) = left at hinfix
  generalize fillFrom 1 back (args.take m) = right at hinfix
  have hshort := not_mark_infix_toList (n := m + 1) (by omega)
  rw [mark_of_lt (by omega)] at hshort
  rcases pair_infix_append_iff.mp hinfix with hleft | hinner | ⟨-, hhead⟩
  · exact absurd hleft (hshort _)
  · apply pair_infix_append_iff.mpr
    refine Or.inr (Or.inl ?_)
    rcases pair_infix_append_iff.mp hinner with hin | hright | ⟨hlast, -⟩
    · exact pair_infix_append_iff.mpr (Or.inl hin)
    · exact absurd hright (hshort _)
    · exact pair_infix_append_iff.mpr (Or.inr (Or.inr ⟨hlast, rfl⟩))
  · apply pair_infix_append_iff.mpr
    refine Or.inr (Or.inr ⟨rfl, ?_⟩)
    obtain ⟨c, rest, rfl⟩ := List.exists_cons_of_ne_nil hne
    exact hhead

/-- Every other argument is lost in some text. -/
theorem exists_not_infix_of_not_isInert {room count n : Nat} {t : List Char} (hroom : room ≤ 9)
    (hn : n < min room count) (h : ¬ IsInert room count n t) :
    ∃ left right, ¬ t <:+: (showing room n left right).fill (aloneAt count n t) := by
  have hlost : ∃ m, n < m ∧ m < min room count
      ∧ mark (m + 1) <:+: ['$'] ++ (t ++ [digit (m + 1)]) := by
    apply Classical.byContradiction
    intro hnone
    apply h
    refine Or.inr fun m hnm hm hinfix => hnone ⟨m, hnm, hm, hinfix⟩
  have hne : t ≠ [] := fun hnil => h (Or.inl hnil)
  obtain ⟨m, hnm, hm, hinfix⟩ := hlost
  have hindex : ∃ j < min (room - (n + 1)) (count - (n + 1)), n + 2 + j = m + 1 :=
    ⟨m - (n + 1), by omega, by omega⟩
  obtain ⟨i, hi, him⟩ := hindex
  have hdollar : ∀ j < min (room - (n + 1)) (count - (n + 1)), '$' ∈ mark (n + 2 + j) :=
    fun j _ => List.mem_cons_self
  rw [mark_of_lt (by omega)] at hinfix
  rcases pair_infix_append_iff.mp hinfix with hleft | hinner | ⟨-, hhead⟩
  · exact absurd hleft.length_le (by simp)
  · rcases pair_infix_append_iff.mp hinner with hin | hright | ⟨hlast, -⟩
    · -- the mark is in the argument
      refine ⟨none, none, not_infix_fill_showing hroom (by omega) ⟨i, hi, ?_⟩ ?_⟩
      · rw [him, mark_of_lt (by omega)]
        simpa using hin
      · exact fun j hj => ⟨'$', hdollar j hj, by simp, by simp⟩
    · exact absurd hright.length_le (by simp)
    · -- the argument ends with its dollar sign
      refine ⟨none, some (digit (m + 1)), not_infix_fill_showing hroom (by omega) ⟨i, hi, ?_⟩ ?_⟩
      · rw [him, mark_of_lt (by omega)]
        exact pair_infix_append_iff.mpr (Or.inr (Or.inl
          (pair_infix_append_iff.mpr (Or.inr (Or.inr ⟨hlast, rfl⟩)))))
      · intro j hj
        refine ⟨'$', hdollar j hj, by simp, ?_⟩
        have hne := digit_ne_dollar (n := m + 1) (by omega)
        simpa using hne.symm
  · -- the argument begins with its digit
    refine ⟨some '$', none, not_infix_fill_showing hroom (by omega) ⟨i, hi, ?_⟩ ?_⟩
    · rw [him, mark_of_lt (by omega)]
      refine pair_infix_append_iff.mpr (Or.inr (Or.inr ⟨rfl, ?_⟩))
      obtain ⟨c, rest, rfl⟩ := List.exists_cons_of_ne_nil hne
      exact hhead
    · intro j hj
      refine ⟨digit (n + 2 + j), ?_, ?_, by simp⟩
      · rw [mark_of_lt (by omega)]
        simp
      · have hne := digit_ne_dollar (n := n + 2 + j) (by omega)
        simpa using hne

/-! ## Arguments without dollar signs -/

/-- A text that was filled in ends with a dollar sign only if it did so before, if none is brought
and no two stand side by side. -/
theorem getLast?_fillAtOnce {value? : Char → Option (List Char)}
    (hvalue : ∀ d u, value? d = some u → '$' ∉ u) {text : List Char}
    (htext : ¬ ['$', '$'] <:+: text) (hlast : text.getLast? ≠ some '$') :
    (fillAtOnce value? text).getLast? ≠ some '$' := by
  fun_induction fillAtOnce value? text with
  | case1 d rest u hu ih =>
      have hrest : rest.getLast? ≠ some '$' := by
        intro heq
        apply hlast
        rw [List.getLast?_cons_cons, List.getLast?_cons, heq]
        rfl
      have hlater := ih (not_infix_of_cons (not_infix_of_cons htext)) hrest
      rw [List.getLast?_append]
      cases hfilled : (fillAtOnce value? rest).getLast? with
      | none =>
          rw [Option.none_or]
          exact fun heq => hvalue d u hu (List.mem_of_getLast? heq)
      | some c =>
          rw [Option.some_or, ← hfilled]
          exact hlater
  | case2 d rest hnone ih =>
      rw [List.getLast?_cons_cons] at hlast
      have hlater := ih (not_infix_of_cons htext) hlast
      have hdollar : d ≠ '$' := by
        rintro rfl
        exact htext ⟨[], rest, rfl⟩
      rw [fillAtOnce_cons_of_ne hdollar] at hlater ⊢
      rwa [List.getLast?_cons_cons]
  | case3 c rest hplain ih =>
      cases rest with
      | nil => simpa [fillAtOnce] using hlast
      | cons d rest =>
          rw [List.getLast?_cons_cons] at hlast
          have hlater := ih (not_infix_of_cons htext) hlast
          rw [List.getLast?_cons]
          cases hfilled : (fillAtOnce value? (d :: rest)).getLast? with
          | none =>
              intro heq
              have hdollar : c ≠ '$' := by
                rintro rfl
                exact hplain d rest rfl rfl
              exact hdollar (Option.some.inj heq)
          | some e =>
              rw [hfilled] at hlater
              exact hlater
  | case4 => simp

/-- The first passes over such a text, as a single reading. -/
theorem fillFrom_one_eq_fillAtOnce {text : List Char} {args : List (List Char)}
    (htext : ¬ ['$', '$'] <:+: text) (hargs : ∀ u ∈ args, '$' ∉ u) :
    fillFrom 1 text args = fillAtOnce (argumentFor? args) text := by
  have hnone : ∀ d, argumentFor? [] d = none := by
    intro d
    unfold argumentFor?
    split <;> simp
  have hdone : ∀ u ∈ [] ++ args, '$' ∉ u := hargs
  have hpasses := fillFrom_fillAtOnce htext hdone
  rwa [fillAtOnce_eq_self hnone] at hpasses

/-- **Every argument stays** if none of those that are filled in brings a dollar sign and no two
stand side by side in the text. -/
theorem stays_of_noDollar {args : List (List Char)} {room n : Nat} {t front back : List Char}
    (hroom : room ≤ 9) (hn : n < room) (ht : args[n]? = some t)
    (hargs : ∀ u ∈ args.take room, '$' ∉ u)
    (htext : ¬ ['$', '$'] <:+: front ++ (mark (n + 1) ++ back)) :
    Stays args room n t front back := by
  intro m hnm hm hinfix
  have hmem : t ∈ args.take room := by
    apply List.mem_of_getElem? (i := n)
    rw [List.getElem?_take_of_lt hn, ht]
  have hplain : '$' ∉ t := hargs t hmem
  have hfront : ¬ ['$', '$'] <:+: front :=
    fun h => htext (pair_infix_append_iff.mpr (Or.inl h))
  have hlast : front.getLast? ≠ some '$' := by
    intro heq
    exact htext (pair_infix_append_iff.mpr (Or.inr (Or.inr ⟨heq, rfl⟩)))
  have hearlier : ∀ u ∈ args.take m, '$' ∉ u := by
    intro u hu
    exact hargs u ((List.take_prefix_take_left (by omega)).subset hu)
  have hvalue : ∀ d u, argumentFor? (args.take m) d = some u → '$' ∉ u := by
    intro d u hu
    obtain ⟨k, -, -, hget⟩ := exists_of_argumentFor? hu
    exact hearlier u (List.mem_of_getElem? hget)
  rw [fillFrom_one_eq_fillAtOnce hfront hearlier, mark_of_lt (by omega)] at hinfix
  have hshort := not_mark_infix_toList (n := m + 1) (by omega)
  rw [mark_of_lt (by omega)] at hshort
  rcases pair_infix_append_iff.mp hinfix with hleft | hinner | ⟨hleft, -⟩
  · exact hshort _ hleft
  · rcases pair_infix_append_iff.mp hinner with hin | hright | ⟨hend, -⟩
    · exact hplain (hin.subset List.mem_cons_self)
    · exact hshort _ hright
    · exact hplain (List.mem_of_getLast? hend)
  · apply getLast?_fillAtOnce hvalue hfront hlast
    cases hfilled : (fillAtOnce (argumentFor? (args.take m)) front).getLast? with
    | none => exact absurd hleft (by simp [hfilled])
    | some c => simpa [hfilled] using hleft

/-! ## Which arguments are data -/

/-- **Which arguments are data.** In a text with room for nine arguments at most, take the one
behind the first `n`, in a list of `count`.

It stands in the destination as it was typed if, at one of the places of its mark, no later mark is
found in it or across one of its ends when the turn of that mark comes. That is so at every place if
no argument that is filled in brings a dollar sign and no two stand side by side in the text. It is
so for every text and whatever the other arguments are just if the argument is inert. -/
theorem Variant.fill_keeps_argument {room count n : Nat} (hroom : room ≤ 9)
    (hn : n < min room count) (t : List Char) :
    (∀ (v : Variant) (args : List (List Char)) (front back : List Char),
        v.arity = room → args.length = count → args[n]? = some t →
        v.text.toList = front ++ (mark (n + 1) ++ back) →
        Stays args room n t front back
          ∨ ((∀ u ∈ args.take room, '$' ∉ u) ∧ ¬ ['$', '$'] <:+: v.text.toList) →
        t <:+: v.fill args)
    ∧ ((∀ (v : Variant) (args : List (List Char)),
        v.arity = room → args.length = count → args[n]? = some t →
        mark (n + 1) <:+: v.text.toList → t <:+: v.fill args)
      ↔ IsInert room count n t) := by
  constructor
  · rintro v args front back rfl rfl ht htext (hstays | ⟨hargs, hdollars⟩)
    · exact Variant.infix_fill_of_stays hroom (by omega) ht htext hstays
    · rw [htext] at hdollars
      have hstays := stays_of_noDollar hroom (by omega) ht hargs hdollars
      exact Variant.infix_fill_of_stays hroom (by omega) ht htext hstays
  · constructor
    · intro hall
      apply Classical.byContradiction
      intro hlost
      obtain ⟨left, right, hnot⟩ := exists_not_infix_of_not_isInert hroom hn hlost
      apply hnot
      apply hall _ _ rfl (length_aloneAt (by omega) t) (getElem?_aloneAt count n t)
      rw [showing, String.toList_ofList]
      exact ⟨left.toList, right.toList, by simp⟩
    · rintro hinert v args rfl rfl ht ⟨front, back, htext⟩
      by_cases hne : t = []
      · rw [hne]
        exact List.nil_infix
      · have hstays := stays_of_isInert hroom hne hinert front back
        rw [List.append_assoc] at htext
        exact Variant.infix_fill_of_stays hroom (by omega) ht htext.symm hstays

/-- A year stays between plain neighbours though it begins with the digit of a later mark, and the
text of the first mark stays whatever follows it. -/
theorem Variant.fill_keeps_argument_year :
    2 ≤ 9 ∧ 0 < min 2 2
      ∧ "2020".toList
        <:+: (⟨2, "https://x.io/$1?by=$2"⟩ : Variant).fill ["2020".toList, "$1".toList]
      ∧ ∀ (v : Variant) (args : List (List Char)), v.arity = 2 → args.length = 2 →
        args[0]? = some "$1".toList → mark 1 <:+: v.text.toList → "$1".toList <:+: v.fill args := by
  refine ⟨by decide, by decide, ?_, ?_⟩
  · have hstays : Stays ["2020".toList, "$1".toList] 2 0 "2020".toList
        "https://x.io/".toList "?by=$2".toList := by
      intro m hm hm'
      obtain rfl : m = 1 := by
        simp only [List.length_cons, List.length_nil] at hm'
        omega
      decide +kernel
    exact (Variant.fill_keeps_argument (by decide) (by decide) "2020".toList).1 _ _ _ _ rfl rfl rfl
      (by decide +kernel) (Or.inl hstays)
  · have hinert : IsInert 2 2 0 "$1".toList := by
      refine Or.inr fun m hm hm' => ?_
      obtain rfl : m = 1 := by omega
      decide +kernel
    exact (Variant.fill_keeps_argument (by decide) (by decide) "$1".toList).2.mpr hinert

/-- An argument that has the form of a later mark is read as that mark. -/
theorem Variant.argument_is_read_as_mark :
    let v : Variant := ⟨2, "https://x.io/$1/$2"⟩
    let args := ["$2".toList, "x".toList]
    v.arity ≤ 9 ∧ 0 < min v.arity args.length ∧ args[0]? = some "$2".toList
      ∧ mark 1 <:+: v.text.toList ∧ v.fill args = "https://x.io/x/x".toList
      ∧ ¬ "$2".toList <:+: v.fill args := by
  decide +kernel

end Shortlink
