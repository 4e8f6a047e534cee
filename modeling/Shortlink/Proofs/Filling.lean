import Shortlink.Lookup
import Shortlink.Proofs.Text.Digits

/-!
# Arguments filled in at once

A variant is filled by one pass over the whole text for each argument, and a later pass also reads
what the earlier ones put in. If no argument brings a dollar sign, and no two of them stand side by
side in the text, the passes do not meddle with each other: the result is that of a single reading,
in which each mark of one digit gives way to its argument (`Variant.fill_eq_fillAtOnce`). A mark of
two digits is never met by its own pass, for that of its first digit came before.

## Contents

- `fillAtOnce`: the single reading, over any assignment of texts to marks.
- `argumentFor?`: the argument that a digit names.
- `replaceAll_append_of_not_mem`, `replaceAll_fillAtOnce`: one pass over what was filled in.
- `fillFrom_fillAtOnce`: all passes; `Variant.fill_eq_fillAtOnce`.
-/

namespace Shortlink

open Text

/-! ## A single reading -/

/-- Reads a text once, from left to right, and puts texts in the place of the marks that have one: a
mark is a dollar sign and the character behind it. -/
def fillAtOnce (value? : Char → Option (List Char)) : List Char → List Char
  | '$' :: d :: rest =>
    match value? d with
    | some t => t ++ fillAtOnce value? rest
    | none => '$' :: fillAtOnce value? (d :: rest)
  | c :: rest => c :: fillAtOnce value? rest
  | [] => []

/-- The argument that a digit names, the first one if it is a one. -/
def argumentFor? (args : List (List Char)) (d : Char) : Option (List Char) :=
  match asciiDigit? d with
  | some (n + 1) => args[n]?
  | _ => none

section

variable {value? value?' : Char → Option (List Char)} {text : List Char}

theorem fillAtOnce_cons_of_ne {c : Char} (h : c ≠ '$') (rest : List Char) :
    fillAtOnce value? (c :: rest) = c :: fillAtOnce value? rest := by
  rw [fillAtOnce]
  intro d back hc
  exact absurd hc h

theorem fillAtOnce_of_some {d : Char} {t : List Char} (h : value? d = some t) (rest : List Char) :
    fillAtOnce value? ('$' :: d :: rest) = t ++ fillAtOnce value? rest := by
  rw [fillAtOnce, h]

theorem fillAtOnce_of_none {d : Char} (h : value? d = none) (rest : List Char) :
    fillAtOnce value? ('$' :: d :: rest) = '$' :: fillAtOnce value? (d :: rest) := by
  rw [fillAtOnce, h]

/-- Where no mark has a text, nothing is filled in. -/
theorem fillAtOnce_eq_self (h : ∀ d, value? d = none) (text : List Char) :
    fillAtOnce value? text = text := by
  fun_induction fillAtOnce value? text with
  | case1 d rest t ht ih => exact absurd ht (by simp [h d])
  | case2 d rest ht ih => rw [ih]
  | case3 c rest hmark ih => rw [ih]
  | case4 => rfl

/-! ## One pass -/

/-- A pass leaves alone what does not begin its marker. -/
theorem replaceAll_cons_of_ne {m c : Char} (h : c ≠ m) (ms t rest : List Char) :
    replaceAll (m :: ms) t (c :: rest) = c :: replaceAll (m :: ms) t rest := by
  refine replaceAll_cons_of_apart ?_
  rintro ⟨back, hback⟩
  exact h (List.cons.inj hback).1.symm

theorem replaceAll_append_of_not_mem {m : Char} {ms t front : List Char} (h : m ∉ front)
    (back : List Char) :
    replaceAll (m :: ms) t (front ++ back) = front ++ replaceAll (m :: ms) t back := by
  induction front with
  | nil => rfl
  | cons c front ih =>
      obtain ⟨hc, hfront⟩ := not_or.mp (mt List.mem_cons.mpr h)
      rw [List.cons_append, replaceAll_cons_of_ne (Ne.symm hc), ih hfront, List.cons_append]

theorem not_infix_of_cons {c : Char} {pair rest : List Char} (h : ¬ pair <:+: c :: rest) :
    ¬ pair <:+: rest :=
  fun hrest => h (hrest.trans (List.suffix_cons c rest).isInfix)

/-- **One pass over what was filled in** fills in one mark more. What stands there already has no
dollar sign, so the pass sees only marks of the text: the one that it is for, or, if its marker is
longer than a mark, none, for the mark that it begins with is gone. -/
theorem replaceAll_fillAtOnce {d : Char} {more t : List Char}
    (hfilled : ∀ e v, value? e = some v → '$' ∉ v ∧ value?' e = some v)
    (hmark : value? d = none → more = [] ∧ value?' d = some t)
    (hothers : ∀ e, e ≠ d → value? e = none → value?' e = none)
    (htext : ¬ ['$', '$'] <:+: text) :
    replaceAll ('$' :: d :: more) t (fillAtOnce value? text) = fillAtOnce value?' text := by
  fun_induction fillAtOnce value? text with
  | case1 e rest v hv ih =>
      obtain ⟨hdollar, hv'⟩ := hfilled e v hv
      rw [replaceAll_append_of_not_mem hdollar, fillAtOnce_of_some hv',
        ih (not_infix_of_cons (not_infix_of_cons htext))]
  | case2 e rest hnone ih =>
      have hpass := ih (not_infix_of_cons htext)
      have hdollar : e ≠ '$' := by
        rintro rfl
        exact htext ⟨[], rest, rfl⟩
      by_cases he : e = d
      · -- the mark of this pass
        subst he
        obtain ⟨rfl, hvalue⟩ := hmark hnone
        rw [fillAtOnce_cons_of_ne hdollar, fillAtOnce_cons_of_ne hdollar,
          replaceAll_cons_of_ne hdollar] at hpass
        rw [fillAtOnce_cons_of_ne hdollar, fillAtOnce_of_some hvalue]
        show replaceAll ['$', e] t (['$', e] ++ fillAtOnce value? rest) = _
        rw [replaceAll_append (List.cons_ne_nil _ _), (List.cons.inj hpass).2]
      · have hnot : ¬ ('$' :: d :: more) <+: '$' :: fillAtOnce value? (e :: rest) := by
          rintro ⟨back, hback⟩
          rw [fillAtOnce_cons_of_ne hdollar] at hback
          exact he (List.cons.inj (List.cons.inj hback).2).1.symm
        rw [replaceAll_cons_of_apart hnot, hpass, fillAtOnce_of_none (hothers e he hnone)]
  | case3 c rest hplain ih =>
      have hnot : ¬ ('$' :: d :: more) <+: c :: fillAtOnce value? rest := by
        rintro ⟨back, hback⟩
        obtain ⟨rfl, hrest⟩ := List.cons.inj hback
        cases rest with
        | nil => exact absurd hrest (by simp [fillAtOnce])
        | cons e rest => exact hplain e rest rfl rfl
      rw [replaceAll_cons_of_apart hnot, ih (not_infix_of_cons htext), fillAtOnce]
      exact hplain
  | case4 => rw [replaceAll_nil, fillAtOnce]

end

/-! ## All passes -/

theorem argumentFor?_of_lt {args : List (List Char)} {n : Nat} (h : n < 9) :
    argumentFor? args (digit (n + 1)) = args[n]? := by
  rw [argumentFor?, asciiDigit?_digit (by omega)]

/-- A digit that names an argument is that of the argument's number. -/
theorem exists_of_argumentFor? {args : List (List Char)} {d : Char} {t : List Char}
    (h : argumentFor? args d = some t) : ∃ n < 9, d = digit (n + 1) ∧ args[n]? = some t := by
  unfold argumentFor? at h
  split at h
  · next n hd =>
      obtain ⟨hn, rfl⟩ := eq_digit_of_asciiDigit? hd
      exact ⟨n, by omega, rfl, h⟩
  · exact absurd h (by simp)

/-- **The pass for one argument more.** -/
theorem replaceAll_mark {done : List (List Char)} (hdone : ∀ u ∈ done, '$' ∉ u) (t : List Char)
    {text : List Char} (htext : ¬ ['$', '$'] <:+: text) :
    replaceAll (mark (done.length + 1)) t (fillAtOnce (argumentFor? done) text)
      = fillAtOnce (argumentFor? (done ++ [t])) text := by
  obtain ⟨n, more, hn, htext', hsize⟩ := exists_natText_eq_cons (Nat.succ_pos done.length)
  rw [mark, htext']
  refine replaceAll_fillAtOnce ?_ ?_ ?_ htext
  · -- the arguments that are there keep their marks
    intro e v hv
    obtain ⟨k, hk, rfl, hget⟩ := exists_of_argumentFor? hv
    refine ⟨hdone v (List.mem_of_getElem? hget), ?_⟩
    rw [argumentFor?_of_lt hk,
      List.getElem?_append_left (List.getElem?_eq_some_iff.mp hget).1, hget]
  · intro hnone
    rw [argumentFor?_of_lt hn, List.getElem?_eq_none_iff] at hnone
    rcases hsize with ⟨hlast, hmore⟩ | hlong
    · refine ⟨hmore, ?_⟩
      have hindex : n = done.length := by omega
      rw [argumentFor?_of_lt hn, hindex, List.getElem?_concat_length]
    · omega
  · intro e he hnone
    refine Option.eq_none_iff_forall_ne_some.mpr fun v hv => ?_
    obtain ⟨k, hk, rfl, hget⟩ := exists_of_argumentFor? hv
    rw [argumentFor?_of_lt hk, List.getElem?_eq_none_iff] at hnone
    -- only the last argument is new, and its mark is the one of this pass
    have hlast : k < (done ++ [t]).length := (List.getElem?_eq_some_iff.mp hget).1
    rw [List.length_append, List.length_singleton] at hlast
    rcases hsize with ⟨hsame, -⟩ | hlong
    · exact he (congrArg (fun i => digit (i + 1)) (by omega))
    · omega

/-- **All passes together.** -/
theorem fillFrom_fillAtOnce {text : List Char} (htext : ¬ ['$', '$'] <:+: text)
    {rest : List (List Char)} :
    ∀ {done : List (List Char)}, (∀ u ∈ done ++ rest, '$' ∉ u) →
      fillFrom (done.length + 1) (fillAtOnce (argumentFor? done) text) rest
        = fillAtOnce (argumentFor? (done ++ rest)) text := by
  induction rest with
  | nil =>
      intro done _
      rw [fillFrom, List.append_nil]
  | cons t rest ih =>
      intro done h
      have hdone : ∀ u ∈ done, '$' ∉ u := fun u hu => h u (List.mem_append_left _ hu)
      have hmore := @ih (done ++ [t]) (by rwa [List.append_assoc])
      rw [List.length_append, List.length_singleton, List.append_assoc] at hmore
      rw [fillFrom, replaceAll_mark hdone t htext]
      exact hmore

/-- **The arguments are filled in as by a single reading of the text.** If no two dollar signs stand
side by side in the text and no argument has one, each mark of one digit gives way to its argument,
everything else stays, and the arguments for which there is no room follow after a space. -/
theorem Variant.fill_eq_fillAtOnce (v : Variant) {args : List (List Char)}
    (htext : ¬ ['$', '$'] <:+: v.text.toList) (hargs : ∀ t ∈ args, '$' ∉ t) :
    v.fill args = fillAtOnce (argumentFor? (args.take v.arity)) v.text.toList
      ++ if v.arity < args.length then ' ' :: joinTokens (args.drop v.arity) else [] := by
  have hfilled : fillFrom 1 v.text.toList (args.take v.arity)
      = fillAtOnce (argumentFor? (args.take v.arity)) v.text.toList := by
    have hnone : ∀ d, argumentFor? [] d = none := by
      intro d
      refine Option.eq_none_iff_forall_ne_some.mpr fun t ht => ?_
      obtain ⟨n, -, -, hget⟩ := exists_of_argumentFor? ht
      exact absurd hget (by simp)
    have hall : ∀ u ∈ [] ++ args.take v.arity, '$' ∉ u :=
      fun u hu => hargs u (List.mem_of_mem_take hu)
    have hpasses := fillFrom_fillAtOnce htext hall
    rwa [fillAtOnce_eq_self hnone] at hpasses
  rw [fill, hfilled]
  cases hdrop : args.drop v.arity with
  | nil =>
      rw [List.drop_eq_nil_iff] at hdrop
      rw [if_neg (Nat.not_lt.mpr hdrop), List.append_nil]
  | cons t extra =>
      have hlt : v.arity < args.length := by
        refine Nat.lt_of_not_le fun hle => ?_
        rw [List.drop_eq_nil_of_le hle] at hdrop
        exact absurd hdrop (by simp)
      rw [if_pos hlt]

/-- Eleven arguments for a text that has room for ten: the first one also takes the head of `$10`,
and its own first character is a digit; the second one is empty. -/
theorem Variant.fill_eq_fillAtOnce_ten :
    let v : Variant := ⟨10, "$1$2/$10$x"⟩
    let args := ["0", "", "c", "d", "e", "f", "g", "h", "i", "j", "k"].map String.toList
    ¬ ['$', '$'] <:+: v.text.toList ∧ (∀ t ∈ args, '$' ∉ t)
      ∧ v.fill args = "0/00$x k".toList := by
  intro v args
  have htext : ¬ ['$', '$'] <:+: v.text.toList := by decide +kernel
  have hargs : ∀ t ∈ args, '$' ∉ t := by decide
  refine ⟨htext, hargs, ?_⟩
  rw [v.fill_eq_fillAtOnce htext hargs]
  decide +kernel

end Shortlink
