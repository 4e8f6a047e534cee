import Shortlink.Proofs.Text.Cutting
import Shortlink.Proofs.Text.Escapes
import Shortlink.Web.Message

/-!
# Reading the target of a request

A look-up takes the path as it was written, with `%20` as spaces, and is decoded later. The early
rewriting does not change what the text stands for (`unescape_spaced`): a space that it puts in the
place of an escape neither completes nor breaks another one. So whatever written form of a path a
client sends, the path is read from it, and what is looked up decodes to the path without the slash
in front (`decode_lookup_of_slash`), or with it where even that is escaped
(`decode_lookup_of_escape`).

## Contents

- **Spaces.** `spaced_cons_of_ne`, `exists_of_spaced_eq_cons`; `unescape_spaced`.
- **Targets.** `isTargetChar`, `Request.Writes`; `path_of_writes`, `ofTarget_cut`,
  `path_ofTarget`; `decode_lookup_of_slash`, `decode_lookup_of_escape`.
-/

namespace Shortlink.Web

open Text Request

/-! ## Spaces -/

/-- No rewriting begins at a character that is no percent sign. -/
theorem spaced_cons_of_ne {c : Char} (h : c ≠ '%') (rest : List Char) :
    spaced (c :: rest) = c :: spaced rest := by
  rw [spaced]
  intro back hc
  exact absurd hc h

/-- A character that is no space was there before. -/
theorem exists_of_spaced_eq_cons {s back : List Char} {c : Char} (h : spaced s = c :: back)
    (hspace : c ≠ ' ') : ∃ rest, s = c :: rest ∧ spaced rest = back := by
  unfold spaced at h
  split at h
  · exact absurd (List.cons.inj h).1.symm hspace
  · next rest _ =>
      obtain ⟨rfl, hback⟩ := List.cons.inj h
      exact ⟨rest, rfl, hback⟩
  · exact absurd h (by simp)

theorem ne_of_isSome_hexValue? {c : Char} (h : (Percent.hexValue? c).isSome = true) :
    c ≠ '%' ∧ c ≠ ' ' := by
  constructor
  · rintro rfl
    exact absurd h (by decide)
  · rintro rfl
    exact absurd h (by decide)

/-- **Writing `%20` as spaces leaves the bytes that a text stands for.** -/
theorem unescape_spaced (s : List Char) :
    Percent.unescape (spaced s) = Percent.unescape s := by
  fun_induction spaced s with
  | case1 rest ih =>
      have hbyte : Percent.byte? '2' '0' = some 0x20 := by decide
      rw [Percent.unescape_escape hbyte, Percent.unescape_cons_of_ne (by decide), ih]
      rfl
  | case2 c rest hplain ih =>
      by_cases hc : c = '%'
      · subst hc
        by_cases hescape : ∃ high low back b,
            rest = high :: low :: back ∧ Percent.byte? high low = some b
        · -- the digits of an escape stay where they are
          obtain ⟨high, low, back, b, rfl, hbyte⟩ := hescape
          obtain ⟨hhigh, hlow⟩ := Percent.isSome_byte?_iff.mp (Option.isSome_of_eq_some hbyte)
          have hhigh := (ne_of_isSome_hexValue? hhigh).1
          have hlow := (ne_of_isSome_hexValue? hlow).1
          rw [spaced_cons_of_ne hhigh, spaced_cons_of_ne hlow, Percent.unescape_cons_of_ne hhigh,
            Percent.unescape_cons_of_ne hhigh, Percent.unescape_cons_of_ne hlow,
            Percent.unescape_cons_of_ne hlow] at ih
          rw [spaced_cons_of_ne hhigh, spaced_cons_of_ne hlow, Percent.unescape_escape hbyte,
            Percent.unescape_escape hbyte, List.append_cancel_left (List.append_cancel_left ih)]
        · -- where there were no digits, there are none now
          have hnone : ∀ high low back, spaced rest = high :: low :: back →
              Percent.byte? high low = none := by
            intro high low back hback
            refine Option.eq_none_iff_forall_ne_some.mpr fun b hbyte => hescape ?_
            obtain ⟨hhigh, hlow⟩ := Percent.isSome_byte?_iff.mp (Option.isSome_of_eq_some hbyte)
            obtain ⟨rest', rfl, hrest⟩ :=
              exists_of_spaced_eq_cons hback (ne_of_isSome_hexValue? hhigh).2
            obtain ⟨rest'', rfl, -⟩ :=
              exists_of_spaced_eq_cons hrest (ne_of_isSome_hexValue? hlow).2
            exact ⟨high, low, rest'', b, rfl, hbyte⟩
          have hnone' : ∀ high low back, rest = high :: low :: back →
              Percent.byte? high low = none := by
            intro high low back hback
            refine Option.eq_none_iff_forall_ne_some.mpr fun b hbyte => hescape ?_
            exact ⟨high, low, back, b, hback, hbyte⟩
          rw [Percent.unescape_percent_of_ne hnone, Percent.unescape_percent_of_ne hnone', ih]
      · rw [Percent.unescape_cons_of_ne hc, Percent.unescape_cons_of_ne hc, ih]
  | case3 => rfl

/-! ## Targets -/

/-- A character that may stand in the path of a target as it is: printable ASCII without the space,
the percent sign and what ends a path. -/
def isTargetChar (c : Char) : Bool :=
  0x21 ≤ c.toNat && c.toNat ≤ 0x7E && c != '%' && c != '?' && c != '#'

/-- The part of a target that is its path. -/
def targetPath (target : String) : List Char :=
  target.toList.takeWhile (· != '?')

/-- **The target is a written form of the path**, perhaps with a query behind it. -/
def Writes (target : String) (path : List Char) : Prop :=
  Percent.IsWritten isTargetChar path (targetPath target)

section

variable {method target : String} {headers : List (String × String)} {body : List UInt8}
  {path : List Char}

theorem path_of_writes (h : Writes target path) (keepsRawPath : Bool) :
    (ofTarget method target headers body keepsRawPath).path = path :=
  h.decodeLossy_eq (by decide)

/-- **The first question mark cuts a target** into its path and its query. -/
theorem ofTarget_cut {front query : List Char} (hfront : '?' ∉ front) (keepsRawPath : Bool) :
    let r := ofTarget method (String.ofList (front ++ '?' :: query)) headers body keepsRawPath
    r.path = Percent.decodeLossy front ∧ r.query = query := by
  have hmark : ∀ c ∈ front, (c != '?') = true := bne_of_not_mem hfront
  dsimp only [ofTarget]
  rw [String.toList_ofList, takeWhile_cut hmark (by decide), dropWhile_cut hmark (by decide)]
  exact ⟨rfl, rfl⟩

/-- A path in front of a query, or of nothing, is read as it is if it needs no escape. -/
theorem path_ofTarget {front query : List Char} (hfront : '?' ∉ front) (hpercent : '%' ∉ front)
    (hquery : ∀ c ∈ query.head?, c = '?') (keepsRawPath : Bool) :
    (ofTarget method (String.ofList (front ++ query)) headers body keepsRawPath).path = front := by
  cases query with
  | nil =>
      have hall : front.takeWhile (· != '?') = front :=
        List.takeWhile_eq_self_iff.mpr (bne_of_not_mem hfront)
      show Percent.decodeLossy (List.takeWhile _ (String.ofList (front ++ [])).toList) = front
      rw [List.append_nil, String.toList_ofList, hall, Percent.decodeLossy_eq_self hpercent]
  | cons c query =>
      obtain rfl := hquery c rfl
      rw [(ofTarget_cut hfront keepsRawPath).1, Percent.decodeLossy_eq_self hpercent]

/-- What is looked up, with `%20` still written out: the written path without a slash in front. -/
theorem lookup_ofTarget (hne : targetPath target ≠ []) :
    (ofTarget method target headers body true).lookup
      = spaced (if (targetPath target).head? = some '/' then (targetPath target).drop 1
        else targetPath target) := by
  have hraw : (ofTarget method target headers body true).rawPath = some (targetPath target) := by
    show (if (true && !(targetPath target).isEmpty) = true then _ else _) = _
    rw [Bool.true_and, if_pos]
    · rfl
    · simpa using hne
  unfold lookup
  rw [hraw]
  rfl

/-- A written form of nothing is empty, and no other is. -/
theorem targetPath_ne_nil (h : Writes target path) (hpath : path ≠ []) :
    targetPath target ≠ [] := by
  intro hnil
  refine hpath ?_
  have hdecode := h.decode_eq (by decide)
  rw [hnil] at hdecode
  exact hdecode.symm

theorem decode_spaced {s written : List Char} (h : Percent.IsWritten isTargetChar s written) :
    Percent.decode (spaced written) = s := by
  rw [Percent.decode, unescape_spaced, h.unescape_eq (by decide), Utf8.decode?_encode,
    Option.getD_some]

/-- **A slash in front is not looked up.** -/
theorem decode_lookup_of_slash (h : Writes target path)
    (hslash : (targetPath target).head? = some '/') :
    Percent.decode (ofTarget method target headers body true).lookup = path.drop 1 := by
  obtain ⟨written, hwritten⟩ := List.head?_eq_some_iff.mp hslash
  rw [lookup_ofTarget (by rw [hwritten]; exact List.cons_ne_nil _ _), if_pos hslash, hwritten]
  unfold Writes at h
  rw [hwritten] at h
  obtain ⟨s, rfl, hs⟩ := h.exists_of_cons (by decide)
  exact decode_spaced hs

/-- **A slash that is escaped is looked up with the rest.** -/
theorem decode_lookup_of_escape (h : Writes target path) (hpath : path ≠ [])
    (hslash : (targetPath target).head? ≠ some '/') :
    Percent.decode (ofTarget method target headers body true).lookup = path := by
  rw [lookup_ofTarget (targetPath_ne_nil h hpath), if_neg hslash]
  exact decode_spaced h

end

end Shortlink.Web
