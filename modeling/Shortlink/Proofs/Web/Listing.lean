import Shortlink.Proofs.Text.Cutting
import Shortlink.Proofs.Text.Digits
import Shortlink.Proofs.Web.Success

/-!
# Listing a page

A client asks for a page by its number and size in a query. Both are read as they were written
(`queryPairs_queryText`, `readWhole_natText`), and the answer holds the records that stand at the
page, and says whether any stand behind it: `list_of_query`.

## Contents

- **Digits.** `AreDigits`, `groupedDigits?_of_digits`.
- **Pages of stores.** `hasMore_natCast`, `Store.page_of_nonneg`, `Store.page_of_beyond`.
- **Numbers in queries.** `dropLeading_natText`, `readWhole_natText`.
- **Queries.** `IsPlainText`, `queryText`; `queryPairs_parts`, `queryPairs_queryText`; `pageQuery`.
- **Listing.** `wholeParameter_of_value`, `wholeParameter_of_natText`; `AsksFor`, `pageValue`,
  `list_of_asksFor`, `list_of_query`, `App.handle_of_listing`.
-/

namespace Shortlink

open Text

/-! ## Digits -/

/-- The text consists of digits of ASCII. -/
def Text.AreDigits (s : List Char) : Prop :=
  ∀ c ∈ s, ∃ d, d < 10 ∧ c = digit d

theorem Text.areDigits_natText (n : Nat) : AreDigits (natText n) :=
  fun _ hc => exists_digit_of_mem_natText hc

/-- Digits alone are read one by one. -/
theorem Text.groupedDigits?_of_digits {s : List Char} (h : AreDigits s) (hne : s ≠ []) :
    groupedDigits? asciiDigit? s = some (s.map fun c => c.toNat - 48) := by
  induction s with
  | nil => exact absurd rfl hne
  | cons c rest ih =>
      obtain ⟨⟨d, hd, rfl⟩, hrest⟩ := List.forall_mem_cons.mp h
      have hvalue : (digit d).toNat - 48 = d := by
        rw [toNat_digit hd]
        omega
      cases rest with
      | nil => simp [groupedDigits?, asciiDigit?_digit hd, hvalue]
      | cons c' rest =>
          have hmark : c' ≠ '_' := by
            obtain ⟨d', hd', rfl⟩ := hrest c' List.mem_cons_self
            have hall : ∀ d < 10, digit d ≠ '_' := by decide
            exact hall d' hd'
          rw [groupedDigits?, ih hrest (List.cons_ne_nil _ _), asciiDigit?_digit hd]
          · simp [hvalue]
          · exact List.cons_ne_nil _ _
          · intro back heq
            exact hmark (List.cons.inj heq).1

/-! ## Pages of stores -/

/-- Items are left after a page if they do not fit on it and the pages before it. -/
theorem hasMore_natCast (page size total : Nat) :
    hasMore page size total = decide (size * (page + 1) < total) := by
  have hproduct : (1 + (page : Int)) * size = (size * (page + 1) : Nat) := by
    rw [Int.mul_comm, Int.add_comm]
    rfl
  rw [hasMore, hproduct]
  exact decide_eq_decide.mpr Int.ofNat_lt

/-- **A page drops and takes** in every kind of store; in a table, as long as it can count up to the
beginning of the page. -/
theorem Store.page_of_nonneg {s : Store} {page size : Nat} (hsize : (size : Int) < Table.countBound)
    (hstart : s.isTable = true → ((size * page : Nat) : Int) < Table.countBound) :
    s.page page size = .ok ((s.records.drop (size * page)).take size) := by
  have hproduct : (size : Int) * page = (size * page : Nat) := rfl
  have hmemory : ∀ m : Memory, m.page page size = (m.records.drop (size * page)).take size := by
    intro m
    rw [Memory.page,
      slice_of_nonneg _ (Int.mul_nonneg (Int.natCast_nonneg _) (Int.natCast_nonneg _))
        (Int.natCast_nonneg _), hproduct]
    rfl
  cases s with
  | memory m => exact congrArg Except.ok (hmemory m)
  | file f => exact congrArg Except.ok (hmemory f.memory)
  | table t =>
      have hrows := Table.page?_of_nonneg (t := t) (Int.natCast_nonneg size) hsize
        (Int.mul_nonneg (Int.natCast_nonneg _) (Int.natCast_nonneg page)) (hstart rfl)
      rw [Store.page, hrows]
      rfl

/-- A table gives up on a page that begins where it cannot count any more. -/
theorem Store.page_of_beyond {s : Store} (hs : s.isTable = true) {page size : Nat}
    (hstart : Table.countBound ≤ ((size * page : Nat) : Int)) :
    s.page page size = .error .beyondRange := by
  have hrange : Table.inRange ((size : Int) * page) = false := by
    have hproduct : (size : Int) * page = (size * page : Nat) := rfl
    rw [Table.inRange, hproduct, decide_eq_false (Int.not_lt.mpr hstart), Bool.and_false]
  cases s with
  | memory m => exact absurd hs (by simp [Store.isTable])
  | file f => exact absurd hs (by simp [Store.isTable])
  | table t =>
      have hnone : t.page? page size = none := by
        rw [Table.page?, hrange, Bool.and_false]
        rfl
      rw [Store.page, hnone]

namespace Web

/-! ## Numbers in queries -/

section

variable {s : List Char} (h : AreDigits s)

include h

theorem not_mem_of_areDigits {c : Char} (hc : ∀ d < 10, digit d ≠ c) : c ∉ s := by
  intro hmem
  obtain ⟨d, hd, heq⟩ := h c hmem
  exact hc d hd heq.symm

theorem trimPadding_of_areDigits : trimPadding s = s := by
  have hplain : ∀ c ∈ s, isPadding c = false := by
    intro c hc
    obtain ⟨d, hd, rfl⟩ := h c hc
    have hall : ∀ d < 10, isPadding (digit d) = false := by decide
    exact hall d hd
  have hback : s.reverse.head?.any isPadding = false :=
    head?_any_of_forall fun c hc => hplain c (List.mem_reverse.mp hc)
  rw [trimPadding, dropWhile_of_head (head?_any_of_forall hplain), dropWhile_of_head hback,
    List.reverse_reverse]

end

/-- A digit in front that is no zero is not dropped. -/
theorem dropLeading_cons {c : Char} {rest : List Char} (hplus : c ≠ '+') (hzero : c ≠ '0')
    (hdigit : (asciiDigit? c).isSome = true) : dropLeading (c :: rest) = some (c :: rest) := by
  unfold dropLeading
  grind

/-- A number that was written has no zeros in front that could be dropped. -/
theorem dropLeading_natText (n : Nat) : dropLeading (natText n) = some (natText n) := by
  by_cases hn : 0 < n
  · obtain ⟨i, more, hi, heq, -⟩ := exists_natText_eq_cons hn
    have hfirst : ∀ i < 9, digit (i + 1) ≠ '+' ∧ digit (i + 1) ≠ '0' := by decide
    rw [heq]
    exact dropLeading_cons (hfirst i hi).1 (hfirst i hi).2
      (Option.isSome_of_eq_some (asciiDigit?_digit (by omega : i + 1 < 10)))
  · obtain rfl : n = 0 := by omega
    rw [natText_of_lt (by decide)]
    decide

/-- **A number that was written is read as it is**, unless it has more digits than may be read. -/
theorem readWhole_natText (n : Nat) : readWhole (natText n)
    = if maxDigits < (natText n).length then .error .tooLong else .ok (n : Int) := by
  have hdigits := areDigits_natText n
  have hpoint : '.' ∉ natText n := not_mem_of_areDigits hdigits (by decide)
  have hmark : '_' ∉ natText n := not_mem_of_areDigits hdigits (by decide)
  have hplus : '+' ∉ natText n := not_mem_of_areDigits hdigits (by decide)
  have hminus : '-' ∉ natText n := not_mem_of_areDigits hdigits (by decide)
  have hsign : (natText n).take 2 ≠ ['+', '-'] := by
    intro heq
    exact hplus (List.mem_of_mem_take (heq ▸ List.mem_cons_self))
  have hfraction : dropFraction (natText n) = natText n := by
    have hall := bne_of_not_mem hpoint
    rw [dropFraction, List.dropWhile_eq_nil_iff.mpr hall, List.takeWhile_eq_self_iff.mpr hall]
    rfl
  have hfilter : (natText n).filter (· != '_') = natText n :=
    List.filter_eq_self.mpr (bne_of_not_mem hmark)
  have hwhole : wholeOf? (natText n) = some (n : Int) := by
    have hgrouped := groupedDigits?_of_digits hdigits (natText_ne_nil n)
    obtain ⟨c, rest, hc⟩ := List.exists_cons_of_ne_nil (natText_ne_nil n)
    have hne : c ≠ '-' := by
      rintro rfl
      exact hminus (hc ▸ List.mem_cons_self)
    have hvalue := natOfDigits_natText n
    rw [hc] at hgrouped hvalue
    rw [hc]
    unfold wholeOf?
    grind
  rw [readWhole, trimPadding_of_areDigits hdigits, if_neg hsign, dropLeading_natText]
  dsimp only
  rw [hfraction, hfilter, hwhole]

/-! ## Queries -/

/-- **A text that stands for itself in a query**: it holds no mark that divides a query, no plus
sign and no percent sign. -/
def IsPlainText (s : List Char) : Prop :=
  ∀ c ∈ s, c ∉ ['&', '=', '+', '%']

instance (s : List Char) : Decidable (IsPlainText s) :=
  List.decidableBAll _ s

/-- A parameter in a query. -/
def parameterText (p : List Char × List Char) : List Char :=
  p.1 ++ '=' :: p.2

/-- The query that gives values to names. -/
def queryText (ps : List (List Char × List Char)) : List Char :=
  List.intercalate ['&'] (ps.map parameterText)

/-- A text that stands for itself is decoded to itself. -/
theorem decodeForm_of_isPlainText {s : List Char} (h : IsPlainText s) : decodeForm s = s := by
  have hplus : s.map (fun c => if c = '+' then ' ' else c) = s := by
    calc s.map (fun c => if c = '+' then ' ' else c)
        = s.map id := List.map_congr_left fun c hc => if_neg (by
            rintro rfl
            exact h _ hc (by decide))
      _ = s := List.map_id s
  rw [decodeForm, hplus]
  exact Percent.decodeLossy_eq_self fun hc => h _ hc (by decide)

/-- **A query is cut where it was put together**: its parameters are read one by one. -/
theorem queryPairs_parts {ps : List (List Char × List Char)} (hne : ps ≠ [])
    (hparts : ∀ p ∈ ps, '&' ∉ p.1 ∧ '=' ∉ p.1 ∧ '&' ∉ p.2) :
    queryPairs (queryText ps) = ps.map fun p => (decodeForm p.1, decodeForm p.2) := by
  have hsplit : (queryText ps).splitOn '&' = ps.map parameterText := by
    refine List.splitOn_intercalate '&' ?_ (by simpa using hne)
    intro part hpart hmem
    obtain ⟨p, hp, rfl⟩ := List.mem_map.mp hpart
    obtain ⟨hname, -, hvalue⟩ := hparts p hp
    rcases List.mem_append.mp hmem with h | h
    · exact hname h
    · exact hvalue ((List.mem_cons.mp h).resolve_left (by decide))
  have hfilter : (ps.map parameterText).filter (fun part => !part.isEmpty)
      = ps.map parameterText := by
    refine List.filter_eq_self.mpr fun part hpart => ?_
    obtain ⟨p, -, rfl⟩ := List.mem_map.mp hpart
    simp [parameterText]
  rw [queryPairs, hsplit, hfilter, List.map_map]
  refine List.map_congr_left fun p hp => ?_
  have hmark : ∀ c ∈ p.1, (c != '=') = true := bne_of_not_mem (hparts p hp).2.1
  simp only [Function.comp_apply, parameterText]
  rw [takeWhile_cut hmark (by decide), dropWhile_cut hmark (by decide), List.drop_one,
    List.tail_cons]

section

variable {name : String} {default least : Int} {most : Option Int} {query : List Char}

/-- **A whole number passes if it is within bounds**, be it in the query or the default. -/
theorem wholeParameter_of_value {n : Int}
    (hvalue : (queryValue? name query).elim (.ok default) readWhole = .ok n) (hleast : least ≤ n)
    (hmost : ∀ m ∈ most, n ≤ m) : wholeParameter name default least most query = .ok n := by
  have hbelow : most.any (· < n) = false := by
    cases most with
    | none => rfl
    | some m => simpa using hmost m rfl
  rw [wholeParameter]
  cases hquery : queryValue? name query with
  | none =>
      rw [hquery] at hvalue
      exact congrArg Except.ok (Except.ok.inj hvalue)
  | some s =>
      rw [hquery, Option.elim_some] at hvalue
      dsimp only
      rw [hvalue]
      dsimp only
      rw [hbelow, if_neg (by decide), if_neg (by omega)]

/-- A whole number in a query passes if it is within bounds. -/
theorem wholeParameter_of_natText {n : Nat} (hvalue : queryValue? name query = some (natText n))
    (hdigits : (natText n).length ≤ maxDigits) (hleast : least ≤ n)
    (hmost : ∀ m ∈ most, (n : Int) ≤ m) :
    wholeParameter name default least most query = .ok (n : Int) := by
  refine wholeParameter_of_value ?_ hleast hmost
  rw [hvalue, Option.elim_some, readWhole_natText, if_neg (by omega)]

/-- One with more digits than may be read does not. -/
theorem wholeParameter_of_long {n : Nat} (hvalue : queryValue? name query = some (natText n))
    (hdigits : maxDigits < (natText n).length) : wholeParameter name default least most query
      = .error (parameterIssue "int_parsing_size" name) := by
  rw [wholeParameter, hvalue]
  dsimp only
  rw [readWhole_natText, if_pos hdigits]

end

/-- **The query asks for a page**: of its values for the number and for the size of the page, these
are the ones that count. -/
structure AsksFor (query : List Char) (page size : Nat) : Prop where
  page_eq : queryValue? "page" query = some (natText page)
  size_eq : queryValue? "size" query = some (natText size)

/-- What is shown of a page: its records, how many there are in all, and whether any stand behind
it. -/
def pageValue (items : List Json) (total : Nat) (more : Bool) : Json :=
  .obj [("redirects", .arr items), ("page", .obj [("total", .int total), ("has_more", .bool more)])]

theorem holdsTorn_pageValue (items : List Json) (total : Nat) (more : Bool) :
    (pageValue items total more).holdsTorn = Json.itemsHoldTorn items := by
  simp [pageValue, Json.holdsTorn, Json.fieldsHoldTorn]

section

variable {c : Catalog} {r : Request} {page size : Nat}

/-- **What a request for a page leads to**: the store is asked for it, and then the records are
shown. -/
theorem list_of_asksFor (hquery : AsksFor r.query page size)
    (hpage : (natText page).length ≤ maxDigits) (hsize : 1 ≤ size ∧ size ≤ 10000) :
    list c r = match c.page page size with
      | .error e => storeFailure r c e
      | .ok records =>
        match records.mapM shown? with
        | none => ⟨.crash .writer, c, []⟩
        | some items =>
          ⟨.showing 200 (pageValue items c.count (hasMore page size c.count)), c, []⟩ := by
  have hnumber : wholeParameter "page" 0 0 none r.query = .ok (page : Int) :=
    wholeParameter_of_natText hquery.page_eq hpage (Int.natCast_nonneg page) (by simp)
  have hlimit : wholeParameter "size" 50 1 (some 10000) r.query = .ok (size : Int) := by
    refine wholeParameter_of_natText hquery.size_eq ?_ (by omega) (by simp; omega)
    exact Nat.le_trans (length_natText_le (k := 5) (by decide) (show size < 100000 by omega))
      (by decide)
  rw [list, hnumber, hlimit]
  rfl

/-- **The answer to a request for a page** of records that can be shown. -/
theorem list_of_query (hquery : AsksFor r.query page size)
    (hpage : (natText page).length ≤ maxDigits) (hsize : 1 ≤ size ∧ size ≤ 10000)
    (hstart : c.store.isTable = true → ((size * page : Nat) : Int) < Table.countBound)
    (hshow : ∀ m ∈ (c.store.records.drop (size * page)).take size, m.IsShowable) :
    list c r = .still c (.ofJson 200 (pageValue
      (((c.store.records.drop (size * page)).take size).map Redirect.item) c.count
      (hasMore page size c.count))) := by
  have hrecords : c.page page size = .ok ((c.store.records.drop (size * page)).take size) :=
    Store.page_of_nonneg (by unfold Table.countBound; omega) hstart
  rw [list_of_asksFor hquery hpage hsize, hrecords]
  dsimp only
  rw [mapM_shown? hshow, Outcome.still, ← Reply.showing_eq_response_iff.mpr ⟨?_, rfl⟩]
  rw [holdsTorn_pageValue, itemsHoldTorn_map_item]

end

/-- Reading the path of the records lists them. -/
theorem App.handle_of_listing {app : App} {r : Request} (hmethod : r.method = "GET")
    (hpath : r.path = "/_gadget/api/redirect".toList) (fresh : Fresh) :
    app.handle fresh r = list app.catalog r := by
  have hchoice : choose app.site.isSome r.method r.path = .answer .records := by
    rw [hmethod, hpath]
    exact choose_records _ (by decide)
  have hpost : r.method ≠ "POST" := by
    rw [hmethod]
    decide
  rw [App.handle_of_answer hchoice]
  exact if_neg hpost

end Web

end Shortlink
