import Shortlink.Proofs.Web.Gateway
import Shortlink.Proofs.Web.Listing
import Shortlink.Proofs.Web.Target

/-!
# The search for what is not there

A look-up that leads nowhere sends the client to the search for what was looked up. The text is
written twice, in the form of a query and then as a location, and it may hold anything: percent
signs, ampersands, plus signs, characters beyond ASCII. The search reads it as it was
(`App.missing_is_searched`), because what stands in a form is unreserved, a plus sign for a space,
or part of an escape (`isWritten_encodeForm`): nothing in it divides a query, and nothing is left to
escape when it is written as a location.

## Contents

- **Forms.** `plusAsSpace`, `isFormChar`; `isWritten_encodeForm`, `decodeForm_encodeForm`,
  `not_mem_encodeForm`.
- **The page.** `searchQuery`, `searchPage_eq`; `queryPairs_searchQuery`.
- **Look-ups.** `App.missing_is_searched`, and a text of escapes and marks.
-/

namespace Shortlink.Web

open Text

/-! ## Forms -/

/-- The text with plus signs read as spaces. -/
def plusAsSpace (s : List Char) : List Char :=
  s.map fun c => if c = '+' then ' ' else c

/-- A character that is not escaped in a form. -/
def isFormChar (c : Char) : Bool :=
  Percent.isUnreserved c || c == ' '

theorem plusAsSpace_of_not_mem {s : List Char} (h : '+' ∉ s) : plusAsSpace s = s := by
  have hchar : ∀ c ∈ s, (if c = '+' then ' ' else c) = c := by
    intro c hc
    apply if_neg
    rintro rfl
    exact h hc
  rw [plusAsSpace, List.map_congr_left hchar, List.map_id']

/-- **A form is a written form of its text**, once its plus signs are read as spaces. -/
theorem isWritten_encodeForm (s : List Char) :
    Percent.IsWritten isFormChar s (plusAsSpace (Percent.encodeForm s)) := by
  induction s with
  | nil => exact .nil
  | cons c s ih =>
      have hcons : plusAsSpace (Percent.encodeForm (c :: s))
          = plusAsSpace (if c == ' ' then ['+'] else Percent.encodeChar Percent.isUnreserved c)
            ++ plusAsSpace (Percent.encodeForm s) := by
        simp [plusAsSpace, Percent.encodeForm]
      rw [hcons]
      by_cases hspace : c = ' '
      · subst hspace
        exact .plain rfl ih
      · rw [if_neg (by simpa using hspace), Percent.encodeChar]
        split
        · next hboth =>
            obtain ⟨-, hplain⟩ := Bool.and_eq_true_iff.mp hboth
            have hplus : '+' ∉ [c] := by
              rintro hmem
              rw [← List.mem_singleton.mp hmem] at hplain
              exact absurd hplain (by decide)
            rw [plusAsSpace_of_not_mem hplus]
            exact .plain (by rw [isFormChar, hplain, Bool.true_or]) ih
        · -- no plus sign stands in an escape
          have hcodes := Percent.areEscapes_flatMap_escape (Utf8.encodeChar c)
          rw [plusAsSpace_of_not_mem (hcodes.not_mem (by decide) (by decide))]
          exact .escaped hcodes ih

/-- **A form is read as it was written.** -/
theorem decodeForm_encodeForm (s : List Char) : decodeForm (Percent.encodeForm s) = s :=
  (isWritten_encodeForm s).decodeLossy_eq (by decide)

/-- The bytes of a form are those of its text, so they spell it without a gap. -/
theorem unescape_encodeForm (s : List Char) :
    Percent.unescape (plusAsSpace (Percent.encodeForm s)) = Utf8.encode s :=
  (isWritten_encodeForm s).unescape_eq (by decide)

/-- No mark stands in a form, but for plus and percent signs. -/
theorem not_mem_encodeForm {c : Char} (hplain : isFormChar c = false) (hplus : c ≠ '+')
    (hpercent : c ≠ '%') (hdigit : Percent.hexValue? c = none) (s : List Char) :
    c ∉ Percent.encodeForm s := by
  intro hmem
  apply (isWritten_encodeForm s).not_mem hplain hpercent hdigit
  have hread : (if c = '+' then ' ' else c) = c := if_neg hplus
  rw [plusAsSpace, ← hread]
  exact List.mem_map_of_mem hmem

/-! ## The page -/

/-- The query that asks for the search for a text. -/
def searchQuery (text : List Char) : List Char :=
  queryText [("search".toList, Percent.encodeForm text)]

theorem searchPage_eq (text : List Char) :
    searchPage text = uiLocation.toList ++ '?' :: searchQuery text := by
  simp [searchPage, searchQuery, queryText, parameterText]

/-- **The query has one parameter, and it holds the text.** -/
theorem queryPairs_searchQuery (text : List Char) :
    queryPairs (searchQuery text) = [("search".toList, text)] := by
  have hvalue : '&' ∉ Percent.encodeForm text :=
    not_mem_encodeForm (by decide) (by decide) (by decide) (by decide) text
  have hname : decodeForm "search".toList = "search".toList :=
    decodeForm_of_isPlainText (by decide)
  have hparts : ∀ p ∈ [("search".toList, Percent.encodeForm text)],
      '&' ∉ p.1 ∧ '=' ∉ p.1 ∧ '&' ∉ p.2 := by
    simpa using hvalue
  rw [searchQuery, queryPairs_parts (List.cons_ne_nil _ _) hparts]
  simp only [List.map_cons, List.map_nil, hname, decodeForm_encodeForm]

/-- What a client asks for that is sent to the search. -/
theorem query_reading_searchPage (text : List Char) :
    (Request.reading (String.ofList (searchPage text))).query = searchQuery text := by
  rw [searchPage_eq]
  exact (ofTarget_cut (by decide) true).2

/-! ## Look-ups -/

/-- **What is not found is searched for as it was looked up.** The client is sent to the page of the
search with a text behind it, from which the looked-up path can be read without a gap; writing the
location does not change it, and a client that goes there asks with one parameter, the looked-up
path. -/
theorem App.missing_is_searched {app : App} {r : Request}
    (hroute : choose app.site.isSome r.method r.path = .answer .gateway) (hlookup : r.lookup ≠ [])
    (hmissing : (app.catalog.resolve (String.ofList r.lookup)).answer = none) (fresh : Fresh) :
    ∃ text : List Char,
      let place := "/_gadget/ui?search=".toList ++ text
      (app.handle fresh r).reply = .response (sentTo place)
      ∧ location place = place
      ∧ decodeForm text = r.lookup
      ∧ Percent.unescape (plusAsSpace text) = Utf8.encode r.lookup
      ∧ '#' ∉ place
      ∧ queryPairs (Request.reading (String.ofList place)).query
        = [("search".toList, r.lookup)] := by
  have hstart : "/_gadget/ui?search=".toList = uiLocation.toList ++ "?search=".toList := by
    decide +kernel
  have hplace : "/_gadget/ui?search=".toList ++ Percent.encodeForm r.lookup
      = searchPage r.lookup := by
    rw [hstart]
    rfl
  refine ⟨Percent.encodeForm r.lookup, ?_⟩
  dsimp only
  rw [hplace]
  refine ⟨?_, location_searchPage _, decodeForm_encodeForm _, unescape_encodeForm _, ?_, ?_⟩
  · rw [App.reply_of_gateway hroute fresh, lookupLocation_of_missing hlookup hmissing]
  · intro hmem
    rcases List.mem_append.mp (hplace ▸ hmem) with hmem | hmem
    · exact absurd hmem (by decide)
    · exact not_mem_encodeForm (by decide) (by decide) (by decide) (by decide) _ hmem
  · rw [query_reading_searchPage, queryPairs_searchQuery]

/-- A look-up of escapes, marks and a letter beyond ASCII. -/
def markedRequest : Request :=
  .reading "/50%25%20a=1&b%2B+é?q"

/-- What is looked up with marks is searched for with them. -/
theorem App.missing_is_searched_marks :
    ∃ text : List Char,
      ((App.making "wiki" "https://a.io").handle (.atNewYear "") markedRequest).reply
        = .response (sentTo ("/_gadget/ui?search=".toList ++ text))
      ∧ decodeForm text = "50%25 a=1&b%2B+é".toList := by
  have hlookup : markedRequest.lookup = "50%25 a=1&b%2B+é".toList := by decide +kernel
  have hmissing : ((App.making "wiki" "https://a.io").catalog.resolve
      (String.ofList markedRequest.lookup)).answer = none := by
    decide +kernel
  obtain ⟨text, hreply, -, htext, -⟩ :=
    App.missing_is_searched (by decide +kernel) (by simp [hlookup]) hmissing (.atNewYear "")
  exact ⟨text, hreply, htext.trans hlookup⟩

end Shortlink.Web
