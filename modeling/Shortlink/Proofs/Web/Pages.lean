import Shortlink.Proofs.Web.Growth
import Shortlink.Proofs.Web.Listing

/-!
# Which pages are answered

A page of the records is asked for by its number and its size. The size is checked against a bound,
but the number is not, and the place where the page begins is the product of the two. Memory and
file answer however far off the page is; a table counts with 64 binary digits and gives up on a page
that begins beyond them, which the service does not foresee (`table_gives_up`).

`App.answersPage_iff` says exactly which requests are answered with the records that stand at the
page.

## Contents

- `recordsAt`, `hasMore_iff`: the records of a page, and whether there are any on the next one.
- `App.AnswersPage`, `App.answersPage_iff`; `table_gives_up`.
-/

namespace Shortlink

open Text

/-- The records that stand at a page: those at the places from `page * size` up to, but not
including, `(page + 1) * size`, as far as there are any. -/
def recordsAt (records : List Redirect) (page size : Nat) : List Redirect :=
  (records.drop (size * page)).take size

/-- **More is left behind a page** just when the next page is not empty. -/
theorem hasMore_iff {page size : Nat} (hsize : 1 ≤ size) (records : List Redirect) :
    hasMore page size records.length = true ↔ recordsAt records (page + 1) size ≠ [] := by
  rw [hasMore_natCast, decide_eq_true_iff, recordsAt, ← List.length_pos_iff, List.length_take,
    List.length_drop]
  omega

namespace Web

/-- **The service answers with the page**: with the records that stand there, how many there are in
all, and whether there are any on the next page. -/
def App.AnswersPage (app : App) (fresh : Fresh) (r : Request) (page size : Nat) : Prop :=
  let records := app.catalog.store.records
  ∃ more, (more = true ↔ recordsAt records (page + 1) size ≠ [])
    ∧ app.handle fresh r = .still app.catalog (.ofJson 200 (pageValue
      ((recordsAt records page size).map Redirect.item) records.length more))

/-- A request that leads to anything but a response of success does not get the page. -/
theorem App.not_answersPage {app : App} {fresh : Fresh} {r : Request} {page size : Nat}
    (h : (app.handle fresh r).reply.status? ≠ some 200) : ¬ app.AnswersPage fresh r page size := by
  rintro ⟨more, -, hanswer⟩
  rw [hanswer] at h
  exact h rfl

section

variable {app : App} {fresh : Fresh} {r : Request} {page size : Nat}
  (hmethod : r.method = "GET") (hpath : r.path = "/_gadget/api/redirect".toList)
  (hquery : AsksFor r.query page size)

include hmethod hpath hquery

/-- The number of a page must not have too many digits. -/
theorem App.status?_of_longPage (hpage : maxDigits < (natText page).length) :
    (app.handle fresh r).reply.status? = some 422 := by
  rw [App.handle_of_listing hmethod hpath, list, wholeParameter_of_long hquery.page_eq hpage]
  cases wholeParameter "size" 50 1 (some 10000) r.query <;> rfl

variable (hpage : (natText page).length ≤ maxDigits) (hsize : 1 ≤ size ∧ size ≤ 10000)

include hpage hsize

/-- A table cannot answer with a page that begins where it cannot count any more. -/
theorem App.reply_of_beyond (htable : app.catalog.store.isTable = true)
    (hstart : Table.countBound ≤ ((size * page : Nat) : Int)) :
    (app.handle fresh r).reply = .crash (.store .beyondRange) := by
  have hrecords : app.catalog.page page size = .error .beyondRange :=
    Store.page_of_beyond htable hstart
  rw [App.handle_of_listing hmethod hpath, list_of_asksFor hquery hpage hsize, hrecords]
  rfl

/-- Otherwise it all depends on whether the records of the page can be shown. -/
theorem App.answersPage_iff_of_reach
    (hstart : app.catalog.store.isTable = true → ((size * page : Nat) : Int) < Table.countBound) :
    app.AnswersPage fresh r page size
      ↔ ∀ m ∈ recordsAt app.catalog.store.records page size, m.IsShowable := by
  constructor
  · rintro ⟨more, -, hanswer⟩
    have hrecords : app.catalog.page page size
        = .ok (recordsAt app.catalog.store.records page size) :=
      Store.page_of_nonneg (by unfold Table.countBound; omega) hstart
    rw [App.handle_of_listing hmethod hpath, list_of_asksFor hquery hpage hsize, hrecords]
      at hanswer
    dsimp only at hanswer
    split at hanswer
    · exact absurd (congrArg Outcome.reply hanswer) (by simp [Outcome.still])
    · next items hitems =>
        obtain ⟨hwhole, -⟩ := Reply.showing_eq_response_iff.mp (congrArg Outcome.reply hanswer)
        rw [holdsTorn_pageValue] at hwhole
        exact isShowable_of_mapM_shown? hitems hwhole
  · intro hshow
    refine ⟨_, hasMore_iff hsize.1 _, ?_⟩
    rw [App.handle_of_listing hmethod hpath, list_of_query hquery hpage hsize hstart hshow]
    rfl

end

/-- **Which requests for a page are answered with it.** A client asks for the page with the given
number, and the size is within bounds. The service answers with the page just if the number has no
more digits than may be read, the store is no table or can count up to the beginning of the page,
and the records that stand there can be shown. -/
theorem App.answersPage_iff {app : App} {fresh : Fresh} {r : Request} {page size : Nat}
    (hmethod : r.method = "GET") (hpath : r.path = "/_gadget/api/redirect".toList)
    (hquery : AsksFor r.query page size) (hsize : 1 ≤ size ∧ size ≤ 10000) :
    app.AnswersPage fresh r page size ↔
      page < numberBound
      ∧ (app.catalog.store.isTable = true → ((size * page : Nat) : Int) < Table.countBound)
      ∧ ∀ m ∈ recordsAt app.catalog.store.records page size, m.IsShowable := by
  by_cases hbound : page < numberBound
  · have hpage := length_natText_le_maxDigits hbound
    by_cases hstart : app.catalog.store.isTable = true →
        ((size * page : Nat) : Int) < Table.countBound
    · rw [App.answersPage_iff_of_reach hmethod hpath hquery hpage hsize hstart]
      exact ⟨fun h => ⟨hbound, hstart, h⟩, fun h => h.2.2⟩
    · refine iff_of_false (App.not_answersPage ?_) fun h => hstart h.2.1
      obtain ⟨htable, hbeyond⟩ := Classical.not_imp.mp hstart
      rw [App.reply_of_beyond hmethod hpath hquery hpage hsize htable (Int.not_lt.mp hbeyond)]
      simp [Reply.status?]
  · refine iff_of_false (App.not_answersPage ?_) fun h => hbound h.1
    have hpage : maxDigits < (natText page).length := by
      unfold numberBound at hbound
      exact lt_length_natText (Nat.not_lt.mp hbound)
    rw [App.status?_of_longPage hmethod hpath hquery hpage]
    decide

/-- A client asks for a page that begins beyond what 64 binary digits can count. -/
def farRequest : Request :=
  .reading "/_gadget/api/redirect?page=1000000000000000000&size=10"

theorem asksFor_farRequest : AsksFor farRequest.query 1000000000000000000 10 := by
  have hpage : natText 1000000000000000000 = "1000000000000000000".toList := by
    simp [natText_of_ge, natText_of_lt, digit]
  have hsize : natText 10 = "10".toList := by
    simp [natText_of_ge, natText_of_lt, digit]
  refine ⟨?_, ?_⟩
  · rw [hpage]
    decide +kernel
  · rw [hsize]
    decide +kernel

/-- A memory answers with such a page, and a table does not. -/
theorem App.answersPage_iff_far :
    (App.making "wiki" "https://a.io").AnswersPage (.atNewYear "") farRequest 1000000000000000000 10
    ∧ ¬ (App.mk (.ofStore (.table .empty)) none spellChar).AnswersPage (.atNewYear "") farRequest
      1000000000000000000 10 := by
  have hpath : farRequest.path = "/_gadget/api/redirect".toList := by decide +kernel
  have hbound : 1000000000000000000 < numberBound := by decide +kernel
  constructor
  · refine (App.answersPage_iff rfl hpath asksFor_farRequest (by decide)).mpr ⟨hbound, ?_, ?_⟩
    · exact fun htable => absurd htable (by decide +kernel)
    · have hnone : recordsAt (App.making "wiki" "https://a.io").catalog.store.records
          1000000000000000000 10 = [] := List.length_eq_zero_iff.mp (by decide +kernel)
      rw [hnone]
      exact fun m hm => absurd hm List.not_mem_nil
  · rw [App.answersPage_iff rfl hpath asksFor_farRequest (by decide)]
    exact fun h => absurd (h.2.1 rfl) (by decide)

/-- **A table makes the service give up** on a valid request for a page. -/
theorem App.table_gives_up :
    ((App.mk (.ofStore (.table .empty)) none spellChar).handle (.atNewYear "") farRequest).reply
      = .crash (.store .beyondRange) := by
  have hpath : farRequest.path = "/_gadget/api/redirect".toList := by decide +kernel
  have hpage : (natText 1000000000000000000).length ≤ maxDigits :=
    length_natText_le_maxDigits (by decide +kernel)
  exact App.reply_of_beyond rfl hpath asksFor_farRequest hpage (by decide) rfl (by decide)

end Web

end Shortlink
