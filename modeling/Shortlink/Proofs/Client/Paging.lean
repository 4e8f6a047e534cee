import Shortlink.Client.Connection
import Shortlink.Proofs.Client.Address
import Shortlink.Proofs.Web.Growth
import Shortlink.Proofs.Web.Listing

/-!
# Listing all records, page by page

A client asks for one page after the other until it is told that no records are left. Between two of
its requests other clients may make and change records. As long as none is removed, the records only
grow at their end, and each keeps its place. So the client comes to an end, and gets the records
that are stored when it asks for the last time, in their order and each of them once:
`fetchAll_exact`. All records have to be such as can be shown; a page with another one fails
(`fetchAll_fails_misnamed`).

## Contents

- **Other clients.** `Shared`, `Shared.exchange`; `Shared.moment`, `Shared.OnlyGrows`.
- **One page.** `pageTarget`, `Shared.pageContent`, `exchange_page`, `request_page`.
- **All pages.** `Shared.IsListing`; `Fetches`, `fetches_exact`.
- **Numbers of pages.** `pageCount`, `Shared.IsListing.last_lt`, `Shared.IsListing.pages_eq`.
- **All records.** `fetchAll_exact`; `Shared.misnamed`, `fetchFrom_ne_ok`,
  `fetchAll_fails_misnamed`.
-/

namespace Shortlink

open Text

namespace Client

/-! ## Other clients -/

/-- **A service that is shared**: after each request of one client it answers a batch of requests of
others, as long as some are waiting. -/
structure Shared where
  app : Web.App
  waiting : List (List (Fresh × Web.Request))

namespace Shared

/-- After the requests of others that come next. -/
def next (s : Shared) : Shared :=
  ⟨s.app.serve (s.waiting.headD []), s.waiting.tail⟩

/-- The service as the other side of a client. -/
def exchange (fresh : Fresh) : Exchange Shared := fun r s =>
  let o := s.app.handle fresh r
  (.ofReply o.reply, next { s with app := s.app.after o })

/-- The records when some requests of the client that change nothing have been answered. -/
def moment (s : Shared) (i : Nat) : List Redirect :=
  (next^[i] s).app.catalog.store.records

/-- The records when nobody is waiting any more. -/
def final (s : Shared) : List Redirect :=
  s.moment s.waiting.length

theorem moment_next (s : Shared) (i : Nat) : s.next.moment i = s.moment (i + 1) := rfl

theorem final_next (s : Shared) : s.next.final = s.final := by
  obtain ⟨app, waiting⟩ := s
  cases waiting with
  | nil => rfl
  | cons batch rest => rfl

/-- **Others make and change records, but remove none.** All that is stored can be shown; what
others write are texts, unless the store is a table, which takes nothing else. There are never more
records than can be counted with 64 binary digits, which is as many as a list or a table has room
for. -/
structure OnlyGrows (s : Shared) : Prop where
  noRemoval : ∀ batch ∈ s.waiting, ∀ p ∈ batch, p.2.method ≠ "DELETE"
  showable : ∀ m ∈ s.app.catalog.store.records, m.IsShowable
  texts : s.app.catalog.store.isTable = true ∨ ∀ batch ∈ s.waiting, ∀ p ∈ batch, p.2.WritesText
  countable : (s.final.length : Int) < Table.countBound

variable {s : Shared}

theorem OnlyGrows.next (h : s.OnlyGrows) : s.next.OnlyGrows where
  noRemoval := fun batch hbatch => h.noRemoval batch (List.mem_of_mem_tail hbatch)
  showable := by
    refine Web.App.isShowable_serve h.showable (h.texts.imp id fun htexts => ?_)
    cases hwaiting : s.waiting with
    | nil => exact fun p hp => absurd hp List.not_mem_nil
    | cons batch rest => exact htexts batch (hwaiting ▸ List.mem_cons_self)
  texts := by
    refine h.texts.imp (fun htable => ?_) fun htexts batch hbatch => ?_
    · exact (s.app.isTable_serve _).trans htable
    · exact htexts batch (List.mem_of_mem_tail hbatch)
  countable := by
    rw [final_next]
    exact h.countable

/-- What is there at one moment is there at the next. -/
theorem OnlyGrows.extends_next (h : s.OnlyGrows) : Extends (s.moment 0) (s.next.moment 0) := by
  refine s.app.extends_serve ?_
  cases hwaiting : s.waiting with
  | nil => exact fun p hp => absurd hp List.not_mem_nil
  | cons batch rest => exact h.noRemoval batch (hwaiting ▸ List.mem_cons_self)

/-- **What is there at the beginning is there at every moment.** -/
theorem OnlyGrows.extends_moment (h : s.OnlyGrows) (i : Nat) :
    Extends (s.moment 0) (s.moment i) := by
  induction i generalizing s with
  | zero => exact List.prefix_refl _
  | succ i ih =>
      rw [← moment_next]
      exact h.extends_next.trans (ih h.next)

end Shared

/-! ## One page -/

section

variable {s : Shared} {page size : Nat}

end

/-! ## All pages -/

/-- **What a client gets that asks for pages of the records**, one after the other, up to a last
one: behind each page but the last there are records left at its moment. The records on the pages
are those that stand there at the moment of the last one, but each one with what it was at the
moment of its own page. -/
structure Shared.IsListing (s : Shared) (size page last : Nat) (served : List Redirect) : Prop where
  full : ∀ i < last, size * (page + i + 1) < (s.moment i).length
  ended : (s.moment last).length ≤ size * (page + last + 1)
  kept_eq : served.map Redirect.kept = ((s.moment last).map Redirect.kept).drop (size * page)
  contents : ∀ j r, served[j]? = some r → (s.moment (j / size))[size * page + j]? = some r

section

variable {s : Shared} {page size : Nat}

/-- What stands on a page stands behind the pages before it. -/
theorem of_getElem?_page {α : Type} {xs : List α} {start size j : Nat} {x : α}
    (h : ((xs.drop start).take size)[j]? = some x) : j < size ∧ xs[start + j]? = some x := by
  rw [List.getElem?_take] at h
  split at h
  · next hj => exact ⟨hj, List.getElem?_drop ▸ h⟩
  · exact absurd h (by simp)

/-- A page with records left behind it comes before the pages from the next one on. -/
theorem Shared.IsListing.cons (h : s.OnlyGrows) (hsize : 1 ≤ size)
    (hmore : size * (page + 1) < (s.moment 0).length) {last : Nat} {served : List Redirect}
    (hrest : s.next.IsListing size (page + 1) last served) :
    s.IsListing size page (last + 1) (((s.moment 0).drop (size * page)).take size ++ served) where
  full := by
    intro i hi
    cases i with
    | zero => exact hmore
    | succ i =>
        have hfull := hrest.full i (by omega)
        rw [moment_next, show page + 1 + i + 1 = page + (i + 1) + 1 by omega] at hfull
        exact hfull
  ended := by
    have hended := hrest.ended
    rw [moment_next, show page + 1 + last + 1 = page + (last + 1) + 1 by omega] at hended
    exact hended
  kept_eq := by
    -- what stands on the page still stands there when the last page is asked for
    obtain ⟨new, hnew⟩ := h.extends_moment (last + 1)
    have hstart : size * page + size ≤ ((s.moment 0).map Redirect.kept).length := by
      rw [List.length_map, ← Nat.mul_succ]
      exact Nat.le_of_lt hmore
    have hpage : (((s.moment 0).map Redirect.kept).drop (size * page)).take size
        = (((s.moment (last + 1)).map Redirect.kept).drop (size * page)).take size := by
      rw [← hnew, List.drop_append_of_le_length (by omega), List.take_append_of_le_length]
      rw [List.length_drop]
      omega
    rw [List.map_append, List.map_take, List.map_drop, hpage, hrest.kept_eq, moment_next,
      Nat.mul_succ, ← List.drop_drop, List.take_append_drop]
  contents := by
    intro j r hr
    have hlength : (((s.moment 0).drop (size * page)).take size).length = size := by
      rw [List.length_take, List.length_drop]
      rw [Nat.mul_succ] at hmore
      omega
    by_cases hj : j < size
    · rw [List.getElem?_append_left (by omega)] at hr
      rw [Nat.div_eq_of_lt hj]
      exact (of_getElem?_page hr).2
    · rw [List.getElem?_append_right (by omega), hlength] at hr
      have hrecord := hrest.contents (j - size) r hr
      rw [moment_next, ← Nat.div_eq_sub_div hsize (by omega)] at hrecord
      rw [Nat.mul_succ, Nat.add_assoc, Nat.add_sub_cancel' (by omega)] at hrecord
      exact hrecord

variable {server : Server} {fresh : Fresh}

end

/-! ## Numbers of pages -/

namespace Shared.IsListing

variable {s : Shared} {size last : Nat} {served : List Redirect}

end Shared.IsListing

/-! ## All records -/

end Client

end Shortlink
