import Mathlib.Data.List.Perm.Subperm
import Shortlink.Proofs.Catalog.Transparency
import Shortlink.Proofs.Store.Keyed

/-!
# No link outlives its record

A catalog keeps its links by hand: one is put when a record is compiled, and dropped when its record
is removed or gets another destination. If all changes go through the catalog and its store never
fails to write, each link that is kept belongs to a stored record, and no record has two
(`links_tidy`).

The invariant is `Tidy`. A removal could break it in two ways: if the catalog dropped the link of
another record than the one that the store removes, or if the store removed the record and the
catalog did not hear of it. The first cannot happen because both look the record up alike; the
second is what a file that cannot be written would do, so a run must be free of such failures
(`IsProperRun`).

## Contents

- `keys`; `keys_put`, `lookup_put`, `keys_forget`: the references under which links are kept.
- `compile_cases`, `cached?_compile`, `keys_compile`: what is kept once a record is compiled.
- `Tidy`, `Tidy.cachedCount_le_count`; `Tidy.compile`, `Tidy.delete`, `Tidy.act`, `Tidy.run`.
- `links_tidy`, and a run with two records of one reference.
-/

namespace Shortlink

open Text (Loose)

namespace Catalog

/-! ## The references under which links are kept -/

/-- The references under which links are kept. -/
def keys (c : Catalog) : List String :=
  c.compiled.map Prod.fst

/-- A reference that is new comes behind the others, and one that is there stays where it is. -/
theorem keys_put (publicRef : String) (entry : Compiled) (links : List (String × Compiled)) :
    (put publicRef entry links).map Prod.fst
      = if publicRef ∈ links.map Prod.fst then links.map Prod.fst
        else links.map Prod.fst ++ [publicRef] := by
  induction links with
  | nil => simp [put]
  | cons first rest ih =>
      obtain ⟨key, old⟩ := first
      rw [put]
      by_cases hkey : key = publicRef
      · rw [if_pos hkey, List.map_cons, List.map_cons]
        exact (if_pos (by rw [hkey]; exact List.mem_cons_self)).symm
      · rw [if_neg hkey, List.map_cons, List.map_cons, ih]
        have hiff : publicRef ∈ key :: rest.map Prod.fst ↔ publicRef ∈ rest.map Prod.fst := by
          simp [Ne.symm hkey]
        by_cases hrest : publicRef ∈ rest.map Prod.fst
        · rw [if_pos hrest, if_pos (hiff.mpr hrest)]
        · rw [if_neg hrest, if_neg (mt hiff.mp hrest)]
          rfl

/-- What is put under a reference is found there. -/
theorem lookup_put (publicRef : String) (entry : Compiled) (links : List (String × Compiled)) :
    (put publicRef entry links).lookup publicRef = some entry := by
  induction links with
  | nil => simp [put]
  | cons first rest ih =>
      obtain ⟨key, old⟩ := first
      rw [put]
      by_cases hkey : key = publicRef
      · rw [if_pos hkey, List.lookup_cons, beq_iff_eq.mpr hkey.symm]
      · rw [if_neg hkey, List.lookup_cons, beq_eq_false_iff_ne.mpr (Ne.symm hkey)]
        exact ih

theorem mem_keys_of_cached? {c : Catalog} {publicRef : String} {entry : Compiled}
    (h : c.cached? publicRef = some entry) : publicRef ∈ c.keys :=
  List.mem_map_of_mem (f := Prod.fst) (mem_of_cached? h)

theorem keys_forget (c : Catalog) (publicRef : String) :
    (c.forget publicRef).keys = c.keys.filter (· != publicRef) :=
  (List.filter_map (f := Prod.fst) (p := (· != publicRef)) (l := c.compiled)).symm

/-! ## Compiling -/

/-- **The two ways of compiling a record**: the link that is kept for its destination serves, or
there is none and a new one is kept. -/
theorem compile_cases (c : Catalog) (r : Redirect) :
    (∃ link, c.cached? r.publicRef = some ⟨r.destination, link⟩ ∧ c.compile r = ⟨link, c, []⟩) ∨
    ((∀ entry ∈ c.cached? r.publicRef, entry.destination ≠ r.destination)
      ∧ c.compile r = compile.compileAnew c r) := by
  unfold compile
  split
  · rename_i entry hentry
    obtain ⟨destination, link⟩ := entry
    by_cases hdest : destination = r.destination
    · rw [if_pos hdest, ← hdest]
      exact Or.inl ⟨link, hentry, rfl⟩
    · rw [if_neg hdest, hentry]
      refine Or.inr ⟨?_, rfl⟩
      rintro _ ⟨⟩
      exact hdest
  · rename_i hnone
    rw [hnone]
    exact Or.inr ⟨fun entry hentry => absurd hentry (by simp), rfl⟩

/-- **Once a record is compiled, the link of its destination is kept** under its reference. -/
theorem cached?_compile (c : Catalog) (r : Redirect) :
    (c.compile r).catalog.cached? r.publicRef = some ⟨r.destination, (c.compile r).answer⟩ := by
  rcases c.compile_cases r with ⟨link, hcached, heq⟩ | ⟨-, heq⟩
  · rw [heq]
    exact hcached
  · rw [heq]
    exact lookup_put _ _ _

theorem keys_compile (c : Catalog) (r : Redirect) :
    (c.compile r).catalog.keys
      = if r.publicRef ∈ c.keys then c.keys else c.keys ++ [r.publicRef] := by
  rcases c.compile_cases r with ⟨link, hcached, heq⟩ | ⟨-, heq⟩
  · rw [heq]
    exact (if_pos (mem_keys_of_cached? hcached)).symm
  · rw [heq]
    exact keys_put _ _ _

/-- A record for whose reference nothing is kept is compiled anew. -/
theorem answer_compile_of_not_mem {c : Catalog} {r : Redirect} (h : r.publicRef ∉ c.keys) :
    (c.compile r).answer = Link.ofDestination r.aliasName r.destination := by
  rcases c.compile_cases r with ⟨link, hcached, -⟩ | ⟨-, heq⟩
  · exact absurd (mem_keys_of_cached? hcached) h
  · rw [heq]
    rfl

/-! ## The invariant -/

/-- **A tidy catalog** keeps at most one link under a reference, and only under references of stored
records. -/
structure Tidy (c : Catalog) : Prop where
  keys_nodup : c.keys.Nodup
  stored : c.keys ⊆ c.store.records.map (·.publicRef)

theorem tidy_ofStore (s : Store) : Tidy (ofStore s) :=
  ⟨List.nodup_nil, List.nil_subset _⟩

variable {c : Catalog}

/-- A tidy catalog keeps no more links than there are records. -/
theorem Tidy.cachedCount_le_count (h : Tidy c) : c.cachedCount ≤ c.count := by
  have hlength := (h.keys_nodup.subperm h.stored).length_le
  rw [keys, List.length_map, List.length_map] at hlength
  exact hlength

/-- The catalog of a store that has at least the references of the old one. -/
theorem Tidy.onStore (h : Tidy c) {s : Store}
    (hrefs : c.store.records.map (·.publicRef) ⊆ s.records.map (·.publicRef)) :
    Tidy { c with store := s } :=
  ⟨h.keys_nodup, List.Subset.trans h.stored hrefs⟩

theorem Tidy.forget (h : Tidy c) (publicRef : String) : Tidy (c.forget publicRef) := by
  have hsub : (c.forget publicRef).keys.Sublist c.keys := by
    rw [keys_forget]
    exact List.filter_sublist
  exact ⟨h.keys_nodup.sublist hsub, List.Subset.trans hsub.subset h.stored⟩

theorem Tidy.compile (h : Tidy c) {r : Redirect} (hr : r ∈ c.store.records) :
    Tidy (c.compile r).catalog := by
  refine ⟨?_, ?_⟩
  · rw [keys_compile]
    split
    · exact h.keys_nodup
    · rename_i hnew
      rw [← List.concat_eq_append]
      exact List.Nodup.concat hnew h.keys_nodup
  · rw [keys_compile, store_compile]
    split
    · exact h.stored
    · have href : r.publicRef ∈ c.store.records.map (·.publicRef) :=
        List.mem_map_of_mem (f := Redirect.publicRef) hr
      exact List.append_subset.mpr ⟨h.stored, List.cons_subset.mpr ⟨href, List.nil_subset _⟩⟩

theorem Tidy.find? (h : Tidy c) (reference : String) : Tidy (c.find? reference).catalog := by
  unfold Catalog.find?
  split
  · exact h
  · rename_i r hr
    exact h.compile (Store.mem_of_find? hr)

theorem refs_subset_create (s : Store) (fresh : Fresh) (aliasName : String) (destination : Loose)
    (user : Option String) : s.records.map (·.publicRef)
      ⊆ (s.create fresh aliasName destination user).state.records.map (·.publicRef) := by
  rcases s.records_create fresh aliasName destination user with heq | ⟨r, heq, -⟩
  · rw [heq]
    exact List.Subset.refl _
  · rw [heq, List.map_append]
    exact List.subset_append_left _ _

theorem refs_subset_update (s : Store) (reference : String) (destination : Loose)
    (user : Option String) :
    s.records.map (·.publicRef)
      ⊆ (s.update reference destination user).state.records.map (·.publicRef) := by
  have hnames := congrArg (List.map Prod.fst) (s.names_update reference destination user)
  rw [List.map_map, List.map_map] at hnames
  exact hnames.symm ▸ List.Subset.refl _

/-- **A removal drops the link of the record that it removes**: a tidy catalog stays tidy, unless
the store removes the record and then fails to write. -/
theorem Tidy.delete (h : Tidy c) (hkeys : c.store.HasKeys) {reference : String}
    (hsaved : IsSaved (c.store.delete reference).answer) :
    Tidy (c.delete reference).catalog := by
  cases hnamed : c.store.find? reference with
  | none =>
      -- nothing is removed, whatever the answer is
      have hsame : Tidy { c with store := (c.store.delete reference).state } := by
        refine h.onStore ?_
        rw [Store.delete_of_missing hnamed]
        exact List.Subset.refl _
      unfold Catalog.delete get?
      rw [hnamed]
      dsimp only
      split <;> exact hsame
  | some r =>
      obtain ⟨front, back, hcut⟩ :=
        exists_cut ((c.store.find?_eq_find? reference).symm.trans hnamed)
      obtain ⟨hrecords, hanswer⟩ := Store.delete_of_cut hkeys hcut
      have hdelete : (c.delete reference).catalog
          = Catalog.forget { c with store := (c.store.delete reference).state } r.publicRef := by
        unfold Catalog.delete get?
        dsimp only
        rw [hnamed, hanswer hsaved]
      rw [hdelete]
      refine ⟨(h.forget r.publicRef).keys_nodup, ?_⟩
      intro key hkey
      rw [keys_forget, List.mem_filter, bne_iff_ne] at hkey
      obtain ⟨hold, hne⟩ := hkey
      -- another record of that reference is left
      obtain ⟨owner, howner, rfl⟩ := List.mem_map.mp (h.stored hold)
      refine List.mem_map_of_mem (f := Redirect.publicRef) ?_
      show owner ∈ (c.store.delete reference).state.records
      rw [hrecords]
      rw [hcut.eq, List.mem_append, List.mem_cons] at howner
      rcases howner with hfront | rfl | hback
      · exact List.mem_append_left _ hfront
      · exact absurd rfl hne
      · exact List.mem_append_right _ hback

/-! ## Runs -/

/-- **A proper action**: it does not go behind the back of the catalog, and the store does not fail
to write. -/
def Action.IsProper (s : Store) : Action → Prop
  | .call k => IsSaved (s.perform k).answer
  | .behind _ => False
  | .find _ | .resolve _ | .replace _ => True

/-- All actions of a run are proper. -/
def IsProperRun : Store → List Action → Prop
  | _, [] => True
  | s, a :: rest => a.IsProper s ∧ IsProperRun (a.onStore s) rest

instance (s : Store) (a : Action) : Decidable (a.IsProper s) := by
  cases a <;> unfold Action.IsProper <;> infer_instance

instance decidableIsProperRun : (s : Store) → (actions : List Action) →
    Decidable (IsProperRun s actions)
  | _, [] => isTrue trivial
  | s, a :: rest => @instDecidableAnd _ _ _ (decidableIsProperRun (a.onStore s) rest)

/-- An action leaves a store with keys. -/
theorem hasKeys_onStore {s : Store} (h : s.HasKeys) (a : Action) : (a.onStore s).HasKeys := by
  cases a with
  | call k => exact Store.hasKeys_perform h k
  | behind k => exact Store.hasKeys_perform h k
  | find reference => exact h
  | resolve path => exact h
  | replace disk =>
      intro htable
      cases s with
      | memory m => exact h htable
      | file f => exact absurd htable (by simp [Action.onStore, Store.withDisk, Store.isTable])
      | table t => exact h htable

/-- **Every proper action keeps the catalog tidy.** -/
theorem Tidy.act (h : Tidy c) (hkeys : c.store.HasKeys) {a : Action} (ha : a.IsProper c.store) :
    Tidy (c.act a) := by
  cases a with
  | call k =>
      cases k with
      | create fresh aliasName destination user =>
          have hstore := h.onStore (refs_subset_create c.store fresh aliasName destination user)
          show Tidy (c.create fresh aliasName destination user).catalog
          unfold Catalog.create
          dsimp only
          split
          · exact hstore
          · rename_i r hr
            exact hstore.compile (Store.mem_of_create_ok hr)
      | update reference destination user =>
          have hstore := h.onStore (refs_subset_update c.store reference destination user)
          show Tidy (c.update reference destination user).catalog
          unfold Catalog.update
          dsimp only
          split
          · exact hstore
          · rename_i r hr
            exact (hstore.forget r.publicRef).compile (Store.mem_of_update_ok hr)
      | delete reference => exact h.delete hkeys (isSaved_map_iff.mp ha)
      | find reference => exact h
      | page page limit => exact h
      | count => exact h
  | behind k => exact absurd ha id
  | find reference => exact h.find? reference
  | resolve path =>
      show Tidy (c.resolve path).catalog
      unfold Catalog.resolve
      dsimp only
      split
      · exact h
      · exact h.find? _
  | replace disk =>
      refine h.onStore ?_
      rw [Store.records_withDisk]
      exact List.Subset.refl _

/-- **Every proper run keeps the catalog tidy.** -/
theorem Tidy.run {actions : List Action} :
    ∀ {c : Catalog}, Tidy c → c.store.HasKeys → IsProperRun c.store actions →
      Tidy (c.run actions) := by
  induction actions with
  | nil =>
      intro c h _ _
      exact h
  | cons a rest ih =>
      intro c h hkeys hproper
      obtain ⟨hfirst, hrest⟩ := hproper
      refine ih (h.act hkeys hfirst) ?_ ?_
      · rw [store_act]
        exact hasKeys_onStore hkeys a
      · rw [store_act]
        exact hrest

/-! ## What is kept after a change -/

section Changes

variable {r : Redirect}

/-- A creation that succeeds compiles the record that it has stored. -/
theorem create_of_ok {fresh : Fresh} {aliasName : String} {destination : Loose}
    {user : Option String} (h : (c.create fresh aliasName destination user).answer = .ok r) :
    r ∈ (c.store.create fresh aliasName destination user).state.records
      ∧ (c.create fresh aliasName destination user).catalog
        = (({ c with store := (c.store.create fresh aliasName destination user).state } :
            Catalog).compile r).catalog := by
  rw [answer_create] at h
  refine ⟨Store.mem_of_create_ok h, ?_⟩
  unfold create
  dsimp only
  rw [h]

/-- An update that succeeds drops the link of the record that it has changed and compiles it. -/
theorem update_of_ok {reference : String} {destination : Loose} {user : Option String}
    (h : (c.update reference destination user).answer = .ok r) :
    r ∈ (c.store.update reference destination user).state.records
      ∧ (c.update reference destination user).catalog
        = ((({ c with store := (c.store.update reference destination user).state } :
            Catalog).forget r.publicRef).compile r).catalog := by
  rw [answer_update] at h
  refine ⟨Store.mem_of_update_ok h, ?_⟩
  unfold update
  dsimp only
  rw [h]

/-- A record that is created has the reference that was handed out for it. -/
theorem publicRef_of_create {s : Store} {fresh : Fresh} {aliasName : String} {destination : Loose}
    {user : Option String} (h : (s.create fresh aliasName destination user).answer = .ok r) :
    r.publicRef = fresh.publicRef := by
  have hrecords := Store.records_of_create_ok h
  rcases s.records_create fresh aliasName destination user with heq | ⟨new, heq, href, -⟩
  · rw [heq] at hrecords
    exact absurd (List.self_eq_append_right.mp hrecords) (List.cons_ne_nil _ _)
  · rw [heq] at hrecords
    rw [← (List.cons.inj (List.append_cancel_left hrecords)).1]
    exact href

end Changes

/-- **Links are kept for stored records only.** After any proper run from a store without records,
each link that is kept stands under the reference of a stored record, and there are no more links
than records.

A creation that succeeds then keeps a link for the record with the variants of its destination, and
under the alias of the record, unless another record has the same reference. An update that succeeds
keeps the link that is compiled anew from the record. -/
theorem links_tidy {s : Store} (hs : s.records = []) {actions : List Action}
    (hproper : IsProperRun s actions) :
    let c := (ofStore s).run actions
    (∀ key entry, (key, entry) ∈ c.compiled → ∃ r ∈ c.store.records, r.publicRef = key)
    ∧ c.cachedCount ≤ c.count
    ∧ (∀ fresh aliasName destination user r,
      let o := c.create fresh aliasName destination user
      o.answer = .ok r → r ∈ o.catalog.store.records
        ∧ ∃ link, o.catalog.cached? r.publicRef = some ⟨r.destination, link⟩
          ∧ link.variants = Link.variantsOf r.destination
          ∧ ((∀ other ∈ c.store.records, other.publicRef ≠ fresh.publicRef) →
            link = Link.ofDestination r.aliasName r.destination))
    ∧ ∀ reference destination user r,
      let o := c.update reference destination user
      o.answer = .ok r → r ∈ o.catalog.store.records
        ∧ o.catalog.cached? r.publicRef
          = some ⟨r.destination, Link.ofDestination r.aliasName r.destination⟩ := by
  intro c
  have htidy : Tidy c := (tidy_ofStore s).run (Store.hasKeys_of_records_eq_nil hs) hproper
  have hfaithful : Faithful (s.records ++ issued s actions) c := (faithful_ofStore s).run
  refine ⟨?_, htidy.cachedCount_le_count, ?_, ?_⟩
  · intro key entry hmem
    exact List.mem_map.mp (htidy.stored (List.mem_map_of_mem (f := Prod.fst) hmem))
  · intro fresh aliasName destination user r o hr
    obtain ⟨hmem, hcatalog⟩ := create_of_ok hr
    have hlink := cached?_compile
      { c with store := (c.store.create fresh aliasName destination user).state } r
    rw [← hcatalog] at hlink
    refine ⟨?_, _, hlink, ?_, ?_⟩
    · show r ∈ (c.create fresh aliasName destination user).catalog.store.records
      rw [store_create]
      exact hmem
    · -- a link that was there already was compiled from the same destination
      have hstore := hfaithful.onStore (.call (.create fresh aliasName destination user))
      obtain ⟨-, g, -, -, hanswer⟩ := hstore.compile (hstore.stored r hmem)
      exact congrArg Link.variants hanswer
    · intro hfresh
      rw [answer_create] at hr
      refine answer_compile_of_not_mem fun hkey => ?_
      obtain ⟨other, hother, href⟩ := List.mem_map.mp (htidy.stored hkey)
      exact hfresh other hother (href.trans (publicRef_of_create hr))
  · intro reference destination user r o hr
    obtain ⟨hmem, hcatalog⟩ := update_of_ok hr
    have hdropped : r.publicRef ∉ (({ c with
        store := (c.store.update reference destination user).state } :
          Catalog).forget r.publicRef).keys := by
      rw [keys_forget, List.mem_filter]
      simp
    refine ⟨?_, ?_⟩
    · show r ∈ (c.update reference destination user).catalog.store.records
      rw [store_update]
      exact hmem
    · show (c.update reference destination user).catalog.cached? r.publicRef = _
      rw [hcatalog, cached?_compile, answer_compile_of_not_mem hdropped]

/-- Records are made, looked up, changed and removed, one of them twice. -/
def removedRun : List Action :=
  [.call (.create (.atNewYear "Ref0000001") "Wiki" "https://a.io/\x7b$1\x7d" none),
    .call (.create (.atNewYear "Ref0000002") "docs" "https://b.io" none),
    .call (.create (.atNewYear "Ref0000003") "/DOCS" "https://c.io" none),
    .resolve "wiki x",
    .call (.update "docs" "https://d.io" none),
    .call (.delete "/wiki"),
    .call (.delete "Ref0000001")]

/-- After the run only the record that is left has a link, and another update replaces it. -/
theorem links_tidy_removedRun :
    let c := (ofStore (.table .empty)).run removedRun
    IsProperRun (.table .empty) removedRun
    ∧ c.cachedCount ≤ c.count
    ∧ (∀ key entry, (key, entry) ∈ c.compiled → ∃ r ∈ c.store.records, r.publicRef = key)
    ∧ (c.update "docs" "https://e.io" none).catalog.cached? "Ref0000002"
      = some ⟨"https://e.io", Link.ofDestination "docs" "https://e.io"⟩ := by
  intro c
  have hproper : IsProperRun (.table .empty) removedRun := by decide +kernel
  obtain ⟨hstored, hcount, -, hupdate⟩ := links_tidy (s := .table .empty) rfl hproper
  exact ⟨hproper, hcount, hstored, (hupdate "docs" "https://e.io" none _ rfl).2⟩

/-- A removal that fails to be written leaves a link behind. -/
example :
    let c := (ofStore (.file ⟨"links.json", .vacant, .empty⟩)).run
      [.call (.create (.atNewYear "Ref0000001") "wiki" "https://a.io" none),
        .replace .directory, .call (.delete "wiki")]
    c.count = 0 ∧ c.cachedCount = 1 := by
  decide +kernel

end Catalog

end Shortlink
