import Mathlib.Data.List.Nodup
import Shortlink.Proofs.Catalog.Run

/-!
# The compiled links are never seen

A catalog answers as if it compiled every record anew (`cache_transparent`), whatever run has led to
it and whatever was done to its store behind its back.

The invariant is `Faithful`: relative to the records that were *given* so far (those of the start
and those that were issued), each stored record goes by the names of a given one, and each link that
is kept was compiled from its own destination under the alias of a given record with its public
reference. Entries of records that are gone or were changed behind the back of the catalog stay
faithful: an entry only serves a record with the very destination that it was compiled from.

That the alias of a link is right as well takes that no public reference was given twice; then the
given record is determined by the reference.

## Contents

- `Store.resolve?`: looking up without compiled links.
- `Faithful`; `Faithful.compile`, `Faithful.act`, `Faithful.run`.
- `cache_transparent`, and a run behind whose back a record moves.
-/

namespace Shortlink

/-- The destination for a lookup string, compiled anew from the record that its alias names. -/
def Store.resolve? (s : Store) (path : String) : Option String :=
  let aliasName := Catalog.aliasOf path.toList
  if aliasName.isEmpty then none
  else (s.find? (String.ofList aliasName)).map fun r =>
    String.ofList ((Link.ofDestination r.aliasName r.destination).destination path.toList)

/-- Links with the same variants lead to the same destinations. -/
theorem Link.destination_congr {l l' : Link} (h : l.variants = l'.variants) (raw : List Char) :
    l.destination raw = l'.destination raw := by
  obtain ⟨aliasName, variants, hne⟩ := l
  obtain ⟨aliasName', variants', hne'⟩ := l'
  simp only at h
  subst h
  rfl

/-- An alias that begins with no slash gets one as a path. -/
theorem Link.aliasPath_of_head? {aliasName : String} (h : aliasName.toList.head? ≠ some '/') :
    aliasPath aliasName = "/" ++ aliasName :=
  if_neg h

namespace Catalog

/-! ## The list of links -/

theorem mem_of_cached? {c : Catalog} {publicRef : String} {entry : Compiled}
    (h : c.cached? publicRef = some entry) : (publicRef, entry) ∈ c.compiled := by
  obtain ⟨front, back, heq, -⟩ := List.lookup_eq_some_iff.mp h
  rw [heq]
  exact List.mem_append_right _ List.mem_cons_self

theorem mem_put {publicRef key : String} {entry e : Compiled} {links : List (String × Compiled)}
    (h : (key, e) ∈ put publicRef entry links) :
    (key = publicRef ∧ e = entry) ∨ (key, e) ∈ links := by
  induction links with
  | nil =>
      rw [put, List.mem_singleton, Prod.mk.injEq] at h
      exact Or.inl h
  | cons first rest ih =>
      obtain ⟨k, old⟩ := first
      rw [put] at h
      split at h
      · -- the entry takes the place of the one under the same key
        rename_i hk
        rcases List.mem_cons.mp h with heq | hrest
        · obtain ⟨rfl, rfl⟩ := Prod.mk.inj heq
          exact Or.inl ⟨hk, rfl⟩
        · exact Or.inr (List.mem_cons_of_mem _ hrest)
      · rcases List.mem_cons.mp h with heq | hrest
        · exact Or.inr (List.mem_cons.mpr (Or.inl heq))
        · exact (ih hrest).imp id (List.mem_cons_of_mem _)

/-! ## The invariant -/

/-- **A faithful catalog**, relative to the records given so far. -/
structure Faithful (given : List Redirect) (c : Catalog) : Prop where
  stored : ∀ r ∈ c.store.records, ∃ g ∈ given, g.names = r.names
  kept : ∀ publicRef entry, (publicRef, entry) ∈ c.compiled → ∃ g ∈ given,
    g.publicRef = publicRef ∧ entry.link = Link.ofDestination g.aliasName entry.destination

/-- At the start nothing is compiled. -/
theorem faithful_ofStore (s : Store) : Faithful s.records (ofStore s) :=
  ⟨fun r hr => ⟨r, hr, rfl⟩, fun _ _ h => absurd h List.not_mem_nil⟩

variable {given : List Redirect} {c : Catalog}

theorem Faithful.mono {given' : List Redirect} (h : Faithful given c) (hsub : given ⊆ given') :
    Faithful given' c := by
  refine ⟨?_, ?_⟩
  · intro r hr
    obtain ⟨g, hg, hnames⟩ := h.stored r hr
    exact ⟨g, hsub hg, hnames⟩
  · intro publicRef entry hmem
    obtain ⟨g, hg, hlink⟩ := h.kept publicRef entry hmem
    exact ⟨g, hsub hg, hlink⟩

theorem Faithful.forget (h : Faithful given c) (publicRef : String) :
    Faithful given (c.forget publicRef) :=
  ⟨h.stored, fun key entry hmem => h.kept key entry (List.mem_filter.mp hmem).1⟩

/-- **Compiling a record of given names** keeps the catalog faithful, and its answer is compiled
from the destination of the record, whether a kept link was taken or not. -/
theorem Faithful.compile (h : Faithful given c) {r : Redirect}
    (hr : ∃ g ∈ given, g.names = r.names) :
    Faithful given (c.compile r).catalog ∧ ∃ g ∈ given, g.publicRef = r.publicRef
      ∧ (c.compile r).answer = Link.ofDestination g.aliasName r.destination := by
  have hanew : Faithful given (compile.compileAnew c r).catalog ∧ ∃ g ∈ given,
      g.publicRef = r.publicRef
        ∧ (compile.compileAnew c r).answer = Link.ofDestination g.aliasName r.destination := by
    obtain ⟨g, hg, hnames⟩ := hr
    obtain ⟨href, halias⟩ := Prod.mk.inj hnames
    refine ⟨⟨h.stored, ?_⟩, g, hg, href, ?_⟩
    · intro publicRef entry hmem
      rcases mem_put hmem with ⟨rfl, rfl⟩ | hold
      · exact ⟨g, hg, href, by rw [halias]⟩
      · exact h.kept publicRef entry hold
    · rw [halias]
      rfl
  unfold Catalog.compile
  split
  · rename_i entry hentry
    by_cases hdest : entry.destination = r.destination
    · -- the entry serves only because it was compiled from this very destination
      rw [if_pos hdest]
      obtain ⟨g, hg, href, hlink⟩ := h.kept _ entry (mem_of_cached? hentry)
      exact ⟨h, g, hg, href, by rw [← hdest]; exact hlink⟩
    · rw [if_neg hdest]
      exact hanew
  · exact hanew

/-- A look-up keeps the catalog faithful. -/
theorem Faithful.find? (h : Faithful given c) (reference : String) :
    Faithful given (c.find? reference).catalog := by
  unfold Catalog.find?
  split
  · exact h
  · rename_i r hr
    exact (h.compile (h.stored r (Store.mem_of_find? hr))).1

/-- A new store behind the same links is faithful when all that it holds was given. -/
theorem Faithful.onStore (h : Faithful given c) (a : Action) :
    Faithful (given ++ made c.store a) { c with store := a.onStore c.store } := by
  have hmono := h.mono (List.subset_append_left given (made c.store a))
  refine ⟨?_, hmono.kept⟩
  intro r hr
  rcases mem_names_onStore hr with hmade | ⟨old, hold, hnames⟩
  · exact ⟨r, List.mem_append_right _ hmade, rfl⟩
  · obtain ⟨g, hg, hg'⟩ := hmono.stored old hold
    exact ⟨g, hg, hg'.trans hnames⟩

/-- **Every action keeps the catalog faithful**, relative to what it has made besides. -/
theorem Faithful.act (h : Faithful given c) (a : Action) :
    Faithful (given ++ made c.store a) (c.act a) := by
  have hstore := h.onStore a
  cases a with
  | call k =>
      cases k with
      | create fresh aliasName destination user =>
          show Faithful _ (c.create fresh aliasName destination user).catalog
          unfold Catalog.create
          dsimp only
          split
          · exact hstore
          · rename_i r hr
            exact (hstore.compile (hstore.stored r (Store.mem_of_create_ok hr))).1
      | update reference destination user =>
          show Faithful _ (c.update reference destination user).catalog
          unfold Catalog.update
          dsimp only
          split
          · exact hstore
          · -- the old link of the record is dropped before a new one is compiled
            rename_i r hr
            exact ((hstore.forget r.publicRef).compile
              (hstore.stored r (Store.mem_of_update_ok hr))).1
      | delete reference =>
          show Faithful _ (c.delete reference).catalog
          unfold Catalog.delete
          dsimp only
          split
          · exact hstore
          · split
            · exact hstore.forget _
            · exact hstore
      | find reference => exact hstore
      | page page limit => exact hstore
      | count => exact hstore
  | behind k => exact hstore
  | find reference => exact (h.find? reference).mono (List.subset_append_left _ _)
  | resolve path =>
      show Faithful _ (c.resolve path).catalog
      unfold Catalog.resolve
      dsimp only
      split
      · exact hstore
      · exact (h.find? _).mono (List.subset_append_left _ _)
  | replace disk => exact hstore

/-- **Every run keeps the catalog faithful**, relative to what it has issued besides. -/
theorem Faithful.run {actions : List Action} :
    ∀ {given : List Redirect} {c : Catalog}, Faithful given c →
      Faithful (given ++ issued c.store actions) (c.run actions) := by
  induction actions with
  | nil =>
      intro given c h
      exact h.mono (List.subset_append_left _ _)
  | cons a rest ih =>
      intro given c h
      -- what the first action makes counts as given for the rest of the run
      have hrest := ih (h.act a)
      rw [store_act, List.append_assoc] at hrest
      exact hrest

/-! ## What a faithful catalog answers -/

/-- A faithful catalog finds a link just when its store has a record, and the link was compiled from
the destination of that record under the alias of a given record of the same reference. -/
theorem Faithful.answer_find? (h : Faithful given c) (reference : String) :
    (c.store.find? reference = none ∧ (c.find? reference).answer = none) ∨
    ∃ r g, c.store.find? reference = some r ∧ g ∈ given ∧ g.publicRef = r.publicRef
      ∧ (c.find? reference).answer = some (Link.ofDestination g.aliasName r.destination) := by
  unfold Catalog.find? get?
  cases hf : c.store.find? reference with
  | none => exact Or.inl ⟨rfl, rfl⟩
  | some r =>
      obtain ⟨-, g, hg, href, hanswer⟩ := h.compile (h.stored r (Store.mem_of_find? hf))
      exact Or.inr ⟨r, g, rfl, hg, href, congrArg some hanswer⟩

theorem Faithful.answer_find?_eq_none_iff (h : Faithful given c) (reference : String) :
    (c.find? reference).answer = none ↔ c.store.find? reference = none := by
  rcases h.answer_find? reference with ⟨hnone, hanswer⟩ | ⟨r, g, hr, -, -, hanswer⟩
  · rw [hnone, hanswer]
    exact ⟨fun _ => rfl, fun _ => rfl⟩
  · rw [hr, hanswer]
    exact ⟨fun hn => absurd hn (by simp), fun hn => absurd hn (by simp)⟩

theorem Faithful.variants_find? (h : Faithful given c) (reference : String) :
    (c.find? reference).answer.map Link.variants
      = (c.store.find? reference).map fun r => Link.variantsOf r.destination := by
  rcases h.answer_find? reference with ⟨hnone, hanswer⟩ | ⟨r, g, hr, -, -, hanswer⟩
  · rw [hnone, hanswer]
    rfl
  · rw [hr, hanswer]
    rfl

/-- If no public reference was given twice, the alias of a link is that of the record. -/
theorem Faithful.alias_find? (h : Faithful given c) (hrefs : (given.map (·.publicRef)).Nodup)
    (reference : String) :
    (c.find? reference).answer.map Link.aliasName
      = (c.store.find? reference).map fun r => Link.aliasPath r.aliasName := by
  rcases h.answer_find? reference with ⟨hnone, hanswer⟩ | ⟨r, g, hr, hg, href, hanswer⟩
  · rw [hnone, hanswer]
    rfl
  · obtain ⟨g', hg', hnames⟩ := h.stored r (Store.mem_of_find? hr)
    obtain ⟨href', halias⟩ := Prod.mk.inj hnames
    -- two given records of one public reference are one record
    have hsame : g = g' := List.inj_on_of_nodup_map hrefs hg hg' (href.trans href'.symm)
    rw [hr, hanswer, hsame]
    show some (Link.aliasPath g'.aliasName) = some (Link.aliasPath r.aliasName)
    rw [halias]

theorem Faithful.resolve (h : Faithful given c) (path : String) :
    (c.resolve path).answer = c.store.resolve? path := by
  unfold Catalog.resolve Store.resolve?
  dsimp only
  split
  · rfl
  · rcases h.answer_find? (String.ofList (aliasOf path.toList)) with
      ⟨hnone, hanswer⟩ | ⟨r, g, hr, -, -, hanswer⟩
    · rw [hnone, hanswer]
      rfl
    · rw [hr, hanswer]
      have hdest : (Link.ofDestination g.aliasName r.destination).destination path.toList
          = (Link.ofDestination r.aliasName r.destination).destination path.toList :=
        Link.destination_congr rfl path.toList
      exact congrArg (fun d => some (String.ofList d)) hdest

/-- No record that is stored in a run has an alias that begins with a slash, unless one at the start
had. -/
theorem head?_alias_of_run {s : Store} (actions : List Action)
    (hs : ∀ r ∈ s.records, r.aliasName.toList.head? ≠ some '/') :
    ∀ r ∈ ((ofStore s).run actions).store.records, r.aliasName.toList.head? ≠ some '/' := by
  intro r hr
  obtain ⟨g, hg, hnames⟩ := (faithful_ofStore s).run.stored r hr
  rw [← (Prod.mk.inj hnames).2]
  rcases List.mem_append.mp hg with hold | hnew
  · exact hs g hold
  · obtain ⟨text, htext⟩ := exists_normalize_of_mem_issued hnew
    rw [htext]
    exact Alias.head?_normalize text

/-- **The compiled links are never seen.** After any run of actions, from any store with nothing
compiled, the catalog resolves a lookup string and finds a link as if it compiled the stored record
anew. If moreover no public reference was given to two records, the alias of the link that is found
is that of the record as a path, which is a slash in front of it. -/
theorem cache_transparent (s : Store) (actions : List Action) (path reference : String) :
    let c := (ofStore s).run actions
    (c.resolve path).answer = c.store.resolve? path
    ∧ ((c.find? reference).answer = none ↔ c.store.find? reference = none)
    ∧ (c.find? reference).answer.map Link.variants
        = (c.store.find? reference).map (fun r => Link.variantsOf r.destination)
    ∧ (((s.records ++ issued s actions).map (·.publicRef)).Nodup →
        (c.find? reference).answer.map Link.aliasName
          = (c.store.find? reference).map (fun r => Link.aliasPath r.aliasName)
        ∧ ((∀ r ∈ s.records, r.aliasName.toList.head? ≠ some '/') →
          (c.find? reference).answer.map Link.aliasName
            = (c.store.find? reference).map (fun r => "/" ++ r.aliasName))) := by
  intro c
  have h : Faithful (s.records ++ issued s actions) c := (faithful_ofStore s).run
  refine ⟨h.resolve path, h.answer_find?_eq_none_iff reference, h.variants_find? reference, ?_⟩
  intro hrefs
  have halias := h.alias_find? hrefs reference
  refine ⟨halias, ?_⟩
  intro hslash
  rw [halias]
  cases hf : c.store.find? reference with
  | none => rfl
  | some r =>
      have hhead := head?_alias_of_run actions hslash r (Store.mem_of_find? hf)
      exact congrArg some (Link.aliasPath_of_head? hhead)

/-- A link is compiled, then its record gets another destination behind the back of the catalog. -/
def movedRun : List Action :=
  [.call (.create (.atNewYear "Ref0000001") "Wiki" "https://a.io/\x7b$1\x7d" none),
    .find "wiki",
    .behind (.update "wiki" "https://b.io/\x7b$1\x7d" none)]

/-- The catalog answers from the new destination, and the link has the alias of the record. -/
theorem cache_transparent_moved :
    let c := (ofStore (.memory .empty)).run movedRun
    (c.resolve "wiki%20x").answer = some "https://b.io/x"
    ∧ (c.find? "/WIKI").answer.map Link.aliasName = some "/wiki" := by
  have hrefs : (((Store.memory .empty).records ++ issued (.memory .empty) movedRun).map
      (·.publicRef)).Nodup := by decide +kernel
  have hslash : ∀ r ∈ (Store.memory .empty).records, r.aliasName.toList.head? ≠ some '/' :=
    fun _ h => absurd h List.not_mem_nil
  obtain ⟨hresolve, -, -, halias⟩ :=
    cache_transparent (.memory .empty) movedRun "wiki%20x" "/WIKI"
  refine ⟨?_, ?_⟩
  · rw [hresolve]
    decide +kernel
  · rw [((halias hrefs).2 hslash)]
    decide +kernel

end Catalog

end Shortlink
