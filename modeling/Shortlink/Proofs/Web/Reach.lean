import Shortlink.Proofs.Lookup
import Shortlink.Proofs.Web.Effect
import Shortlink.Proofs.Web.Gateway
import Shortlink.Proofs.Web.Target

/-!
# Reaching a record

A client reaches a record by reading the path of its alias, with arguments behind it, in any written
form. Each step of the way back is the inverse of one on the way there: the written form is decoded,
the decoded text is cut where it was joined, the slash in front is dropped by the service or by the
normalization of the alias, the alias finds its own record, and the link is that of its current
destination. So the client is sent to the destination with the arguments filled in, unless the path
is that of the page for signing in: `App.reaches_iff`.

## Contents

- **Cutting.** `AreArguments`; `tokens_joinTokens`, `aliasOf_of_decode`,
  `Link.destination_of_decode`.
- **Finding.** `Alias.normalize_of_slash`; `Store.find?_of_normalize`, `Store.find?_of_append`.
- **Look-ups.** `App.reply_of_find?`.
- **The way there and back.** `namedPath`, `exists_decode_lookup`; `IsReference`, `App.IsReached`;
  `App.reaches_iff`.
-/

namespace Shortlink

open Text

/-! ## Cutting -/

/-- **Arguments that arrive as they are**: no space splits them and no escape hides in them, and if
there are any, then not just one that is empty. -/
structure AreArguments (args : List (List Char)) : Prop where
  noSpace : ∀ t ∈ args, ' ' ∉ t
  noPercent : ∀ t ∈ args, '%' ∉ t
  joined : args = [] ∨ joinTokens args ≠ []

theorem areArguments_nil : AreArguments [] :=
  ⟨by simp, by simp, Or.inl rfl⟩

/-- Tokens without spaces are cut where they were joined. -/
theorem tokens_joinTokens {ts : List (List Char)} (h : ∀ t ∈ ts, ' ' ∉ t) (hne : ts ≠ []) :
    tokens (joinTokens ts) = ts :=
  List.splitOn_intercalate ' ' h hne

section

variable {raw reference : List Char} {args : List (List Char)}

theorem tokens_of_decode (h : Percent.decode raw = joinTokens (reference :: args))
    (href : ' ' ∉ reference) (hargs : AreArguments args) :
    tokens (Percent.decode raw) = reference :: args := by
  rw [h]
  exact tokens_joinTokens (List.forall_mem_cons.mpr ⟨href, hargs.noSpace⟩) (List.cons_ne_nil _ _)

/-- The first token is the alias. -/
theorem aliasOf_of_decode (h : Percent.decode raw = joinTokens (reference :: args))
    (href : ' ' ∉ reference) (hargs : AreArguments args) : Catalog.aliasOf raw = reference := by
  rw [Catalog.aliasOf, tokens_of_decode h href hargs, List.headD_cons]

/-- **The tokens behind the alias are filled in as they are.** -/
theorem Link.destination_of_decode (h : Percent.decode raw = joinTokens (reference :: args))
    (href : ' ' ∉ reference) (hargs : AreArguments args) (link : Link) :
    link.destination raw = link.fillIn args := by
  have htokens : typedTokens raw = args := by
    rw [typedTokens, tokens_of_decode h href hargs, List.tail_cons]
  -- so the second decoding, of what stands behind the alias, has nothing to do
  have hplain : ¬ Percent.HasEscape (typedText raw) := by
    rintro ⟨high, low, -, -, hinfix⟩
    have hmem : '%' ∈ joinTokens args := by
      rw [typedText, htokens] at hinfix
      exact hinfix.subset List.mem_cons_self
    rcases mem_joinTokens hmem with hspace | ⟨t, ht, hpercent⟩
    · exact absurd hspace (by decide)
    · exact hargs.noPercent t ht hpercent
  have harguments : typedArguments raw = args := by
    rw [typedArguments, htokens]
    rcases hargs.joined with rfl | hjoined
    · rfl
    · refine if_neg ?_
      rintro (rfl | rfl) <;> exact hjoined rfl
  rw [destination_eq_fillIn, Percent.decode_eq_self_iff.mpr (Or.inl hplain), ← typedArguments_eq,
    harguments]

end

/-! ## Finding -/

theorem Alias.IsStored.space_not_mem {aliasName : String} (h : IsStored aliasName) :
    ' ' ∉ aliasName.toList :=
  fun hmem => absurd (h.noBlank _ hmem) (by decide)

/-- **A slash in front of a stored alias is dropped when it is normalized.** -/
theorem Alias.normalize_of_slash {aliasName : String} (h : IsStored aliasName) :
    normalize (String.ofList ('/' :: aliasName.toList)) = aliasName := by
  have hstable : IsStable aliasName := congrArg normalize h.normalize_eq
  have hslash := normalize_slashed hstable 1
  rwa [h.normalize_eq] at hslash

/-- **A record is found under every text that is normalized to its alias**, if no two records share
the alias and no reference is that text. -/
theorem Store.find?_of_normalize {s : Store} (hdistinct : s.AliasesDistinct) {m : Redirect}
    (hm : m ∈ s.records) {reference : String} (hname : Alias.normalize reference = m.aliasName)
    (hfree : ∀ other ∈ s.records, other.publicRef ≠ reference) :
    s.find? reference = some m := by
  refine find?_of_unique hm (Redirect.refersTo_iff.mpr (Or.inr hname.symm)) ?_
  intro other hother href
  rcases Redirect.refersTo_iff.mp href with href | halias
  · exact absurd href (hfree other hother)
  · exact List.inj_on_of_nodup_map hdistinct hother hm (halias.trans hname)

/-- **A record that stands behind others is found under its alias** if none of them has the alias,
nor a reference that is the same text. -/
theorem Store.find?_of_append {s : Store} {front : List Redirect} {m : Redirect}
    (hrecords : s.records = front ++ [m]) (halias : Alias.IsStored m.aliasName)
    (hnew : m.aliasName ∉ front.map (·.aliasName))
    (hfree : ∀ other ∈ front, other.publicRef ≠ m.aliasName) :
    s.find? m.aliasName = some m := by
  refine find?_of_unique ?_ (Redirect.refersTo_iff.mpr (Or.inr halias.normalize_eq.symm)) ?_
  · rw [hrecords]
    exact List.mem_append_right _ (List.mem_singleton_self m)
  · intro other hother href
    rw [hrecords] at hother
    rcases List.mem_append.mp hother with hfront | hlast
    · rcases Redirect.refersTo_iff.mp href with href | hname
      · exact absurd href (hfree other hfront)
      · rw [halias.normalize_eq] at hname
        exact absurd (List.mem_map.mpr ⟨other, hfront, hname⟩) hnew
    · exact List.mem_singleton.mp hlast

namespace Web

open Request

/-! ## Look-ups -/

/-- **A look-up of a text that finds a record** is answered by the place of its current destination
with the arguments filled in. -/
theorem App.reply_of_find? {app : App} {given : List Redirect}
    (hfaithful : Catalog.Faithful given app.catalog) {r : Request} (hget : r.method = "GET")
    (hpath : IsLookupPath r.path) {reference : List Char} {args : List (List Char)}
    (hlookup : Percent.decode r.lookup = joinTokens (reference :: args)) (hne : reference ≠ [])
    (href : ' ' ∉ reference) (hargs : AreArguments args) {m : Redirect}
    (hm : app.catalog.store.find? (String.ofList reference) = some m) (fresh : Fresh) :
    (app.handle fresh r).reply = .response
      (sentTo (location ((Link.ofDestination m.aliasName m.destination).fillIn args))) := by
  -- an empty look-up would decode to the empty reference
  have hlookup_ne : r.lookup.isEmpty = false := by
    rw [List.isEmpty_eq_false_iff]
    intro hnil
    have halias := aliasOf_of_decode hlookup href hargs
    rw [hnil] at halias
    exact hne halias.symm
  -- the compiled link is that of the record, whatever was compiled before
  have hresolve : (app.catalog.resolve (String.ofList r.lookup)).answer
      = some (String.ofList ((Link.ofDestination m.aliasName m.destination).fillIn args)) := by
    rw [hfaithful.resolve, Store.resolve?, String.toList_ofList,
      aliasOf_of_decode hlookup href hargs, if_neg (by simpa using hne), hm, Option.map_some,
      Link.destination_of_decode hlookup href hargs]
  rw [App.reply_of_isLookupPath hget hpath app fresh, lookupLocation, hlookup_ne, hresolve]
  simp only [Bool.false_eq_true, if_false, String.toList_ofList]

/-! ## The way there and back -/

/-- The path of an alias with arguments behind it. -/
def namedPath (aliasName : String) (args : List (List Char)) : List Char :=
  '/' :: joinTokens (aliasName.toList :: args)

theorem joinTokens_cons_cons (c : Char) (t : List Char) (ts : List (List Char)) :
    joinTokens ((c :: t) :: ts) = c :: joinTokens (t :: ts) := by
  cases ts with
  | nil => rfl
  | cons t' ts => rfl

/-- **Whatever written form of the path a client sends**, what is looked up begins with the alias
or, where the slash in front is escaped, with the alias behind that slash. -/
theorem exists_decode_lookup {target aliasName : String} {args : List (List Char)}
    (h : Writes target (namedPath aliasName args)) (headers : List (String × String))
    (body : List UInt8) :
    ∃ reference, (reference = aliasName.toList ∨ reference = '/' :: aliasName.toList)
      ∧ Percent.decode (ofTarget "GET" target headers body true).lookup
        = joinTokens (reference :: args) := by
  by_cases hslash : (targetPath target).head? = some '/'
  · exact ⟨_, Or.inl rfl, decode_lookup_of_slash h hslash⟩
  · refine ⟨_, Or.inr rfl, ?_⟩
    rw [decode_lookup_of_escape h (List.cons_ne_nil _ _) hslash, namedPath, joinTokens_cons_cons]

theorem not_mem_namedPath {aliasName : String} (halias : Alias.IsStored aliasName)
    {args : List (List Char)} (hline : ∀ t ∈ args, '\n' ∉ t) :
    '\n' ∉ joinTokens (aliasName.toList :: args) := by
  intro hmem
  rcases mem_joinTokens hmem with hspace | ⟨t, ht, hc⟩
  · exact absurd hspace (by decide)
  · rcases List.mem_cons.mp ht with rfl | ht
    · exact absurd (halias.noBlank _ hc) (by decide)
    · exact hline t ht hc

/-- A reference of a record is made of letters and digits. -/
def IsReference (publicRef : String) : Prop :=
  ∀ c ∈ publicRef.toList, c.isAlphanum = true

/-- **A service that has answered some requests** since it began with an empty store; the records
that it made got references of letters and digits. -/
def App.IsReached (app : App) : Prop :=
  ∃ (s : Store) (site : Option Site) (spelling : Spelling) (requests : List (Fresh × Request)),
    s.records = [] ∧ (∀ p ∈ requests, IsReference p.1.publicRef)
      ∧ app = (App.mk (.ofStore s) site spelling).serve requests

section

variable {app : App}

theorem App.IsReached.managed (h : app.IsReached) : IsManaged app.catalog.store.records := by
  obtain ⟨s, site, spelling, requests, hs, -, rfl⟩ := h
  exact (App.isSound_serve (Store.isSound_of_records_eq_nil hs) requests).managed

theorem App.IsReached.exists_faithful (h : app.IsReached) :
    ∃ given, Catalog.Faithful given app.catalog := by
  obtain ⟨s, site, spelling, requests, -, -, rfl⟩ := h
  exact App.exists_faithful_serve s site spelling requests

theorem App.IsReached.isReference (h : app.IsReached) :
    ∀ m ∈ app.catalog.store.records, IsReference m.publicRef := by
  obtain ⟨s, site, spelling, requests, hs, hrefs, rfl⟩ := h
  refine App.refs_serve hrefs ?_
  intro m hm
  change m ∈ s.records at hm
  rw [hs] at hm
  exact absurd hm List.not_mem_nil

/-- **A record is found under its alias, with a slash in front or without**, if no reference is the
alias; with a slash it is none, for it is no letter or digit. -/
theorem App.IsReached.find?_of_name (h : app.IsReached) {m : Redirect}
    (hm : m ∈ app.catalog.store.records)
    (hfree : ∀ other ∈ app.catalog.store.records, other.publicRef ≠ m.aliasName)
    {reference : List Char}
    (href : reference = m.aliasName.toList ∨ reference = '/' :: m.aliasName.toList) :
    app.catalog.store.find? (String.ofList reference) = some m := by
  have hdistinct := h.managed.aliases_nodup
  have halias := h.managed.aliases_stored m hm
  rcases href with rfl | rfl
  · rw [String.ofList_toList]
    exact Store.find?_of_normalize hdistinct hm halias.normalize_eq hfree
  · refine Store.find?_of_normalize hdistinct hm (Alias.normalize_of_slash halias) ?_
    intro other hother heq
    have hletter := h.isReference other hother '/' (by
      rw [heq, String.toList_ofList]
      exact List.mem_cons_self)
    exact absurd hletter (by decide)

end

/-- The page for signing in is read by a route of its own. -/
theorem choose_signIn (hasUi : Bool) :
    choose hasUi "GET" "/docs/oauth2-redirect".toList = .answer .signIn := by
  cases hasUi <;> decide +kernel

/-- **Reading the path of an alias, in any written form, leads to the current destination with the
arguments filled in**, just if the path is not that of the page for signing in. The alias must be no
reference of a record, and the path neither reserved nor one of the other three that are fixed. -/
theorem App.reaches_iff {app : App} (happ : app.IsReached) {m : Redirect}
    (hm : m ∈ app.catalog.store.records)
    (hfree : ∀ other ∈ app.catalog.store.records, other.publicRef ≠ m.aliasName)
    {args : List (List Char)} (hargs : AreArguments args) (hline : ∀ t ∈ args, '\n' ∉ t)
    (hfixed : ∀ form ∈ ["/health", "/status", "/favicon.ico"],
      namedPath m.aliasName args ≠ form.toList)
    (hreserved : ¬ reservedStart.toList <+: namedPath m.aliasName args)
    {target : String} (hwrites : Writes target (namedPath m.aliasName args))
    (headers : List (String × String)) (body : List UInt8) (fresh : Fresh) :
    (app.handle fresh (.ofTarget "GET" target headers body true)).reply = .response
        (sentTo (location ((Link.ofDestination m.aliasName m.destination).fillIn args)))
      ↔ namedPath m.aliasName args ≠ "/docs/oauth2-redirect".toList := by
  have halias := happ.managed.aliases_stored m hm
  have hpath : (ofTarget "GET" target headers body true).path = namedPath m.aliasName args :=
    path_of_writes hwrites true
  constructor
  · intro hreply heq
    have hchoice : choose app.site.isSome (ofTarget "GET" target headers body true).method
        (ofTarget "GET" target headers body true).path = .answer .signIn := by
      rw [hpath, heq]
      exact choose_signIn _
    rw [App.handle_of_answer hchoice] at hreply
    exact absurd (congrArg Response.status (Reply.response.inj hreply))
      (show (200 : Nat) ≠ 307 by decide)
  · intro hne
    obtain ⟨given, hfaithful⟩ := happ.exists_faithful
    have hlookup : IsLookupPath (ofTarget "GET" target headers body true).path := by
      rw [hpath]
      refine (isLookupPath_iff (not_mem_namedPath halias hline)).mpr ⟨hreserved, ?_⟩
      exact List.forall_mem_cons.mpr ⟨hne, hfixed⟩
    obtain ⟨reference, href, hdecode⟩ := exists_decode_lookup hwrites headers body
    have hfound := happ.find?_of_name hm hfree href
    have hspace := halias.space_not_mem
    refine App.reply_of_find? hfaithful rfl hlookup hdecode ?_ ?_ hargs hfound fresh
    · rcases href with rfl | rfl
      · exact halias.ne_nil
      · exact List.cons_ne_nil _ _
    · rcases href with rfl | rfl
      · exact hspace
      · rw [List.mem_cons, not_or]
        exact ⟨by decide, hspace⟩

/-- The request to make a record with the given alias and destination. -/
def Request.making (aliasName destination : String) : Request :=
  .sending "POST" "/_gadget/api/redirect"
    ("\x7b\"alias\": \"" ++ aliasName ++ "\", \"destination\": \"" ++ destination ++ "\"\x7d")

/-- The service of an empty memory after one record has been made. -/
def App.making (aliasName destination : String) : App :=
  App.bare.after (App.bare.handle (.atNewYear "Ref0000001") (.making aliasName destination))

/-- A record is made under an alias with an umlaut, and then gets another destination. -/
def umlautRequests : List (Fresh × Request) :=
  [(.atNewYear "Ref0000001", .making "/MÜLL" "https://a.io"),
    (.atNewYear "Ref0000002", .sending "PUT" "/_gadget/api/redirect/Ref0000001"
      "\x7b\"destination\": \"https://b.io/\x7b$1\x7d\"\x7d")]

/-- The service of an empty memory after these requests. -/
def App.withUmlaut : App :=
  (App.mk (.ofStore (.memory .empty)) none spellChar).serve umlautRequests

/-- The umlaut of the alias arrives, and so does the question mark of an argument. -/
theorem App.reaches_iff_umlaut :
    ∃ m ∈ App.withUmlaut.catalog.store.records,
      App.withUmlaut.IsReached ∧ AreArguments ["a/b?".toList]
      ∧ (App.withUmlaut.handle (.atNewYear "") (.reading "/m%C3%BCll%20a/b%3F")).reply
        = .response (sentTo "https://b.io/a/b?".toList) := by
  have hreached : App.withUmlaut.IsReached := by
    refine ⟨.memory .empty, none, spellChar, umlautRequests, rfl, ?_, rfl⟩
    have hrefs : (umlautRequests.all fun p => p.1.publicRef.toList.all (·.isAlphanum)) = true := by
      decide +kernel
    intro p hp
    exact List.all_eq_true.mp (List.all_eq_true.mp hrefs p hp)
  have hargs : AreArguments ["a/b?".toList] := ⟨by decide, by decide, by decide⟩
  have hfields : App.withUmlaut.catalog.store.records.map
      (fun m => (m.publicRef, m.aliasName, m.destination))
        = [("Ref0000001", "müll", "https://b.io/\x7b$1\x7d")] := by
    decide +kernel
  obtain ⟨m, hrecords, hm⟩ := List.map_eq_singleton_iff.mp hfields
  obtain ⟨href, hname⟩ := Prod.mk.inj hm
  obtain ⟨halias, hdestination⟩ := Prod.mk.inj hname
  have hwrites : Writes "/m%C3%BCll%20a/b%3F" (namedPath "müll" ["a/b?".toList]) := by
    have htarget : targetPath "/m%C3%BCll%20a/b%3F"
        = Percent.encode isTargetChar (namedPath "müll" ["a/b?".toList]) := by
      decide +kernel
    rw [Writes, htarget]
    exact Percent.isWritten_encode fun _ _ h => h
  have hm : m ∈ App.withUmlaut.catalog.store.records := by
    rw [hrecords]
    exact List.mem_singleton_self m
  refine ⟨m, hm, hreached, hargs, ?_⟩
  have hfree : ∀ other ∈ App.withUmlaut.catalog.store.records,
      other.publicRef ≠ m.aliasName := by
    intro other hother
    rw [hrecords] at hother
    rw [List.mem_singleton.mp hother, href, halias]
    decide
  have hreply := (App.reaches_iff hreached hm hfree hargs (by decide)
    (by rw [halias]; decide +kernel) (by rw [halias]; decide +kernel)
    (by rw [halias]; exact hwrites)
    [] [] (.atNewYear "")).mpr (by rw [halias]; decide +kernel)
  rw [halias, hdestination] at hreply
  have hplace : location ((Link.ofDestination "müll" "https://b.io/\x7b$1\x7d").fillIn
      ["a/b?".toList]) = "https://b.io/a/b?".toList := by
    decide +kernel
  rwa [hplace] at hreply

/-- An alias that is made is not reached where the page for signing in is. -/
theorem App.signIn_hides_alias :
    (App.making "docs/oauth2-redirect" "https://a.io").catalog.store.records.map
        (fun m => (m.publicRef, m.aliasName, m.destination))
        = [("Ref0000001", "docs/oauth2-redirect", "https://a.io")]
      ∧ ((App.making "docs/oauth2-redirect" "https://a.io").handle (.atNewYear "")
        (.reading "/docs/oauth2-redirect")).reply.status? = some 200 := by
  decide +kernel

end Web

end Shortlink
