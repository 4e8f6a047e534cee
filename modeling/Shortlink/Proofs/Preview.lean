import Shortlink.Main
import Shortlink.Proofs.Catalog.Transparency
import Shortlink.Proofs.Client.Asking
import Shortlink.Proofs.Lookup
import Shortlink.Proofs.Text.Decoding

/-!
# Previews are what the service gives

A command shows where a record leads for some options. It compiles the destination that the service
shows and evaluates each option by itself, whereas the service is given the alias and the option in
one text: it decodes the whole, drops the first token, joins the others and decodes them again.

The two agree because an alias holds neither a space nor a percent sign. So it stands in front of
the decoded option, whether that can be decoded or is kept as it stands
(`Percent.decode_append_of_not_mem`); it is the first token, and without it the decoded option is
left (`typedText_append`). Then there is the second decoding: it must not change the option any
more, and no less will do (`Link.destination_append_iff`). All together is `preview_agrees`, for
whatever answer to its request the command gets.

## Contents

- **Look-ups.** `typedText_append`, `Catalog.aliasOf_append`; `Link.destination_append_iff`.
- **Finding.** `Store.IsPreviewable`, `Store.IsPreviewable.exists_find?`.
- **The service.** `Catalog.Faithful.resolve_append`.
- **The command.** `CommandLine.runGet_of_item`, `CommandLine.runGet_of_found`;
  `CommandLine.preview_agrees`.
-/

namespace Shortlink

open Text

/-! ## Look-ups -/

section

variable {aliasName : List Char} (hspace : ' ' ∉ aliasName) (hpercent : '%' ∉ aliasName)
  (option : List Char)

include hspace hpercent

/-- The alias is the first token of what is decoded. -/
theorem tokens_decode_append : tokens (Percent.decode (aliasName ++ ' ' :: option))
    = aliasName :: tokens (Percent.decode option) := by
  rw [Percent.decode_append_of_not_mem hpercent, Percent.decode_cons_of_ne (by decide),
    tokens_append hspace]

/-- **Behind the alias stands the decoded option.** -/
theorem typedText_append : typedText (aliasName ++ ' ' :: option) = Percent.decode option := by
  rw [typedText, typedTokens, tokens_decode_append hspace hpercent, List.tail_cons,
    joinTokens_tokens]

theorem Catalog.aliasOf_append : Catalog.aliasOf (aliasName ++ ' ' :: option) = aliasName := by
  rw [Catalog.aliasOf, tokens_decode_append hspace hpercent, List.headD_cons]

/-- **Every link leads to the same destination** for an option behind an alias and for the option
alone, just if one decoding settles the option. -/
theorem Link.destination_append_iff :
    (∀ link : Link, link.destination (aliasName ++ ' ' :: option) = link.evaluate option)
      ↔ Percent.IsSettled option := by
  have hdestination : ∀ link : Link, link.destination (aliasName ++ ' ' :: option)
      = link.fillIn (arguments (Percent.decode (Percent.decode option))) := by
    intro link
    rw [Link.destination_eq_fillIn, typedText_append hspace hpercent]
  constructor
  · intro h
    -- the link of the empty destination shows its arguments
    have hempty := h (ofDestination "" "")
    rw [hdestination] at hempty
    exact Link.eq_of_fillIn_empty hempty
  · intro hsettled link
    rw [hdestination, hsettled]
    rfl

end

/-! ## Finding -/

/-- **A record that can be previewed**: it is stored under an alias that a path can name, in the
form in which aliases are stored, without a percent sign and other than all public references. -/
structure Store.IsPreviewable (s : Store) (r : Redirect) : Prop where
  mem : r ∈ s.records
  routable : Alias.isRoutable r.aliasName = true
  normal : Alias.normalize r.aliasName = r.aliasName
  noPercent : '%' ∉ r.aliasName.toList
  noReference : ∀ m ∈ s.records, m.publicRef ≠ r.aliasName

namespace Store.IsPreviewable

variable {s : Store} {r : Redirect}

theorem isStored (h : s.IsPreviewable r) : Alias.IsStored r.aliasName := by
  rw [← h.normal]
  exact Alias.isStored_normalize h.routable

theorem space_not_mem (h : s.IsPreviewable r) : ' ' ∉ r.aliasName.toList := by
  intro hmem
  exact absurd (h.isStored.noBlank ' ' hmem) (by decide)

/-- What its alias finds is a record of that alias: the record itself, if it is the only one. -/
theorem exists_find? (h : s.IsPreviewable r) : ∃ found, s.find? r.aliasName = some found
    ∧ found.aliasName = r.aliasName
    ∧ ((∀ m ∈ s.records, m.aliasName = r.aliasName → m = r) → found = r) := by
  -- the record answers to its own alias, so something is found
  have hself : r.refersTo r.aliasName = true := Redirect.refersTo_iff.mpr (Or.inr h.normal.symm)
  have hsome : (s.find? r.aliasName).isSome = true := by
    rw [Store.find?_eq_find?, List.find?_isSome]
    exact ⟨r, h.mem, hself⟩
  obtain ⟨found, hfound⟩ := Option.isSome_iff_exists.mp hsome
  have hmem : found ∈ s.records := Store.mem_of_find? hfound
  have halias : found.aliasName = r.aliasName := by
    have hrefers : found.refersTo r.aliasName = true := by
      rw [Store.find?_eq_find?] at hfound
      exact List.find?_some (p := fun m : Redirect => m.refersTo r.aliasName) hfound
    -- no reference is spelled like the alias, so what is found answers to it as its alias
    rcases Redirect.refersTo_iff.mp hrefers with href | hname
    · exact absurd href (h.noReference found hmem)
    · rw [hname, h.normal]
  exact ⟨found, hfound, halias, fun hunique => hunique found hmem halias⟩

end Store.IsPreviewable

/-! ## The service -/

/-- **A faithful catalog evaluates the option behind an alias** with the link of the record that the
alias finds. -/
theorem Catalog.Faithful.resolve_append {given : List Redirect} {c : Catalog}
    (h : Faithful given c) {r found : Redirect} (hr : c.store.IsPreviewable r)
    (hfound : c.store.find? r.aliasName = some found) {option : String}
    (hsettled : Percent.IsSettled option.toList) :
    (c.resolve (r.aliasName ++ " " ++ option)).answer = some (String.ofList
      ((Link.ofDestination found.aliasName found.destination).evaluate option.toList)) := by
  have hpath : (r.aliasName ++ " " ++ option).toList
      = r.aliasName.toList ++ ' ' :: option.toList := by simp
  have hevaluate := (Link.destination_append_iff hr.space_not_mem hr.noPercent
    option.toList).mpr hsettled
  -- whatever links are kept, the answer is that of a link that is compiled anew
  rw [h.resolve, Store.resolve?, hpath, Catalog.aliasOf_append hr.space_not_mem hr.noPercent,
    String.ofList_toList, List.isEmpty_eq_false_iff.mpr hr.isStored.ne_nil,
    if_neg Bool.false_ne_true, hfound, Option.map_some, hevaluate]

/-! ## The command -/

namespace CommandLine

open Client

variable {σ : Type}

/-- **The command prints what the link of the record that it is shown makes of each option.** -/
theorem runGet_of_item {ex : Exchange σ} {conn : Connection σ} {aliasName : String}
    {found : Redirect} (hanswer : (conn.request ex "GET" (recordPath aliasName) none).1
      = .ok found.item)
    (options : List String) :
    (runGet ex aliasName options conn).result = .ok ()
    ∧ (runGet ex aliasName options conn).printed = ("Redirect target: " ++ found.destination)
        :: options.map (evaluation (Link.ofDestination found.aliasName found.destination)) := by
  rcases hrequest : conn.request ex "GET" (recordPath aliasName) none with ⟨answer, after⟩
  rw [hrequest] at hanswer
  dsimp only at hanswer
  subst hanswer
  simp [runGet, hrequest, Redirect.item, Except.bind, Except.map, field, Json.lookup?, shown,
    Log.plainValue]

/-- What the service resolves for an option behind the alias of a record. -/
def resolved (c : Catalog) (r : Redirect) (option : String) : Option String :=
  (c.resolve (r.aliasName ++ " " ++ option)).answer

/-- What a command prints about a destination and some options: each with what the service resolves
for it. -/
def previewed (c : Catalog) (r : Redirect) (destination : String) (options : List String) :
    List String :=
  ("Redirect target: " ++ destination) :: options.map fun option =>
    "Evaluating \x60" ++ option ++ "\x60 => " ++ (resolved c r option).getD ""

/-- If the service shows the record that the alias finds, the command prints what the service
resolves. -/
theorem runGet_of_found {given : List Redirect} {c : Catalog} (h : c.Faithful given)
    {r found : Redirect} (hr : c.store.IsPreviewable r) (hfound : c.get? r.aliasName = some found)
    {ex : Exchange σ} {conn : Connection σ}
    (hanswer : (conn.request ex "GET" (recordPath r.aliasName) none).1 = .ok found.item)
    {options : List String} (hsettled : ∀ option ∈ options, Percent.IsSettled option.toList) :
    (runGet ex r.aliasName options conn).result = .ok ()
    ∧ (runGet ex r.aliasName options conn).printed
      = previewed c r found.destination options := by
  obtain ⟨hresult, hprinted⟩ := runGet_of_item hanswer options
  refine ⟨hresult, ?_⟩
  rw [hprinted, previewed]
  refine congrArg _ (List.map_congr_left fun option hoption => ?_)
  rw [resolved, h.resolve_append hr hfound (hsettled option hoption)]
  rfl

/-- **The preview agrees with the service.** After any run, whatever links are kept, consider a
record that can be previewed. Its alias finds a record of that alias, which is the record itself if
no other one has the alias; and the service resolves the alias with an option behind it to what the
link of the found record makes of the option alone, if one decoding settles the option. So the
command prints just these destinations, whatever server it talks to, if it gets the answer of the
service for the alias. -/
theorem preview_agrees (s : Store) (actions : List Catalog.Action) {r : Redirect}
    (hr : ((Catalog.ofStore s).run actions).store.IsPreviewable r) :
    let c := (Catalog.ofStore s).run actions
    ∃ found, c.get? r.aliasName = some found ∧ found.aliasName = r.aliasName
      ∧ ((∀ m ∈ c.store.records, m.aliasName = r.aliasName → m = r) → found = r)
      ∧ (∀ option : String, Percent.IsSettled option.toList → resolved c r option = some
          (String.ofList ((Link.ofDestination r.aliasName found.destination).evaluate
            option.toList)))
      ∧ ∀ (σ : Type) (ex : Exchange σ) (conn : Connection σ) (body : Json) (options : List String),
        (Web.get c r.aliasName).reply = .response (.ofJson 200 body) →
        (conn.request ex "GET" (recordPath r.aliasName) none).1 = .ok body →
        (∀ option ∈ options, Percent.IsSettled option.toList) →
        (runGet ex r.aliasName options conn).result = .ok ()
        ∧ (runGet ex r.aliasName options conn).printed
          = previewed c r found.destination options := by
  intro c
  have hfaithful : c.Faithful (s.records ++ Catalog.issued s actions) :=
    (Catalog.faithful_ofStore s).run
  obtain ⟨found, hfound, halias, hunique⟩ := hr.exists_find?
  refine ⟨found, hfound, halias, hunique, ?_, ?_⟩
  · intro option hsettled
    rw [← halias]
    exact hfaithful.resolve_append hr hfound hsettled
  · intro σ ex conn body options hreply hanswer hsettled
    obtain ⟨-, rfl⟩ := (Web.reply_get_iff hfound).mp hreply
    exact runGet_of_found hfaithful hr hfound hanswer hsettled

/-- A service whose record was moved behind its back: the link that it keeps is out of date. -/
def movedService : Main.Running where
  app := ⟨(Catalog.ofStore (.memory .empty)).run Catalog.movedRun, none, spellChar⟩
  fresh := .atNewYear "Ref0000002"

/-- One option is split by an escaped space, one cannot be decoded and one is empty. -/
theorem preview_agrees_moved :
    (runGet Main.exchange "wiki" ["f%c3%bc r", "a%20b", "%FF", ""]
      ⟨localServer.name, movedService, []⟩).printed
      = ["Redirect target: https://b.io/\x7b$1\x7d",
        "Evaluating \x60f%c3%bc r\x60 => https://b.io/fü r",
        "Evaluating \x60a%20b\x60 => https://b.io/a b",
        "Evaluating \x60%FF\x60 => https://b.io/%FF",
        "Evaluating \x60\x60 => https://b.io/"] := by
  have hrecords : movedService.app.catalog.store.records.map
      (fun m => (m.publicRef, m.aliasName, m.destination))
        = [("Ref0000001", "wiki", "https://b.io/\x7b$1\x7d")] := by decide +kernel
  have hwritten : ∀ m ∈ movedService.app.catalog.store.records, m.written.isWhole = true := by
    decide +kernel
  have hnamed : ∀ m ∈ movedService.app.catalog.store.records, m.createdBy.isFalsy = true := by
    decide +kernel
  -- one record is stored, and its alias is one part of a path
  obtain ⟨r, rest, hlist, hr, hrest⟩ := List.map_eq_cons_iff.mp hrecords
  have hnone : rest = [] := List.map_eq_nil_iff.mp hrest
  subst hnone
  obtain ⟨href, hnames⟩ := Prod.mk.inj hr
  obtain ⟨halias, hdestination⟩ := Prod.mk.inj hnames
  have hpreview : movedService.app.catalog.store.IsPreviewable r := by
    constructor
    · rw [hlist]
      exact List.mem_singleton_self r
    · rw [halias]
      decide +kernel
    · rw [halias]
      decide +kernel
    · rw [halias]
      decide
    · intro m hm
      rw [hlist, List.mem_singleton] at hm
      rw [hm, href, halias]
      decide
  have hpart : IsPart r.aliasName.toList := by
    rw [halias]
    decide +kernel
  obtain ⟨found, hfound, -, hunique, -, hcommand⟩ :=
    preview_agrees (.memory .empty) Catalog.movedRun hpreview
  have hsame : found = r := by
    refine hunique fun m hm _ => ?_
    exact List.mem_singleton.mp (hlist ▸ hm)
  subst hsame
  have hmem : found ∈ movedService.app.catalog.store.records :=
    hlist ▸ List.mem_singleton_self found
  have hreply : (Web.get movedService.app.catalog found.aliasName).reply
      = .response (.ofJson 200 found.item) :=
    (Web.reply_get_iff hfound).mpr ⟨⟨hwritten found hmem, Or.inl (hnamed found hmem)⟩, rfl⟩
  have hanswer : (Connection.request Main.exchange "GET" (recordPath found.aliasName) none
      ⟨localServer.name, movedService, []⟩).1 = .ok found.item :=
    request_record localServer (fun _ => rfl) hpart hreply []
  obtain ⟨-, hprinted⟩ := hcommand _ _ _ found.item ["f%c3%bc r", "a%20b", "%FF", ""] hreply hanswer
    (by decide +kernel)
  rw [halias, hdestination] at hprinted
  rw [hprinted, previewed]
  unfold resolved
  rw [halias]
  decide +kernel

end CommandLine

end Shortlink
