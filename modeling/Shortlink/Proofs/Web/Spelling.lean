import Mathlib.Data.List.Forall2
import Shortlink.Proofs.Catalog.Run
import Shortlink.Proofs.Web.Gateway

/-!
# Locations are harmless

The place to which a look-up sends the client ends up in a header of the response. What is stored
and what the client wrote both go into it, decoded, so either may try to end the header: with line
ends, zeros, quotes or anything else. None of it gets there. A location consists of plain
characters, all of them printable ASCII, and a destination is spelled out in it character by
character: the plain ones stand for themselves, and every other one is escaped
(`App.location_is_harmless`).

## Contents

- **Plain characters.** `IsPlainChar`, `IsPlainChar.printable`, `isPlainChar_iff`; `IsHarmless`.
- **Spelling.** `IsSpelling`, `SpellsOut`; `spellsOut_location`.
- **Look-ups.** `App.location_is_harmless`, and an argument that would end the header.
-/

namespace Shortlink.Web

open Text

/-! ## Plain characters -/

/-- **A character that stands for itself in a location**: a letter or a digit of ASCII, or one of
some marks. -/
def IsPlainChar (c : Char) : Prop :=
  ('A' ≤ c ∧ c ≤ 'Z') ∨ ('a' ≤ c ∧ c ≤ 'z') ∨ ('0' ≤ c ∧ c ≤ '9')
    ∨ c ∈ "_.-~".toList ∨ c ∈ ":/%#?=@[]!$&'()*+,;".toList

instance (c : Char) : Decidable (IsPlainChar c) :=
  inferInstanceAs (Decidable (_ ∨ _ ∨ _ ∨ _ ∨ _))

/-- A plain character is printable ASCII, and no space. -/
theorem IsPlainChar.printable {c : Char} (h : IsPlainChar c) : 0x21 ≤ c.toNat ∧ c.toNat ≤ 0x7E := by
  have hmarks : ∀ c ∈ "_.-~".toList, 0x21 ≤ c.toNat ∧ c.toNat ≤ 0x7E := by simp
  have hmarks' : ∀ c ∈ ":/%#?=@[]!$&'()*+,;".toList, 0x21 ≤ c.toNat ∧ c.toNat ≤ 0x7E := by simp
  have hrange : ∀ low high : Char, 0x21 ≤ low.toNat → high.toNat ≤ 0x7E → low ≤ c ∧ c ≤ high →
      0x21 ≤ c.toNat ∧ c.toNat ≤ 0x7E := by
    rintro low high hlow hhigh ⟨hc, hc'⟩
    exact ⟨Nat.le_trans hlow hc, Nat.le_trans hc' hhigh⟩
  rcases h with hupper | hlower | hdigit | hmark | hmark
  · exact hrange 'A' 'Z' (by decide) (by decide) hupper
  · exact hrange 'a' 'z' (by decide) (by decide) hlower
  · exact hrange '0' '9' (by decide) (by decide) hdigit
  · exact hmarks c hmark
  · exact hmarks' c hmark

/-- **The plain characters are those that are not escaped.** -/
theorem isPlainChar_iff {c : Char} : IsPlainChar c ↔ c.toNat < 0x80 ∧ isLocationChar c = true := by
  have hascii : c.toNat < 0x80 → (IsPlainChar c ↔ isLocationChar c = true) :=
    ascii_induction (p := fun c => IsPlainChar c ↔ isLocationChar c = true) (by decide +kernel)
  constructor
  · intro h
    obtain ⟨-, hhigh⟩ := h.printable
    have hlow : c.toNat < 0x80 := by omega
    exact ⟨hlow, (hascii hlow).mp h⟩
  · rintro ⟨hlow, hsafe⟩
    exact (hascii hlow).mpr hsafe

/-- **The text can do no harm in a header**: it is plain, so it is printable ASCII without
spaces. -/
def IsHarmless (place : List Char) : Prop :=
  ∀ c ∈ place, IsPlainChar c ∧ 0x21 ≤ c.toNat ∧ c.toNat ≤ 0x7E

theorem IsLocation.isHarmless {place : List Char} (h : IsLocation place) : IsHarmless place := by
  intro c hc
  have hplain : IsPlainChar c := isPlainChar_iff.mpr (h c hc)
  exact ⟨hplain, hplain.printable⟩

/-! ## Spelling -/

/-- **How a character is spelled in a location**: as it is, or by the escapes of its bytes. -/
def IsSpelling (c : Char) (piece : List Char) : Prop :=
  if IsPlainChar c then piece = [c] else Percent.AreEscapes (Utf8.encodeChar c) piece

/-- The place spells out the text, character by character. -/
def SpellsOut (place text : List Char) : Prop :=
  ∃ pieces : List (List Char), place = pieces.flatten ∧ List.Forall₂ IsSpelling text pieces

theorem isSpelling_encodeChar (c : Char) :
    IsSpelling c (Percent.encodeChar isLocationChar c) := by
  rw [IsSpelling, Percent.encodeChar]
  by_cases hc : IsPlainChar c
  · obtain ⟨hascii, hplain⟩ := isPlainChar_iff.mp hc
    rw [if_pos hc, if_pos (by simp [hascii, hplain])]
  · have hescape : ¬ (decide (c.toNat < 0x80) && isLocationChar c) = true := by
      simpa using mt isPlainChar_iff.mpr hc
    rw [if_neg hc, if_neg hescape]
    exact Percent.areEscapes_flatMap_escape _

/-- **A location spells out its URL.** -/
theorem spellsOut_location (url : List Char) : SpellsOut (location url) url := by
  refine ⟨url.map (Percent.encodeChar isLocationChar), rfl, ?_⟩
  rw [List.forall₂_map_right_iff, List.forall₂_same]
  exact fun c _ => isSpelling_encodeChar c

/-! ## Look-ups -/

theorem isLocation_lookupLocation (c : Catalog) (path : List Char) :
    IsLocation (lookupLocation c path) := by
  rcases eq_or_ne path [] with rfl | hne
  · exact isLocation_uiLocation
  cases hanswer : (c.resolve (String.ofList path)).answer with
  | some destination =>
      rw [lookupLocation_of_found hne hanswer]
      exact isLocation_location _
  | none =>
      rw [lookupLocation_of_missing hne hanswer, ← location_searchPage]
      exact isLocation_location _

/-- **No look-up brings harm into a header.** Whatever is stored and whatever the client writes, the
client is sent to a place that can do no harm; where a destination was found, the place spells it
out. -/
theorem App.location_is_harmless {app : App} {r : Request}
    (hroute : choose app.site.isSome r.method r.path = .answer .gateway) (fresh : Fresh) :
    ∃ place : List Char, (app.handle fresh r).reply = .response (sentTo place)
      ∧ IsHarmless place
      ∧ ∀ destination : String, r.lookup ≠ [] →
        (app.catalog.resolve (String.ofList r.lookup)).answer = some destination →
        SpellsOut place destination.toList := by
  refine ⟨lookupLocation app.catalog r.lookup, App.reply_of_gateway hroute fresh,
    (isLocation_lookupLocation _ _).isHarmless, fun destination hne hfound => ?_⟩
  rw [lookupLocation_of_found hne hfound]
  exact spellsOut_location _

/-- A service with a record whose destination is quoted. -/
def App.ofQuoted : App :=
  ⟨(Catalog.ofStore (.memory .empty)).run
    [.call (.create (.atNewYear "Ref0000001") "wiki" "https://a.io/\"é\"" none)], none, spellChar⟩

/-- A look-up whose argument holds line ends, a quote, a zero and a letter beyond ASCII. -/
def hostileRequest : Request :=
  .reading "/wiki%20x%0D%22%00%C3%BC%0A"

/-- The argument gets into the destination as it is, and into the location in escapes. -/
theorem App.location_is_harmless_hostile :
    ∃ place : List Char,
      (App.ofQuoted.handle (.atNewYear "") hostileRequest).reply = .response (sentTo place)
      ∧ IsHarmless place ∧ SpellsOut place "https://a.io/\"é\" x\r\"\x00ü\n".toList := by
  have hfound : (App.ofQuoted.catalog.resolve (String.ofList hostileRequest.lookup)).answer
      = some "https://a.io/\"é\" x\r\"\x00ü\n" := by
    decide +kernel
  have hroute : choose App.ofQuoted.site.isSome hostileRequest.method hostileRequest.path
      = .answer .gateway := by
    decide +kernel
  obtain ⟨place, hreply, hharmless, hspells⟩ :=
    App.location_is_harmless hroute (.atNewYear "")
  exact ⟨place, hreply, hharmless, hspells _ (by decide +kernel) hfound⟩

end Shortlink.Web
