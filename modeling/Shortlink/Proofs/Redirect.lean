import Shortlink.Proofs.Steps
import Shortlink.Proofs.Timestamp
import Shortlink.Redirect

/-!
# Records as values

A record is read from many values: its number may be a text with blanks and underscores, and its
time may be written in any of the forms that are understood. It is written in one form only, which
is read as the same record at any time (`Redirect.ofJson_toJson`). So what a value describes is kept
through writing and reading (`Redirect.read_back`).

Which values describe a record at all is said by `Redirect.exists_ofJson_iff`, and which record by
`Redirect.ofJson_eq_ok_iff`.

## Contents

- **Reading.** `Redirect.Describes`; `timeOf_of_falsy`, `timeOf_text`; `ofJson_eq_ok_iff`,
  `exists_ofJson_iff`.
- **Writing.** `ofJson_toJson`; `read_back`.
-/

namespace Shortlink

open Text

/-! ## Reading -/

/-- The value denotes the number of a record. -/
def Json.isNumeral : Json → Bool
  | .int _ | .bool _ | .real (.finite ..) => true
  | .str s => (readInteger? s.toList).isSome
  | _ => false

/-- The value denotes a time: it is empty, and then the present is meant, or the text of one. -/
def Json.IsTime (v : Json) : Prop :=
  v.isFalsy = true ∨ ∃ s t, v = .str s ∧ Timestamp.read? s = some t

namespace Redirect

/-- The fields of a record that are written as strings. -/
def textNames : List String :=
  ["public_ref", "alias", "destination"]

/-- The fields that should be written as strings are, as far as they are there. -/
def HasTexts (v : Json) : Prop :=
  ∀ name ∈ textNames, ∀ u, v.field? name = some u → ∃ s, u = .ofLoose s

/-- **The value describes a record**: it has a number, all the texts, and no wrong time. -/
def Describes (v : Json) : Prop :=
  (∃ n, v.field? "redirect_id" = some n ∧ n.isNumeral = true)
    ∧ (∀ name ∈ textNames, (v.field? name).isSome = true)
    ∧ ∀ u, v.field? "created_on" = some u → u.IsTime

section

variable {name : String} {fields : List (String × Json)} {v : Json}

theorem require_eq_ok_iff : require name fields = .ok v ↔ Json.lookup? name fields = some v := by
  unfold require
  cases Json.lookup? name fields <;> simp

theorem exists_numberOf_iff (v : Json) : (∃ i, numberOf v = .ok i) ↔ v.isNumeral = true := by
  cases v with
  | real x => cases x <;> simp [numberOf, Json.isNumeral, Binary64.truncate?]
  | str s => cases h : readInteger? s.toList <;> simp [numberOf, Json.isNumeral, h]
  | _ => simp [numberOf, Json.isNumeral]

theorem looseOf_eq_ok_iff {s : Loose} : looseOf v = .ok s ↔ v = .ofLoose s := by
  cases v <;> cases s <;> simp [looseOf, Json.ofLoose]

theorem textOf_eq_ok_iff {s : String} :
    textOf v = .ok s ↔ ∃ l : Loose, v = .ofLoose l ∧ l.text = s := by
  unfold textOf
  constructor
  · intro h
    cases hread : looseOf v with
    | error e => simp [hread, Except.map] at h
    | ok l =>
        rw [hread] at h
        exact ⟨l, looseOf_eq_ok_iff.mp hread, Except.ok.inj h⟩
  · rintro ⟨l, hv, rfl⟩
    rw [looseOf_eq_ok_iff.mpr hv]
    rfl

theorem exists_timeOf_iff (now : Timestamp) (value : Option Json) :
    (∃ t, timeOf now value = .ok t) ↔ ∀ v, value = some v → v.IsTime := by
  cases value with
  | none => simp [timeOf]
  | some v =>
      simp only [timeOf, Option.some.injEq, forall_eq', Json.IsTime]
      by_cases hfalsy : v.isFalsy = true
      · simp [hfalsy]
      · cases v with
        | str s => cases hread : Timestamp.read? s <;> simp [hfalsy, hread]
        | _ => simp [hfalsy]

/-- Without a value, or with an empty one, the present is meant. -/
theorem timeOf_of_falsy (now : Timestamp) {value : Option Json}
    (h : ∀ v, value = some v → v.isFalsy = true) : timeOf now value = .ok now := by
  cases value with
  | none => rfl
  | some v => simp [timeOf, h v rfl]

/-- A text that is not empty denotes the time that is read from it. -/
theorem timeOf_text {now : Timestamp} {text : String} (h : text ≠ "") {t : Timestamp} :
    timeOf now (some (.str text)) = .ok t ↔ Timestamp.read? text = some t := by
  have hfalsy : (Json.str text).isFalsy = false := by simpa [Json.isFalsy] using h
  rw [timeOf, hfalsy, if_neg Bool.false_ne_true]
  cases Timestamp.read? text <;> simp

end

/-- **A value is read as the record** that its fields give. -/
theorem ofJson_eq_ok_iff {now : Timestamp} {v : Json} {r : Redirect} :
    ofJson now v = .ok r ↔
      (∃ n, v.field? "redirect_id" = some n ∧ numberOf n = .ok r.id)
      ∧ (∃ l, v.field? "public_ref" = some (.ofLoose l) ∧ l.text = r.publicRef)
      ∧ (∃ l, v.field? "alias" = some (.ofLoose l) ∧ l.text = r.aliasName)
      ∧ v.field? "destination" = some (.ofLoose r.written)
      ∧ timeOf now (v.field? "created_on") = .ok r.createdOn
      ∧ (v.field? "created_by").getD .null = r.createdBy := by
  cases v with
  | obj fields =>
      simp only [ofJson, bind_eq_ok_iff, require_eq_ok_iff, textOf_eq_ok_iff, looseOf_eq_ok_iff]
      constructor
      · rintro ⟨n, hn, i, hi, _, href, _, ⟨l, rfl, rfl⟩, _, halias, _, ⟨l', rfl, rfl⟩, _,
          hdestination, _, rfl, t, ht, hr⟩
        cases hr
        exact ⟨⟨n, hn, hi⟩, ⟨l, href, rfl⟩, ⟨l', halias, rfl⟩, hdestination, ht, rfl⟩
      · rintro ⟨⟨n, hn, hi⟩, ⟨l, href, htext⟩, ⟨l', halias, htext'⟩, hdestination, ht, hwriter⟩
        refine ⟨n, hn, r.id, hi, _, href, _, ⟨l, rfl, htext⟩, _, halias, _, ⟨l', rfl, htext'⟩, _,
          hdestination, _, rfl, r.createdOn, ht, ?_⟩
        rw [Json.field?] at hwriter
        rw [hwriter]
        rfl
  | _ => simp [ofJson, Json.field?]

/-- **A record is read** just from the values that describe one. -/
theorem exists_ofJson_iff (now : Timestamp) {v : Json} (htexts : HasTexts v) :
    (∃ r, ofJson now v = .ok r) ↔ Describes v := by
  constructor
  · rintro ⟨r, h⟩
    obtain ⟨⟨n, hn, hnumber⟩, ⟨_, href, -⟩, ⟨_, halias, -⟩, hdestination, htime, -⟩ :=
      ofJson_eq_ok_iff.mp h
    have hnumeral := (exists_numberOf_iff n).mp ⟨_, hnumber⟩
    refine ⟨⟨n, hn, hnumeral⟩, ?_, (exists_timeOf_iff now _).mp ⟨_, htime⟩⟩
    simp [textNames, href, halias, hdestination]
  · rintro ⟨⟨n, hn, hnumeral⟩, hthere, htime⟩
    -- a field that is there and should be written as a string is
    have htext : ∀ name ∈ textNames, ∃ l, v.field? name = some (.ofLoose l) := by
      intro name hname
      obtain ⟨u, hu⟩ := Option.isSome_iff_exists.mp (hthere name hname)
      obtain ⟨s, rfl⟩ := htexts name hname u hu
      exact ⟨s, hu⟩
    obtain ⟨i, hi⟩ := (exists_numberOf_iff n).mpr hnumeral
    obtain ⟨publicRef, href⟩ := htext "public_ref" (by simp [textNames])
    obtain ⟨aliasName, halias⟩ := htext "alias" (by simp [textNames])
    obtain ⟨written, hwritten⟩ := htext "destination" (by simp [textNames])
    obtain ⟨t, ht⟩ := (exists_timeOf_iff now _).mpr htime
    exact ⟨⟨i, publicRef.text, aliasName.text, written, t, _⟩, ofJson_eq_ok_iff.mpr
      ⟨⟨n, hn, hi⟩, ⟨_, href, rfl⟩, ⟨_, halias, rfl⟩, hwritten, ht, rfl⟩⟩

/-! ## Writing -/

theorem text_ne_empty (t : Timestamp) : t.text ≠ "" := by
  intro h
  have hread := Timestamp.read?_text t
  rw [h] at hread
  exact absurd hread (by simp [Timestamp.read?, Timestamp.readChars?])

/-- **A record is read from the value that it is written as.** -/
theorem ofJson_toJson (now : Timestamp) (r : Redirect) : ofJson now r.toJson = .ok r := by
  refine ofJson_eq_ok_iff.mpr ⟨⟨.int r.id, rfl, rfl⟩, ⟨.whole r.publicRef, rfl, rfl⟩,
    ⟨.whole r.aliasName, rfl, rfl⟩, rfl, ?_, rfl⟩
  exact (timeOf_text (text_ne_empty r.createdOn)).mpr (Timestamp.read?_text r.createdOn)

/-- **What a value describes is kept through writing and reading.** A record that was read is
written as a value that is read as the same record, at whatever time, and is written as the same
value again. The time in it, to the microsecond and with its distance to universal time, is read
from the one form in which it is written as it was from the form that it had; without one, it is the
time of the first reading. -/
theorem read_back {now : Timestamp} {v : Json} {r : Redirect} (h : ofJson now v = .ok r)
    (later : Timestamp) :
    ofJson later r.toJson = .ok r
    ∧ (ofJson later r.toJson).map toJson = .ok r.toJson
    ∧ ∃ written, r.toJson.field? "created_on" = some (.str written)
      ∧ Timestamp.read? written = some r.createdOn
      ∧ (∀ text, v.field? "created_on" = some (.str text) → text ≠ "" →
        Timestamp.read? text = Timestamp.read? written)
      ∧ ((∀ u, v.field? "created_on" = some u → u.isFalsy = true) → r.createdOn = now) := by
  have hback := ofJson_toJson later r
  have hwritten := Timestamp.read?_text r.createdOn
  obtain ⟨-, -, -, -, htime, -⟩ := ofJson_eq_ok_iff.mp h
  refine ⟨hback, ?_, r.createdOn.text, rfl, hwritten, ?_, ?_⟩
  · rw [hback]
    rfl
  · intro text htext hne
    rw [htext, timeOf_text hne] at htime
    rw [htime, hwritten]
  · intro hfalsy
    rw [timeOf_of_falsy now hfalsy] at htime
    exact (Except.ok.inj htime).symm

/-- A number with blanks and an underscore, and a day of a week with more decimals than count and a
distance of hours, minutes and seconds. -/
theorem read_back_week :
    let now : Timestamp := ⟨⟨2024, 1, 1, by decide⟩, .midnight, none⟩
    let later : Timestamp := ⟨⟨2025, 1, 1, by decide⟩, .midnight, none⟩
    ∃ r, ofJson now (.obj [("created_on", .str "2020-W53-5 030405,1234567-05:30:15"),
        ("redirect_id", .str " 1_0 "), ("public_ref", .str "Ref0000001"), ("alias", .str "wiki"),
        ("destination", .str "https://a.io")]) = .ok r
      ∧ r.id = 10 ∧ r.createdOn.text = "2021-01-01T03:04:05.123456-05:30:15"
      ∧ ofJson later r.toJson = .ok r := by
  intro now later
  generalize hv : Json.obj [("created_on", .str "2020-W53-5 030405,1234567-05:30:15"),
    ("redirect_id", .str " 1_0 "), ("public_ref", .str "Ref0000001"), ("alias", .str "wiki"),
    ("destination", .str "https://a.io")] = v
  have hfields : (ofJson now v).toOption.map (fun r => (r.id, r.createdOn.text))
      = some (10, "2021-01-01T03:04:05.123456-05:30:15") := by
    rw [← hv]
    decide +kernel
  cases hr : ofJson now v with
  | error fault =>
      rw [hr] at hfields
      cases hfields
  | ok r =>
      rw [hr] at hfields
      obtain ⟨hid, htext⟩ := Prod.mk.inj (Option.some.inj hfields)
      exact ⟨r, rfl, hid, htext, (read_back hr later).1⟩

end Redirect

end Shortlink
