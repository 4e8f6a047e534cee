import Shortlink.Proofs.Web.Gateway

/-!
# What clients see of a record

A record is shown with its alias, its destination and the name of its last writer (`Redirect.item`).
Two kinds of records cannot be shown: those whose destination is no text, since it cannot be
encoded, and those of which a file says that something else than a name has written them. So a
response shows a record just if `Redirect.IsShowable` holds of it, and then it shows the item:
`reply_showRecord_iff`.

## Contents

- **Records.** `Redirect.HasWriter`, `Redirect.IsShowable`, `Redirect.item`.
- **One record.** `shown?_of_isShowable`, `isShowable_of_shown?`; `Reply.showing_eq_response_iff`,
  `reply_showRecord_iff`, `status?_showRecord`.
- **Many records.** `mapM_shown?`, `isShowable_of_mapM_shown?`.
-/

namespace Shortlink

open Text

namespace Redirect

/-! ## Records -/

/-- The last writer of the record is known by name, or it is nobody. -/
def HasWriter (r : Redirect) : Prop :=
  r.createdBy.isFalsy = true ∨ ∃ name, r.createdBy = .str name

/-- Who writes through the service is known. -/
theorem hasWriter_of_eq {r : Redirect} {user : Option String} (h : r.createdBy = writer user) :
    r.HasWriter := by
  cases user with
  | none => exact Or.inl (by rw [h]; rfl)
  | some name => exact Or.inr ⟨name, h⟩

/-- **The record can be shown**: its destination is a text, and its last writer is known by name, or
it is nobody. -/
structure IsShowable (r : Redirect) : Prop where
  whole : r.written.isWhole = true
  hasWriter : r.HasWriter

/-- **What a client sees of a record**: its alias, its destination, and its last writer by name, if
there is one. -/
def item (r : Redirect) : Json :=
  .obj [("alias", .str r.aliasName), ("destination", .str r.destination), ("created_by",
    match r.createdBy with
    | .str name => if name = "" then .null else .obj [("username", .str name)]
    | _ => .null)]

theorem holdsTorn_item (r : Redirect) : r.item.holdsTorn = false := by
  unfold item
  split
  · split <;> rfl
  · rfl

end Redirect

namespace Web

/-! ## One record -/

section

variable {r : Redirect}

theorem shown?_of_isShowable (h : r.IsShowable) : shown? r = some r.item := by
  obtain ⟨id, publicRef, aliasName, written, createdOn, createdBy⟩ := r
  obtain ⟨hwhole, hwriter⟩ := h
  cases written with
  | torn t => exact absurd hwhole Bool.false_ne_true
  | whole destination =>
      rcases hwriter with hfalsy | ⟨name, hname⟩
      · -- an empty name is nobody's
        change createdBy.isFalsy = true at hfalsy
        rw [shown?, if_pos hfalsy, Redirect.item]
        cases createdBy with
        | str name =>
            have hempty : name = "" := by simpa [Json.isFalsy] using hfalsy
            rw [hempty]
            rfl
        | _ => rfl
      · change createdBy = .str name at hname
        subst hname
        by_cases hempty : name = ""
        · rw [hempty]
          rfl
        · simp [shown?, Redirect.item, Json.isFalsy, hempty, Json.ofLoose, Redirect.destination,
            Loose.text]

/-- What is shown and can be encoded shows a record that can be shown. -/
theorem isShowable_of_shown? {v : Json} (h : shown? r = some v) (hv : v.holdsTorn = false) :
    r.IsShowable := by
  have hwhole : ∀ w, v = .obj [("alias", .str r.aliasName), ("destination", .ofLoose r.written),
      ("created_by", w)] → r.written.isWhole = true := by
    rintro w rfl
    cases hwritten : r.written with
    | whole destination => rfl
    | torn t => simp [hwritten, Json.ofLoose, Json.holdsTorn, Json.fieldsHoldTorn] at hv
  unfold shown? at h
  dsimp only at h
  split at h
  · next hfalsy => exact ⟨hwhole _ (Option.some.inj h).symm, Or.inl hfalsy⟩
  · split at h
    · next name hname => exact ⟨hwhole _ (Option.some.inj h).symm, Or.inr ⟨name, hname⟩⟩
    · rw [← Option.some.inj h] at hv
      simp [Json.holdsTorn, Json.fieldsHoldTorn] at hv
    · cases h

/-- A response shows a value just if all in it can be encoded. -/
theorem Reply.showing_eq_response_iff {status : Nat} {v shown : Json} :
    Reply.showing status v = .response (.ofJson status shown)
      ↔ v.holdsTorn = false ∧ v = shown := by
  unfold showing
  split
  · next htorn => simp [htorn]
  · next hwhole => simp [Response.ofJson, hwhole]

theorem Reply.showing_of_torn {status : Nat} {v : Json} (h : v.holdsTorn = true) :
    Reply.showing status v = .crash .tornRecord :=
  if_pos h

variable {c : Catalog} {status : Nat} {notices : List Log.Notice}

/-- **A response shows a record** just if the record can be shown. -/
theorem reply_showRecord_iff {body : Json} :
    (showRecord c status r notices).reply = .response (.ofJson status body)
      ↔ r.IsShowable ∧ body = r.item := by
  unfold showRecord
  constructor
  · intro h
    split at h
    · next v hv =>
        obtain ⟨hwhole, rfl⟩ := Reply.showing_eq_response_iff.mp h
        have hshow := isShowable_of_shown? hv hwhole
        exact ⟨hshow, Option.some.inj (hv.symm.trans (shown?_of_isShowable hshow))⟩
    · cases h
  · rintro ⟨hshow, rfl⟩
    rw [shown?_of_isShowable hshow]
    exact Reply.showing_eq_response_iff.mpr ⟨r.holdsTorn_item, rfl⟩

/-- What is answered where a record is to be shown: that it is, or nothing. -/
theorem status?_showRecord : (showRecord c status r notices).reply.status? = some status
    ∧ r.IsShowable ∨ (showRecord c status r notices).reply.status? = none ∧ ¬ r.IsShowable := by
  by_cases hshow : r.IsShowable
  · refine Or.inl ⟨?_, hshow⟩
    rw [reply_showRecord_iff.mpr ⟨hshow, rfl⟩]
    rfl
  · refine Or.inr ⟨?_, hshow⟩
    unfold showRecord
    split
    · next v hv =>
        cases htorn : v.holdsTorn with
        | true =>
            rw [Reply.showing_of_torn htorn]
            rfl
        | false => exact absurd (isShowable_of_shown? hv htorn) hshow
    · rfl

end

/-! ## Many records -/

section

variable {records : List Redirect}

theorem mapM_shown? (h : ∀ m ∈ records, m.IsShowable) :
    records.mapM shown? = some (records.map Redirect.item) := by
  induction records with
  | nil => rfl
  | cons m rest ih =>
      obtain ⟨hm, hrest⟩ := List.forall_mem_cons.mp h
      rw [List.mapM_cons, shown?_of_isShowable hm, ih hrest]
      rfl

theorem itemsHoldTorn_map_item (records : List Redirect) :
    Json.itemsHoldTorn (records.map Redirect.item) = false := by
  induction records with
  | nil => rfl
  | cons m rest ih => rw [List.map_cons, Json.itemsHoldTorn, m.holdsTorn_item, ih, Bool.or_false]

theorem isShowable_of_mapM_shown? {items : List Json} (h : records.mapM shown? = some items)
    (hitems : Json.itemsHoldTorn items = false) : ∀ m ∈ records, m.IsShowable := by
  induction records generalizing items with
  | nil => exact fun m hm => absurd hm List.not_mem_nil
  | cons m rest ih =>
      rw [List.mapM_cons] at h
      cases hm : shown? m with
      | none =>
          rw [hm] at h
          cases h
      | some v =>
          cases hrest : rest.mapM shown? with
          | none =>
              rw [hm, hrest] at h
              cases h
          | some more =>
              rw [hm, hrest] at h
              rw [← Option.some.inj h, Json.itemsHoldTorn, Bool.or_eq_false_iff] at hitems
              exact List.forall_mem_cons.mpr
                ⟨isShowable_of_shown? hm hitems.1, ih hrest hitems.2⟩

end

end Web

end Shortlink
