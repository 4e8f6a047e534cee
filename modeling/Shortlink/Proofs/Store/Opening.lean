import Shortlink.Proofs.Json.RoundTrip
import Shortlink.Proofs.Redirect
import Shortlink.Proofs.Store.Call

/-!
# What a store can be opened on

A store is opened on a file of any content: either the file lists values each of which describes a
record, and the store has just these records, or the fault is reported as that of an unreadable
file. Two values in the list do neither: one that is no object, and one whose number is infinite. If
such a value comes first among those that describe no record, the store fails to open and nothing is
reported: `FileStore.opens_or_reports_iff`.

## Contents

- **Faults.** `Redirect.Breaks`, `Redirect.IsForeseen`; `Redirect.exists_unreported_iff`.
- **Lists.** `FileStore.recordsOf_eq_ok_iff`, `FileStore.recordsOf_eq_error_iff`.
- **Files.** `FileStore.Lists`, `FileStore.load_cases`; `FileStore.IsUnforeseen`,
  `FileStore.isUnforeseen_iff`.
- **Opening.** `FileStore.Opens`, `FileStore.Reports`; `FileStore.opens_or_reports_iff`.
-/

namespace Shortlink

open Text

namespace Redirect

/-! ## Faults -/

open FileStore (LoadError)

/-- **The value breaks the reading of a file**: it is no object, or its number is infinite. -/
def Breaks (v : Json) : Prop :=
  (∀ fields, v ≠ .obj fields)
    ∨ ∃ negative, v.field? "redirect_id" = some (.real (.infinite negative))

/-- If the step fails, then with a fault that is reported. -/
def IsForeseen {α : Type} (step : Except Fault α) : Prop :=
  ∀ fault, step = .error fault → (LoadError.record fault).isReported = true

theorem IsForeseen.bind {α β : Type} {first : Except Fault α} {others : α → Except Fault β}
    (hfirst : IsForeseen first) (hothers : ∀ a, IsForeseen (others a)) :
    IsForeseen (first >>= others) := by
  intro fault h
  rcases exists_of_bind_error h with h | ⟨a, -, h⟩
  · exact hfirst fault h
  · exact hothers a fault h

theorem isForeseen_require (name : String) (fields : List (String × Json)) :
    IsForeseen (require name fields) := by
  intro fault h
  unfold require at h
  split at h
  · cases h
  · cases h
    rfl

theorem isForeseen_looseOf (v : Json) : IsForeseen (looseOf v) := by
  intro fault h
  unfold looseOf at h
  split at h
  · cases h
  · cases h
  · cases h
    rfl

theorem isForeseen_textOf (v : Json) : IsForeseen (textOf v) := by
  intro fault h
  refine isForeseen_looseOf v fault ?_
  unfold textOf at h
  cases hl : looseOf v with
  | ok l => simp [hl, Except.map] at h
  | error e => simpa [hl, Except.map] using h

theorem isForeseen_timeOf (now : Timestamp) (value : Option Json) :
    IsForeseen (timeOf now value) := by
  intro fault h
  unfold timeOf at h
  repeat' split at h
  all_goals
    cases h
    try rfl

/-- A number has a fault that is not reported just if it is infinite. -/
theorem numberOf_unreported_iff (v : Json) :
    (∃ fault, numberOf v = .error fault ∧ (LoadError.record fault).isReported = false)
      ↔ ∃ negative, v = .real (.infinite negative) := by
  cases v with
  | real x => cases x <;> simp [numberOf, Binary64.truncate?, LoadError.isReported]
  | str s => cases h : readInteger? s.toList <;> simp [numberOf, h, LoadError.isReported]
  | _ => simp [numberOf, LoadError.isReported]

/-- **The fault of a value is not reported** just if the value breaks the reading. -/
theorem exists_unreported_iff (now : Timestamp) (v : Json) :
    (∃ fault, ofJson now v = .error fault ∧ (LoadError.record fault).isReported = false)
      ↔ Breaks v := by
  cases v with
  | obj fields =>
      rw [ofJson]
      constructor
      · rintro ⟨fault, h, hunreported⟩
        rcases exists_of_bind_error h with h | ⟨n, hn, h⟩
        · exact absurd (isForeseen_require _ _ fault h) (by simp [hunreported])
        rcases exists_of_bind_error h with h | ⟨i, -, h⟩
        · obtain ⟨negative, rfl⟩ := (numberOf_unreported_iff n).mp ⟨fault, h, hunreported⟩
          exact Or.inr ⟨negative, require_eq_ok_iff.mp hn⟩
        · -- behind the number all faults are reported
          refine absurd (IsForeseen.bind (isForeseen_require _ _) (fun _ => ?_) fault h)
            (by simp [hunreported])
          refine (isForeseen_textOf _).bind fun _ => (isForeseen_require _ _).bind fun _ => ?_
          refine (isForeseen_textOf _).bind fun _ => (isForeseen_require _ _).bind fun _ => ?_
          refine (isForeseen_looseOf _).bind fun _ => (isForeseen_timeOf _ _).bind fun _ => ?_
          intro fault h
          cases h
      · rintro (hno | ⟨negative, hn⟩)
        · exact absurd rfl (hno fields)
        · refine ⟨.infiniteNumber, ?_, rfl⟩
          rw [require_eq_ok_iff.mpr hn]
          rfl
  | _ => simp [ofJson, Breaks, LoadError.isReported]

end Redirect

namespace FileStore

/-! ## Lists -/

section

variable {now : Timestamp} {vs : List Json}

/-- The faults of values are passed on. -/
theorem recordsOf_eq (now : Timestamp) (vs : List Json) :
    recordsOf now vs = vs.mapM fun v => (Redirect.ofJson now v).mapError .record := by
  unfold recordsOf
  congr
  funext v
  cases Redirect.ofJson now v <;> rfl

/-- Records are read from a list just if each is the one that a value describes. -/
theorem recordsOf_eq_ok_iff {records : List Redirect} :
    recordsOf now vs = .ok records
      ↔ List.Forall₂ (fun v r => Redirect.ofJson now v = .ok r) vs records := by
  have hstep : ∀ v r, (Redirect.ofJson now v).mapError LoadError.record = .ok r
      ↔ Redirect.ofJson now v = .ok r := by
    intro v r
    cases Redirect.ofJson now v <;> simp [Except.mapError]
  simp only [recordsOf_eq, mapM_eq_ok_iff, hstep]

/-- The fault of a list is that of the first value from which no record is read. -/
theorem recordsOf_eq_error_iff {e : LoadError} :
    recordsOf now vs = .error e ↔
      ∃ front v back, vs = front ++ v :: back
        ∧ (∀ u ∈ front, ∃ r, Redirect.ofJson now u = .ok r)
        ∧ ∃ fault, Redirect.ofJson now v = .error fault ∧ e = .record fault := by
  have hok : ∀ u, (∃ r, (Redirect.ofJson now u).mapError LoadError.record = .ok r)
      ↔ ∃ r, Redirect.ofJson now u = .ok r := by
    intro u
    cases Redirect.ofJson now u <;> simp [Except.mapError]
  have herror : ∀ v, (Redirect.ofJson now v).mapError LoadError.record = .error e
      ↔ ∃ fault, Redirect.ofJson now v = .error fault ∧ e = .record fault := by
    intro v
    cases Redirect.ofJson now v <;> simp [Except.mapError, eq_comm]
  simp only [recordsOf_eq, mapM_eq_error_iff, hok, herror]

end

/-! ## Files -/

section

variable {bytes : List UInt8}

/-- The bytes are those of a text of the value. -/
def Spells (bytes : List UInt8) (value : Json) : Prop :=
  ∃ text, Utf8.decode? bytes = some text ∧ Json.readChars text = .ok value

theorem Spells.unique {v w : Json} (hv : Spells bytes v) (hw : Spells bytes w) : v = w := by
  obtain ⟨text, htext, hread⟩ := hv
  obtain ⟨text', htext', hread'⟩ := hw
  rw [htext] at htext'
  cases htext'
  rw [hread] at hread'
  exact Except.ok.inj hread'

/-- The file lists values. -/
def Lists (bytes : List UInt8) (vs : List Json) : Prop :=
  ∃ value, Spells bytes value ∧ items value = .ok vs

theorem Lists.unique {vs ws : List Json} (hv : Lists bytes vs) (hw : Lists bytes ws) : vs = ws := by
  obtain ⟨value, hvalue, hitems⟩ := hv
  obtain ⟨value', hvalue', hitems'⟩ := hw
  rw [hvalue.unique hvalue', hitems'] at hitems
  exact (Except.ok.inj hitems).symm

/-- Every list of plain values is listed by the file that is written for it. -/
theorem lists_indented {vs : List Json} (h : Json.ArePlain vs) :
    Lists (Utf8.encode (Json.obj [("redirects", .arr vs)]).indented.toList) vs := by
  have hplain : (Json.obj [("redirects", .arr vs)]).IsPlain := ⟨by simp, h, trivial⟩
  refine ⟨.obj [("redirects", .arr vs)], ⟨_, Utf8.decode?_encode _, ?_⟩, ?_⟩
  · rw [Json.indented, String.toList_ofList]
    exact Json.readChars_indentedChars hplain
  · rfl

/-- Why a value lists nothing is reported. -/
theorem isReported_of_items {value : Json} {e : LoadError} (h : items value = .error e) :
    e.isReported = true := by
  unfold items at h
  repeat' split at h
  all_goals
    cases h
    try rfl

/-- **A file either lists values**, and then its records are theirs, or its fault is reported. -/
theorem load_cases (now : Timestamp) (bytes : List UInt8) :
    (∃ vs, Lists bytes vs ∧ load now bytes = recordsOf now vs)
      ∨ (∀ vs, ¬ Lists bytes vs) ∧ ∃ e, load now bytes = .error e ∧ e.isReported = true := by
  unfold load
  cases htext : Utf8.decode? bytes with
  | none =>
      right
      refine ⟨?_, .notText, rfl, rfl⟩
      rintro vs ⟨value, ⟨text, htext', -⟩, -⟩
      rw [htext] at htext'
      cases htext'
  | some text =>
      dsimp only
      cases hread : Json.readChars text with
      | error e =>
          right
          constructor
          · rintro vs ⟨value, ⟨text', htext', hread'⟩, -⟩
            rw [htext] at htext'
            cases htext'
            rw [hread] at hread'
            cases hread'
          · cases e with
            | malformed offset => exact ⟨.notJson, rfl, rfl⟩
            | longInteger => exact ⟨.longInteger, rfl, rfl⟩
      | ok value =>
          have hspells : Spells bytes value := ⟨text, htext, hread⟩
          dsimp only
          cases hitems : items value with
          | error e =>
              right
              refine ⟨?_, e, rfl, isReported_of_items hitems⟩
              rintro vs ⟨value', hspells', hitems'⟩
              rw [← hspells.unique hspells', hitems] at hitems'
              cases hitems'
          | ok vs => exact Or.inl ⟨vs, ⟨value, hspells, hitems⟩, rfl⟩

/-- **Nothing foresees the file**: a value that breaks the reading follows, in the list, values that
describe records. -/
def IsUnforeseen (bytes : List UInt8) : Prop :=
  ∃ front v back, Lists bytes (front ++ v :: back)
    ∧ (∀ u ∈ front, Redirect.Describes u) ∧ Redirect.Breaks v

/-- **A file is unforeseen** just if its fault is not reported. -/
theorem isUnforeseen_iff (now : Timestamp)
    (htexts : ∀ vs, Lists bytes vs → ∀ v ∈ vs, Redirect.HasTexts v) :
    IsUnforeseen bytes ↔ ∃ e, load now bytes = .error e ∧ e.isReported = false := by
  rcases load_cases now bytes with ⟨vs, hlists, hload⟩ | ⟨hnone, e, hload, hreported⟩
  · rw [hload]
    -- for the values of the list, to describe a record is to have one read
    have hdescribes : ∀ front : List Json, (∀ u ∈ front, u ∈ vs) →
        ((∀ u ∈ front, ∃ r, Redirect.ofJson now u = .ok r)
          ↔ ∀ u ∈ front, Redirect.Describes u) := by
      intro front hfront
      apply forall₂_congr
      intro u hu
      exact Redirect.exists_ofJson_iff now (htexts vs hlists u (hfront u hu))
    constructor
    · rintro ⟨front, v, back, hlists', hfront, hbreaks⟩
      obtain rfl := hlists.unique hlists'
      obtain ⟨fault, hfault, hunreported⟩ := (Redirect.exists_unreported_iff now v).mpr hbreaks
      have hbefore := (hdescribes front fun u hu => List.mem_append_left _ hu).mpr hfront
      exact ⟨.record fault,
        recordsOf_eq_error_iff.mpr ⟨front, v, back, rfl, hbefore, fault, hfault, rfl⟩, hunreported⟩
    · rintro ⟨e, he, hunreported⟩
      obtain ⟨front, v, back, rfl, hbefore, fault, hfault, rfl⟩ := recordsOf_eq_error_iff.mp he
      have hfront := (hdescribes front fun u hu => List.mem_append_left _ hu).mp hbefore
      exact ⟨front, v, back, hlists, hfront,
        (Redirect.exists_unreported_iff now v).mp ⟨fault, hfault, hunreported⟩⟩
  · rw [hload]
    constructor
    · rintro ⟨front, v, back, hlists, -⟩
      exact absurd hlists (hnone _)
    · rintro ⟨e', he', hunreported⟩
      cases he'
      rw [hreported] at hunreported
      cases hunreported

/-! ## Opening -/

/-- **A store opens on the file**, with one record for each value that the file lists: the record
that the value describes. -/
def Opens (now : Timestamp) (path : String) (bytes : List UInt8) : Prop :=
  ∃ vs records, Lists bytes vs ∧ records.length = vs.length
    ∧ List.Forall₂ (fun v r => Redirect.ofJson now v = .ok r) vs records
    ∧ start now path (.file bytes) = .ok ⟨path, .file bytes, ⟨records⟩⟩

/-- **The file is reported** as one that cannot be read. -/
def Reports (now : Timestamp) (path : String) (bytes : List UInt8) : Prop :=
  (∃ e, start now path (.file bytes) = .error (.load e) ∧ e.isReported = true)
    ∧ startNotices now path (.file bytes) = [notice .error (unreadableMessage path)]

section

variable {now : Timestamp} {path : String}

theorem opens_of_load {records : List Redirect} (h : load now bytes = .ok records) :
    Opens now path bytes := by
  rcases load_cases now bytes with ⟨vs, hlists, hload⟩ | ⟨-, e, hload, -⟩
  · have hrecords := recordsOf_eq_ok_iff.mp (hload.symm.trans h)
    refine ⟨vs, records, hlists, hrecords.length_eq.symm, hrecords, ?_⟩
    rw [start, h]
  · rw [h] at hload
    cases hload

theorem load_of_opens (h : Opens now path bytes) : ∃ records, load now bytes = .ok records := by
  obtain ⟨vs, records, -, -, -, hstart⟩ := h
  rw [start] at hstart
  cases hload : load now bytes with
  | error e =>
      rw [hload] at hstart
      cases hstart
  | ok records => exact ⟨records, rfl⟩

theorem reports_iff :
    Reports now path bytes ↔ ∃ e, load now bytes = .error e ∧ e.isReported = true := by
  cases hload : load now bytes with
  | error e =>
      cases hreported : e.isReported <;>
        simp [Reports, start, startNotices, hload, hreported]
  | ok records => simp [Reports, start, hload]

end

/-- **A store opens, or its file is reported**, at any time and under any name, just if the file is
not unforeseen. What should be texts in the listed values are presupposed to be texts, as far as
they are there. -/
theorem opens_or_reports_iff (now : Timestamp) (path : String)
    (htexts : ∀ vs, Lists bytes vs → ∀ v ∈ vs, Redirect.HasTexts v) :
    Opens now path bytes ∨ Reports now path bytes ↔ ¬ IsUnforeseen bytes := by
  rw [isUnforeseen_iff now htexts, reports_iff]
  -- what is left is that a file is read, or has a fault of one of the two kinds
  constructor
  · rintro (hopens | ⟨e, he, hreported⟩) ⟨e', he', hunreported⟩
    · obtain ⟨records, hload⟩ := load_of_opens hopens
      rw [hload] at he'
      cases he'
    · rw [he] at he'
      cases he'
      rw [hreported] at hunreported
      cases hunreported
  · intro hforeseen
    cases hload : load now bytes with
    | error e =>
        refine Or.inr ⟨e, rfl, ?_⟩
        by_contra hunreported
        exact hforeseen ⟨e, hload, Bool.eq_false_iff.mpr hunreported⟩
    | ok records => exact Or.inl (opens_of_load hload)

theorem isPlain_one : (Json.int 1).IsPlain := by
  show (1 : Int).natAbs < numberBound
  decide +kernel

/-- An object without fields describes no record, so the number behind it does no harm. -/
theorem opens_or_reports_iff_two :
    let bytes := Utf8.encode "\x7b\n  \"redirects\": [\n    \x7b\x7d,\n    1\n  ]\n\x7d".toList
    Opens (Fresh.atNewYear "").now "db" bytes ∨ Reports (Fresh.atNewYear "").now "db" bytes := by
  intro bytes
  have hbytes : bytes
      = Utf8.encode (Json.obj [("redirects", .arr [.obj [], .int 1])]).indented.toList := by
    decide +kernel
  have hlists : Lists bytes [.obj [], .int 1] := by
    rw [hbytes]
    exact lists_indented ⟨⟨List.nodup_nil, trivial⟩, isPlain_one, trivial⟩
  refine (opens_or_reports_iff (Fresh.atNewYear "").now "db" ?_).mpr ?_
  · intro vs hvs
    obtain rfl := hvs.unique hlists
    simp [Redirect.HasTexts, Json.field?, Json.lookup?]
  · rintro ⟨front, v, back, hfile, hfront, hbreaks⟩
    rcases front with _ | ⟨u, front⟩
    · obtain ⟨rfl, -⟩ := List.cons.inj (hfile.unique hlists)
      simp [Redirect.Breaks, Json.field?, Json.lookup?] at hbreaks
    · obtain ⟨rfl, -⟩ := List.cons.inj (hfile.unique hlists)
      simp [Redirect.Describes, Json.field?, Json.lookup?] at hfront

/-- **A number in the place of a record** is not foreseen: the store does not open, and nothing is
reported. -/
theorem number_is_unforeseen :
    let bytes := Utf8.encode "\x7b\n  \"redirects\": [\n    1\n  ]\n\x7d".toList
    start (Fresh.atNewYear "").now "db" (.file bytes) = .error (.load (.record .notAnObject))
      ∧ (LoadError.record .notAnObject).isReported = false
      ∧ startNotices (Fresh.atNewYear "").now "db" (.file bytes) = [] := by
  intro bytes
  have hbytes : bytes = Utf8.encode (Json.obj [("redirects", .arr [.int 1])]).indented.toList := by
    decide +kernel
  have hlists : Lists bytes [.int 1] := by
    rw [hbytes]
    exact lists_indented ⟨isPlain_one, trivial⟩
  have hstart : start (Fresh.atNewYear "").now "db" (.file bytes)
      = .error (.load (.record .notAnObject)) := by
    rcases load_cases (Fresh.atNewYear "").now bytes with ⟨vs, hvs, hload⟩ | ⟨hnone, -⟩
    · obtain rfl := hvs.unique hlists
      rw [start, hload]
      rfl
    · exact absurd hlists (hnone _)
  refine ⟨hstart, rfl, ?_⟩
  simp only [startNotices, hstart]
  rfl

end

end FileStore

end Shortlink
