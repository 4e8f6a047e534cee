import Shortlink.Proofs.Catalog.Run
import Shortlink.Proofs.Json.RoundTrip
import Shortlink.Proofs.Redirect

/-!
# What a file store has written

A file store that has just written its file can be opened again without a difference: the file is
read as the very records that are in memory (`load_fileText`), so the store that is opened on it is
the same one, and so is all that it answers later. This holds after any run in which files may come
and go and writes may fail, as soon as one write succeeds: `Store.saved_call_is_durable`.

The one thing that a file cannot keep is a writer given as a floating-point number. No call makes
such a record, but a file that somebody else wrote can have one; hence `Json.IsPlain`.

## Contents

- **Records.** `Redirect.isPlain_toJson`.
- **Files.** `FileStore.load_fileText`.
- **Runs.** `Store.IsPlainFile`, kept by each action; `Store.saved_call_is_durable`.
-/

namespace Shortlink

open Text

/-! ## Records -/

namespace Redirect

/-- A record is written without loss if its number is not too long and its writer is plain. -/
theorem isPlain_toJson {r : Redirect} (hid : r.id.natAbs < numberBound)
    (hwriter : r.createdBy.IsPlain) : r.toJson.IsPlain := by
  have hnames : (["redirect_id", "public_ref", "alias", "destination", "created_on", "created_by"]
      : List String).Nodup := by decide
  exact ⟨hnames, hid, trivial, trivial, Json.isPlain_ofLoose _, trivial, hwriter, trivial⟩

end Redirect

/-! ## Files -/

namespace FileStore

theorem hasLongNumber_eq_false_iff {records : List Redirect} :
    hasLongNumber records = false ↔ ∀ r ∈ records, r.id.natAbs < numberBound := by
  rw [hasLongNumber, List.any_eq_false]
  simp only [decide_eq_true_eq, Nat.not_le]

theorem arePlain_map_toJson {records : List Redirect}
    (hids : ∀ r ∈ records, r.id.natAbs < numberBound)
    (hwriters : ∀ r ∈ records, r.createdBy.IsPlain) :
    Json.ArePlain (records.map (·.toJson)) := by
  induction records with
  | nil => trivial
  | cons r rest ih =>
      have hr := List.forall_mem_cons.mp hids
      have hw := List.forall_mem_cons.mp hwriters
      exact ⟨Redirect.isPlain_toJson hr.1 hw.1, ih hr.2 hw.2⟩

theorem recordsOf_map_toJson (now : Timestamp) (records : List Redirect) :
    recordsOf now (records.map (·.toJson)) = .ok records := by
  unfold recordsOf
  induction records with
  | nil => rfl
  | cons r rest ih =>
      rw [List.map_cons, List.mapM_cons, ih, Redirect.ofJson_toJson]
      rfl

/-- **A file is read as the records that were written to it**, at whatever time it is read. -/
theorem load_fileText {records : List Redirect} (hids : hasLongNumber records = false)
    (hwriters : ∀ r ∈ records, r.createdBy.IsPlain) (now : Timestamp) :
    load now (Utf8.encode (fileText records).toList) = .ok records := by
  have hplain : (Json.obj [("redirects", .arr (records.map (·.toJson)))]).IsPlain :=
    ⟨by simp, arePlain_map_toJson (hasLongNumber_eq_false_iff.mp hids) hwriters, trivial⟩
  rw [load, Utf8.decode?_encode, fileText, Json.indented, String.toList_ofList]
  simp only [Json.readChars_indentedChars hplain, items, Json.lookup?, if_true]
  exact recordsOf_map_toJson now records

/-- A store that is opened on the file has the records that were written to it. -/
theorem start_fileText {records : List Redirect} (hids : hasLongNumber records = false)
    (hwriters : ∀ r ∈ records, r.createdBy.IsPlain) (now : Timestamp) (path : String) :
    start now path (Disk.ofText (fileText records))
      = .ok ⟨path, Disk.ofText (fileText records), ⟨records⟩⟩ := by
  rw [Disk.ofText, start, load_fileText hids hwriters now]

end FileStore

/-! ## Runs -/

namespace Store

/-- The call may change records, and so has the file written. -/
def Call.isChange : Call → Bool
  | .create .. | .update .. | .delete _ => true
  | _ => false

/-- **A file store under the given name, with plain writers only.** -/
def IsPlainFile (path : String) (s : Store) : Prop :=
  ∃ f, s = file f ∧ f.path = path ∧ ∀ r ∈ f.memory.records, r.createdBy.IsPlain

theorem isPlain_writer (user : Option String) : (Redirect.writer user).IsPlain := by
  cases user <;> trivial

/-- No call makes a record whose writer is not plain. -/
theorem isPlain_perform {s : Store} (h : ∀ r ∈ s.records, r.createdBy.IsPlain) (call : Call) :
    ∀ r ∈ (s.perform call).state.records, r.createdBy.IsPlain := by
  intro r hr
  cases call with
  | create fresh aliasName destination user =>
      rcases records_create s fresh aliasName destination user with heq | ⟨new, heq, -⟩
      · exact h r (heq ▸ hr)
      · obtain ⟨-, -, hwriter⟩ := fields_of_create heq
        rcases List.mem_append.mp (heq ▸ hr : r ∈ s.records ++ [new]) with hold | hnew
        · exact h r hold
        · rw [List.mem_singleton.mp hnew, hwriter]
          exact isPlain_writer user
  | update reference destination user =>
      rcases mem_update hr with hold | ⟨old, -, rfl⟩
      · exact h r hold
      · exact isPlain_writer user
  | delete reference => exact h r ((sublist_delete s reference).subset hr)
  | find reference => exact h r hr
  | page page limit => exact h r hr
  | count => exact h r hr

theorem isPlainFile_perform {path : String} {s : Store} (h : s.IsPlainFile path) (call : Call) :
    (s.perform call).state.IsPlainFile path := by
  obtain ⟨f, rfl, hpath, hwriters⟩ := h
  obtain ⟨disk, -, hstate⟩ := exists_perform_file f call
  have hrecords := isPlain_perform (s := file f) hwriters call
  rw [hstate] at hrecords ⊢
  exact ⟨_, rfl, hpath, hrecords⟩

theorem isPlainFile_onStore {path : String} {s : Store} (h : s.IsPlainFile path)
    (a : Catalog.Action) : (a.onStore s).IsPlainFile path := by
  cases a with
  | call k => exact isPlainFile_perform h k
  | behind k => exact isPlainFile_perform h k
  | find reference => exact h
  | resolve path => exact h
  | replace disk =>
      obtain ⟨f, rfl, hpath, hwriters⟩ := h
      exact ⟨_, rfl, hpath, hwriters⟩

theorem isPlainFile_foldl {path : String} (actions : List Catalog.Action) :
    ∀ {s : Store}, s.IsPlainFile path →
      (actions.foldl (fun s a => a.onStore s) s).IsPlainFile path := by
  induction actions with
  | nil =>
      intro s h
      exact h
  | cons a rest ih =>
      intro s h
      exact ih (isPlainFile_onStore h a)

/-- A store that is opened under a name is a file under that name. -/
theorem eq_of_start {now : Timestamp} {path : String} {disk : Disk} {f : FileStore}
    (h : FileStore.start now path disk = .ok f) : f.path = path := by
  unfold FileStore.start at h
  split at h
  · rw [← Except.ok.inj h]
  · exact absurd h (by simp)
  · split at h
    · rw [← Except.ok.inj h]
    · exact absurd h (by simp)

/-- **A change that is saved leaves the records in the file**, none of their numbers too long. -/
theorem perform_of_isSaved {f : FileStore} {call : Call} (hchange : call.isChange = true)
    (hsaved : IsSaved ((file f).perform call).answer) :
    ∃ records, FileStore.hasLongNumber records = false ∧ ((file f).perform call).state
      = file ⟨f.path, Disk.ofText (FileStore.fileText records), ⟨records⟩⟩ := by
  -- all changes go through one step, which writes what the memory has become
  have hcommit : ∀ {α : Type} {step : Step Memory α}, IsSaved (f.commit step).answer →
      FileStore.hasLongNumber step.state.records = false ∧ (f.commit step).state
        = ⟨f.path, Disk.ofText (FileStore.fileText step.state.records), step.state⟩ := by
    intro α step h
    have hfault := FileStore.saveFault?_of_isSaved h
    rw [FileStore.commit_of_saved hfault]
    exact ⟨(FileStore.saveFault?_eq_none_iff.mp hfault).2, rfl⟩
  cases call with
  | create fresh aliasName destination user =>
      obtain ⟨hlong, hstate⟩ := hcommit (isSaved_map_iff.mp hsaved)
      exact ⟨_, hlong, congrArg file hstate⟩
  | update reference destination user =>
      obtain ⟨hlong, hstate⟩ := hcommit (isSaved_map_iff.mp hsaved)
      exact ⟨_, hlong, congrArg file hstate⟩
  | delete reference =>
      obtain ⟨hlong, hstate⟩ := hcommit (isSaved_map_iff.mp hsaved)
      exact ⟨_, hlong, congrArg file hstate⟩
  | find reference => exact absurd hchange (by simp [Call.isChange])
  | page page limit => exact absurd hchange (by simp [Call.isChange])
  | count => exact absurd hchange (by simp [Call.isChange])

/-- **What a change has saved can be opened again without a difference.** Take a file store opened
on whatever can be read, any run after that, and then a change whose file is written, whether it is
answered well or refused. The file holds just the records in memory, whenever it is read, and the
store that is opened on it is the same store, so that all later calls go alike. -/
theorem saved_call_is_durable {now : Timestamp} {path : String} {disk : Disk} {f : FileStore}
    (hstart : FileStore.start now path disk = .ok f)
    (hwriters : ∀ r ∈ f.memory.records, r.createdBy.IsPlain) (actions : List Catalog.Action)
    {call : Call} (hchange : call.isChange = true)
    (hsaved : IsSaved ((actions.foldl (fun s a => a.onStore s) (file f)).perform call).answer) :
    ∃ bytes records,
      ((actions.foldl (fun s a => a.onStore s) (file f)).perform call).state
        = file ⟨path, .file bytes, ⟨records⟩⟩
      ∧ (∀ later, FileStore.load later bytes = .ok records)
      ∧ ∀ later, FileStore.start later path (.file bytes) = .ok ⟨path, .file bytes, ⟨records⟩⟩ := by
  have hfile : (file f).IsPlainFile path := ⟨f, rfl, eq_of_start hstart, hwriters⟩
  -- whatever happened to the file meanwhile, the records in memory are plain
  obtain ⟨g, hg, hpath, hplain⟩ := isPlainFile_foldl actions hfile
  rw [hg] at hsaved ⊢
  obtain ⟨records, hlong, hstate⟩ := perform_of_isSaved hchange hsaved
  have hrecords := isPlain_perform (s := file g) hplain call
  rw [hstate] at hrecords
  refine ⟨_, records, hpath ▸ hstate, ?_, ?_⟩
  · intro later
    exact FileStore.load_fileText hlong hrecords later
  · intro later
    exact FileStore.start_fileText hlong hrecords later path

/-- A record of the last microsecond of a leap day, far from universal time. -/
def leapDayRecord : Redirect where
  id := 7
  publicRef := "Ref0000007"
  aliasName := "wiki"
  written := "https://a.io/\x7b$1\x7d"
  createdOn := ⟨⟨2024, 2, 29, by decide⟩, ⟨23, 59, 59, 999999, by decide⟩,
    some ⟨-19800000001, by decide⟩⟩
  createdBy := .str "Zoë \"𝄞\"\n"

/-- A file store that holds this record alone. -/
def leapDayStore : FileStore :=
  ⟨"links.json", Disk.ofText (FileStore.fileText [leapDayRecord]), ⟨[leapDayRecord]⟩⟩

/-- A record is made, and the first one is removed while the file cannot be written. -/
def interruptedActions : List Catalog.Action :=
  [.call (.create (.atNewYear "Ref0000008") "/Straße" "https://b.io" (some "Ада")),
    .replace .directory, .behind (.delete "wiki"), .replace .vacant]

/-- A refused update saves what could not be saved before. -/
theorem saved_call_is_durable_interrupted :
    ∃ bytes records,
      ((interruptedActions.foldl (fun s a => a.onStore s) (file leapDayStore)).perform
          (.update "wiki" "https://c.io" none)).state = file ⟨"links.json", .file bytes, ⟨records⟩⟩
      ∧ (∀ later, FileStore.load later bytes = .ok records)
      ∧ ∀ later, FileStore.start later "links.json" (.file bytes)
        = .ok ⟨"links.json", .file bytes, ⟨records⟩⟩ := by
  have hwriters : ∀ r ∈ [leapDayRecord], r.createdBy.IsPlain := by
    intro r hr
    rw [List.mem_singleton.mp hr]
    trivial
  have hstart : FileStore.start (Fresh.atNewYear "").now "links.json" leapDayStore.disk
      = .ok leapDayStore :=
    FileStore.start_fileText (by decide +kernel) hwriters _ _
  exact saved_call_is_durable hstart hwriters interruptedActions rfl (by decide +kernel)

end Store

end Shortlink
