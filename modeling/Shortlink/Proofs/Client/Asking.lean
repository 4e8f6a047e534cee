import Shortlink.CommandLine.Run
import Shortlink.Proofs.Client.Address
import Shortlink.Proofs.Web.Managing

/-!
# Asking for a record

A command asks for the record of a name by putting the name behind the path of the records, as it
is. So the name has to be one part of a path (`IsPart`): it arrives if nothing in it ends the path,
begins another part or an escape, and if it is no step back. Then the command gets what the service
answers for the name: `request_record`.

## Contents

- `IsPart`.
- **The path.** `mem_managedPath`, `takeSteps_managedPath`.
- **The target.** `recordTarget`; `writes_recordTarget`, `ofUrl?_recordPath`.
- **The request.** `request_record`.
-/

namespace Shortlink.Client

open Text Web Web.Request CommandLine

/-- **A name that is one part of a path.** -/
structure IsPart (name : List Char) : Prop where
  ne_nil : name ≠ []
  noMark : ∀ c ∈ name, c ≠ '/' ∧ c ≠ '?' ∧ c ≠ '#' ∧ c ≠ '%'
  noControl : ∀ c ∈ name, isAsciiControl c = false
  noStep : name ≠ ['.'] ∧ name ≠ ['.', '.']
  short : name.length ≤ 400

theorem isPart_iff {name : List Char} : IsPart name ↔ name ≠ []
    ∧ (name.all fun c => c != '/' && c != '?' && c != '#' && c != '%' && !isAsciiControl c) = true
    ∧ (name ≠ ['.'] ∧ name ≠ ['.', '.']) ∧ name.length ≤ 400 := by
  simp only [List.all_eq_true, Bool.and_eq_true, bne_iff_ne, Bool.not_eq_true', and_assoc]
  constructor
  · intro h
    refine ⟨h.ne_nil, fun c hc => ?_, h.noStep.1, h.noStep.2, h.short⟩
    obtain ⟨hslash, hquestion, hsharp, hpercent⟩ := h.noMark c hc
    exact ⟨hslash, hquestion, hsharp, hpercent, h.noControl c hc⟩
  · rintro ⟨hne, hall, hstep, hsteps, hshort⟩
    refine ⟨hne, fun c hc => ?_, fun c hc => ?_, ⟨hstep, hsteps⟩, hshort⟩
    · obtain ⟨hslash, hquestion, hsharp, hpercent, -⟩ := hall c hc
      exact ⟨hslash, hquestion, hsharp, hpercent⟩
    · exact (hall c hc).2.2.2.2

instance (name : List Char) : Decidable (IsPart name) :=
  decidable_of_iff' _ isPart_iff

/-! ## The path -/

/-- On a path without steps back every part is in force. -/
theorem walk_of_noStep {parts : List (List Char)}
    (h : ∀ part ∈ parts, part ≠ ['.'] ∧ part ≠ ['.', '.']) :
    ∀ done, walk done parts = done.reverse ++ parts := by
  induction parts with
  | nil =>
      intro done
      rw [walk, List.append_nil]
  | cons part rest ih =>
      intro done
      obtain ⟨hpart, hrest⟩ := List.forall_mem_cons.mp h
      rw [walk, if_neg hpart.1, if_neg hpart.2, ih hrest, List.reverse_cons, List.append_assoc,
        List.singleton_append]

section

variable {name : List Char}

/-- What stands in the path stands in the name, or may stand in a target as it is. -/
theorem mem_managedPath {c : Char} (h : c ∈ managedPath name) :
    c ∈ name ∨ isTargetChar c = true := by
  have hall : "/_gadget/api/redirect/".toList.all isTargetChar = true := by decide
  exact (List.mem_append.mp h).symm.imp id (List.all_eq_true.mp hall c)

theorem not_mem_managedPath {c : Char} (hname : c ∉ name) (hc : isTargetChar c = false) :
    c ∉ managedPath name := by
  intro h
  rcases mem_managedPath h with hmem | hplain
  · exact hname hmem
  · rw [hc] at hplain
    exact absurd hplain (by simp)

/-- The parts of the path. -/
def recordParts (name : List Char) : List (List Char) :=
  [[], "_gadget".toList, "api".toList, "redirect".toList, name]

theorem managedPath_eq (name : List Char) : managedPath name = '/' :: ("_gadget".toList
    ++ '/' :: ("api".toList ++ '/' :: ("redirect".toList ++ '/' :: name))) := by
  have hstart : "/_gadget/api/redirect/".toList = '/' :: ("_gadget".toList
      ++ '/' :: ("api".toList ++ '/' :: ("redirect".toList ++ ['/']))) := by decide +kernel
  unfold managedPath
  rw [hstart]
  simp only [List.append_assoc, List.cons_append, List.nil_append]

theorem intercalate_recordParts (name : List Char) :
    List.intercalate ['/'] (recordParts name) = managedPath name := by
  rw [recordParts, managedPath_eq]
  simp only [List.intercalate_cons_cons, List.intercalate_singleton, List.append_assoc,
    List.cons_append, List.nil_append]

theorem IsPart.forall_recordParts (h : IsPart name) : ∀ part ∈ recordParts name,
    '/' ∉ part ∧ part ≠ ['.'] ∧ part ≠ ['.', '.'] := by
  have hslash : '/' ∉ name := fun hmem => (h.noMark '/' hmem).1 rfl
  intro part hpart
  simp only [recordParts, List.mem_cons, List.not_mem_nil, or_false] at hpart
  rcases hpart with rfl | rfl | rfl | rfl | rfl
  · decide
  · decide
  · decide
  · decide
  · exact ⟨hslash, h.noStep⟩

/-- No step back is taken on the path. -/
theorem takeSteps_managedPath (h : IsPart name) :
    takeSteps (managedPath name) = managedPath name := by
  have hcut : (managedPath name).splitOn '/' = recordParts name := by
    rw [← intercalate_recordParts]
    exact List.splitOn_intercalate '/' (fun part hpart => (h.forall_recordParts part hpart).1)
      (List.cons_ne_nil _ _)
  rw [takeSteps, hcut, walk_of_noStep fun part hpart => (h.forall_recordParts part hpart).2,
    List.reverse_nil, List.nil_append, intercalate_recordParts]

/-! ## The target -/

/-- What may stand in a path as it is may stand so in a target, but for a percent sign. -/
theorem isTargetChar_of_isPathSafe {c : Char} (h : isPathSafe c = true) (hpercent : c ≠ '%') :
    isTargetChar c = true := by
  obtain ⟨hlow, hhigh⟩ := isPrintable_of_isPathSafe h
  have hquestion : c ≠ '?' := by
    rintro rfl
    exact absurd h (by decide)
  have hsharp : c ≠ '#' := by
    rintro rfl
    exact absurd h (by decide)
  simp only [isTargetChar, Bool.and_eq_true, decide_eq_true_eq, bne_iff_ne]
  exact ⟨⟨⟨⟨by omega, by omega⟩, hpercent⟩, hquestion⟩, hsharp⟩

theorem isPrintable_of_isTargetChar {c : Char} (h : isTargetChar c = true) : IsPrintable c := by
  simp only [isTargetChar, Bool.and_eq_true, decide_eq_true_eq] at h
  exact ⟨by omega, by omega⟩

/-- The target for a name: its path, with what may not stand in a URL escaped. -/
def recordTarget (name : List Char) : List Char :=
  Percent.encode isPathSafe (managedPath name)

/-- **The target is a written form of the path.** -/
theorem writes_recordTarget (h : IsPart name) :
    Writes (String.ofList (recordTarget name)) (managedPath name) := by
  -- a percent sign would go unescaped
  have hpercent : '%' ∉ managedPath name :=
    not_mem_managedPath (fun hmem => (h.noMark '%' hmem).2.2.2 rfl) (by decide)
  have hwritten : Percent.IsWritten isTargetChar (managedPath name) (recordTarget name) :=
    Percent.isWritten_encode fun c hc hsafe =>
      isTargetChar_of_isPathSafe hsafe fun heq => hpercent (heq ▸ hc)
  have hquestion : '?' ∉ recordTarget name := hwritten.not_mem (by decide) (by decide) (by decide)
  rw [Writes, targetPath, String.toList_ofList,
    List.takeWhile_eq_self_iff.mpr (bne_of_not_mem hquestion)]
  exact hwritten

theorem length_managedPath (name : List Char) : (managedPath name).length = name.length + 22 := by
  have hstart : "/_gadget/api/redirect/".toList.length = 22 := by decide +kernel
  unfold managedPath
  rw [List.length_append, hstart, Nat.add_comm]

/-- **The request for a name goes to the server with that target.** -/
theorem ofUrl?_recordPath (server : Server) {name : String} (h : IsPart name.toList) :
    Address.ofUrl? (server.name ++ apiPrefix ++ recordPath name)
      = some ⟨true, recordTarget name.toList⟩ := by
  have hhead : (managedPath name.toList).head? = some '/' := by rw [managedPath_eq]; rfl
  have htarget : targetOf (managedPath name.toList) none = managedPath name.toList :=
    targetOf_none hhead
  have hencoded : targetOf (recordTarget name.toList) none = recordTarget name.toList := by
    apply targetOf_none
    rw [recordTarget, managedPath_eq]
    rfl
  have hstart : apiPrefix ++ "/redirect/" = "/_gadget/api/redirect/" := by decide +kernel
  have hurl : server.name ++ apiPrefix ++ recordPath name
      = String.ofList (server.chars ++ targetOf (managedPath name.toList) none) := by
    rw [htarget]
    unfold managedPath
    rw [String.ofList_append, String.ofList_append, String.ofList_toList, String.ofList_toList,
      recordPath, String.append_assoc, ← hstart, String.append_assoc]
    rfl
  have hquestion : '?' ∉ managedPath name.toList :=
    not_mem_managedPath (fun hmem => (h.noMark '?' hmem).2.1 rfl) (by decide)
  have hchars : ∀ c ∈ targetOf (managedPath name.toList) none,
      c ≠ '#' ∧ isAsciiControl c = false := by
    intro c hc
    rw [htarget] at hc
    rcases mem_managedPath hc with hname | hplain
    · exact ⟨(h.noMark c hname).2.2.1, h.noControl c hname⟩
    · have hprintable := isPrintable_of_isTargetChar hplain
      refine ⟨?_, hprintable.isAsciiControl_eq⟩
      rintro rfl
      exact absurd hplain (by decide)
  have hlength : (targetOf (managedPath name.toList) none).length ≤ 501 := by
    have hshort := h.short
    rw [htarget, length_managedPath]
    omega
  rw [hurl, server.ofUrl?_targetOf hhead hquestion (takeSteps_managedPath h) hchars hlength]
  exact congrArg (fun target => some (⟨true, target⟩ : Address)) hencoded

end

/-! ## The request -/

/-- **A command that asks for a record gets what the service answers for the name**, if the name is
one part of a path. -/
theorem request_record {σ : Type} (server : Server) {ex : Exchange σ} {state : σ} {app : App}
    {fresh : Fresh} (hservice : ∀ r, (ex r state).1 = .ofReply (app.handle fresh r).reply)
    {name : String} (hname : IsPart name.toList) {body : Json}
    (hreply : (get app.catalog name).reply = .response (.ofJson 200 body))
    (sent : List (String × String)) :
    (Connection.request ex "GET" (recordPath name) none ⟨server.name, state, sent⟩).1
      = .ok body := by
  have hline : '\n' ∉ name.toList := fun hmem =>
    absurd (hname.noControl '\n' hmem) (by decide)
  have hslash : '/' ∉ name.toList := fun hmem => (hname.noMark '/' hmem).1 rfl
  have hreceived : (ex (.ofTarget "GET" (String.ofList (recordTarget name.toList)) [] [] true)
      state).1 = .answer 200 (some body) := by
    rw [hservice, App.handle_managedPath (writes_recordTarget hname) hname.ne_nil hline hslash
      (by decide)]
    show Received.ofReply (get app.catalog (String.ofList name.toList)).reply = _
    rw [String.ofList_toList, hreply]
    rfl
  rw [Connection.request]
  dsimp only
  rw [ofUrl?_recordPath server hname]
  dsimp only
  rw [Connection.send]
  dsimp only [contentHeaders, contentBytes, Option.toList, Option.map, Option.getD, List.map]
  rw [hreceived]
  rfl

end Shortlink.Client
