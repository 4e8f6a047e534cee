import Shortlink.Lookup
import Shortlink.Proofs.Text.Cutting
import Shortlink.Proofs.Text.Percent

/-!
# How often arguments are decoded

What a person types is decoded before it is cut into alias and arguments, and what stands behind the
alias is decoded again before the arguments are filled in. Every link gives what it would give for
the arguments of the first decoding just if the second one has nothing to do:
`Link.destination_eq_fillIn_iff`. It has something to do where the first decoding uncovered an
escape, or had to leave one because the bytes spelled no text.

## Contents

- **Cutting.** `tokens_append`, `tokens_of_not_mem`, `joinTokens_tokens`, `mem_joinTokens`.
- **What was typed.** `typedTokens`, `typedArguments`, `typedText`; `typedArguments_eq`.
- **Filling in.** `Link.fillIn`, `eq_of_fillIn_empty`; `Link.destination_eq_fillIn_iff`.
-/

namespace Shortlink

open Text

/-! ## Cutting -/

theorem joinTokens_tokens (s : List Char) : joinTokens (tokens s) = s :=
  List.intercalate_splitOn ' '

theorem tokens_ne_nil (s : List Char) : tokens s ≠ [] :=
  List.splitOnP_ne_nil _ s

/-- The first token ends at the first space. -/
theorem tokens_append {front : List Char} (h : ' ' ∉ front) (back : List Char) :
    tokens (front ++ ' ' :: back) = front :: tokens back := by
  apply List.splitOnP_append_cons_of_forall_mem
  · intro c hc
    have hne : c ≠ ' ' := fun he => h (he ▸ hc)
    simpa using hne
  · rfl

theorem tokens_of_not_mem {s : List Char} (h : ' ' ∉ s) : tokens s = [s] := by
  apply List.splitOnP_eq_singleton
  intro c hc
  have hne : c ≠ ' ' := fun he => h (he ▸ hc)
  simpa using hne

/-- What stands in joined tokens stands in one of them, or is a space. -/
theorem mem_joinTokens {ts : List (List Char)} {c : Char} (h : c ∈ joinTokens ts) :
    c = ' ' ∨ ∃ t ∈ ts, c ∈ t :=
  (mem_of_mem_intercalate h).imp List.mem_singleton.mp id

/-! ## What was typed -/

/-- The tokens behind the alias, decoded once. -/
def typedTokens (raw : List Char) : List (List Char) :=
  (tokens (Percent.decode raw)).tail

/-- The arguments, decoded once: there are none where nothing, or one empty token, is left. -/
def typedArguments (raw : List Char) : List (List Char) :=
  if typedTokens raw = [] ∨ typedTokens raw = [[]] then [] else typedTokens raw

/-- The text behind the alias, decoded once. -/
def typedText (raw : List Char) : List Char :=
  joinTokens (typedTokens raw)

/-- The text behind the alias is cut into the very arguments that it was joined from. -/
theorem typedArguments_eq (raw : List Char) : typedArguments raw = arguments (typedText raw) := by
  unfold typedArguments typedText typedTokens
  generalize Percent.decode raw = s
  by_cases hspace : ' ' ∈ s
  · obtain ⟨front, back, rfl, hfront⟩ := List.eq_append_cons_of_mem hspace
    rw [tokens_append hfront, List.tail_cons, joinTokens_tokens]
    cases back with
    | nil => rfl
    | cons c back =>
        have hne : tokens (c :: back) ≠ [[]] := by
          intro h
          have hjoin := joinTokens_tokens (c :: back)
          rw [h] at hjoin
          cases hjoin
        rw [if_neg (by simp [tokens_ne_nil, hne])]
        rfl
  · rw [tokens_of_not_mem hspace]
    rfl

/-! ## Filling in -/

namespace Link

/-- The destination for arguments that are taken as they are. -/
def fillIn (link : Link) (args : List (List Char)) : List Char :=
  (link.select args.length).fill args

/-- The arguments are filled in after a second decoding. -/
theorem destination_eq_fillIn (link : Link) (raw : List Char) :
    link.destination raw = link.fillIn (arguments (Percent.decode (typedText raw))) :=
  rfl

/-- A link of one text uses it for every number of arguments. -/
theorem select_of_singleton {link : Link} {v : Variant} (h : link.variants = [v]) (count : Nat) :
    link.select count = v := by
  have hwidest : link.widest = v := by simp [widest, h]
  rw [select, h, hwidest]
  cases count <;> rfl

/-- The link of the empty destination shows its arguments. -/
theorem fillIn_empty (s : List Char) :
    (ofDestination "" "").fillIn (arguments s) = if s.isEmpty then [] else ' ' :: s := by
  have hvariants : (ofDestination "" "").variants = [⟨0, ""⟩] := by decide +kernel
  rw [fillIn, select_of_singleton hvariants, Variant.fill, List.take_zero, List.drop_zero,
    arguments]
  cases s with
  | nil => rfl
  | cons c rest =>
      simp only [List.isEmpty_cons, Bool.false_eq_true, if_false]
      split
      · next hnil => exact absurd hnil (tokens_ne_nil _)
      · rw [joinTokens_tokens]
        rfl

/-- That link tells any two texts apart. -/
theorem eq_of_fillIn_empty {s t : List Char}
    (h : (ofDestination "" "").fillIn (arguments s) = (ofDestination "" "").fillIn (arguments t)) :
    s = t := by
  rw [fillIn_empty, fillIn_empty] at h
  cases s with
  | nil =>
      cases t with
      | nil => rfl
      | cons d t => exact absurd h (by simp)
  | cons c s =>
      cases t with
      | nil => exact absurd h (by simp)
      | cons d t => exact (List.cons.inj h).2

/-- **Every link fills in the arguments as they are after one decoding, just if what was typed
behind the alias then holds no escape, or stands for bytes that spell no text.** -/
theorem destination_eq_fillIn_iff (raw : List Char) :
    (∀ link : Link, link.destination raw = link.fillIn (typedArguments raw)) ↔
      ¬ Percent.HasEscape (typedText raw) ∨ ¬ Percent.SpellsText (typedText raw) := by
  rw [← Percent.decode_eq_self_iff]
  constructor
  · intro h
    apply eq_of_fillIn_empty
    rw [← destination_eq_fillIn, h (ofDestination "" ""), typedArguments_eq]
  · intro hdecode link
    rw [destination_eq_fillIn, hdecode, typedArguments_eq]

/-- Two escapes one within the other are both resolved. -/
theorem destination_decodes_twice :
    (ofDestination "g" "https://x.io/\x7b$1\x7d").destination "g %2541".toList
        = "https://x.io/A".toList
      ∧ (ofDestination "g" "https://x.io/\x7b$1\x7d").fillIn (typedArguments "g %2541".toList)
        = "https://x.io/%41".toList := by
  decide +kernel

end Link

end Shortlink
