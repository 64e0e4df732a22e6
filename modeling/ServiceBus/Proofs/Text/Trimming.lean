import Mathlib.Data.List.DropRight
import ServiceBus.Text.Blank

/-
ServiceBus.Proofs.Text.Trimming — what trimming leaves, and what a text has at its
two ends.

`Text.trim` takes the blanks off both ends, and nothing else (`bare_iff`), so what it
leaves has none there (`trim_trim`), and a text that begins and ends with other characters is left as it is
(`trim_cons_concat`). `after?` and `before?` take a given beginning or end off a text
exactly if the text has it (`after?_eq_some`, `before?_eq_some`).
-/
namespace ServiceBus.Text

variable {cs rest : List Char}

/-! ## Trimming -/

theorem trimEnd_eq (cs : List Char) : trimEnd cs = cs.rdropWhile isBlank := rfl

theorem trimEnd_trimEnd (cs : List Char) : trimEnd (trimEnd cs) = trimEnd cs := by
  rw [trimEnd_eq, trimEnd_eq, List.rdropWhile_idempotent]

/-- What is left in front keeps its first character, which is not blank. -/
theorem trimStart_trimEnd (h : trimStart cs = cs) : trimStart (trimEnd cs) = trimEnd cs := by
  have hprefix : trimEnd cs <+: cs := List.rdropWhile_prefix isBlank cs
  cases hleft : trimEnd cs with
  | nil => rfl
  | cons c left =>
    rw [hleft] at hprefix
    obtain ⟨off, rfl⟩ := hprefix
    have hc : isBlank c = false := by
      cases hb : isBlank c with
      | false => rfl
      | true =>
        -- a blank at the front would have been dropped
        have hshorter : (trimStart (c :: left ++ off)).length < (c :: left ++ off).length := by
          simp only [trimStart, List.cons_append, List.dropWhile_cons, hb, if_true,
            List.length_cons]
          exact Nat.lt_succ_of_le (List.dropWhile_suffix _).length_le
        rw [h] at hshorter
        exact absurd hshorter (Nat.lt_irrefl _)
    simp [trimStart, hc]

@[simp] theorem trim_trim (cs : List Char) : trim (trim cs) = trim cs := by
  have hstart : trimStart (trimStart cs) = trimStart cs := List.dropWhile_idempotent isBlank cs
  rw [trim, trim, trimStart_trimEnd hstart, trimEnd_trimEnd]

theorem trim_cons_concat {c d : Char} (hc : isBlank c = false) (hd : isBlank d = false)
    (cs : List Char) : trim (c :: (cs ++ [d])) = c :: (cs ++ [d]) := by
  have hstart : trimStart (c :: (cs ++ [d])) = c :: (cs ++ [d]) := by
    simp [trimStart, hc]
  rw [trim, hstart, trimEnd_eq, ← List.cons_append]
  exact List.rdropWhile_concat_neg _ _ _ (by simp [hd])

@[simp] theorem trimmed_trimmed (s : String) : trimmed (trimmed s) = trimmed s := by
  simp [trimmed]

/-- A text is `body` with nothing but blanks around it, and `body` has none at its ends. -/
structure Bare (cs body : List Char) : Prop where
  between : ∃ front back, cs = front ++ (body ++ back) ∧
    (∀ c ∈ front, isBlank c = true) ∧ ∀ c ∈ back, isBlank c = true
  head : ∀ c ∈ body.head?, isBlank c = false
  last : ∀ c ∈ body.getLast?, isBlank c = false

theorem trimStart_append {front : List Char} (h : ∀ c ∈ front, isBlank c = true)
    (cs : List Char) : trimStart (front ++ cs) = trimStart cs :=
  List.dropWhile_append_of_pos h

theorem trimStart_eq_self (h : ∀ c ∈ cs.head?, isBlank c = false) : trimStart cs = cs := by
  cases cs with
  | nil => rfl
  | cons c cs => simp [trimStart, h c rfl]

theorem trimEnd_append {back : List Char} (h : ∀ c ∈ back, isBlank c = true)
    (cs : List Char) : trimEnd (cs ++ back) = trimEnd cs := by
  rw [trimEnd, List.reverse_append, List.dropWhile_append_of_pos (by simpa using h), ← trimEnd]

theorem trimEnd_eq_self (h : ∀ c ∈ cs.getLast?, isBlank c = false) : trimEnd cs = cs := by
  rw [trimEnd_eq, List.rdropWhile_eq_self_iff]
  intro hne
  simpa using h (cs.getLast hne) (List.getLast?_eq_getLast_of_ne_nil hne)

theorem bare_iff {body : List Char} : Bare cs body ↔ body = trim cs := by
  constructor
  · rintro ⟨⟨front, back, rfl, hfront, hback⟩, hhead, hlast⟩
    rw [trim, trimStart_append hfront]
    cases body with
    | nil =>
      have hnone : trimStart back = [] := List.dropWhile_eq_nil_iff.2 hback
      rw [List.nil_append, hnone]
      rfl
    | cons c body =>
      have hstart : trimStart (c :: body ++ back) = c :: body ++ back := by
        refine trimStart_eq_self fun d hd => hhead d ?_
        simpa using hd
      rw [hstart, trimEnd_append hback, trimEnd_eq_self hlast]
  · rintro rfl
    have hstart : trimStart (trimStart cs) = trimStart cs := List.dropWhile_idempotent isBlank cs
    refine ⟨⟨cs.takeWhile isBlank, (trimStart cs).rtakeWhile isBlank, ?_,
      fun c => List.mem_takeWhile_imp, fun c => List.mem_rtakeWhile_imp⟩, fun c hc => ?_,
      fun c hc => ?_⟩
    · rw [trim, trimEnd_eq, List.rdropWhile_append_rtakeWhile, trimStart,
        List.takeWhile_append_dropWhile]
    · have hbegins := List.head?_dropWhile_not isBlank (trim cs)
      rw [← trimStart, trim, trimStart_trimEnd hstart, ← trim, hc] at hbegins
      exact hbegins
    · obtain ⟨hne, rfl⟩ := List.mem_getLast?_eq_getLast hc
      exact Bool.eq_false_iff.2 (List.rdropWhile_last_not isBlank (trimStart cs) hne)

/-! ## Beginnings and ends -/

theorem after?_append (beginning rest : List Char) :
    after? beginning (beginning ++ rest) = some rest := by
  induction beginning with
  | nil => rfl
  | cons c beginning ih => simp [after?, ih]

theorem after?_eq_some {beginning : List Char} :
    after? beginning cs = some rest ↔ cs = beginning ++ rest := by
  constructor
  · intro h
    induction beginning generalizing cs with
    | nil => exact Option.some.inj h
    | cons c beginning ih =>
      cases cs with
      | nil => simp [after?] at h
      | cons d cs =>
        simp only [after?] at h
        split at h
        · next hcd => rw [hcd, ih h, List.cons_append]
        · simp at h
  · rintro rfl
    exact after?_append beginning rest

theorem before?_eq_some {ending : List Char} :
    before? ending cs = some rest ↔ cs = rest ++ ending := by
  constructor
  · intro h
    obtain ⟨front, hfront, rfl⟩ := Option.map_eq_some_iff.1 h
    rw [after?_eq_some, List.reverse_eq_iff] at hfront
    simpa using hfront
  · rintro rfl
    simp [before?, after?_append]

end ServiceBus.Text
