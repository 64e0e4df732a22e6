import ServiceBus.Proofs.Text.Trimming

/-
ServiceBus.Proofs.Text.Cutting — where a text is cut.

A pattern cuts a text where it first occurs: `FirstAt` says so without looking for it, and
`splitAtPattern` finds just this place (`splitAtPattern_eq_some`).

Separators cut a text into words. `Splits` is the grammar: a text is read from the left, and
what is no separator is taken up to the next separator or the end. Every text has a list of
words (`exists_splits`) and only one (`Splits.eq_words`), and they are the longest runs
without a separator, each at its place (`Splits.mem_iff`).
-/
namespace ServiceBus.Text

/-! ## At a pattern -/

section Pattern

variable {pattern cs front rest : List Char}

/-- The pattern stands between `front` and `rest`, and nowhere sooner. -/
structure FirstAt (pattern cs front rest : List Char) : Prop where
  whole : cs = front ++ (pattern ++ rest)
  first : ∀ sooner, sooner ++ pattern <+: cs → front.length ≤ sooner.length

theorem after?_eq_none : after? pattern cs = none ↔ ¬ pattern <+: cs := by
  rw [Option.eq_none_iff_forall_not_mem]
  constructor
  · rintro h ⟨rest, rfl⟩
    exact h rest (after?_append pattern rest)
  · intro h rest hrest
    exact h ⟨rest, (after?_eq_some.1 hrest).symm⟩

/-- A pattern at the very beginning is not found anywhere else. -/
theorem firstAt_append : FirstAt pattern (pattern ++ cs) front rest ↔ front = [] ∧ rest = cs := by
  constructor
  · intro h
    have hfront : front = [] := by
      have hlength := h.first [] (List.prefix_append pattern cs)
      exact List.eq_nil_of_length_eq_zero (Nat.le_zero.1 hlength)
    refine ⟨hfront, ?_⟩
    have hwhole := h.whole
    rw [hfront, List.nil_append] at hwhole
    exact (List.append_cancel_left hwhole).symm
  · rintro ⟨rfl, rfl⟩
    exact ⟨rfl, fun _ _ => Nat.zero_le _⟩

/-- A pattern that does not stand at the beginning is found behind the first character. -/
theorem firstAt_cons {c : Char} (h : ¬ pattern <+: c :: cs) :
    FirstAt pattern (c :: cs) front rest ↔
      ∃ behind, front = c :: behind ∧ FirstAt pattern cs behind rest := by
  constructor
  · rintro ⟨hwhole, hfirst⟩
    cases front with
    | nil => exact absurd ⟨rest, hwhole.symm⟩ h
    | cons d behind =>
      obtain ⟨rfl, rfl⟩ := List.cons.inj hwhole
      refine ⟨behind, rfl, rfl, fun sooner hsooner => ?_⟩
      exact Nat.le_of_succ_le_succ
        (hfirst (c :: sooner) (List.cons_prefix_cons.2 ⟨rfl, hsooner⟩))
  · rintro ⟨behind, rfl, rfl, hfirst⟩
    refine ⟨rfl, fun sooner hsooner => ?_⟩
    cases sooner with
    | nil => exact absurd hsooner h
    | cons d sooner =>
      exact Nat.succ_le_succ (hfirst sooner (List.cons_prefix_cons.1 hsooner).2)

theorem splitAtPattern_eq_some :
    splitAtPattern pattern cs = some (front, rest) ↔ FirstAt pattern cs front rest := by
  induction cs generalizing front with
  | nil =>
    simp only [splitAtPattern, Option.map_eq_some_iff, Prod.mk.injEq]
    constructor
    · rintro ⟨rest', hafter, rfl, rfl⟩
      have hwhole : [] = pattern ++ rest' := after?_eq_some.1 hafter
      exact ⟨hwhole, fun _ _ => Nat.zero_le _⟩
    · rintro ⟨hwhole, -⟩
      obtain ⟨rfl, hrest⟩ := List.append_eq_nil_iff.1 hwhole.symm
      exact ⟨rest, after?_eq_some.2 hrest.symm, rfl, rfl⟩
  | cons c cs ih =>
    simp only [splitAtPattern]
    cases hafter : after? pattern (c :: cs) with
    | some behind =>
      rw [after?_eq_some.1 hafter, firstAt_append]
      simp [eq_comm]
    | none =>
      rw [firstAt_cons (after?_eq_none.1 hafter)]
      simp only [Option.map_eq_some_iff, Prod.exists, Prod.mk.injEq]
      constructor
      · rintro ⟨front', rest', hsplit, rfl, rfl⟩
        exact ⟨front', rfl, ih.1 hsplit⟩
      · rintro ⟨behind, rfl, hfirst⟩
        exact ⟨behind, rest, ih.2 hfirst, rfl, rfl⟩

end Pattern

/-! ## At separators -/

section Separators

variable {isSeparator : Char → Bool} {cs w rest : List Char} {ws : List (List Char)}

/-- The words of a text, read from the left: a word goes on up to the next separator. -/
inductive Splits (isSeparator : Char → Bool) : List Char → List (List Char) → Prop where
  | nil : Splits isSeparator [] []
  | separator {c : Char} {cs : List Char} {ws : List (List Char)} (hc : isSeparator c = true)
      (h : Splits isSeparator cs ws) : Splits isSeparator (c :: cs) ws
  | word {w rest : List Char} {ws : List (List Char)} (hne : w ≠ [])
      (hfree : ∀ c ∈ w, isSeparator c = false) (hend : ∀ c ∈ rest.head?, isSeparator c = true)
      (h : Splits isSeparator rest ws) : Splits isSeparator (w ++ rest) (w :: ws)

/-- A longest run of characters that are no separators, between what stands before it and
behind it. -/
structure IsWord (isSeparator : Char → Bool) (before w after : List Char) : Prop where
  nonempty : w ≠ []
  free : ∀ c ∈ w, isSeparator c = false
  left : ∀ c ∈ before.getLast?, isSeparator c = true
  right : ∀ c ∈ after.head?, isSeparator c = true

theorem words_cons_separator {c : Char} (hc : isSeparator c = true) (cs : List Char) :
    words isSeparator (c :: cs) = words isSeparator cs := by
  simp [words, pieces, hc]

theorem pieces_free_cons {c : Char} (hfree : ∀ c ∈ w, isSeparator c = false)
    (hc : isSeparator c = true) (rest : List Char) :
    pieces isSeparator (w ++ c :: rest) = w :: pieces isSeparator rest := by
  induction w with
  | nil => simp [pieces, hc]
  | cons d w ih =>
    rw [List.forall_mem_cons] at hfree
    simp [pieces, hfree.1, ih hfree.2]

theorem pieces_free (hfree : ∀ c ∈ w, isSeparator c = false) : pieces isSeparator w = [w] := by
  induction w with
  | nil => rfl
  | cons d w ih =>
    rw [List.forall_mem_cons] at hfree
    simp [pieces, hfree.1, ih hfree.2]

theorem words_word (hne : w ≠ []) (hfree : ∀ c ∈ w, isSeparator c = false)
    (hend : ∀ c ∈ rest.head?, isSeparator c = true) :
    words isSeparator (w ++ rest) = w :: words isSeparator rest := by
  cases rest with
  | nil => simp [words, pieces, pieces_free hfree, hne]
  | cons c rest =>
    have hc : isSeparator c = true := hend c rfl
    rw [words_cons_separator hc]
    simp [words, pieces_free_cons hfree hc, hne]

theorem Splits.eq_words (h : Splits isSeparator cs ws) : ws = words isSeparator cs := by
  induction h with
  | nil => rfl
  | separator hc h ih => rw [words_cons_separator hc, ih]
  | word hne hfree hend h ih => rw [words_word hne hfree hend, ih]

/-- Every text has words. -/
theorem exists_splits (isSeparator : Char → Bool) (cs : List Char) :
    ∃ ws, Splits isSeparator cs ws := by
  induction cs with
  | nil => exact ⟨[], .nil⟩
  | cons c cs ih =>
    obtain ⟨ws, h⟩ := ih
    cases hc : isSeparator c with
    | true => exact ⟨ws, .separator hc h⟩
    | false =>
      have hfree : ∀ d ∈ [c], isSeparator d = false := List.forall_mem_singleton.2 hc
      cases h with
      | nil => exact ⟨_, .word (List.cons_ne_nil c []) hfree (by simp) .nil⟩
      | @separator d cs ws hd h =>
        exact ⟨_, .word (List.cons_ne_nil c []) hfree (by simpa using hd) (.separator hd h)⟩
      | @word w rest ws hne hw hend h =>
        exact ⟨_, .word (List.cons_ne_nil c w) (List.forall_mem_cons.2 ⟨hc, hw⟩) hend h⟩

/-- Behind a separator, or at the beginning, the words of a text begin anew. -/
theorem Splits.append {before : List Char} {ws' : List (List Char)}
    (h : Splits isSeparator before ws) (hlast : ∀ c ∈ before.getLast?, isSeparator c = true)
    (h' : Splits isSeparator cs ws') : Splits isSeparator (before ++ cs) (ws ++ ws') := by
  induction h with
  | nil => exact h'
  | @separator c before ws hc h ih =>
    refine .separator hc (ih fun d hd => hlast d ?_)
    cases before with
    | nil => simp at hd
    | cons d' before => simpa using hd
  | @word w rest ws hne hfree hend h ih =>
    cases rest with
    | nil =>
      -- a word does not end with a separator
      have hmem := List.getLast_mem hne
      have hc := hlast (w.getLast hne) (by simp [List.getLast?_eq_getLast_of_ne_nil hne])
      simp [hfree _ hmem] at hc
    | cons c rest =>
      rw [List.append_assoc]
      refine .word hne hfree (by simpa using hend) (ih fun d hd => hlast d ?_)
      rw [List.getLast?_append, hd, Option.some_or, Option.mem_some]

/-- The words are the longest runs without a separator. -/
theorem Splits.mem_iff (h : Splits isSeparator cs ws) : w ∈ ws ↔
    ∃ before after, cs = before ++ (w ++ after) ∧ IsWord isSeparator before w after := by
  constructor
  · intro hw
    induction h with
    | nil => simp at hw
    | @separator c cs ws hc h ih =>
      obtain ⟨before, after, rfl, hword⟩ := ih hw
      refine ⟨c :: before, after, rfl, hword.nonempty, hword.free, fun d hd => ?_, hword.right⟩
      cases before with
      | nil => simp_all
      | cons d' before => exact hword.left d (by simpa using hd)
    | @word first rest ws hne hfree hend h ih =>
      obtain rfl | hw := List.mem_cons.1 hw
      · exact ⟨[], rest, rfl, hne, hfree, by simp, hend⟩
      · obtain ⟨before, after, rfl, hword⟩ := ih hw
        refine ⟨first ++ before, after, by simp, hword.nonempty, hword.free, fun d hd => ?_,
          hword.right⟩
        cases before with
        | nil =>
          -- the word itself would begin with a separator
          obtain ⟨c, w', rfl⟩ := List.exists_cons_of_ne_nil hword.nonempty
          have hc : isSeparator c = true := hend c rfl
          simp [hword.free c List.mem_cons_self] at hc
        | cons d' before => exact hword.left d (by simpa [List.getLast?_append] using hd)
  · rintro ⟨before, after, rfl, hword⟩
    obtain ⟨earlier, hbefore⟩ := exists_splits isSeparator before
    obtain ⟨later, hafter⟩ := exists_splits isSeparator after
    have hwhole := hbefore.append hword.left
      (.word hword.nonempty hword.free hword.right hafter)
    rw [h.eq_words, ← hwhole.eq_words]
    exact List.mem_append_right _ List.mem_cons_self

end Separators

end ServiceBus.Text
