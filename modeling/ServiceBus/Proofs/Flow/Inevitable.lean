import ServiceBus.Bus

/-
ServiceBus.Proofs.Flow.Inevitable — what a machine on a bus comes to, whatever
else happens on the bus.

A machine makes moves by `step`, and between two moves the bus may change by
`world`. `Inevitably step world P s b` says that from `s` on `b` the machine comes
to a state in which `P` holds, along every course of things: as long as it has
not come there, the bus may come to a state in which the machine can move, and
every move leads to a state from which it comes there.
-/
namespace ServiceBus

section

variable {σ τ : Type} {world : Bus → Bus → Prop}

/-- The machine comes to a state in which `P` holds, along every course of things. -/
inductive Inevitably (step : σ → Bus → Option (σ × Bus)) (world : Bus → Bus → Prop)
    (P : σ → Bus → Prop) : σ → Bus → Prop where
  | now {s : σ} {b : Bus} (h : P s b) : Inevitably step world P s b
  | move {s : σ} {b : Bus} (hmoves : ∃ b', world b b' ∧ (step s b').isSome = true)
      (h : ∀ b' s' b'', world b b' → step s b' = some (s', b'') →
        Inevitably step world P s' b'') : Inevitably step world P s b

namespace Inevitably

variable {step : σ → Bus → Option (σ × Bus)} {P Q : σ → Bus → Prop} {s : σ} {b : Bus}

/-- One move, made at once or later. -/
theorem of_step (hstill : world b b)
    (h : ∀ b', world b b' → ∃ s' b'', step s b' = some (s', b'') ∧
      Inevitably step world P s' b'') : Inevitably step world P s b := by
  refine .move ?_ fun b' s' b'' hw hs => ?_
  · obtain ⟨s', b'', hs, -⟩ := h b hstill
    exact ⟨b, hstill, by rw [hs]; rfl⟩
  · obtain ⟨t, c, ht, hi⟩ := h b' hw
    rw [hs] at ht
    cases ht
    exact hi

/-- A machine that makes the moves of another one, as long as that one has any, comes to
where the other one comes to. -/
theorem simulate {step' : τ → Bus → Option (τ × Bus)} {R : σ → Bus → τ → Prop}
    {Q : τ → Bus → Prop} {t : τ} (h : Inevitably step world P s b) (hR : R s b t)
    (hworld : ∀ {s b t b'}, R s b t → world b b' → R s b' t)
    (hstep : ∀ {s b t}, R s b t → (∃ b', (step s b').isSome = true) →
      (step s b = none → step' t b = none) ∧
        ∀ s' b', step s b = some (s', b') → ∃ t', step' t b = some (t', b') ∧ R s' b' t')
    (hP : ∀ {s b t}, R s b t → P s b → Inevitably step' world Q t b) :
    Inevitably step' world Q t b := by
  induction h generalizing t with
  | now h => exact hP hR h
  | @move s b hmoves h ih =>
    have hlive : ∃ b', (step s b').isSome = true := by
      obtain ⟨b', -, hb'⟩ := hmoves
      exact ⟨b', hb'⟩
    refine .move ?_ fun b' t' b'' hw ht => ?_
    · obtain ⟨b', hw, hb'⟩ := hmoves
      obtain ⟨⟨s', b''⟩, hs⟩ := Option.isSome_iff_exists.1 hb'
      obtain ⟨t', ht, -⟩ := (hstep (hworld hR hw) hlive).2 s' b'' hs
      exact ⟨b', hw, by rw [ht]; rfl⟩
    · have hR' := hworld hR hw
      cases hs : step s b' with
      | none =>
        rw [(hstep hR' hlive).1 hs] at ht
        simp at ht
      | some next =>
        obtain ⟨s', c⟩ := next
        obtain ⟨t'', ht'', hR''⟩ := (hstep hR' hlive).2 s' c hs
        rw [ht''] at ht
        cases ht
        exact ih b' s' b'' hw hs hR''

/-- What every move and every change of the bus keeps still holds then. -/
theorem and_of_step {I : σ → Bus → Prop} (h : Inevitably step world P s b) (hI : I s b)
    (hworld : ∀ {s b b'}, I s b → world b b' → I s b')
    (hstep : ∀ {s b s' b'}, I s b → step s b = some (s', b') → I s' b') :
    Inevitably step world (fun s b => P s b ∧ I s b) s b := by
  induction h with
  | now h => exact .now ⟨h, hI⟩
  | move hmoves _ ih =>
    refine .move hmoves fun b' s' b'' hw hs => ?_
    exact ih b' s' b'' hw hs (hstep (hworld hI hw) hs)

end Inevitably

end

end ServiceBus
