import ServiceBus.Proofs.Flow.Apart

/-
ServiceBus.Proofs.Flow.Outcome — what a flow ends with, whatever happens on the
bus meanwhile.

`Reaches ok f g` says that `f` comes to `g` by moves of its own. Nothing is kept of
the bus from one move to the next: every move may be made on any bus for which
`ok` holds, so whatever other flows, timers and channels do in between is covered.
`EndsIn ok Q f` says that `f` never ends but with a message and a reply for which
`Q` holds.

A judgement about a flow is made from judgements about its first move
(`EndsIn.of_step`), from an invariant of its moves (`EndsIn.of_invariant`), or from
one about the flow apart from the work behind it and one about that work
(`EndsIn.andThen`, `EndsIn.behind`).
-/
namespace ServiceBus.Flow

section

variable {ok : Bus → Prop} {Q R : Message → Reply → Prop} {f g : Flow}

/-- A flow comes to another one by moves that are each made on a bus of the kind. -/
inductive Reaches (ok : Bus → Prop) (f : Flow) : Flow → Prop where
  | refl : Reaches ok f f
  | move {g g' : Flow} {bus bus' : Bus} (h : Reaches ok f g) (hok : ok bus)
      (hs : g.step bus = some (g', bus')) : Reaches ok f g'

/-- Whenever a flow comes to its end, `Q` holds of its message and its reply. -/
def EndsIn (ok : Bus → Prop) (Q : Message → Reply → Prop) (f : Flow) : Prop :=
  ∀ m r, Reaches ok f (answer m r []) → Q m r

theorem finished?_eq_some {m : Message} {r : Reply} :
    f.finished? = some (m, r) ↔ f = answer m r [] := by
  constructor
  · intro h
    unfold finished? at h
    split at h
    · obtain ⟨rfl, rfl⟩ := Prod.mk.inj (Option.some.inj h)
      rfl
    · simp at h
  · rintro rfl
    rfl

namespace Reaches

theorem mono {ok' : Bus → Prop} (h : Reaches ok f g) (hok : ∀ {bus}, ok bus → ok' bus) :
    Reaches ok' f g := by
  induction h with
  | refl => exact .refl
  | move _ hbus hs ih => exact .move ih (hok hbus) hs

theorem of_step {bus bus' : Bus} {h : Flow} (hok : ok bus) (hs : f.step bus = some (g, bus'))
    (hg : Reaches ok g h) : Reaches ok f h := by
  induction hg with
  | refl => exact .move .refl hok hs
  | move _ hok hs ih => exact .move ih hok hs

theorem trans {h : Flow} (hfg : Reaches ok f g) (hgh : Reaches ok g h) : Reaches ok f h := by
  induction hgh with
  | refl => exact hfg
  | move _ hok hs ih => exact .move ih hok hs

/-- A flow comes as far with more work behind it. -/
theorem andThen (h : Reaches ok f g) (later : List Pending) :
    Reaches ok (f.andThen later) (g.andThen later) := by
  induction h with
  | refl => exact .refl
  | @move g g' bus bus' _ hok hs ih =>
    have hmove : (g.andThen later).step bus = some (g'.andThen later, bus') := by
      rw [step_andThen_or_cut (finished?_of_step (Option.isSome_of_eq_some hs)), hs]
      rfl
    exact .move ih hok hmove

/-- The first move, if there is one. -/
theorem eq_or_step (h : Reaches ok f g) :
    g = f ∨ ∃ bus f' bus', ok bus ∧ f.step bus = some (f', bus') ∧ Reaches ok f' g := by
  induction h with
  | refl => exact .inl rfl
  | @move g g' bus bus' _ hok hs ih =>
    right
    obtain rfl | ⟨bus₀, f', bus₁, hok₀, hs₀, h⟩ := ih
    · exact ⟨bus, g', bus', hok, hs, .refl⟩
    · exact ⟨bus₀, f', bus₁, hok₀, hs₀, .move h hok hs⟩

/-- A flow with more work behind it is still on its way, or it has come to its end and
goes on with that work. -/
theorem of_andThen {later : List Pending} (hlater : ∀ p ∈ later, p.isAttempt = false)
    (h : Reaches ok (f.andThen later) g) :
    (∃ f', g = f'.andThen later ∧ Reaches ok f f') ∨
      ∃ m r, Reaches ok f (answer m r []) ∧ Reaches ok (answer m r later) g := by
  induction h with
  | refl => exact .inl ⟨f, rfl, .refl⟩
  | move _ hok hs ih =>
    obtain ⟨f', rfl, hf'⟩ | ⟨m, r, hend, hbehind⟩ := ih
    · cases hfinished : f'.finished? with
      | none =>
        rw [step_andThen hfinished hlater] at hs
        obtain ⟨⟨f'', bus''⟩, hs', he⟩ := Option.map_eq_some_iff.1 hs
        obtain ⟨rfl, -⟩ := Prod.mk.inj he
        exact .inl ⟨f'', rfl, .move hf' hok hs'⟩
      | some outcome =>
        obtain ⟨m, r⟩ := outcome
        obtain rfl := finished?_eq_some.1 hfinished
        exact .inr ⟨m, r, hf', .move .refl hok hs⟩
    · exact .inr ⟨m, r, hend, .move hbehind hok hs⟩

/-- Moves that keep `ok` make a run one way in which a flow comes to another one. -/
theorem run (hkeeps : ∀ {f f' : Flow} {bus bus' : Bus}, ok bus → f.step bus = some (f', bus') →
    ok bus') (limit : Nat) {bus : Bus} (hok : ok bus) : Reaches ok f (f.run limit bus).1 := by
  induction limit generalizing f bus with
  | zero => exact .refl
  | succ limit ih =>
    rw [Flow.run]
    split
    · next f' bus' hs => exact .of_step hok hs (ih (hkeeps hok hs))
    · exact .refl

end Reaches

namespace EndsIn

theorem mono (h : EndsIn ok Q f) (hQR : ∀ m r, Q m r → R m r) : EndsIn ok R f :=
  fun m r hr => hQR m r (h m r hr)

theorem anti {ok' : Bus → Prop} (h : EndsIn ok Q f) (hok : ∀ {bus}, ok' bus → ok bus) :
    EndsIn ok' Q f :=
  fun m r hr => h m r (hr.mono hok)

theorem answer {m : Message} {r : Reply} (h : Q m r) : EndsIn ok Q (Flow.answer m r []) := by
  intro m' r' hr
  obtain he | ⟨bus, f', bus', -, hs, -⟩ := hr.eq_or_step
  · obtain ⟨rfl, hreply, -⟩ := Flow.busy.inj he
    obtain rfl := Task.reply.inj hreply
    exact h
  · simp [Flow.answer, step, work] at hs

/-- A flow that is not at its end: what holds behind every first move. -/
theorem of_step (hf : f.finished? = none)
    (h : ∀ bus f' bus', ok bus → f.step bus = some (f', bus') → EndsIn ok Q f') :
    EndsIn ok Q f := by
  intro m r hr
  obtain rfl | ⟨bus, f', bus', hok, hs, hr⟩ := hr.eq_or_step
  · simp [Flow.answer, finished?] at hf
  · exact h bus f' bus' hok hs m r hr

/-- What every move keeps still holds at the end. -/
theorem of_invariant {I : Flow → Prop} (hf : I f)
    (hmove : ∀ {g g' bus bus'}, I g → ok bus → g.step bus = some (g', bus') → I g')
    (hend : ∀ m r, I (Flow.answer m r []) → Q m r) : EndsIn ok Q f := by
  have hreaches : ∀ {g}, Reaches ok f g → I g := by
    intro g hg
    induction hg with
    | refl => exact hf
    | move _ hok hs ih => exact hmove ih hok hs
  exact fun m r hr => hend m r (hreaches hr)

/-- First the flow by itself, then the work that is left behind it. -/
theorem andThen {later : List Pending} (h : EndsIn ok Q f)
    (hlater : ∀ p ∈ later, p.isAttempt = false)
    (hbehind : ∀ m r, Q m r → EndsIn ok R (Flow.answer m r later)) :
    EndsIn ok R (f.andThen later) := by
  intro m r hr
  obtain ⟨f', he, hf'⟩ | ⟨m', r', hend, hr⟩ := hr.of_andThen hlater
  · -- there is no work behind it
    cases f' with
    | busy m' task k =>
      obtain ⟨rfl, rfl, hk⟩ := Flow.busy.inj he
      obtain ⟨rfl, rfl⟩ := List.append_eq_nil_iff.1 hk.symm
      exact hbehind m r (h m r hf') m r .refl
    | _ => simp [Flow.answer, Flow.andThen] at he
  · exact hbehind m' r' (h m' r' hend) m r hr

/-- First the flow by itself, then what one more piece of work makes of its reply. -/
theorem behind {p : Pending} (h : EndsIn ok Q f) (hp : p.isAttempt = false)
    (hbehind : ∀ m r bus, Q m r → EndsIn ok R (resume r m p [] bus).1) :
    EndsIn ok R (f.andThen [p]) := by
  refine h.andThen (by simpa using hp) fun m r hQ => of_step rfl ?_
  rintro bus f' bus' - hs
  obtain hs : some (resume r m p [] bus) = some (f', bus') := hs
  have hresumed := hbehind m r bus hQ
  rwa [Option.some.inj hs] at hresumed

/-- A timer rings in the end, and nothing else happens. -/
theorem sleep {m : Message} {t : Timer} (h : ∀ r, Q m r) : EndsIn ok Q (.busy m (.sleep t) []) := by
  refine of_step rfl ?_
  rintro bus f' bus' - hs
  simp only [step, work, cut?, Option.map_none] at hs
  split at hs
  · obtain ⟨rfl, -⟩ := Prod.mk.inj (Option.some.inj hs)
    exact .answer (h _)
  · simp at hs

/-- Entering a mediator is the first move. -/
theorem mediate {m : Message} {x : Mediator}
    (h : ∀ bus, ok bus → EndsIn ok Q (Flow.mediate x m [] bus).1) :
    EndsIn ok Q (.busy m (.mediate x) []) := by
  refine of_step rfl ?_
  rintro bus f' bus' hok hs
  obtain hs : some (Flow.mediate x m [] bus) = some (f', bus') := hs
  have hentered := h bus hok
  rwa [Option.some.inj hs] at hentered

end EndsIn

end

end ServiceBus.Flow
