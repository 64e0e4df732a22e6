import ServiceBus.Proofs.Flow.Uniform

/-
ServiceBus.Proofs.Flow.Apart — a flow apart from the work that is left behind it.

`step_andThen_or_cut` says that a flow which has not come to its end makes the same
moves whether or not there is more work behind it, but that an attempt behind it may
be cut off while it waits. So what is known of a mediator by itself holds of it inside
any sequence (`step_andThen`).

`Inside` describes the flow of a mediator that was entered and is not a
sequence: whatever mediator it enters next, it enters below work of its own.
-/
namespace ServiceBus

/-- Whether pending work is an attempt, which a deadline may cut off. -/
def Pending.isAttempt : Pending → Bool
  | .attempt .. => true
  | _ => false

namespace Flow

/-- The flow with more work left for later. -/
def andThen : Flow → List Pending → Flow
  | .busy m task k, later => .busy m task (k ++ later)
  | .gathering m g branches k, later => .gathering m g branches (k ++ later)
  | .branching m g i branch others k, later => .branching m g i branch others (k ++ later)

/-- Work without attempts cuts nothing off. -/
theorem cut?_eq_none {m : Message} {bus : Bus} {later : List Pending}
    (h : ∀ p ∈ later, p.isAttempt = false) : cut? m bus later = none := by
  induction later generalizing m with
  | nil => rfl
  | cons p later ih =>
    rw [List.forall_mem_cons] at h
    cases p with
    | attempt d started deadline => simp [Pending.isAttempt] at h
    | _ => exact ih h.2

/-- What is cut off first is looked for on top, and then in what is left for later. -/
theorem cut?_append {m : Message} {bus : Bus} (k later : List Pending) :
    cut? m bus (k ++ later) =
      ((cut? m bus k).map (·.andThen later)).or (cut? (outside m k) bus later) := by
  induction k generalizing m with
  | nil => rfl
  | cons p k ih =>
    cases p with
    | attempt d started deadline =>
      cases deadline with
      | none => exact ih
      | some t =>
        simp only [List.cons_append, cut?]
        split
        · rfl
        · exact ih
    | _ => exact ih

theorem Goes.andThen {P : Task → List Pending → Prop} {F : List Pending → Flow × Bus}
    (h : Goes P F) (k later : List Pending) :
    F (k ++ later) = ((F k).1.andThen later, (F k).2) := by
  obtain ⟨m, task, top, bus, -, hF⟩ := h
  rw [hF, hF, Flow.andThen, List.append_assoc]

section Step

variable {m : Message} {bus : Bus} {later : List Pending}

theorem finished?_of_step {f : Flow} (h : (f.step bus).isSome = true) :
    f.finished? = none := by
  cases f with
  | busy m task k =>
    cases task with
    | reply r =>
      cases k with
      | nil => simp [step, work] at h
      | cons p k => rfl
    | _ => rfl
  | gathering m g branches k => rfl
  | branching m g i branch others k => rfl

/-- A flow that only an attempt can let go on. -/
theorem map_cut?_append (k : List Pending) :
    (cut? m bus (k ++ later)).map (fun f => (f, bus)) =
      (((cut? m bus k).map fun f => (f, bus)).map fun (f, bus) => (f.andThen later, bus)).or
        ((cut? (outside m k) bus later).map fun f => (f, bus)) := by
  rw [cut?_append]
  cases cut? m bus k with
  | none => rfl
  | some f => rfl

theorem work_andThen {task : Task} {k : List Pending}
    (hf : (busy m task k).finished? = none) :
    work m task (k ++ later) bus =
      ((work m task k bus).map fun (f, bus) => (f.andThen later, bus)).or
        ((cut? (outside m k) bus later).map fun f => (f, bus)) := by
  cases task with
  | mediate mediator =>
    cases mediator with
    | sequence name kind children onError =>
      exact congrArg some ((goes_mediate_sequence name kind children onError m bus).andThen k later)
    | scatter s targets =>
      simp only [work, mediate]
      split <;> rfl
    | _ => exact congrArg some ((goes_mediate (by simp) (by simp) m bus).andThen k later)
  | edit edits findings => exact congrArg some ((goes_edit edits findings m bus).andThen k later)
  | attempt d => exact congrArg some ((goes_attempt d m bus).andThen k later)
  | transmit outcome edits =>
    exact congrArg some ((goes_deliver outcome edits m bus).andThen k later)
  | sleep t =>
    simp only [work]
    split
    · rfl
    · exact map_cut?_append k
  | hang => exact map_cut?_append k
  | reply r =>
    cases k with
    | nil => simp [finished?] at hf
    | cons p k => exact congrArg some ((goes_resume_of r m p bus).andThen k later)

theorem gather_andThen {g : Gathering} {branches : List (Nat × Flow)} {k : List Pending} :
    gather m g branches (k ++ later) bus =
      ((gather m g branches k bus).map fun (f, bus) => (f.andThen later, bus)).or
        ((cut? (outside m k) bus later).map fun f => (f, bus)) := by
  have concluded (b : Bus) : conclude m g (k ++ later) b =
      ((conclude m g k b).1.andThen later, (conclude m g k b).2) := by
    simp only [conclude]
    split <;> rfl
  simp only [gather]
  split
  · rw [concluded]; rfl
  · split
    · rw [concluded]; rfl
    · split
      · rfl
      · split
        · rfl
        · exact map_cut?_append k

/-- A flow that has not come to its end makes the same move with more work behind it;
where it has to wait, an attempt behind it may be cut off. -/
theorem step_andThen_or_cut {f : Flow} (hf : f.finished? = none) :
    (f.andThen later).step bus =
      ((f.step bus).map fun (f, bus) => (f.andThen later, bus)).or
        ((cut? f.visible bus later).map fun f => (f, bus)) := by
  cases f with
  | busy m task k => exact work_andThen hf
  | gathering m g branches k => exact gather_andThen
  | branching m g i branch others k =>
    simp only [andThen, step]
    split
    · simp only [acceptBranch]
      split
      · rfl
      · split <;> rfl
    · split <;> rfl

/-- Without an attempt behind it, it makes the same moves. -/
theorem step_andThen {f : Flow} (hf : f.finished? = none) (h : ∀ p ∈ later, p.isAttempt = false) :
    (f.andThen later).step bus = (f.step bus).map fun (f, bus) => (f.andThen later, bus) := by
  rw [step_andThen_or_cut hf, cut?_eq_none h, Option.map_none, Option.or_none]

end Step

/-! ## Inside a mediator -/

/-- The outermost work of a flow is not that of a sequence, and if there is no work
left, then the flow is not about to enter a mediator. -/
def Inside (f : Flow) : Prop :=
  match f.pending.getLast? with
  | none => ∀ m mediator k, f ≠ .busy m (.mediate mediator) k
  | some p => p.isChildren = false

theorem inside_of_getLast? {f : Flow} {p : Pending} (h : f.pending.getLast? = some p)
    (hp : p.isChildren = false) : Inside f := by
  rw [Inside, h]
  exact hp

theorem inside_of_pending {f : Flow} (h : ∀ p ∈ f.pending.getLast?, p.isChildren = false)
    (hf : ∀ m mediator k, f ≠ .busy m (.mediate mediator) k) : Inside f := by
  cases hl : f.pending.getLast? with
  | none =>
    rw [Inside, hl]
    exact hf
  | some p => exact inside_of_getLast? hl (h p hl)

theorem Inside.getLast? {f : Flow} (h : Inside f) :
    ∀ p ∈ f.pending.getLast?, p.isChildren = false := by
  intro p hp
  rw [Option.mem_def] at hp
  rw [Inside, hp] at h
  exact h

/-- Whatever is put on top of work of its own, a flow stays inside. -/
theorem Goes.inside_of_ne_nil {P : Task → List Pending → Prop} {F : List Pending → Flow × Bus}
    (h : Goes P F) {k : List Pending} {p : Pending} (hk : k.getLast? = some p)
    (hp : p.isChildren = false) : Inside (F k).1 := by
  obtain ⟨m, task, top, bus, -, hF⟩ := h
  rw [hF]
  refine inside_of_getLast? (p := p) ?_ hp
  rw [pending, List.getLast?_append, hk]
  rfl

theorem Goes.inside {F : List Pending → Flow × Bus} (h : Goes Encloses F) {k : List Pending}
    (hk : ∀ p ∈ k.getLast?, p.isChildren = false) : Inside (F k).1 := by
  cases hl : k.getLast? with
  | some p => exact h.inside_of_ne_nil hl (hk p hl)
  | none =>
    obtain rfl := List.getLast?_eq_none_iff.1 hl
    obtain ⟨m, task, top, bus, hE, hF⟩ := h
    rw [hF, List.append_nil]
    cases htop : top.getLast? with
    | none =>
      simp only [Encloses, htop] at hE
      simp only [Inside, pending, htop]
      rintro m' mediator k' he
      exact hE mediator (Flow.busy.inj he).2.1
    | some p =>
      simp only [Encloses, htop] at hE
      exact inside_of_getLast? htop hE

section Step

variable {m : Message} {bus bus' : Bus} {f : Flow}

theorem inside_cut? {k : List Pending} (hk : ∀ p ∈ k.getLast?, p.isChildren = false)
    (h : cut? m bus k = some f) : Inside f := by
  obtain ⟨m', r, p, k', rfl, hsuffix⟩ := cut?_eq_some h
  refine inside_of_pending (fun q hq => hk q ?_) (by simp [answer])
  obtain ⟨before, rfl⟩ := hsuffix
  have hq : (p :: k').getLast? = some q := hq
  rw [Option.mem_def, List.getLast?_append, hq]
  rfl

theorem inside_of_work {task : Task} {k : List Pending} (hi : Inside (busy m task k))
    (h : work m task k bus = some (f, bus')) : Inside f := by
  have hk : ∀ p ∈ k.getLast?, p.isChildren = false := hi.getLast?
  have goes {F : List Pending → Flow × Bus} {k : List Pending} (hF : Goes Encloses F)
      (hk : ∀ p ∈ k.getLast?, p.isChildren = false) (he : some (F k) = some (f, bus')) :
      Inside f := by
    have hin := hF.inside hk
    rwa [Option.some.inj he] at hin
  cases task with
  | mediate mediator =>
    -- a mediator is only entered below work of its own
    obtain ⟨p, hp⟩ : ∃ p, k.getLast? = some p := by
      cases hl : k.getLast? with
      | none => simp [Inside, pending, hl] at hi
      | some p => exact ⟨p, rfl⟩
    have hc := hk p hp
    cases mediator with
    | sequence name kind children onError =>
      have hin := (goes_mediate_sequence name kind children onError m bus).inside_of_ne_nil hp hc
      simp only [work, Option.some.injEq] at h
      rwa [h] at hin
    | scatter s targets =>
      simp only [work, mediate] at h
      split at h
      · obtain ⟨rfl, -⟩ := Prod.mk.inj (Option.some.inj h)
        exact inside_of_getLast? hp hc
      · obtain ⟨rfl, -⟩ := Prod.mk.inj (Option.some.inj h)
        exact inside_of_getLast? hp hc
    | _ => exact goes (goes_mediate (by simp) (by simp) m bus) hk h
  | edit edits findings => exact goes (goes_edit edits findings m bus) hk h
  | attempt d => exact goes (goes_attempt d m bus) hk h
  | transmit outcome edits => exact goes (goes_deliver outcome edits m bus) hk h
  | sleep t =>
    simp only [work] at h
    split at h
    · obtain ⟨rfl, -⟩ := Prod.mk.inj (Option.some.inj h)
      exact inside_of_pending hk (by simp [answer])
    · exact inside_cut? hk (cut_of_move h).1
  | hang => exact inside_cut? hk (cut_of_move h).1
  | reply r =>
    cases k with
    | nil => simp [work] at h
    | cons p k =>
      by_cases hne : k = []
      · -- the only work left is not that of a sequence
        subst hne
        exact goes (goes_resume r m (hk p (by simp)) bus) (by simp) h
      · have hlast : (p :: k).getLast? = k.getLast? := List.getLast?_cons_of_ne_nil hne
        rw [hlast] at hk
        obtain ⟨q, hq⟩ : ∃ q, k.getLast? = some q :=
          Option.ne_none_iff_exists'.1 fun hl => hne (List.getLast?_eq_none_iff.1 hl)
        have hin := (goes_resume_of r m p bus).inside_of_ne_nil hq (hk q hq)
        simp only [work, Option.some.injEq] at h
        rwa [h] at hin

/-- A flow stays inside its mediator. -/
theorem inside_of_step {f' : Flow} (hi : Inside f) (h : f.step bus = some (f', bus')) :
    Inside f' := by
  have hk := hi.getLast?
  cases f with
  | busy m task k => exact inside_of_work hi h
  | gathering m g branches k =>
    have concluded {b : Bus} (hc : conclude m g k b = (f', bus')) : Inside f' := by
      simp only [conclude] at hc
      split at hc <;>
      · obtain ⟨rfl, -⟩ := Prod.mk.inj hc
        exact inside_of_pending hk (by simp [answer])
    simp only [step, gather] at h
    split at h
    · exact concluded (Option.some.inj h)
    · split at h
      · exact concluded (Option.some.inj h)
      · split at h
        · obtain ⟨rfl, -⟩ := Prod.mk.inj (Option.some.inj h)
          exact inside_of_pending hk (by simp)
        · split at h
          · obtain ⟨rfl, -⟩ := Prod.mk.inj (Option.some.inj h)
            exact inside_of_pending hk (by simp)
          · exact inside_cut? hk (cut_of_move h).1
  | branching m g i branch others k =>
    simp only [step] at h
    split at h
    · simp only [acceptBranch, Option.some.injEq] at h
      split at h
      · obtain ⟨rfl, -⟩ := Prod.mk.inj h
        exact inside_of_pending hk (by simp [answer])
      · split at h <;>
        · obtain ⟨rfl, -⟩ := Prod.mk.inj h
          exact inside_of_pending hk (by simp)
    · split at h <;>
      · obtain ⟨rfl, -⟩ := Prod.mk.inj (Option.some.inj h)
        exact inside_of_pending hk (by simp)

end Step

end Flow

end ServiceBus
