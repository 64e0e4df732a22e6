import ServiceBus.Proofs.Dispatch.Endpoints
import ServiceBus.Proofs.Dispatch.Service
import ServiceBus.Proofs.Traffic.Effect

/-
ServiceBus.Proofs.Dispatch.Underway — where the sends that are under way go to.

A send remembers the name, the code and the address of its endpoint from when it began.
`Registry.Serves` says that they are those of a registered endpoint that stands for
itself, and `Flow.Meets` says it of all sends under way in a flow, in its branches and
in the work left for later. A move begins a send only for such an endpoint and takes
on no other, so it keeps that (`meets_step`).
-/
namespace ServiceBus

/-- A send goes to an endpoint of the registry that stands for itself. -/
def Registry.Serves (r : Registry) (d : Dispatch) : Prop :=
  ∃ e, r.get? d.endpoint = some e ∧ e.Concrete ∧ d.suspendedCode = e.suspendedCode ∧
    d.address = e.definition.address

theorem Registry.Evolves.serves {r r' : Registry} (h : Evolves r r') {d : Dispatch}
    (hd : r.Serves d) : r'.Serves d := by
  obtain ⟨e, he, hconcrete, hcode, haddress⟩ := hd
  obtain ⟨health, he', -⟩ := h.2 _ e he
  exact ⟨_, he', hconcrete, hcode, haddress⟩

/-- The send that the task is part of, if it is part of one, has the property. -/
def Task.Meets (S : Dispatch → Prop) (task : Task) : Prop := ∀ d ∈ task.dispatch?, S d

/-- The send that the work is part of, if it is part of one, has the property. -/
def Pending.Meets (S : Dispatch → Prop) (p : Pending) : Prop := ∀ d ∈ p.dispatch?, S d

namespace Flow

variable {S : Dispatch → Prop} {m : Message} {k : List Pending} {bus bus' : Bus} {f f' : Flow}

/-- All sends under way in a flow have the property. -/
inductive Meets (S : Dispatch → Prop) : Flow → Prop where
  | busy {m : Message} {task : Task} {k : List Pending} (htask : task.Meets S)
      (hk : ∀ p ∈ k, p.Meets S) : Meets S (.busy m task k)
  | gathering {m : Message} {g : Gathering} {branches : List (Nat × Flow)} {k : List Pending}
      (hbranches : ∀ b ∈ branches, Meets S b.2) (hk : ∀ p ∈ k, p.Meets S) :
      Meets S (.gathering m g branches k)
  | branching {m : Message} {g : Gathering} {i : Nat} {branch : Flow}
      {others : List (Nat × Flow)} {k : List Pending} (hbranch : Meets S branch)
      (hothers : ∀ b ∈ others, Meets S b.2) (hk : ∀ p ∈ k, p.Meets S) :
      Meets S (.branching m g i branch others k)

theorem Meets.mono {S' : Dispatch → Prop} (h : f.Meets S) (hS : ∀ d, S d → S' d) : f.Meets S' := by
  have work {k : List Pending} (hk : ∀ p ∈ k, p.Meets S) : ∀ p ∈ k, p.Meets S' :=
    fun p hp d hd => hS d (hk p hp d hd)
  induction h with
  | busy htask hk => exact .busy (fun d hd => hS d (htask d hd)) (work hk)
  | gathering _ hk ih => exact .gathering ih (work hk)
  | branching _ _ hk ih ihothers => exact .branching ih ihothers (work hk)

/-- The flow at work is one of those whose sends have the property. -/
theorem Meets.acting (h : f.Meets S) : f.acting.Meets S := by
  induction h with
  | busy htask hk => exact .busy htask hk
  | gathering hbranches hk _ => exact .gathering hbranches hk
  | branching _ _ _ ih _ => exact ih

/-! ## Moves -/

theorem meets_below {task : Task} {p : Pending} (htask : task.Meets S) (hp : p.Meets S)
    (hk : ∀ p ∈ k, p.Meets S) : (Flow.busy m task (p :: k)).Meets S := by
  refine .busy htask ?_
  rw [List.forall_mem_cons]
  exact ⟨hp, hk⟩

theorem meets_answer (m : Message) (r : Reply) (hk : ∀ p ∈ k, p.Meets S) :
    (answer m r k).Meets S :=
  .busy (by simp [Task.Meets, Task.dispatch?]) hk

/-- What is quiet takes on no send. -/
theorem Quiet.meets {x : Flow × Bus} (h : Quiet k bus x) (hk : ∀ p ∈ k, p.Meets S) :
    x.1.Meets S := by
  obtain ⟨m, task, top, hx, htask, htop, -⟩ := h
  rw [hx]
  refine .busy (by simp [Task.Meets, htask]) fun p hp => ?_
  obtain hp | hp := List.mem_append.1 hp
  · simp [Pending.Meets, htop p hp]
  · exact hk p hp

/-- A send begins for an endpoint of the registry. -/
theorem meets_dispatch (hnamed : bus.endpoints.WellNamed) (name channel : String) (mode : SendMode)
    (m : Message) (hk : ∀ p ∈ k, p.Meets bus.endpoints.Serves) :
    (dispatch name channel mode m k bus).1.Meets bus.endpoints.Serves := by
  unfold dispatch
  split
  · exact meets_answer m _ hk
  · next e he =>
    obtain ⟨hregistered, hconcrete⟩ := Bus.concrete_eq_ok hnamed he
    refine .busy ?_ hk
    intro d hd
    obtain rfl := Option.some.inj hd
    exact ⟨e, hregistered, hconcrete, rfl, rfl⟩

theorem meets_transmit (channel : String) (address : Option String) (m : Message)
    (hk : ∀ p ∈ k, p.Meets S) : (transmit channel address m k bus).1.Meets S :=
  .busy (by simp [Task.Meets, Task.dispatch?]) hk

theorem meets_send (hnamed : bus.endpoints.WellNamed) (c : Call) (m : Message)
    (hk : ∀ p ∈ k, p.Meets bus.endpoints.Serves) :
    (send c m k bus).1.Meets bus.endpoints.Serves := by
  unfold send
  split
  · exact meets_dispatch hnamed _ _ _ m hk
  · refine meets_transmit _ _ m ?_
    rw [List.forall_mem_cons]
    exact ⟨by simp [Pending.Meets, Pending.dispatch?], hk⟩

theorem meets_call (hnamed : bus.endpoints.WellNamed) (c : Call) (m : Message)
    (hk : ∀ p ∈ k, p.Meets bus.endpoints.Serves) :
    (call c m k bus).1.Meets bus.endpoints.Serves := by
  obtain hquiet | ⟨sent, p, bus', hp, hservice, hcall⟩ := call_cases c m k bus
  · exact hquiet.meets hk
  · have hsame : bus'.endpoints = bus.endpoints := congrArg Service.endpoints hservice
    have hbelow : ∀ q ∈ p :: k, q.Meets bus'.endpoints.Serves := by
      rw [List.forall_mem_cons, hsame]
      exact ⟨by simp [Pending.Meets, hp], hk⟩
    rw [hcall, ← hsame]
    exact meets_send (hsame ▸ hnamed) c sent hbelow

theorem meets_attempt {d : Dispatch} (hd : S d) (m : Message) (hk : ∀ p ∈ k, p.Meets S) :
    (attempt d m k bus).1.Meets S := by
  unfold attempt
  split
  · exact meets_answer m _ hk
  · split
    · exact meets_answer m _ hk
    · refine meets_transmit _ _ m ?_
      rw [List.forall_mem_cons]
      exact ⟨by simpa [Pending.Meets, Pending.dispatch?] using hd, hk⟩

theorem meets_again {d : Dispatch} (hd : S d) (m : Message) (hk : ∀ p ∈ k, p.Meets S) :
    (again d m k).Meets S :=
  .busy (by simpa [Task.Meets, Task.dispatch?] using hd) hk

theorem meets_undelivered {d : Dispatch} (hd : S d) (started : Time) (fault : TransportFault)
    (m : Message) (hk : ∀ p ∈ k, p.Meets S) : (undelivered d started fault m k bus).1.Meets S := by
  unfold undelivered
  simp only
  split
  · exact meets_answer m _ hk
  · split
    · split
      · exact meets_again hd m hk
      · exact meets_below (by simp [Task.Meets, Task.dispatch?])
          (by simpa [Pending.Meets, Pending.dispatch?] using hd) hk
    · exact meets_answer _ _ hk

theorem meets_cut? (hk : ∀ p ∈ k, p.Meets S) (h : cut? m bus k = some f) : f.Meets S := by
  obtain ⟨m', r, p, k', rfl, hsuffix⟩ := cut?_eq_some h
  exact meets_answer m' r fun q hq => hk q (hsuffix.subset hq)

/-- Work is resumed with no other send than its own. -/
theorem meets_resume {p : Pending} (r : Reply) (m : Message) (hp : p.Meets S)
    (hk : ∀ p ∈ k, p.Meets S) : (resume r m p k bus).1.Meets S := by
  cases hdispatch : p.dispatch? with
  | none => exact (quiet_resume r m hdispatch).meets hk
  | some d =>
    have hd : S d := hp d hdispatch
    cases p with
    | attempt d' started deadline =>
      obtain rfl := Option.some.inj hdispatch
      simp only [resume]
      split
      · exact meets_undelivered hd started _ m hk
      · exact meets_answer m _ hk
    | retry d' =>
      obtain rfl := Option.some.inj hdispatch
      exact meets_again hd m hk
    | _ => simp [Pending.dispatch?] at hdispatch

theorem meets_work (hnamed : bus.endpoints.WellNamed) {task : Task}
    (h : (busy m task k).Meets bus.endpoints.Serves) (hs : work m task k bus = some (f, bus')) :
    f.Meets bus.endpoints.Serves := by
  cases h with
  | busy htask hk =>
    cases task with
    | mediate x =>
      cases x with
      | call c => exact of_move (meets_call hnamed c m hk) hs
      | scatter s targets =>
        simp only [work, mediate] at hs
        split at hs
        · exact of_move (x := (_, _)) (meets_answer m _ hk) hs
        · exact of_move (x := (_, _)) (.gathering (by simp) hk) hs
      | _ => exact of_move ((quiet_mediate (by simp) (by simp) m).meets hk) hs
    | edit edits findings => exact of_move ((quiet_edit edits findings m).meets hk) hs
    | attempt d => exact of_move (meets_attempt (htask d rfl) m hk) hs
    | transmit outcome edits => exact of_move ((quiet_deliver outcome edits m).meets hk) hs
    | sleep t =>
      simp only [work] at hs
      split at hs
      · exact of_move (x := (_, _)) (meets_answer m _ hk) hs
      · exact meets_cut? hk (cut_of_move hs).1
    | hang => exact meets_cut? hk (cut_of_move hs).1
    | reply r =>
      cases k with
      | nil => simp [work] at hs
      | cons p k =>
        rw [List.forall_mem_cons] at hk
        exact of_move (meets_resume r m hk.1 hk.2) hs

theorem meets_conclude (m : Message) (g : Gathering) (hk : ∀ p ∈ k, p.Meets S) :
    (conclude m g k bus).1.Meets S := by
  unfold conclude
  split
  · exact meets_answer _ _ hk
  · exact meets_answer _ _ hk

theorem meets_gather {g : Gathering} {branches : List (Nat × Flow)}
    (hbranches : ∀ b ∈ branches, b.2.Meets S) (hk : ∀ p ∈ k, p.Meets S)
    (h : gather m g branches k bus = some (f, bus')) : f.Meets S := by
  simp only [gather] at h
  split at h
  · exact of_move (meets_conclude m g hk) h
  · split at h
    · exact of_move (meets_conclude m g hk) h
    · split at h
      · -- the branch enters its target
        refine of_move (x := (_, _)) (.branching (.busy ?_ (by simp)) hbranches hk) h
        simp [Task.Meets, Task.dispatch?]
      · split at h
        · next t i branch others hfirst =>
          have hperm := perm_of_firstAwake? hfirst
          have hall (b : Nat × Flow) (hb : b ∈ (i, branch) :: others) : b.2.Meets S :=
            hbranches b (hperm.mem_iff.2 hb)
          rw [List.forall_mem_cons] at hall
          exact of_move (x := (_, _)) (.branching hall.1 hall.2 hk) h
        · exact meets_cut? hk (cut_of_move h).1

theorem meets_acceptBranch (m : Message) (g : Gathering) (i : Nat) (outcome : Message × Reply)
    {others : List (Nat × Flow)} (hothers : ∀ b ∈ others, b.2.Meets S)
    (hk : ∀ p ∈ k, p.Meets S) (bus : Bus) :
    (acceptBranch m g i outcome others k bus).1.Meets S := by
  simp only [acceptBranch]
  split
  · exact meets_answer m _ hk
  · split
    · exact .gathering hothers hk
    · exact .gathering hothers hk

/-- A move keeps all sends under way at endpoints of the registry. -/
theorem meets_step (hnamed : bus.endpoints.WellNamed) (h : f.Meets bus.endpoints.Serves)
    (hs : f.step bus = some (f', bus')) : f'.Meets bus.endpoints.Serves := by
  generalize hS : bus.endpoints.Serves = S at h
  induction h generalizing f' bus' with
  | busy htask hk =>
    subst hS
    exact meets_work hnamed (.busy htask hk) hs
  | gathering hbranches hk _ =>
    subst hS
    exact meets_gather hbranches hk hs
  | @branching m g i branch others k hbranch hothers hk ih _ =>
    subst hS
    simp only [step] at hs
    split at hs
    · next outcome _ =>
      have haccept := meets_acceptBranch m g i outcome hothers hk bus
      rwa [Option.some.inj hs] at haccept
    · split at hs
      · next branch' bus₁ hbranch' =>
        obtain ⟨rfl, -⟩ := Prod.mk.inj (Option.some.inj hs)
        exact .branching (ih hbranch') hothers hk
      · obtain ⟨rfl, -⟩ := Prod.mk.inj (Option.some.inj hs)
        refine .gathering (fun b hb => ?_) hk
        obtain hb | hb := List.mem_append.1 hb
        · exact hothers b hb
        · exact List.mem_singleton.1 hb ▸ hbranch

end Flow

end ServiceBus
