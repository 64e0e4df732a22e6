import ServiceBus.Proofs.Bus.Buffers
import ServiceBus.Proofs.Flow.Uniform

/-
ServiceBus.Proofs.Traffic.Effect — what a move of a flow does to the runs on its
bus.

`RunEvent` names the moves that begin or end a run, at whatever depth of a flow
they are made, and `Flow.event?` gives the event of the next move.
`Flow.effect_of_step` says that each move has the effect of its event on the
bus, and that a move without an event only serves some buffer.

Which runs a flow is in the middle of follows from its shape (`Flow.runs`).
`Flow.countP_runs_of_step` says that a move adds none but the one that its event
begins, and takes away the one that its event ends and those that it leaves
behind (`Flow.leaves`). A run is counted by what it keeps as long as it lasts, so
the message and the deadline of a run that ends are those with which it began.
-/
namespace ServiceBus

/-! ## Events -/

/-- A move that begins or ends a run. -/
inductive RunEvent where
  /-- The run of `scatter` on `message` and its targets begins on `bus`. -/
  | began (scatter : Scatter) (targets : List Mediator) (message : Message) (bus : Bus)
      (gathering : Gathering)
  /-- The run is over, and its results are joined on `bus`. -/
  | concluded (gathering : Gathering) (message : Message) (bus : Bus)
  /-- The run ends because a branch broke a rule. -/
  | broken (gathering : Gathering) (message : Message)

/-- What a run in progress keeps as long as it lasts. -/
structure Run where
  message : Message
  scatter : Scatter
  correlation : String
  buffer : Nat
  /-- The time at which the deadline passes. -/
  due : Option Time

/-- The run that a flow gathers branches for. -/
def Gathering.run (g : Gathering) (m : Message) : Run :=
  ⟨m, g.scatter, g.correlation, g.buffer, g.deadline.map Timer.due⟩

namespace RunEvent

/-- Whether an event makes an aggregator forget a correlation identity. -/
def forgets (aggregator correlation : String) : RunEvent → Prop
  | .began .. => False
  | .concluded g _ _ => g.scatter.aggregator = aggregator ∧ g.correlation = correlation
  | .broken g _ => g.scatter.aggregator = aggregator ∧ g.correlation = correlation

/-- The run that an event begins. -/
def begun : RunEvent → Option Run
  | .began _ _ m _ g => some (g.run m)
  | _ => none

/-- The run that an event ends. -/
def ended : RunEvent → Option Run
  | .began .. => none
  | .concluded g m _ => some (g.run m)
  | .broken g m => some (g.run m)

/-- What an event does to a bus. -/
inductive Effect : Option RunEvent → Bus → Bus → Prop where
  | served {b b' : Bus} (h : b.Served b') : Effect none b b'
  | began {b b' : Bus} (s : Scatter) (targets : List Mediator) (m : Message) (g : Gathering)
      (h : s.begin targets m b = (.ok g, b')) : Effect (some (.began s targets m b g)) b b'
  /-- The buffer was closed. -/
  | closed {b : Bus} (g : Gathering) (m : Message) (h : b.isBufferClosed g.buffer = true) :
      Effect (some (.concluded g m b)) b (Scatter.conclude g m b).2.2
  /-- The deadline has passed while the buffer was open. -/
  | late {b : Bus} (g : Gathering) (m : Message) {t : Timer}
      (h : b.isBufferClosed g.buffer = false) (hd : g.deadline = some t) (ht : b.hasRung t = true) :
      Effect (some (.concluded g m (b.updateBuffer g.buffer (·.close .timeout)))) b
        (Scatter.conclude g m (b.updateBuffer g.buffer (·.close .timeout))).2.2
  | broken {b b' : Bus} (g : Gathering) (m : Message)
      (h : b'.runState = (b.forgetBuffer g.scatter.aggregator g.correlation).runState) :
      Effect (some (.broken g m)) b b'

end RunEvent

namespace Flow

open Bus

/-- The event of the next move. -/
def event? : Flow → Bus → Option RunEvent
  | .busy m (.mediate (.scatter s targets)) _, bus =>
    match s.begin (targets.map Prod.snd) m bus with
    | (.ok g, _) => some (.began s (targets.map Prod.snd) m bus g)
    | (.error _, _) => none
  | .busy .., _ => none
  | .gathering m g _ _, bus =>
    if bus.isBufferClosed g.buffer then some (.concluded g m bus)
    else if g.deadline.any bus.hasRung then
      some (.concluded g m (bus.updateBuffer g.buffer (·.close .timeout)))
    else none
  | .branching m g i branch _ _, bus =>
    match branch.finished? with
    | some (copy, r) =>
      match g.scatter.accept g.buffer i copy r.verdict bus with
      | (.error _, _) => some (.broken g m)
      | (.ok (), _) => none
    | none => event? branch bus

/-! ## The effect of a move -/

/-- A busy flow begins a run, or it stays busy and changes nothing for the runs. -/
theorem work_cases {m : Message} {task : Task} {k : List Pending} {bus bus' : Bus} {f : Flow}
    (h : work m task k bus = some (f, bus')) :
    (∃ (s : Scatter) (targets : List (Option String × Mediator)) (g : Gathering),
      s.begin (targets.map Prod.snd) m bus = (.ok g, bus') ∧ f = .gathering m g [] k ∧
        (busy m task k).event? bus = some (.began s (targets.map Prod.snd) m bus g)) ∨
    ((busy m task k).event? bus = none ∧ bus'.runState = bus.runState ∧
      ∃ m' task' k', f = .busy m' task' k') := by
  have goes {P : Task → List Pending → Prop} {F : List Pending → Flow × Bus} (hF : Goes P F)
      {later : List Pending} (hwork : some (F later) = some (f, bus')) :
      ∃ m' task' k', f = .busy m' task' k' := by
    obtain ⟨m', task', top, b, -, hF⟩ := hF
    rw [hF] at hwork
    exact ⟨_, _, _, (congrArg Prod.fst (Option.some.inj hwork)).symm⟩
  have cut (hcut : (cut? m bus k).map (fun f => (f, bus)) = some (f, bus')) :
      bus'.runState = bus.runState ∧ ∃ m' task' k', f = .busy m' task' k' := by
    obtain ⟨hcut, rfl⟩ := cut_of_move hcut
    obtain ⟨m', r, p, k', rfl, -⟩ := cut?_eq_some hcut
    exact ⟨rfl, _, _, _, rfl⟩
  cases task with
  | mediate mediator =>
    by_cases hs : ∃ s targets, mediator = .scatter s targets
    · obtain ⟨s, targets, rfl⟩ := hs
      simp only [work, mediate] at h
      cases hb : s.begin (targets.map Prod.snd) m bus with
      | mk outcome b =>
        cases outcome with
        | error e =>
          simp only [hb, Option.some.injEq, Prod.mk.injEq] at h
          exact .inr ⟨by simp [event?, hb], h.2 ▸ Scatter.begin_eq_error hb, _, _, _, h.1.symm⟩
        | ok g =>
          simp only [hb, Option.some.injEq, Prod.mk.injEq] at h
          exact .inl ⟨s, targets, g, h.2 ▸ hb, h.1.symm, by simp [event?, hb]⟩
    · have hne : ∀ s targets, mediator ≠ .scatter s targets :=
        fun s targets he => hs ⟨s, targets, he⟩
      have hb := runState_mediate m k bus hne
      refine .inr ⟨?_, ?_, ?_⟩
      · cases mediator <;> first | rfl | exact absurd rfl (hne _ _)
      · simp only [work, Option.some.injEq] at h
        rwa [h] at hb
      · cases mediator with
        | sequence name kind children onError =>
          exact goes (goes_mediate_sequence name kind children onError m bus) h
        | scatter s targets => exact absurd rfl (hne s targets)
        | _ => exact goes (goes_mediate (by simp) (by simp) m bus) h
  | edit edits findings =>
    have hb := runState_edit m k bus edits findings
    have hf := goes (goes_edit edits findings m bus) h
    simp only [work, Option.some.injEq] at h
    exact .inr ⟨rfl, by rwa [h] at hb, hf⟩
  | attempt d =>
    have hb := runState_attempt m k bus d
    have hf := goes (goes_attempt d m bus) h
    simp only [work, Option.some.injEq] at h
    exact .inr ⟨rfl, by rwa [h] at hb, hf⟩
  | transmit outcome edits =>
    have hb := runState_deliver m k bus outcome edits
    have hf := goes (goes_deliver outcome edits m bus) h
    simp only [work, Option.some.injEq] at h
    exact .inr ⟨rfl, by rwa [h] at hb, hf⟩
  | sleep t =>
    simp only [work] at h
    split at h
    · obtain ⟨rfl, rfl⟩ := Prod.mk.inj (Option.some.inj h)
      exact .inr ⟨rfl, rfl, _, _, _, rfl⟩
    · exact .inr ⟨rfl, cut h⟩
  | hang => exact .inr ⟨rfl, cut h⟩
  | reply r =>
    cases k with
    | nil => simp [work] at h
    | cons p k =>
      have hb := runState_resume m k bus r p
      have hf := goes (goes_resume_of r m p bus) h
      simp only [work, Option.some.injEq] at h
      exact .inr ⟨rfl, by rwa [h] at hb, hf⟩

/-- A busy flow changes nothing for the runs unless it begins one. -/
theorem effect_of_work {m : Message} {task : Task} {k : List Pending} {bus bus' : Bus} {f : Flow}
    (h : work m task k bus = some (f, bus')) :
    RunEvent.Effect ((busy m task k).event? bus) bus bus' := by
  obtain ⟨s, targets, g, hb, -, he⟩ | ⟨he, hrun, -⟩ := work_cases h
  · rw [he]
    exact .began s _ m g hb
  · rw [he]
    exact .served (.of_runState hrun)

/-- A flow that gathers concludes its run, or it changes nothing for the runs: it starts its
next target, goes on with a branch, or is cut off from outside. -/
theorem gather_cases {m : Message} {g : Gathering} {branches : List (Nat × Flow)}
    {k : List Pending} {bus bus' : Bus} {f : Flow}
    (h : gather m g branches k bus = some (f, bus')) :
    (∃ b, (gathering m g branches k).event? bus = some (.concluded g m b) ∧
      conclude m g k b = (f, bus')) ∨
    ((gathering m g branches k).event? bus = none ∧ bus'.runState = bus.runState ∧
      ((∃ i target waiting copy, g.waiting = (i, target) :: waiting ∧
          f = .branching m { g with waiting } i (.busy copy (.mediate target) []) branches k) ∨
        (∃ t i branch others, firstAwake? bus branches = some (t, (i, branch), others) ∧
          f = .branching m g i branch others k) ∨
        ∃ m' r k', f = answer m' r k')) := by
  simp only [gather] at h
  simp only [event?]
  split at h
  · next hclosed =>
    rw [if_pos hclosed]
    exact .inl ⟨bus, rfl, Option.some.inj h⟩
  · next hclosed =>
    rw [if_neg hclosed]
    split at h
    · next hrung =>
      rw [if_pos hrung]
      exact .inl ⟨_, rfl, Option.some.inj h⟩
    · next hrung =>
      rw [if_neg hrung]
      refine .inr ⟨rfl, ?_⟩
      split at h
      · next i target waiting hwaiting _ =>
        obtain ⟨rfl, rfl⟩ := Prod.mk.inj (Option.some.inj h)
        exact ⟨rfl, .inl ⟨i, target, waiting, _, hwaiting, rfl⟩⟩
      · split at h
        · next t i branch others hawake =>
          obtain ⟨rfl, rfl⟩ := Prod.mk.inj (Option.some.inj h)
          exact ⟨rfl, .inr (.inl ⟨t, i, branch, others, hawake, rfl⟩)⟩
        · obtain ⟨hcut, rfl⟩ := cut_of_move h
          obtain ⟨m', r, p, k', rfl, -⟩ := cut?_eq_some hcut
          exact ⟨rfl, .inr (.inr ⟨m', r, p :: k', rfl⟩)⟩

theorem effect_of_gather {m : Message} {g : Gathering} {branches : List (Nat × Flow)}
    {k : List Pending} {bus bus' : Bus} {f : Flow}
    (h : gather m g branches k bus = some (f, bus')) :
    RunEvent.Effect ((gathering m g branches k).event? bus) bus bus' := by
  obtain ⟨b, he, hc⟩ | ⟨he, hrun, -⟩ := gather_cases h
  · have hbus : bus' = (Scatter.conclude g m b).2.2 := by
      refine (congrArg Prod.snd hc).symm.trans ?_
      unfold conclude
      split <;> rename_i hs <;> rw [hs]
    rw [he, hbus]
    simp only [event?] at he
    split at he
    · next hclosed =>
      obtain ⟨-, -, rfl⟩ := RunEvent.concluded.inj (Option.some.inj he)
      exact .closed g m hclosed
    · next hclosed =>
      split at he
      · next hrung =>
        obtain ⟨-, -, rfl⟩ := RunEvent.concluded.inj (Option.some.inj he)
        rw [Option.any_eq_true] at hrung
        obtain ⟨t, hdeadline, ht⟩ := hrung
        exact .late g m (Bool.eq_false_iff.2 hclosed) hdeadline ht
      · simp at he
  · rw [he]
    exact .served (.of_runState hrun)

/-- A flow that gathers goes on with the report of the run that its event concludes. -/
theorem gather_of_concluded {m m' : Message} {g g' : Gathering} {branches : List (Nat × Flow)}
    {k : List Pending} {bus b : Bus}
    (h : (gathering m g branches k).event? bus = some (.concluded g' m' b)) :
    g' = g ∧ m' = m ∧ (gathering m g branches k).step bus = some (conclude m g k b) := by
  simp only [event?] at h
  simp only [step, gather]
  split at h
  · obtain ⟨rfl, rfl, rfl⟩ := RunEvent.concluded.inj (Option.some.inj h)
    exact ⟨rfl, rfl, by simp [*]⟩
  · split at h
    · obtain ⟨rfl, rfl, rfl⟩ := RunEvent.concluded.inj (Option.some.inj h)
      exact ⟨rfl, rfl, by simp [*]⟩
    · simp at h

/-- A flow that has to wait gives rise to no event. -/
theorem event?_of_step_eq_none {bus : Bus} {f : Flow} (h : f.step bus = none) :
    f.event? bus = none := by
  cases f with
  | busy m task k =>
    cases task with
    | mediate mediator => simp [step, work] at h
    | _ => rfl
  | gathering m g branches k =>
    simp only [step, gather] at h
    simp only [event?]
    split at h
    · simp at h
    · split at h
      · simp at h
      · simp [*]
  | branching m g i branch others k =>
    simp only [step] at h
    split at h
    · simp at h
    · split at h <;> simp at h

/-- Every move has the effect of its event. -/
theorem effect_of_step {bus bus' : Bus} {f' : Flow} :
    ∀ {f : Flow}, f.step bus = some (f', bus') → RunEvent.Effect (f.event? bus) bus bus'
  | .busy m task k, h => effect_of_work h
  | .gathering m g branches k, h => effect_of_gather h
  | .branching m g i branch others k, h => by
      simp only [step] at h
      cases hf : branch.finished? with
      | some outcome =>
        obtain ⟨copy, r⟩ := outcome
        simp only [hf, Option.some.injEq] at h
        have hserved := g.scatter.accept_served g.buffer i copy r.verdict bus
        simp only [acceptBranch] at h
        cases ha : g.scatter.accept g.buffer i copy r.verdict bus with
        | mk outcome b =>
          cases outcome with
          | error e =>
            have he : (branching m g i branch others k).event? bus = some (.broken g m) := by
              simp [event?, hf, ha]
            obtain rfl := Scatter.accept_eq_error ha
            simp only [ha, Prod.mk.injEq] at h
            rw [he]
            exact .broken g m (by rw [← h.2])
          | ok done =>
            have he : (branching m g i branch others k).event? bus = none := by
              simp [event?, hf, ha]
            rw [ha] at hserved
            rw [he]
            refine .served ?_
            cases hd : g.deadline with
            | none =>
              simp only [ha, hd, Prod.mk.injEq] at h
              rwa [← h.2]
            | some t =>
              simp only [ha, hd, Prod.mk.injEq] at h
              rw [← h.2]
              exact hserved
      | none =>
        have he : (branching m g i branch others k).event? bus = branch.event? bus := by
          simp [event?, hf]
        rw [he]
        simp only [hf] at h
        cases hs : branch.step bus with
        | some next =>
          obtain ⟨branch', b⟩ := next
          simp only [hs, Option.some.injEq, Prod.mk.injEq] at h
          exact h.2 ▸ effect_of_step hs
        | none =>
          simp only [hs, Option.some.injEq, Prod.mk.injEq] at h
          rw [event?_of_step_eq_none hs]
          exact .served (.of_runState (by rw [h.2]))

/-! ## The runs that a flow is in the middle of -/

mutual

/-- The runs that a flow is in the middle of, outermost first. -/
def runs : Flow → List Run
  | .busy .. => []
  | .gathering m g branches _ => g.run m :: runsOf branches
  | .branching m g _ branch others _ => g.run m :: (runs branch ++ runsOf others)

/-- The runs that the branches of a flow are in the middle of. -/
def runsOf : List (Nat × Flow) → List Run
  | [] => []
  | (_, f) :: rest => runs f ++ runsOf rest

end

/-- The runs that a flow is in the middle of and that its next move gives up without an
end of their own: those inside the branches of a run that ends, and all of them where an
attempt around the flow is cut off. -/
def leaves : Flow → Bus → List Run
  | .busy .., _ => []
  | .gathering m g branches k, bus =>
    match gather m g branches k bus with
    | some (.busy .., _) =>
      if bus.isBufferClosed g.buffer || g.deadline.any bus.hasRung then runsOf branches
      else g.run m :: runsOf branches
    | _ => []
  | .branching _ g i branch others _, bus =>
    match branch.finished? with
    | some (copy, r) =>
      match g.scatter.accept g.buffer i copy r.verdict bus with
      | (.error _, _) => runsOf others
      | (.ok (), _) => []
    | none => leaves branch bus

theorem runsOf_eq (branches : List (Nat × Flow)) :
    runsOf branches = branches.flatMap fun branch => runs branch.2 := by
  induction branches with
  | nil => rfl
  | cons branch rest ih => rw [runsOf, ih]; rfl

open Classical in
/-- Membership, in the terms in which runs are counted. -/
theorem countP_pos_iff_mem {r : Run} {l : List Run} :
    0 < l.countP (fun r' => decide (r' = r)) ↔ r ∈ l := by
  simp [List.countP_pos_iff]

/-- The branch that goes on is one of the branches. -/
theorem perm_of_firstAwake? {bus : Bus} :
    ∀ {branches : List (Nat × Flow)} {t : Timer} {found : Nat × Flow} {others : List (Nat × Flow)},
      firstAwake? bus branches = some (t, found, others) → branches.Perm (found :: others)
  | [], _, _, _, h => by simp [firstAwake?] at h
  | (i, f) :: rest, t, found, others, h => by
      cases hw : wake? bus f with
      | none =>
        cases hr : firstAwake? bus rest with
        | none => simp [firstAwake?, hw, hr] at h
        | some next =>
          obtain ⟨t', found', others'⟩ := next
          simp only [firstAwake?, hw, hr, Option.some.injEq, Prod.mk.injEq] at h
          obtain ⟨-, rfl, rfl⟩ := h
          exact ((perm_of_firstAwake? hr).cons _).trans (List.Perm.swap ..)
      | some s =>
        cases hr : firstAwake? bus rest with
        | none =>
          simp only [firstAwake?, hw, hr, Option.some.injEq, Prod.mk.injEq] at h
          obtain ⟨-, rfl, rfl⟩ := h
          exact .refl _
        | some next =>
          obtain ⟨t', found', others'⟩ := next
          simp only [firstAwake?, hw, hr] at h
          split at h
          · simp only [Option.some.injEq, Prod.mk.injEq] at h
            obtain ⟨-, rfl, rfl⟩ := h
            exact ((perm_of_firstAwake? hr).cons _).trans (List.Perm.swap ..)
          · simp only [Option.some.injEq, Prod.mk.injEq] at h
            obtain ⟨-, rfl, rfl⟩ := h
            exact .refl _

theorem runs_work {m : Message} {task : Task} {k : List Pending} {bus bus' : Bus} {f : Flow}
    (h : work m task k bus = some (f, bus')) :
    runs f = ((busy m task k).event? bus).toList.filterMap RunEvent.begun := by
  obtain ⟨s, targets, g, -, rfl, he⟩ | ⟨he, -, m', task', k', rfl⟩ := work_cases h
  · rw [he]
    rfl
  · rw [he]
    rfl

/-- A busy flow ends no run. -/
theorem ended_of_busy (m : Message) (task : Task) (k : List Pending) (bus : Bus) :
    ((busy m task k).event? bus).toList.filterMap RunEvent.ended = [] := by
  cases task with
  | mediate mediator =>
    cases mediator with
    | scatter s targets =>
      simp only [event?]
      split <;> rfl
    | _ => rfl
  | _ => rfl

/-- A flow that has to wait leaves no run behind. -/
theorem leaves_of_step_eq_none {bus : Bus} {f : Flow} (h : f.step bus = none) :
    f.leaves bus = [] := by
  cases f with
  | busy m task k => rfl
  | gathering m g branches k =>
    simp only [step] at h
    simp only [leaves, h]
  | branching m g i branch others k =>
    simp only [step] at h
    split at h
    · simp at h
    · split at h <;> simp at h

/-- A flow that has come to its end is in the middle of no run. -/
theorem runs_of_finished? {f : Flow} {outcome : Message × Reply}
    (h : f.finished? = some outcome) : runs f = [] := by
  unfold finished? at h
  split at h
  · rfl
  · simp at h

theorem countP_runs_gather {m : Message} {g : Gathering} {branches : List (Nat × Flow)}
    {k : List Pending} {bus bus' : Bus} {f : Flow}
    (h : gather m g branches k bus = some (f, bus')) (p : Run → Bool) :
    (runs f).countP p +
          (((gathering m g branches k).event? bus).toList.filterMap RunEvent.ended).countP p +
        ((gathering m g branches k).leaves bus).countP p =
      (runs (gathering m g branches k)).countP p := by
  simp only [leaves, h]
  obtain ⟨b, he, hc⟩ | ⟨he, -, hcases⟩ := gather_cases h
  · have hover : (bus.isBufferClosed g.buffer || g.deadline.any bus.hasRung) = true := by
      simp only [event?] at he
      split at he
      · simp [*]
      · split at he
        · simp [*]
        · simp at he
    obtain ⟨m', r, rfl⟩ : ∃ m' r, f = answer m' r k := by
      unfold conclude at hc
      split at hc <;> exact ⟨_, _, (Prod.mk.inj hc).1.symm⟩
    simp [he, answer, hover, RunEvent.ended, runs, List.countP_cons]
    omega
  · rw [he]
    obtain ⟨i, target, waiting, copy, -, rfl⟩ | ⟨t, i, branch, others, hawake, rfl⟩ |
      ⟨m', r, k', rfl⟩ := hcases
    · simp [runs, Gathering.run]
    · have hperm := (perm_of_firstAwake? hawake).flatMap_right fun b => runs b.2
      simp only [runs, runsOf_eq, List.countP_cons, hperm.countP_eq p]
      simp
    · have hopen : (bus.isBufferClosed g.buffer || g.deadline.any bus.hasRung) = false := by
        simp only [event?] at he
        split at he
        · simp at he
        · split at he
          · simp at he
          · simp [*]
      simp [answer, hopen, runs]

/-- A move adds no run but the one that its event begins, and takes away the one that
its event ends and those that it leaves behind. -/
theorem countP_runs_of_step (p : Run → Bool) {bus bus' : Bus} {f' : Flow} :
    ∀ {f : Flow}, f.step bus = some (f', bus') →
      (runs f').countP p + ((f.event? bus).toList.filterMap RunEvent.ended).countP p +
          (f.leaves bus).countP p =
        (runs f).countP p + ((f.event? bus).toList.filterMap RunEvent.begun).countP p
  | .busy m task k, h => by
      rw [runs_work h, ended_of_busy]
      simp [runs, leaves]
  | .gathering m g branches k, h => by
      rw [countP_runs_gather h p]
      simp only [event?]
      split
      · simp [RunEvent.begun]
      · split <;> simp [RunEvent.begun]
  | .branching m g i branch others k, h => by
      simp only [step] at h
      cases hf : branch.finished? with
      | some outcome =>
        obtain ⟨copy, r⟩ := outcome
        simp only [hf, Option.some.injEq] at h
        simp only [acceptBranch] at h
        cases ha : g.scatter.accept g.buffer i copy r.verdict bus with
        | mk outcome b =>
          cases outcome with
          | error e =>
            simp only [ha, Prod.mk.injEq] at h
            rw [← h.1]
            simp [event?, leaves, hf, ha, RunEvent.ended, RunEvent.begun, runs, answer,
              runs_of_finished? hf, List.countP_cons, Nat.add_comm]
          | ok done =>
            have he : (branching m g i branch others k).event? bus = none := by
              simp [event?, hf, ha]
            have hrun : runs f' = g.run m :: runsOf others := by
              cases hd : g.deadline with
              | none =>
                simp only [ha, hd, Prod.mk.injEq] at h
                rw [← h.1, runs]
              | some t =>
                simp only [ha, hd, Prod.mk.injEq] at h
                rw [← h.1, runs]
                simp [Gathering.run, hd]
            simp [he, hrun, leaves, hf, ha, runs, runs_of_finished? hf]
      | none =>
        have he : (branching m g i branch others k).event? bus = branch.event? bus := by
          simp [event?, hf]
        have hleaves : (branching m g i branch others k).leaves bus = branch.leaves bus := by
          simp [leaves, hf]
        rw [he, hleaves]
        simp only [hf] at h
        cases hs : branch.step bus with
        | some next =>
          obtain ⟨branch', b⟩ := next
          simp only [hs, Option.some.injEq, Prod.mk.injEq] at h
          obtain ⟨rfl, rfl⟩ := h
          have ih := countP_runs_of_step p hs
          simp only [runs, List.countP_cons, List.countP_append]
          omega
        | none =>
          simp only [hs, Option.some.injEq, Prod.mk.injEq] at h
          obtain ⟨rfl, rfl⟩ := h
          rw [event?_of_step_eq_none hs, leaves_of_step_eq_none hs]
          simp [runs, runsOf_eq, List.countP_cons, Nat.add_comm]

end Flow

end ServiceBus
