import ServiceBus.Proofs.Bus.Replies
import ServiceBus.Proofs.Traffic.History

/-
ServiceBus.Proofs.Traffic.Branches — every branch of a run is taken into account once.

A flow that gathers has open branches: those it has yet to start, and those it has
started and not taken into account (`Flow.openBranches`). A move adds none but those of
the run that it begins, and takes away the one whose end it takes into account
(`Flow.countP_openBranches_of_step`). So a branch that was taken into account stays away
for good (`Since.count_openBranches`), and if its run has not settled it by then, only a
reply that answers for the branch does so later (`Since.settled`).
-/
namespace ServiceBus

/-! ## The end of a branch -/

/-- A branch of a run that has come to its end. -/
structure BranchEnd where
  gathering : Gathering
  index : Nat
  message : Message
  reply : Reply

/-- The buffer of the run and the number of the branch. -/
def BranchEnd.key (e : BranchEnd) : Nat × Nat := (e.gathering.buffer, e.index)

/-- The targets that a run has yet to start, each with the buffer of the run. -/
def Gathering.unstarted (g : Gathering) : List (Nat × Nat) :=
  g.waiting.map fun target => (g.buffer, target.1)

/-- The branches of a run that begins. -/
def RunEvent.branches : RunEvent → List (Nat × Nat)
  | .began _ targets _ _ g => (List.range targets.length).map fun i => (g.buffer, i)
  | _ => []

namespace Flow

open Bus

/-- The end of a branch that the next move takes into account, at whatever depth. -/
def branchEnd? : Flow → Option BranchEnd
  | .branching _ g i branch _ _ =>
    match branch.finished? with
    | some (m, r) => some ⟨g, i, m, r⟩
    | none => branchEnd? branch
  | _ => none

mutual

/-- The branches that a flow has yet to take into account, each with the buffer of its
run. -/
def openBranches : Flow → List (Nat × Nat)
  | .busy .. => []
  | .gathering _ g branches _ => g.unstarted ++ openBranchesOf g.buffer branches
  | .branching _ g i branch others _ =>
    g.unstarted ++ ((g.buffer, i) :: openBranches branch ++ openBranchesOf g.buffer others)

/-- The branches of a run that have been started, and those within them. -/
def openBranchesOf (ref : Nat) : List (Nat × Flow) → List (Nat × Nat)
  | [] => []
  | (i, f) :: rest => (ref, i) :: openBranches f ++ openBranchesOf ref rest

end

theorem openBranchesOf_eq (ref : Nat) (branches : List (Nat × Flow)) :
    openBranchesOf ref branches =
      branches.flatMap fun branch => (ref, branch.1) :: openBranches branch.2 := by
  induction branches with
  | nil => rfl
  | cons branch rest ih => rw [openBranchesOf, ih]; rfl

/-- A flow that has to wait takes no branch into account. -/
theorem branchEnd?_of_step_eq_none {f : Flow} {bus : Bus} (h : f.step bus = none) :
    f.branchEnd? = none := by
  cases f with
  | branching m g i branch others k =>
    simp only [step] at h
    split at h
    · simp at h
    · split at h <;> simp at h
  | _ => rfl

/-- The branch that ends is one of the open ones. -/
theorem key_mem_openBranches {e : BranchEnd} :
    ∀ {f : Flow}, f.branchEnd? = some e → e.key ∈ f.openBranches
  | .busy .., h => by simp [branchEnd?] at h
  | .gathering .., h => by simp [branchEnd?] at h
  | .branching m g i branch others k, h => by
      simp only [branchEnd?] at h
      split at h
      · obtain rfl := Option.some.inj h
        simp [openBranches, BranchEnd.key]
      · have hinner := key_mem_openBranches h
        simp [openBranches, hinner]

/-- Where a branch ends, its outcome goes to the buffer, and the run goes on with the others
or is given up. -/
theorem acceptBranch_cases (m copy : Message) (g : Gathering) (i : Nat) (r : Reply)
    (others : List (Nat × Flow)) (k : List Pending) (bus : Bus) :
    (acceptBranch m g i (copy, r) others k bus).2.buffers = (bus.updateBuffer g.buffer
        (·.performAll (g.scatter.acceptance i copy r.verdict bus.evaluator).toList)).buffers ∧
      ((∃ deadline, (acceptBranch m g i (copy, r) others k bus).1 =
          .gathering m { g with deadline } others k) ∨
        ∃ e, (acceptBranch m g i (copy, r) others k bus).1 = answer m (.failed e) k) := by
  have hbuffers := buffers_of_runState (g.scatter.accept_runState g.buffer i copy r.verdict bus)
  cases ha : g.scatter.accept g.buffer i copy r.verdict bus with
  | mk result b =>
    rw [ha] at hbuffers
    cases result with
    | error e =>
      simp only [acceptBranch, ha]
      exact ⟨hbuffers, .inr ⟨e, rfl⟩⟩
    | ok done =>
      simp only [acceptBranch, ha]
      cases g.deadline with
      | none => exact ⟨hbuffers, .inl ⟨g.deadline, rfl⟩⟩
      | some t => exact ⟨hbuffers, .inl ⟨_, rfl⟩⟩

/-- A move adds no open branch but those of the run that it begins, and takes away the one
that it takes into account. -/
theorem countP_openBranches_of_step (p : Nat × Nat → Bool) {bus bus' : Bus} {f' : Flow} :
    ∀ {f : Flow}, f.step bus = some (f', bus') →
      f'.openBranches.countP p + (f.branchEnd?.map BranchEnd.key).toList.countP p ≤
        f.openBranches.countP p + ((f.event? bus).toList.flatMap RunEvent.branches).countP p
  | .busy m task k, h => by
      obtain ⟨s, targets, g, hbegin, rfl, he⟩ | ⟨he, -, m', task', k', rfl⟩ := work_cases h
      · obtain ⟨-, hwaiting, -⟩ := Scatter.begin_eq_ok hbegin
        have hunstarted : g.unstarted =
            (List.range (targets.map Prod.snd).length).map fun i => (g.buffer, i) := by
          have hnumbers : g.waiting.map Prod.fst = List.range (targets.map Prod.snd).length := by
            rw [hwaiting, List.map_fst_zip (by simp)]
          rw [Gathering.unstarted, ← hnumbers, List.map_map]
          rfl
        rw [he]
        simp [openBranches, openBranchesOf, branchEnd?, RunEvent.branches, hunstarted]
      · rw [he]
        simp [openBranches, branchEnd?]
  | .gathering m g branches k, h => by
      obtain ⟨b, he, hc⟩ | ⟨he, -, hcases⟩ := gather_cases h
      · obtain ⟨m', r, rfl⟩ : ∃ m' r, f' = answer m' r k := by
          unfold conclude at hc
          split at hc <;> exact ⟨_, _, (Prod.mk.inj hc).1.symm⟩
        simp [answer, openBranches, branchEnd?]
      · obtain ⟨i, target, waiting, copy, hwaiting, rfl⟩ | ⟨t, i, branch, others, hawake, rfl⟩ |
          ⟨m', r, k', rfl⟩ := hcases
        · simp only [openBranches, Gathering.unstarted, hwaiting, List.map_cons, List.countP_append,
            List.countP_cons, branchEnd?, Option.map_none, Option.toList_none, List.countP_nil]
          omega
        · have hperm := (perm_of_firstAwake? hawake).flatMap_right fun branch =>
            (g.buffer, branch.1) :: openBranches branch.2
          simp only [openBranches, openBranchesOf_eq, List.countP_append, hperm.countP_eq p,
            List.flatMap_cons, List.countP_cons, branchEnd?, Option.map_none, Option.toList_none,
            List.countP_nil]
          omega
        · simp [answer, openBranches, branchEnd?]
  | .branching m g i branch others k, h => by
      simp only [step] at h
      cases hf : branch.finished? with
      | some outcome =>
        obtain ⟨copy, r⟩ := outcome
        simp only [hf, Option.some.injEq] at h
        obtain ⟨-, hcases⟩ := acceptBranch_cases m copy g i r others k bus
        rw [h] at hcases
        simp only [branchEnd?, hf, Option.map_some, BranchEnd.key, Option.toList_some]
        obtain ⟨deadline, rfl⟩ | ⟨e, rfl⟩ := hcases
        · simp only [openBranches, Gathering.unstarted, List.countP_append, List.countP_cons,
            List.countP_nil]
          omega
        · simp only [answer, openBranches, List.countP_append, List.countP_cons, List.countP_nil]
          omega
      | none =>
        have he : (branching m g i branch others k).event? bus = branch.event? bus := by
          simp [event?, hf]
        have hend : (branching m g i branch others k).branchEnd? = branch.branchEnd? := by
          simp [branchEnd?, hf]
        rw [he, hend]
        simp only [hf] at h
        cases hs : branch.step bus with
        | some next =>
          obtain ⟨branch', b⟩ := next
          simp only [hs, Option.some.injEq, Prod.mk.injEq] at h
          obtain ⟨rfl, rfl⟩ := h
          have ih := countP_openBranches_of_step p hs
          simp only [openBranches, List.countP_append, List.countP_cons]
          omega
        | none =>
          simp only [hs, Option.some.injEq, Prod.mk.injEq] at h
          obtain ⟨rfl, rfl⟩ := h
          rw [branchEnd?_of_step_eq_none hs]
          simp only [openBranches, openBranchesOf_eq, List.flatMap_append, List.countP_append]
          simp
          omega

/-- The outcome of a branch that ends goes to the buffer of its run. -/
theorem buffers_of_branchEnd {e : BranchEnd} {bus bus' : Bus} {f' : Flow} :
    ∀ {f : Flow}, f.branchEnd? = some e → f.step bus = some (f', bus') →
      bus'.buffers = (bus.updateBuffer e.gathering.buffer (·.performAll
        (e.gathering.scatter.acceptance e.index e.message e.reply.verdict
          bus.evaluator).toList)).buffers
  | .busy .., he, _ => by simp [branchEnd?] at he
  | .gathering .., he, _ => by simp [branchEnd?] at he
  | .branching m g i branch others k, he, h => by
      simp only [branchEnd?] at he
      simp only [step] at h
      cases hf : branch.finished? with
      | some outcome =>
        obtain ⟨copy, r⟩ := outcome
        simp only [hf, Option.some.injEq] at he h
        subst he
        have hbuffers := (acceptBranch_cases m copy g i r others k bus).1
        rwa [h] at hbuffers
      | none =>
        simp only [hf] at he h
        cases hs : branch.step bus with
        | some next =>
          obtain ⟨branch', b⟩ := next
          simp only [hs, Option.some.injEq, Prod.mk.injEq] at h
          exact h.2 ▸ buffers_of_branchEnd he hs
        | none => simp [branchEnd?_of_step_eq_none hs] at he

/-- No run begins where a branch ends. -/
theorem branches_of_branchEnd {e : BranchEnd} {bus : Bus} :
    ∀ {f : Flow}, f.branchEnd? = some e → (f.event? bus).toList.flatMap RunEvent.branches = []
  | .busy .., he => by simp [branchEnd?] at he
  | .gathering .., he => by simp [branchEnd?] at he
  | .branching m g i branch others k, he => by
      cases hf : branch.finished? with
      | some outcome =>
        simp only [event?, hf]
        split <;> rfl
      | none =>
        simp only [branchEnd?, hf] at he
        simp only [event?, hf]
        exact branches_of_branchEnd he

end Flow

/-- The outcome of a branch settles no other one. -/
theorem Scatter.settles_of_acceptance {s : Scatter} {index : Nat} {m : Message}
    {outcome : Except Failure Bool} {ev : Evaluator} {b : Buffer} {branch : Nat}
    (h : branch ∈ (b.performAll (s.acceptance index m outcome ev).toList).settled) :
    branch ∈ b.settled ∨ branch = index := by
  have settles {op : Buffer.Operation} (hop : s.acceptance index m outcome ev = some op)
      (hother : op.settles = some branch) : branch = index := by
    unfold acceptance contribution at hop
    split at hop
    · split at hop <;> cases hop <;> exact (Option.some.inj hother).symm
    · split at hop
      · cases hop
        simp [Buffer.Operation.settles] at hother
      · cases hop
        exact (Option.some.inj hother).symm
    · simp at hop
    · cases hop
      exact (Option.some.inj hother).symm
  cases hop : s.acceptance index m outcome ev with
  | none =>
    rw [hop] at h
    exact .inl h
  | some op =>
    rw [hop] at h
    exact (Buffer.mem_settled_of_perform h).imp_right (settles hop)

namespace RunEvent.Effect

open Bus

/-- The beginning and the end of a run contribute nothing to a buffer: it is closed, or its
contents are taken out. -/
theorem buffer?_of_event {e : RunEvent} {b b' : Bus} (h : Effect (some e) b b') {ref : Nat}
    {buffer : Buffer} (hb : b.buffer? ref = some buffer) :
    ∃ ops : List Buffer.Operation, (∀ op ∈ ops, op.contributes = false) ∧
      b'.buffer? ref = some (buffer.performAll ops) := by
  have concluded (g : Gathering) (m : Message) {b₁ : Bus} (ops : List Buffer.Operation)
      (hops : ∀ op ∈ ops, op.contributes = false)
      (hb₁ : b₁.buffer? ref = some (buffer.performAll ops)) :
      ∃ ops : List Buffer.Operation, (∀ op ∈ ops, op.contributes = false) ∧
        (Scatter.conclude g m b₁).2.2.buffer? ref = some (buffer.performAll ops) := by
    rw [buffer?_of_runState (Scatter.conclude_runState g m b₁)]
    show ∃ ops, _ ∧ (b₁.updateBuffer g.buffer (·.perform .take)).buffer? ref = _
    rw [buffer?_updateBuffer, hb₁]
    split
    · refine ⟨ops ++ [.take], fun op hop => ?_, by rw [Buffer.performAll_append]; rfl⟩
      rcases List.mem_append.1 hop with hop | hop
      · exact hops op hop
      · rw [List.mem_singleton.1 hop]
        rfl
    · exact ⟨ops, hops, rfl⟩
  cases h with
  | began s targets m g h =>
    obtain ⟨-, -, hbuffers, -⟩ := began_runState h
    refine ⟨[], by simp, ?_⟩
    rw [Bus.buffer?, hbuffers, List.getElem?_append_left (lt_of_buffer? hb)]
    exact hb
  | closed g m _ => exact concluded g m [] (by simp) hb
  | late g m _ _ _ =>
    have hclosed := buffer?_updateBuffer b g.buffer ref (·.close .timeout)
    rw [hb] at hclosed
    split at hclosed
    · exact concluded g m [.close .timeout]
        (List.forall_mem_singleton.2 rfl) hclosed
    · exact concluded g m [] (by simp) hclosed
  | broken g m h => exact ⟨[], by simp, (buffer?_of_runState h ref).trans hb⟩

end RunEvent.Effect

namespace Flow

open Bus

/-- A move that takes no branch into account contributes nothing to a buffer. -/
theorem buffer?_of_step {bus bus' : Bus} {ref : Nat} {buffer : Buffer}
    (hb : bus.buffer? ref = some buffer) {f' : Flow} :
    ∀ {f : Flow}, f.branchEnd? = none → f.step bus = some (f', bus') →
      ∃ ops : List Buffer.Operation, (∀ op ∈ ops, op.contributes = false) ∧
        bus'.buffer? ref = some (buffer.performAll ops)
  | .busy m task k, _, h => by
      have heffect := effect_of_work h
      obtain ⟨s, targets, g, -, -, he⟩ | ⟨-, hrun, -⟩ := work_cases h
      · rw [he] at heffect
        exact heffect.buffer?_of_event hb
      · exact ⟨[], by simp, (buffer?_of_runState hrun ref).trans hb⟩
  | .gathering m g branches k, _, h => by
      have heffect := effect_of_gather h
      obtain ⟨b, he, -⟩ | ⟨-, hrun, -⟩ := gather_cases h
      · rw [he] at heffect
        exact heffect.buffer?_of_event hb
      · exact ⟨[], by simp, (buffer?_of_runState hrun ref).trans hb⟩
  | .branching m g i branch others k, hend, h => by
      cases hf : branch.finished? with
      | some outcome => simp [branchEnd?, hf] at hend
      | none =>
        have hinner : branch.branchEnd? = none := by
          simpa [branchEnd?, hf] using hend
        simp only [step, hf] at h
        cases hs : branch.step bus with
        | some next =>
          obtain ⟨branch', b⟩ := next
          simp only [hs, Option.some.injEq, Prod.mk.injEq] at h
          obtain ⟨rfl, rfl⟩ := h
          exact buffer?_of_step hb hinner hs
        | none =>
          simp only [hs, Option.some.injEq, Prod.mk.injEq] at h
          obtain ⟨rfl, rfl⟩ := h
          exact ⟨[], by simp, hb⟩

/-- A move settles no branch but the one that it takes into account. -/
theorem settled_of_step {bus bus' : Bus} {ref : Nat} {buffer : Buffer}
    (hb : bus.buffer? ref = some buffer) {f f' : Flow} (h : f.step bus = some (f', bus')) :
    ∃ buffer', bus'.buffer? ref = some buffer' ∧
      ∀ branch ∈ buffer'.settled, branch ∈ buffer.settled ∨
        ∃ e, f.branchEnd? = some e ∧ e.key = (ref, branch) := by
  cases hend : f.branchEnd? with
  | none =>
    obtain ⟨ops, hops, hb'⟩ := buffer?_of_step hb hend h
    refine ⟨_, hb', fun branch hbranch => .inl ?_⟩
    rwa [(Buffer.performAll_of_not_contributes hops).1] at hbranch
  | some e =>
    rw [Bus.buffer?, buffers_of_branchEnd hend h, ← Bus.buffer?, buffer?_updateBuffer, hb]
    split
    · next href =>
      refine ⟨_, rfl, fun j hj => (Scatter.settles_of_acceptance hj).imp_right fun hsame => ?_⟩
      exact ⟨e, rfl, by rw [BranchEnd.key, href, hsame]⟩
    · exact ⟨buffer, rfl, fun _ hbranch => .inl hbranch⟩

end Flow

/-! ## Branches along a history -/

/-- A run that begins has one branch of each number. -/
theorem RunEvent.count_branches (e : Option RunEvent) (ref i : Nat) :
    (e.toList.flatMap RunEvent.branches).count (ref, i) ≤
      ((e.toList.filterMap RunEvent.begun).map Run.buffer).count ref := by
  cases e with
  | none => simp
  | some event =>
    cases event with
    | began s targets m b g =>
      have hnodup : ((List.range targets.length).map fun i => (g.buffer, i)).Nodup :=
        List.nodup_range.map fun _ _ hsame => (Prod.mk.inj hsame).2
      by_cases href : g.buffer = ref
      · have hone : ((List.range targets.length).map fun i => (g.buffer, i)).count (ref, i) ≤ 1 :=
          List.nodup_iff_count_le_one.1 hnodup _
        simpa [branches, begun, Gathering.run, href] using hone
      · have hnone : (ref, i) ∉ (List.range targets.length).map fun i => (g.buffer, i) := by
          simp [href]
        simp [branches, List.count_eq_zero_of_not_mem hnone]
    | _ => simp [branches]

namespace Traffic

open Bus

variable {past later : List RunEvent} {t t' : Traffic} {e : Option RunEvent} {ref i : Nat}

/-- The branches that the flows under way have yet to take into account. -/
def openBranches (t : Traffic) : List (Nat × Nat) := t.flows.flatMap Flow.openBranches

/-- A step opens no branch but those of the run that it begins. -/
theorem Step.count_openBranches_le (h : Step t e t') (ref i : Nat) :
    t'.openBranches.count (ref, i) ≤
      t.openBranches.count (ref, i) + (e.toList.flatMap RunEvent.branches).count (ref, i) := by
  cases h with
  | move before after h =>
    have hmove := Flow.countP_openBranches_of_step (· == (ref, i)) h
    simp only [openBranches, List.flatMap_append, List.flatMap_cons, List.count_append]
    simp only [List.count_eq_countP]
    omega
  | start flows m task k => simp [openBranches, Flow.openBranches]
  | drop before after f =>
    simp only [openBranches, List.flatMap_append, List.flatMap_cons, List.count_append]
    omega
  | reply flows s m => exact Nat.le_add_right _ _
  | elsewhere flows hbuffers haggregators hnow hrung => exact Nat.le_add_right _ _

theorem Step.count_openBranches (h : Step t e t') (ref i : Nat) :
    t'.openBranches.count (ref, i) ≤ t.openBranches.count (ref, i) +
      ((e.toList.filterMap RunEvent.begun).map Run.buffer).count ref :=
  Nat.le_trans (h.count_openBranches_le ref i)
    (Nat.add_le_add_left (RunEvent.count_branches e ref i) _)

/-- Only a run that begins opens a buffer, behind all others. -/
theorem Step.range_buffers (h : Step t e t') :
    List.range t'.bus.buffers.length =
      List.range t.bus.buffers.length ++ (e.toList.filterMap RunEvent.begun).map Run.buffer := by
  obtain ⟨b, he, hbuffers, -⟩ := h.effect
  rw [hbuffers, he.buffers]

/-- The buffer of a run that begins is none of those before. -/
theorem Step.not_mem_begun_of_lt (h : Step t e t') (href : ref < t.bus.buffers.length) :
    ref ∉ (e.toList.filterMap RunEvent.begun).map Run.buffer :=
  List.disjoint_left.1 (List.nodup_append'.1 (h.range_buffers ▸ List.nodup_range)).2.2
    (List.mem_range.2 href)

/-- No branch of a run that has begun opens. -/
theorem Step.count_openBranches_of_lt (h : Step t e t') (href : ref < t.bus.buffers.length) :
    t'.openBranches.count (ref, i) ≤ t.openBranches.count (ref, i) := by
  have hstep := h.count_openBranches ref i
  rwa [List.count_eq_zero_of_not_mem (h.not_mem_begun_of_lt href)] at hstep

/-- A branch is open no more often than the buffer of its run is there. -/
theorem History.count_openBranches_range (h : History past t) (ref i : Nat) :
    t.openBranches.count (ref, i) ≤ (List.range t.bus.buffers.length).count ref := by
  induction h with
  | fresh hbuffers haggregators hrung => simp [openBranches]
  | step h hs ih =>
    have hstep := hs.count_openBranches ref i
    rw [hs.range_buffers, List.count_append]
    omega

/-- A branch is open once at most. -/
theorem History.count_openBranches (h : History past t) (ref i : Nat) :
    t.openBranches.count (ref, i) ≤ 1 :=
  Nat.le_trans (h.count_openBranches_range ref i)
    (List.nodup_iff_count_le_one.1 List.nodup_range _)

/-- The run of an open branch has a buffer. -/
theorem History.buffer_lt_of_open (h : History past t) (hopen : (ref, i) ∈ t.openBranches) :
    ref < t.bus.buffers.length := by
  have hcount := h.count_openBranches_range ref i
  have hpos := List.count_pos_iff.2 hopen
  exact List.mem_range.1 (List.count_pos_iff.1 (Nat.lt_of_lt_of_le hpos hcount))

/-- The move that takes a branch into account takes it away. -/
theorem count_of_branchEnd {b b' : Bus} (before after : List Flow) {f f' : Flow} {e : BranchEnd}
    (he : f.branchEnd? = some e) (hs : f.step b = some (f', b')) :
    (⟨b', before ++ f' :: after⟩ : Traffic).openBranches.count e.key <
      (⟨b, before ++ f :: after⟩ : Traffic).openBranches.count e.key := by
  have hmove := Flow.countP_openBranches_of_step (· == e.key) hs
  rw [Flow.branches_of_branchEnd he, he] at hmove
  simp only [Option.map_some, Option.toList_some, List.countP_singleton, beq_self_eq_true, if_true,
    List.countP_nil] at hmove
  simp only [openBranches, List.flatMap_append, List.flatMap_cons, List.count_append]
  simp only [List.count_eq_countP]
  omega

/-- The buffer of a run that begins is a new one. -/
theorem Step.opened {s : Scatter} {targets : List Mediator} {m : Message} {b : Bus} {g : Gathering}
    (h : Step t (some (.began s targets m b g)) t') : t'.bus.buffer? g.buffer =
      some (Buffer.opened g.correlation (s.limitsFor targets.length m b.evaluator)) := by
  obtain ⟨b', he, hbuffers, -⟩ := h.effect
  cases he with
  | began s targets m g hbegin =>
    obtain ⟨href, -, hopened, -⟩ := RunEvent.Effect.began_runState hbegin
    rw [Bus.buffer?, hbuffers, hopened, href, List.getElem?_concat_length]

/-- A step settles a branch where it takes the branch into account, or where a reply answers
for it. -/
theorem Step.settled (h : Step t e t') {buffer : Buffer} (hb : t.bus.buffer? ref = some buffer) :
    ∃ buffer', t'.bus.buffer? ref = some buffer' ∧ ∀ branch ∈ buffer'.settled,
      branch ∈ buffer.settled ∨
        t'.openBranches.count (ref, branch) < t.openBranches.count (ref, branch) ∨
        ∃ (s : Scatter) (m : Message), e = none ∧ t' = ⟨(s.deliver m t.bus).2, t.flows⟩ ∧
          s.AnswersFor m t.bus ref branch := by
  cases h with
  | @move b b' f f' before after h =>
    obtain ⟨buffer', hb', hsettled⟩ := Flow.settled_of_step hb h
    refine ⟨buffer', hb', fun branch hbranch => (hsettled branch hbranch).imp_right ?_⟩
    rintro ⟨e, he, hkey⟩
    exact .inl (hkey ▸ count_of_branchEnd before after he h)
  | start flows m task k => exact ⟨buffer, hb, fun _ hbranch => .inl hbranch⟩
  | drop before after f => exact ⟨buffer, hb, fun _ hbranch => .inl hbranch⟩
  | reply flows s m =>
    obtain ⟨buffer', hb', hsettled⟩ := s.settled_of_deliver m hb
    refine ⟨buffer', hb', fun branch hbranch => (hsettled branch hbranch).imp_right ?_⟩
    exact fun hanswers => .inr ⟨s, m, rfl, rfl, hanswers⟩
  | elsewhere flows hbuffers haggregators hnow hrung =>
    refine ⟨buffer, ?_, fun _ hbranch => .inl hbranch⟩
    rw [Bus.buffer?, hbuffers]
    exact hb

/-- What may come about from `t`, with the events on the way. -/
inductive Since (t : Traffic) : List RunEvent → Traffic → Prop where
  | refl : Since t [] t
  | step {later : List RunEvent} {t' t'' : Traffic} {e : Option RunEvent} (h : Since t later t')
      (hs : Step t' e t'') : Since t (later ++ e.toList) t''

theorem History.since (h : History past t) (hs : Since t later t') :
    History (past ++ later) t' := by
  induction hs with
  | refl => simpa using h
  | step _ hs ih =>
    rw [← List.append_assoc]
    exact ih.step hs

/-- On the way is a reply that answers for the branch `i` of the run with the buffer `ref`;
`Way` says what has come about before it. -/
def Replied (Way : List RunEvent → Traffic → Prop) (past : List RunEvent) (t : Traffic)
    (ref i : Nat) : Prop :=
  ∃ (earlier later : List RunEvent) (t₁ : Traffic) (s : Scatter) (m : Message),
    past = earlier ++ later ∧ Way earlier t₁ ∧ s.AnswersFor m t₁.bus ref i ∧
      Since ⟨(s.deliver m t₁.bus).2, t₁.flows⟩ later t

namespace Replied

variable {Way : List RunEvent → Traffic → Prop}

theorem step (h : Replied Way past t ref i) (hs : Step t e t') :
    Replied Way (past ++ e.toList) t' ref i := by
  obtain ⟨earlier, later, t₁, s, m, rfl, hway, hanswers, hsince⟩ := h
  exact ⟨earlier, later ++ e.toList, t₁, s, m, List.append_assoc .., hway, hanswers,
    hsince.step hs⟩

theorem now (h : Way past t) {s : Scatter} {m : Message} (hanswers : s.AnswersFor m t.bus ref i) :
    Replied Way (past ++ (none : Option RunEvent).toList) ⟨(s.deliver m t.bus).2, t.flows⟩ ref i :=
  ⟨past, [], t, s, m, rfl, h, hanswers, .refl⟩

end Replied

namespace Since

/-- A buffer stays where it is, and is only contributed to unless its run ends. -/
theorem buffer? (h : Since t later t') {buffer : Buffer} (hb : t.bus.buffer? ref = some buffer) :
    ∃ ops : List Buffer.Operation, t'.bus.buffer? ref = some (buffer.performAll ops) ∧
      ((∀ r ∈ later.filterMap RunEvent.ended, r.buffer ≠ ref) →
        ∀ op ∈ ops, op.contributes = true) := by
  induction h with
  | refl => exact ⟨[], hb, by simp⟩
  | step h hs ih =>
    obtain ⟨ops, hops, hcontributes⟩ := ih
    obtain ⟨last, hlast, hcontributes'⟩ := hs.buffer? hops
    refine ⟨ops ++ last, by rw [hlast, Buffer.performAll_append], fun hended op hop => ?_⟩
    rw [List.filterMap_append] at hended
    rcases List.mem_append.1 hop with hop | hop
    · exact hcontributes (fun r hr => hended r (List.mem_append_left _ hr)) op hop
    · exact hcontributes' (fun r hr => hended r (List.mem_append_right _ hr)) op hop

/-- A branch of a run that has begun does not open again. -/
theorem count_openBranches (h : Since t later t') {buffer : Buffer}
    (hb : t.bus.buffer? ref = some buffer) (hcount : t.openBranches.count (ref, i) = 0) :
    t'.openBranches.count (ref, i) = 0 := by
  induction h with
  | refl => exact hcount
  | step h hs ih =>
    obtain ⟨ops, hops, -⟩ := h.buffer? hb
    exact Nat.le_zero.1 (ih ▸ hs.count_openBranches_of_lt (lt_of_buffer? hops))

/-- A branch that was taken into account without being settled is settled by a reply that
answers for it. -/
theorem settled (h : Since t later t') {buffer buffer' : Buffer}
    (hb : t.bus.buffer? ref = some buffer) (hb' : t'.bus.buffer? ref = some buffer')
    (hcount : t.openBranches.count (ref, i) = 0) (hnew : i ∉ buffer.settled)
    (hsettled : i ∈ buffer'.settled) : Replied (Since t) later t' ref i := by
  induction h generalizing buffer' with
  | refl =>
    obtain rfl : buffer = buffer' := Option.some.inj (hb.symm.trans hb')
    exact absurd hsettled hnew
  | @step later t₁ t₂ e h hs ih =>
    obtain ⟨ops, hops, -⟩ := h.buffer? hb
    obtain ⟨buffer₂, hb₂, hstep⟩ := hs.settled hops
    obtain rfl : buffer₂ = buffer' := Option.some.inj (hb₂.symm.trans hb')
    rcases hstep i hsettled with hbefore | haccounted | ⟨s, m, rfl, rfl, hanswers⟩
    · exact (ih hops hbefore).step hs
    · have hgone := h.count_openBranches hb hcount
      omega
    · exact .now h hanswers

end Since

/-- A branch that is not yet taken into account is settled by a reply that answers for
it. -/
theorem History.settled (h : History past t) {s : Scatter} {targets : List Mediator}
    {m : Message} {b : Bus} {g : Gathering} (hbegan : .began s targets m b g ∈ past)
    {buffer : Buffer} (hb : t.bus.buffer? g.buffer = some buffer)
    (hopen : (g.buffer, i) ∈ t.openBranches) (hsettled : i ∈ buffer.settled) :
    Replied History past t g.buffer i := by
  induction h generalizing buffer with
  | fresh hbuffers haggregators hrung => simp at hbegan
  | @step past t t' e h hs ih =>
    rcases List.mem_append.1 hbegan with hbegan | hnow
    · obtain ⟨ops, hops, -⟩ := h.buffer? hbegan
      obtain ⟨buffer', hb', hstep⟩ := hs.settled hops
      obtain rfl : buffer' = buffer := Option.some.inj (hb'.symm.trans hb)
      -- the branch was open before, and once only
      have hone := h.count_openBranches g.buffer i
      have hstill := List.count_pos_iff.2 hopen
      rcases hstep i hsettled with hbefore | haccounted | ⟨s', m', rfl, rfl, hanswers⟩
      · have hkept := hs.count_openBranches_of_lt (i := i) (lt_of_buffer? hops)
        have hbefore' : (g.buffer, i) ∈ t.openBranches := List.count_pos_iff.1 (by omega)
        exact (ih hbegan hops hbefore' hbefore).step hs
      · omega
      · exact .now h hanswers
    · -- a new buffer has settled nothing
      rw [Option.mem_toList] at hnow
      cases hnow
      obtain rfl := Option.some.inj (hs.opened.symm.trans hb)
      exact absurd hsettled List.not_mem_nil

end Traffic

end ServiceBus
