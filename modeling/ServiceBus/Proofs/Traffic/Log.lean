import ServiceBus.Proofs.Traffic.Progress
import Mathlib.Algebra.Order.BigOperators.Group.List

/-
ServiceBus.Proofs.Traffic.Log — the order in which the branches of a run start and end.

A log is a history that also keeps the starts and ends of branches (`Traffic.Log`); every
history has one (`History.log`). Taken together, the log and the runs in progress say where
a run stands, and that is what every step preserves (`Scheduled.step`): the targets were
started from the first one on, each once; those of them that are not running are taken into
account; and if branches run one after the other, each one was taken into account before the
next one was started (`Log.scheduled`).
-/
namespace ServiceBus

namespace BranchMove

/-- The buffer of the run whose branch a move starts or takes into account. -/
def buffer : BranchMove → Nat
  | .started start => start.gathering.buffer
  | .ended finish => finish.gathering.buffer

/-- The number of the branch that a move starts, if the run has the buffer `ref`. -/
def startIn? (ref : Nat) : BranchMove → Option Nat
  | .started start => if start.gathering.buffer = ref then some start.index else none
  | .ended _ => none

/-- The number of the branch that a move takes into account, if the run has the buffer `ref`. -/
def endIn? (ref : Nat) : BranchMove → Option Nat
  | .started _ => none
  | .ended finish => if finish.gathering.buffer = ref then some finish.index else none

/-- The branches that are started, in this order. -/
def starts (ref : Nat) (moves : List BranchMove) : List Nat := moves.filterMap (startIn? ref)

/-- The branches that are taken into account, in this order. -/
def ends (ref : Nat) (moves : List BranchMove) : List Nat := moves.filterMap (endIn? ref)

theorem starts_append (ref : Nat) (moves : List BranchMove) (move : Option BranchMove) :
    starts ref (moves ++ move.toList) =
      starts ref moves ++ (move.bind (startIn? ref)).toList := by
  cases move with
  | none => simp [starts]
  | some move => cases h : move.startIn? ref <;> simp [starts, h]

theorem ends_append (ref : Nat) (moves : List BranchMove) (move : Option BranchMove) :
    ends ref (moves ++ move.toList) = ends ref moves ++ (move.bind (endIn? ref)).toList := by
  cases move with
  | none => simp [ends]
  | some move => cases h : move.endIn? ref <;> simp [ends, h]

theorem startIn?_of_ne {ref : Nat} {move : BranchMove} (h : move.buffer ≠ ref) :
    move.startIn? ref = none := by
  cases move with
  | started start => exact if_neg h
  | ended finish => rfl

theorem endIn?_of_ne {ref : Nat} {move : BranchMove} (h : move.buffer ≠ ref) :
    move.endIn? ref = none := by
  cases move with
  | started start => rfl
  | ended finish => exact if_neg h

end BranchMove

namespace Progress

/-- No branch is started or taken into account where a run begins. -/
theorem Moves.of_began {s : Scatter} {targets : List Mediator} {m : Message} {b : Bus}
    {g : Gathering} {move : Option BranchMove} {before after : Multiset Progress}
    (h : Moves (some (.began s targets m b g)) move before after) :
    move = none ∧ after ≤ ⟨g.run m, g.waiting, 0⟩ ::ₘ before := by
  cases h with
  | kept he hafter => simp [RunEvent.begun] at he
  | began s targets m b g hafter => exact ⟨rfl, hafter⟩
  | ended finish m' he hafter => simp [RunEvent.begun] at he

/-- The run that starts a branch, as it stands before. -/
theorem Moves.of_started {e : Option RunEvent} {start : BranchStart}
    {before after : Multiset Progress} (h : Moves e (some (.started start)) before after) :
    ∃ waiting running, (⟨start.run, start.gathering.waiting, running⟩ : Progress) ∈ before ∧
      start.gathering.waiting = (start.index, start.target) :: waiting ∧
      (start.gathering.scatter.config.parallel = true ∨ running = 0) := by
  cases h with
  | started start hwaiting hturn h =>
    exact ⟨_, _, Multiset.mem_cons_self .., hwaiting, hturn⟩

/-- A branch is started or taken into account by a run in progress. -/
theorem Moves.exists_run {e : Option RunEvent} {move : BranchMove}
    {before after : Multiset Progress} (h : Moves e (some move) before after) :
    ∃ p ∈ before, p.run.buffer = move.buffer := by
  cases h with
  | started start hwaiting hturn h => exact ⟨_, Multiset.mem_cons_self .., rfl⟩
  | ended finish m he h => exact ⟨_, Multiset.mem_cons_self .., rfl⟩

end Progress

/-! ## Where a run stands -/

/-- The run that began as `g` has started the branches `starts` and taken the branches `ends`
into account, in these orders, and the runs in progress say the same. -/
structure Scheduled (g : Gathering) (starts ends : List Nat) (progress : Multiset Progress) :
    Prop where
  inOrder : starts = List.range starts.length
  within : starts.length ≤ g.waiting.length
  /-- What the run has not started it still has to start, and what it has started and not taken
  into account is running. -/
  current : ∀ p ∈ progress, p.run.buffer = g.buffer →
    p.waiting = g.waiting.drop starts.length ∧ (ends : Multiset Nat) + p.running = starts
  inTurn : g.scatter.config.parallel = false →
    ends = List.range ends.length ∧ starts.length ≤ ends.length + 1

namespace Scheduled

variable {g : Gathering} {starts ends : List Nat} {before after : Multiset Progress}

/-- A run that has just begun. -/
theorem begun (h : ∀ p ∈ after, p.run.buffer = g.buffer → p.waiting = g.waiting ∧ p.running = 0) :
    Scheduled g [] [] after where
  inOrder := rfl
  within := Nat.zero_le _
  current p hp hrun := ⟨(h p hp hrun).1, by simp [(h p hp hrun).2]⟩
  inTurn _ := ⟨rfl, Nat.zero_le _⟩

/-- A run stands where it stood if it comes no further. -/
theorem mono (h : Scheduled g starts ends before)
    (hafter : ∀ p ∈ after, p.run.buffer = g.buffer → p ∈ before) :
    Scheduled g starts ends after where
  inOrder := h.inOrder
  within := h.within
  current p hp hrun := h.current p (hafter p hp hrun) hrun
  inTurn := h.inTurn

/-- The next target of a run in progress that has numbered its targets. -/
theorem next (h : Scheduled g starts ends before)
    (hnumbers : g.waiting.map Prod.fst = List.range g.waiting.length) {p : Progress}
    (hp : p ∈ before) (hrun : p.run.buffer = g.buffer) {i : Nat} {target : Mediator}
    {waiting : List (Nat × Mediator)} (hwaiting : p.waiting = (i, target) :: waiting) :
    i = starts.length ∧ g.waiting[i]? = some (i, target) ∧
      waiting = g.waiting.drop (starts.length + 1) := by
  have hdrop := (h.current p hp hrun).1.symm.trans hwaiting
  have hget : g.waiting[starts.length]? = some (i, target) := by
    rw [← List.head?_drop, hdrop, List.head?_cons]
  have hlt := (List.getElem?_eq_some_iff.1 hget).1
  have hi : i = starts.length := by
    have hnumber : (g.waiting.map Prod.fst)[starts.length]? = some i := by
      rw [List.getElem?_map, hget, Option.map_some]
    rw [hnumbers, List.getElem?_range hlt] at hnumber
    exact (Option.some.inj hnumber).symm
  refine ⟨hi, hi ▸ hget, ?_⟩
  rw [← List.tail_drop, hdrop, List.tail_cons]

/-- Where branches run one after the other and none is running, those that were started are
taken into account in the same order. -/
theorem ends_of_idle (h : Scheduled g starts ends before)
    (hturn : g.scatter.config.parallel = false) {p : Progress} (hp : p ∈ before)
    (hrun : p.run.buffer = g.buffer) (hidle : p.running = 0) : ends = List.range starts.length := by
  have hsame := (h.current p hp hrun).2
  rw [hidle, add_zero] at hsame
  rw [(h.inTurn hturn).1, Multiset.coe_eq_coe.1 hsame |>.length_eq]

/-- Where branches run one after the other, the one that ends is the last one started. -/
theorem last (h : Scheduled g starts ends before) (hturn : g.scatter.config.parallel = false)
    {p : Progress} (hp : p ∈ before) (hrun : p.run.buffer = g.buffer) {i : Nat}
    {running : Multiset Nat} (hrunning : p.running = i ::ₘ running) :
    i = ends.length ∧ starts.length = ends.length + 1 := by
  obtain ⟨hends, hbound⟩ := h.inTurn hturn
  have hsame := (h.current p hp hrun).2
  rw [hrunning] at hsame
  have hcard : ends.length + running.card + 1 = starts.length := by
    simpa using congrArg Multiset.card hsame
  have hlt : i < starts.length := by
    have hmem : i ∈ (ends : Multiset Nat) + i ::ₘ running := by simp
    rw [hsame, h.inOrder] at hmem
    exact List.mem_range.1 hmem
  have hnew : i ∉ ends := by
    have hnodup : ((ends : Multiset Nat) + i ::ₘ running).Nodup := by
      rw [hsame, h.inOrder]
      exact List.nodup_range
    rw [Multiset.add_cons, Multiset.nodup_cons] at hnodup
    exact fun hmem => hnodup.1 (Multiset.mem_add.2 (.inl hmem))
  rw [hends, List.mem_range] at hnew
  omega

/-- The next target is started. -/
theorem start (h : Scheduled g starts ends before)
    (hnumbers : g.waiting.map Prod.fst = List.range g.waiting.length) {p : Progress}
    (hp : p ∈ before) (hrun : p.run.buffer = g.buffer) {i : Nat} {target : Mediator}
    {waiting : List (Nat × Mediator)} (hwaiting : p.waiting = (i, target) :: waiting)
    (hturn : g.scatter.config.parallel = false → p.running = 0)
    (hafter : ∀ q ∈ after, q.run.buffer = g.buffer →
      q.waiting = waiting ∧ q.running = i ::ₘ p.running) :
    Scheduled g (starts ++ [i]) ends after := by
  obtain ⟨hi, hget, hrest⟩ := h.next hnumbers hp hrun hwaiting
  have hlength : (starts ++ [i]).length = starts.length + 1 := by simp
  refine ⟨?_, ?_, fun q hq hq' => ?_, fun hseq => ?_⟩
  · rw [hlength, List.range_succ, ← h.inOrder, ← hi]
  · rw [hlength]
    exact hi ▸ (List.getElem?_eq_some_iff.1 hget).1
  · obtain ⟨hq₁, hq₂⟩ := hafter q hq hq'
    refine ⟨by rw [hq₁, hrest, hlength], ?_⟩
    rw [hq₂, Multiset.add_cons, (h.current p hp hrun).2, ← Multiset.coe_add, Multiset.coe_singleton,
      add_comm, Multiset.singleton_add]
  · have hends := h.ends_of_idle hseq hp hrun (hturn hseq)
    refine ⟨(h.inTurn hseq).1, ?_⟩
    rw [hlength, hends, List.length_range]

/-- A running branch is taken into account. -/
theorem finish (h : Scheduled g starts ends before) {p : Progress} (hp : p ∈ before)
    (hrun : p.run.buffer = g.buffer) {i : Nat} {running : Multiset Nat}
    (hrunning : p.running = i ::ₘ running)
    (hafter : ∀ q ∈ after, q.run.buffer = g.buffer →
      q.waiting = p.waiting ∧ q.running = running) : Scheduled g starts (ends ++ [i]) after := by
  obtain ⟨hwaiting, hsum⟩ := h.current p hp hrun
  have hsum' : ((ends ++ [i] : List Nat) : Multiset Nat) + running = starts := by
    rw [← hsum, hrunning, ← Multiset.coe_add, Multiset.coe_singleton, add_assoc,
      Multiset.singleton_add]
  refine ⟨h.inOrder, h.within, fun q hq hq' => ?_, fun hseq => ?_⟩
  · obtain ⟨hq₁, hq₂⟩ := hafter q hq hq'
    exact ⟨hq₁.trans hwaiting, by rw [hq₂, hsum']⟩
  · obtain ⟨hi, hlast⟩ := h.last hseq hp hrun hrunning
    rw [List.length_append, List.length_singleton, List.range_succ, ← (h.inTurn hseq).1, hi]
    exact ⟨rfl, by omega⟩

/-- Where one run in progress has come further, it is the only one with its buffer. -/
theorem mem_after {old new : Progress} {rest : Multiset Progress}
    (hnodup : ((old ::ₘ rest).map fun p => p.run.buffer).Nodup) (hafter : after ≤ new ::ₘ rest)
    (hsame : old.run = new.run) {q : Progress} (hq : q ∈ after) :
    (q.run.buffer = new.run.buffer → q = new) ∧ (q.run.buffer ≠ new.run.buffer → q ∈ rest) := by
  rw [Multiset.map_cons, Multiset.nodup_cons, hsame] at hnodup
  rcases Multiset.mem_cons.1 (Multiset.mem_of_le hafter hq) with rfl | hrest
  · exact ⟨fun _ => rfl, fun hne => absurd rfl hne⟩
  · exact ⟨fun hbuffer => absurd (Multiset.mem_map.2 ⟨q, hrest, hbuffer⟩) hnodup.1, fun _ => hrest⟩

/-- A step starts the next target of a run, or takes one of its running branches into
account, or leaves the run where it stands. -/
theorem step {e : Option RunEvent} {move : Option BranchMove} (h : Scheduled g starts ends before)
    (hnumbers : g.waiting.map Prod.fst = List.range g.waiting.length)
    (hm : Progress.Moves e move before after)
    (hnodup : (before.map fun p => p.run.buffer).Nodup)
    (hnew : g.buffer ∉ (e.toList.filterMap RunEvent.begun).map Run.buffer)
    (hscatter : ∀ p ∈ before, p.run.buffer = g.buffer → p.run.scatter = g.scatter) :
    Scheduled g (starts ++ (move.bind (·.startIn? g.buffer)).toList)
      (ends ++ (move.bind (·.endIn? g.buffer)).toList) after := by
  cases hm with
  | kept he hafter =>
    simpa using h.mono fun p hp _ => Multiset.mem_of_le hafter hp
  | began s targets m b g' hafter =>
    have hsame : Scheduled g starts ends after := h.mono fun p hp hrun => ?_
    · simpa using hsame
    · rcases Multiset.mem_cons.1 (Multiset.mem_of_le hafter hp) with rfl | hp
      · exact absurd (by simp [RunEvent.begun, ← hrun]) hnew
      · exact hp
  | @started start waiting running rest _ hwaiting hturn hafter =>
    have hself := Multiset.mem_cons_self (⟨start.run, start.gathering.waiting, running⟩ : Progress)
      rest
    have hmem {q : Progress} (hq : q ∈ after) := mem_after hnodup hafter rfl hq
    by_cases hrun : start.gathering.buffer = g.buffer
    · have hscatter : start.gathering.scatter = g.scatter := hscatter _ hself hrun
      have hlater := h.start hnumbers hself hrun hwaiting
        (fun hseq => hturn.resolve_left (by simp [hscatter, hseq]))
        fun q hq hq' => by rw [(hmem hq).1 (hq'.trans hrun.symm)]; exact ⟨rfl, rfl⟩
      simpa [BranchMove.startIn?, BranchMove.endIn?, hrun] using hlater
    · have hsame := h.mono fun q hq hq' =>
        Multiset.mem_cons_of_mem ((hmem hq).2 fun hbuffer => hrun (hbuffer.symm.trans hq'))
      simpa [BranchMove.startIn?, BranchMove.endIn?, hrun] using hsame
  | @ended _ finish m waiting running rest _ he hafter =>
    have hself := Multiset.mem_cons_self
      (⟨finish.gathering.run m, waiting, finish.index ::ₘ running⟩ : Progress) rest
    have hmem {q : Progress} (hq : q ∈ after) := mem_after hnodup hafter rfl hq
    by_cases hrun : finish.gathering.buffer = g.buffer
    · have hlater := h.finish hself hrun rfl
        fun q hq hq' => by rw [(hmem hq).1 (hq'.trans hrun.symm)]; exact ⟨rfl, rfl⟩
      simpa [BranchMove.startIn?, BranchMove.endIn?, hrun] using hlater
    · have hsame := h.mono fun q hq hq' =>
        Multiset.mem_cons_of_mem ((hmem hq).2 fun hbuffer => hrun (hbuffer.symm.trans hq'))
      simpa [BranchMove.startIn?, BranchMove.endIn?, hrun] using hsame

end Scheduled

/-! ## Logs -/

namespace Traffic

variable {past : List RunEvent} {moves : List BranchMove} {t t' : Traffic} {e : Option RunEvent}
  {move : Option BranchMove}

/-- The runs that the flows under way are in the middle of. -/
def progress (t : Traffic) : Multiset Progress := (t.flows.map Flow.progress).sum

theorem map_run_progress (t : Traffic) : t.progress.map Progress.run = (t.runs : Multiset Run) := by
  obtain ⟨b, flows⟩ := t
  induction flows with
  | nil => rfl
  | cons f flows ih =>
    simp only [progress, runs, List.map_cons, List.sum_cons, Multiset.map_add, List.flatMap_cons,
      ← Multiset.coe_add] at ih ⊢
    rw [Flow.map_run_progress, ih]

/-- One step, with the start or the end of a branch that it is. -/
inductive Logged : Traffic → Option RunEvent → Option BranchMove → Traffic → Prop where
  /-- A flow goes on. -/
  | move {b b' : Bus} {f f' : Flow} (before after : List Flow) (h : f.step b = some (f', b')) :
      Logged ⟨b, before ++ f :: after⟩ (f.event? b) (f.branchMove? b) ⟨b', before ++ f' :: after⟩
  /-- Anything else happens, and no flow goes on. -/
  | aside {t t' : Traffic} (h : Step t none t') (hflows : t'.flows.Sublist t.flows ∨
      ∃ m task k, t'.flows = .busy m task k :: t.flows) : Logged t none none t'

/-- What may come about, with the events and with the starts and ends of branches on the way. -/
inductive Log : List RunEvent → List BranchMove → Traffic → Prop where
  | fresh {b : Bus} (hbuffers : b.buffers = []) (haggregators : b.aggregators = ∅)
      (hrung : b.rung ≤ b.now) : Log [] [] ⟨b, []⟩
  | step {past : List RunEvent} {moves : List BranchMove} {t t' : Traffic} {e : Option RunEvent}
      {move : Option BranchMove} (h : Log past moves t) (hs : Logged t e move t') :
      Log (past ++ e.toList) (moves ++ move.toList) t'

theorem Logged.step (h : Logged t e move t') : Step t e t' := by
  cases h with
  | move before after h => exact .move before after h
  | aside h hflows => exact h

theorem Step.logged (h : Step t e t') : ∃ move, Logged t e move t' := by
  cases h with
  | move before after h => exact ⟨_, .move before after h⟩
  | start flows m task k => exact ⟨none, .aside (.start flows m task k) (.inr ⟨m, task, k, rfl⟩)⟩
  | drop before after f =>
    exact ⟨none, .aside (.drop before after f)
      (.inl ((List.sublist_cons_self f after).append_left before))⟩
  | reply flows s m => exact ⟨none, .aside (.reply flows s m) (.inl (.refl _))⟩
  | elsewhere flows hbuffers haggregators hnow hrung =>
    exact ⟨none, .aside (.elsewhere flows hbuffers haggregators hnow hrung) (.inl (.refl _))⟩

theorem Log.history (h : Log past moves t) : History past t := by
  induction h with
  | fresh hbuffers haggregators hrung => exact .fresh hbuffers haggregators hrung
  | step h hs ih => exact ih.step hs.step

/-- Every history has a log. -/
theorem History.log (h : History past t) : ∃ moves, Log past moves t := by
  induction h with
  | fresh hbuffers haggregators hrung => exact ⟨[], .fresh hbuffers haggregators hrung⟩
  | step h hs ih =>
    obtain ⟨moves, hlog⟩ := ih
    obtain ⟨move, hlogged⟩ := hs.logged
    exact ⟨moves ++ move.toList, hlog.step hlogged⟩

/-- The starts and ends of branches among at most `limit` moves of a flow. -/
def branchMoves : Nat → Flow → Bus → List BranchMove
  | 0, _, _ => []
  | limit + 1, f, b =>
    match f.step b with
    | some (f', b') => (f.branchMove? b).toList ++ branchMoves limit f' b'
    | none => []

theorem Log.advance {b : Bus} {f : Flow} (before after : List Flow)
    (h : Log past moves ⟨b, before ++ f :: after⟩) (limit : Nat) :
    Log (past ++ (advance limit f b).2.2) (moves ++ branchMoves limit f b)
      ⟨(advance limit f b).2.1, before ++ (advance limit f b).1 :: after⟩ := by
  induction limit generalizing past moves f b with
  | zero => simpa [Traffic.advance, branchMoves] using h
  | succ limit ih =>
    unfold Traffic.advance branchMoves
    cases hs : f.step b with
    | none => simpa using h
    | some next =>
      obtain ⟨f', b'⟩ := next
      have hlast := ih (h.step (.move before after hs))
      simpa using hlast

/-- Where a branch starts or ends, a flow goes on. -/
theorem Logged.exists_flow {move : BranchMove} (h : Logged t e (some move) t') :
    ∃ before after f f', t.flows = before ++ f :: after ∧ t'.flows = before ++ f' :: after ∧
      f.step t.bus = some (f', t'.bus) ∧ f.branchMove? t.bus = some move ∧ f.event? t.bus = e := by
  generalize hmove : some move = logged at h
  cases h with
  | move before after h => exact ⟨before, after, _, _, rfl, rfl, h, rfl, rfl⟩
  | aside h hflows => simp at hmove

/-- The runs in progress come as far as the log says. -/
theorem Logged.goes (h : Logged t e move t') : Progress.Moves e move t.progress t'.progress := by
  cases h with
  | move before after h =>
    have hmove := (Flow.moves_of_step h).add
      ((before.map Flow.progress).sum + (after.map Flow.progress).sum)
    simpa [progress, add_left_comm] using hmove
  | aside h hflows =>
    refine .kept rfl ?_
    obtain hsub | ⟨m, task, k, hflows⟩ := hflows
    · exact (hsub.map Flow.progress).sum_le_sum fun p _ => Multiset.zero_le p
    · simp [progress, hflows, Flow.progress]

/-! ## Runs along a log -/

/-- A run in progress has begun. -/
theorem History.mem_begun_of_mem_progress (h : History past t) {p : Progress}
    (hp : p ∈ t.progress) : p.run ∈ past.filterMap RunEvent.begun := by
  classical
  have hrun : p.run ∈ t.runs := by
    rw [← Multiset.mem_coe, ← map_run_progress]
    exact Multiset.mem_map_of_mem _ hp
  have hcount := h.runs fun r => decide (r = p.run)
  have hpos := Flow.countP_pos_iff_mem.2 hrun
  exact Flow.countP_pos_iff_mem.1 (by omega)

theorem History.began_of_mem_progress (h : History past t) {p : Progress} (hp : p ∈ t.progress) :
    ∃ s targets m b g, .began s targets m b g ∈ past ∧ g.run m = p.run := by
  obtain ⟨event, hevent, hrun⟩ := List.mem_filterMap.1 (h.mem_begun_of_mem_progress hp)
  cases event with
  | began s targets m b g => exact ⟨s, targets, m, b, g, hevent, Option.some.inj hrun⟩
  | concluded g m b => simp [RunEvent.begun] at hrun
  | broken g m => simp [RunEvent.begun] at hrun

/-- A run in progress with the buffer of a run that has begun is that run. -/
theorem History.run_of_mem_progress (h : History past t) {s : Scatter} {targets : List Mediator}
    {m : Message} {b : Bus} {g : Gathering} (hbegan : .began s targets m b g ∈ past) {p : Progress}
    (hp : p ∈ t.progress) (hsame : p.run.buffer = g.buffer) : p.run = g.run m := by
  obtain ⟨s', targets', m', b', g', hbegan', hrun⟩ := h.began_of_mem_progress hp
  have hbuffer : g.buffer = g'.buffer := hsame.symm.trans (congrArg Run.buffer hrun).symm
  obtain ⟨-, -, rfl, -, rfl⟩ := RunEvent.began.inj (h.began_unique hbegan hbegan' hbuffer)
  exact hrun.symm

/-- The runs in progress have different buffers. -/
theorem History.nodup_progress (h : History past t) :
    (t.progress.map fun p => p.run.buffer).Nodup := by
  have hsame : (t.progress.map fun p => p.run.buffer) =
      ((t.runs.map Run.buffer : List Nat) : Multiset Nat) := by
    rw [← Multiset.map_coe, ← map_run_progress, Multiset.map_map]
    rfl
  rw [hsame, Multiset.coe_nodup]
  refine List.nodup_iff_count_le_one.2 fun ref => ?_
  have hbegun := List.nodup_iff_count_le_one.1 h.nodup_begun ref
  have hcount := h.runs fun r => r.buffer == ref
  simp only [List.count_eq_countP, List.countP_map] at hbegun ⊢
  exact Nat.le_trans (Nat.le_trans (Nat.le_add_right _ _) hcount) hbegun

theorem History.lt_of_mem_progress (h : History past t) {p : Progress} (hp : p ∈ t.progress) :
    p.run.buffer < t.bus.buffers.length := by
  rw [← List.mem_range, ← h.buffers]
  exact List.mem_map_of_mem (h.mem_begun_of_mem_progress hp)

/-- The start or the end of a branch in a log is a step on the way. -/
theorem Log.split {earlier later : List BranchMove} {move : BranchMove}
    (h : Log past (earlier ++ move :: later) t) : ∃ past₁ e t₁ t₂ past₂,
      past = past₁ ++ e.toList ++ past₂ ∧ Log past₁ earlier t₁ ∧ Logged t₁ e (some move) t₂ ∧
        Since t₂ past₂ t := by
  generalize hmoves : earlier ++ move :: later = moves at h
  induction h generalizing later with
  | fresh hbuffers haggregators hrung => simp at hmoves
  | @step past moves t t' e last h hs ih =>
    have inside {later' : List BranchMove} (hbefore : earlier ++ move :: later' = moves) :
        ∃ past₁ e₁ t₁ t₂ past₂, past ++ e.toList = past₁ ++ e₁.toList ++ past₂ ∧
          Log past₁ earlier t₁ ∧ Logged t₁ e₁ (some move) t₂ ∧ Since t₂ past₂ t' := by
      obtain ⟨past₁, e₁, t₁, t₂, past₂, rfl, hlog, hlogged, hsince⟩ := ih hbefore
      exact ⟨past₁, e₁, t₁, t₂, past₂ ++ e.toList, by simp, hlog, hlogged, hsince.step hs.step⟩
    cases last with
    | none => exact inside (by simpa using hmoves)
    | some last =>
      rw [Option.toList_some] at hmoves
      rcases List.eq_nil_or_concat later with rfl | ⟨later', x, rfl⟩
      · obtain ⟨rfl, hmove⟩ := List.append_inj' hmoves rfl
        obtain rfl := List.singleton_inj.1 hmove
        exact ⟨past, e, t, t', [], by simp, h, hs, .refl⟩
      · rw [List.concat_eq_append, ← List.cons_append, ← List.append_assoc] at hmoves
        exact inside (List.append_inj' hmoves rfl).1

/-- A run has begun before it starts or takes into account a branch. -/
theorem Log.split_of_began {earlier later : List BranchMove} {move : BranchMove}
    (h : Log past (earlier ++ move :: later) t) {s : Scatter} {targets : List Mediator}
    {m : Message} {b : Bus} {g : Gathering} (hbegan : .began s targets m b g ∈ past)
    (hsame : move.buffer = g.buffer) : ∃ past₁ e t₁ t₂ past₂,
      past = past₁ ++ e.toList ++ past₂ ∧ .began s targets m b g ∈ past₁ ∧ Log past₁ earlier t₁ ∧
        Logged t₁ e (some move) t₂ ∧ Since t₂ past₂ t := by
  obtain ⟨past₁, e, t₁, t₂, past₂, rfl, hlog, hlogged, hsince⟩ := h.split
  refine ⟨past₁, e, t₁, t₂, past₂, rfl, ?_, hlog, hlogged, hsince⟩
  obtain ⟨p, hp, hbuffer⟩ := hlogged.goes.exists_run
  obtain ⟨s', targets', m', b', g', hbegan', hrun⟩ := hlog.history.began_of_mem_progress hp
  rwa [h.history.began_unique hbegan (List.mem_append_left _ (List.mem_append_left _ hbegan'))
    ((hbuffer.trans hsame).symm.trans (congrArg Run.buffer hrun).symm)]

/-- A branch that was started or taken into account is one of a run that has begun. -/
theorem Log.lt_of_mem (h : Log past moves t) {move : BranchMove} (hmove : move ∈ moves) :
    move.buffer < t.bus.buffers.length := by
  obtain ⟨earlier, later, rfl⟩ := List.append_of_mem hmove
  obtain ⟨past₁, e, t₁, t₂, past₂, rfl, hlog, hlogged, hsince⟩ := h.split
  obtain ⟨p, hp, hsame⟩ := hlogged.goes.exists_run
  have hlt := hlog.history.lt_of_mem_progress hp
  rw [← hsame, ← List.mem_range, ← h.history.buffers, List.filterMap_append, List.filterMap_append,
    List.map_append, List.map_append, hlog.history.buffers]
  exact List.mem_append_left _ (List.mem_append_left _ (List.mem_range.2 hlt))

/-- The targets of a run that begins are numbered. -/
theorem History.numbers (h : History past t) {s : Scatter} {targets : List Mediator} {m : Message}
    {b : Bus} {g : Gathering} (hbegan : .began s targets m b g ∈ past) :
    g.scatter = s ∧ g.waiting = (List.range targets.length).zip targets ∧
      g.waiting.map Prod.fst = List.range g.waiting.length := by
  obtain ⟨b', hbegin⟩ := h.began hbegan
  obtain ⟨hscatter, hwaiting, -⟩ := Scatter.begin_eq_ok hbegin
  refine ⟨hscatter, hwaiting, ?_⟩
  rw [hwaiting, List.map_fst_zip (by simp), List.length_zip, List.length_range, Nat.min_self]

/-- The buffer of a run that begins is the next one. -/
theorem Step.buffer_of_began {s : Scatter} {targets : List Mediator} {m : Message} {b : Bus}
    {g : Gathering} (h : Step t (some (.began s targets m b g)) t') :
    g.buffer = t.bus.buffers.length := by
  obtain ⟨b', he, -⟩ := h.effect
  cases he with
  | began s targets m g hbegin => exact (RunEvent.Effect.began_runState hbegin).1

/-- The log of a run that has begun says where the run stands. -/
theorem Log.scheduled (h : Log past moves t) {s : Scatter} {targets : List Mediator} {m : Message}
    {b : Bus} {g : Gathering} (hbegan : .began s targets m b g ∈ past) :
    Scheduled g (BranchMove.starts g.buffer moves) (BranchMove.ends g.buffer moves) t.progress := by
  induction h with
  | fresh hbuffers haggregators hrung => simp at hbegan
  | @step past moves t t' e move h hs ih =>
    have hstep := hs.goes
    rw [BranchMove.starts_append, BranchMove.ends_append]
    rcases List.mem_append.1 hbegan with hbegan | hnow
    · -- the run has begun before, and goes on
      have hlt : g.buffer < t.bus.buffers.length := by
        rw [← List.mem_range, ← h.history.buffers]
        exact List.mem_map.2 ⟨g.run m, List.mem_filterMap.2 ⟨_, hbegan, rfl⟩, rfl⟩
      exact (ih hbegan).step (h.history.numbers hbegan).2.2 hstep h.history.nodup_progress
        (hs.step.not_mem_begun_of_lt hlt) fun p hp hsame =>
          congrArg Run.scatter (h.history.run_of_mem_progress hbegan hp hsame)
    · -- the run begins, and no branch before was one of it
      rw [Option.mem_toList] at hnow
      cases hnow
      have hnew := hs.step.buffer_of_began
      obtain ⟨rfl, hafter⟩ := hstep.of_began
      have hother (move : BranchMove) (hmove : move ∈ moves) : move.buffer ≠ g.buffer :=
        Nat.ne_of_lt (hnew ▸ h.lt_of_mem hmove)
      have hstarts : BranchMove.starts g.buffer moves = [] :=
        List.filterMap_eq_nil_iff.2 fun move hmove => BranchMove.startIn?_of_ne (hother move hmove)
      have hends : BranchMove.ends g.buffer moves = [] :=
        List.filterMap_eq_nil_iff.2 fun move hmove => BranchMove.endIn?_of_ne (hother move hmove)
      rw [hstarts, hends]
      refine .begun fun p hp hsame => ?_
      rcases Multiset.mem_cons.1 (Multiset.mem_of_le hafter hp) with rfl | hp
      · exact ⟨rfl, rfl⟩
      · exact absurd hsame (Nat.ne_of_lt (hnew ▸ h.history.lt_of_mem_progress hp))

end Traffic

end ServiceBus
