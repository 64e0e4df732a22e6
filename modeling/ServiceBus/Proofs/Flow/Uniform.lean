import ServiceBus.Flow.Step

/-
ServiceBus.Proofs.Flow.Uniform — a flow goes on in the same way whatever work
is left for later.

Every function that lets a busy flow go on is given the pending work `k`
behind the task at hand. `Goes P F` says that such a function `F` only ever puts
more work on top of `k`: the message, the task, the work on top and the bus that
it gives do not depend on `k`, and task and work on top satisfy `P`. There is one
lemma for each of these functions, so that no proof about flows has to look into
them again.

The property used for `P` is `Encloses`: below the task there is nothing new, and
then it is not the entering of a mediator, or the outermost of what is new is
not the work of a sequence. All functions but those of sequences satisfy it, so
what they enter is never a child of a sequence that was there before.
-/
namespace ServiceBus

/-- Whether pending work is that of a sequence. -/
def Pending.isChildren : Pending → Bool
  | .children .. => true
  | _ => false

namespace Flow

/-- Nothing is put on top and no mediator is entered, or the outermost of what is put
on top is not the work of a sequence. -/
def Encloses (task : Task) (top : List Pending) : Prop :=
  match top.getLast? with
  | none => ∀ mediator, task ≠ .mediate mediator
  | some p => p.isChildren = false

/-- `F` puts work on top of the pending work that it is given, always the same. -/
def Goes (P : Task → List Pending → Prop) (F : List Pending → Flow × Bus) : Prop :=
  ∃ m task top bus, P task top ∧ ∀ k, F k = (.busy m task (top ++ k), bus)

section Goes

variable {m : Message} {bus : Bus}

theorem Goes.mono {P Q : Task → List Pending → Prop} {F : List Pending → Flow × Bus}
    (h : Goes P F) (hPQ : ∀ task top, P task top → Q task top) : Goes Q F := by
  obtain ⟨m, task, top, bus, hP, hF⟩ := h
  exact ⟨m, task, top, bus, hPQ task top hP, hF⟩

/-- A task other than entering a mediator may stand on top of anything. -/
theorem goes_of_not_mediate {task : Task} (h : ∀ x, task ≠ .mediate x) :
    Goes Encloses fun k => (.busy m task k, bus) :=
  ⟨m, task, [], bus, h, fun _ => rfl⟩

/-- Any task may stand on top of work that is not that of a sequence. -/
theorem goes_of_one (task : Task) {p : Pending} (hp : p.isChildren = false) :
    Goes Encloses fun k => (.busy m task (p :: k), bus) :=
  ⟨m, task, [p], bus, hp, fun _ => rfl⟩

theorem goes_answer (m : Message) (r : Reply) (bus : Bus) :
    Goes Encloses fun k => (answer m r k, bus) :=
  goes_of_not_mediate (by simp)

theorem goes_runHandler (m : Message) (handled unhandled : Reply) (bus : Bus) :
    Goes Encloses fun k => (runHandler m handled unhandled k, bus) := by
  cases h : m.takeHandler with
  | none =>
    simp only [runHandler, h]
    exact goes_answer m unhandled bus
  | some next =>
    simp only [runHandler, h]
    exact goes_of_one _ rfl

theorem goes_record (r : Recorder) (m : Message) (bus : Bus) :
    Goes Encloses fun k => (record r m k, bus) := by
  cases he : r.error with
  | some e =>
    simp only [record, he]
    exact goes_answer m _ bus
  | none =>
    cases hd : r.divert with
    | true =>
      simp only [record, he, hd, if_true]
      exact goes_runHandler _ _ _ bus
    | false =>
      simp only [record, he, hd, Bool.false_eq_true, if_false]
      exact goes_answer _ _ bus

theorem goes_divert (e : Failure) (m : Message) (bus : Bus) :
    Goes Encloses fun k => (divert e m k, bus) := by
  cases hd : e.isDispatch with
  | false =>
    cases e with
    | timeout note => exact absurd hd (by simp [Failure.isDispatch])
    | dispatch code text detail => exact absurd hd (by simp [Failure.isDispatch])
    | suspended endpoint code remaining => exact absurd hd (by simp [Failure.isDispatch])
    | _ =>
      simp only [divert, hd, Bool.not_false, if_true]
      exact goes_answer m _ bus
  | true =>
    cases e with
    | timeout note => exact goes_answer _ _ bus
    | dispatch code text detail =>
      simp only [divert, hd, Bool.not_true, Bool.false_eq_true, if_false]
      exact goes_runHandler _ _ _ bus
    | suspended endpoint code remaining =>
      simp only [divert, hd, Bool.not_true, Bool.false_eq_true, if_false]
      exact goes_runHandler _ _ _ bus
    | _ => exact absurd hd (by simp [Failure.isDispatch])

theorem goes_dispatch (endpoint channel : String) (mode : SendMode) (m : Message) (bus : Bus) :
    Goes Encloses fun k => dispatch endpoint channel mode m k bus := by
  cases h : bus.concrete endpoint with
  | error e =>
    simp only [dispatch, h]
    exact goes_answer m _ bus
  | ok e =>
    simp only [dispatch, h]
    exact goes_of_not_mediate (by simp)

theorem goes_transmit (channel : String) (address : Option String) (m : Message) (bus : Bus) :
    Goes Encloses fun k => transmit channel address m k bus := by
  simp only [transmit]
  exact goes_of_not_mediate (by simp)

/-- What goes on below one more piece of work that is not that of a sequence goes on. -/
theorem Goes.below {F : List Pending → Flow × Bus} (h : Goes Encloses F) {p : Pending}
    (hp : p.isChildren = false) : Goes Encloses fun k => F (p :: k) := by
  obtain ⟨m, task, top, bus, -, hF⟩ := h
  refine ⟨m, task, top ++ [p], bus, ?_, fun k => ?_⟩
  · rw [Encloses, List.getLast?_concat]
    exact hp
  · show F (p :: k) = _
    rw [hF, List.append_assoc]
    rfl

theorem goes_attempt (d : Dispatch) (m : Message) (bus : Bus) :
    Goes Encloses fun k => attempt d m k bus := by
  cases h : bus.endpoint d.endpoint with
  | error e =>
    simp only [attempt, h]
    exact goes_answer m _ bus
  | ok e =>
    cases hr : e.health.refusal bus.now with
    | some remaining =>
      simp only [attempt, h, hr]
      exact goes_answer m _ _
    | none =>
      cases hl : d.timeout.limit with
      | none =>
        simp only [attempt, h, hr, hl]
        exact (goes_transmit _ _ m _).below rfl
      | some limit =>
        simp only [attempt, h, hr, hl]
        exact (goes_transmit _ _ m _).below rfl

theorem goes_delivered (d : Dispatch) (started : Time) (m : Message) (bus : Bus) :
    Goes Encloses fun k => delivered d started m k bus := by
  simp only [delivered]
  exact goes_answer m _ _

theorem goes_undelivered (d : Dispatch) (started : Time) (fault : TransportFault) (m : Message)
    (bus : Bus) : Goes Encloses fun k => undelivered d started fault m k bus := by
  unfold undelivered
  simp only
  split
  · exact goes_answer m _ _
  · split
    · split
      · exact goes_of_not_mediate (by simp)
      · exact goes_of_one _ rfl
    · exact goes_answer _ _ _

theorem goes_send (c : Call) (m : Message) (bus : Bus) :
    Goes Encloses fun k => send c m k bus := by
  cases h : c.endpoint with
  | some endpoint =>
    simp only [send, h]
    exact goes_dispatch _ _ _ m bus
  | none =>
    simp only [send, h]
    exact (goes_transmit _ _ m bus).below rfl

theorem goes_call (c : Call) (m : Message) (bus : Bus) :
    Goes Encloses fun k => call c m k bus := by
  unfold call
  split
  · exact goes_answer m _ bus
  · simp only
    split
    · exact goes_answer _ _ bus
    · split
      · exact (goes_send c _ bus).below rfl
      · split
        · exact (goes_send c _ _).below rfl
        · exact (goes_send c _ bus).below rfl

theorem goes_edit (edits : List (Edit Mediator)) (findings : List Finding) (m : Message)
    (bus : Bus) : Goes Encloses fun k => edit edits findings m k bus := by
  unfold edit
  split
  · exact goes_answer m _ bus
  · exact (goes_runHandler m _ _ bus).below rfl
  · exact goes_of_not_mediate (by simp)

theorem goes_deliver (outcome : Outcome) (edits : List (Edit Mediator)) (m : Message)
    (bus : Bus) : Goes Encloses fun k => deliver outcome edits m k bus := by
  cases outcome with
  | success => exact goes_of_one _ rfl
  | respond p => exact goes_of_one _ rfl
  | fault f => exact goes_answer m _ bus
  | hang => exact goes_of_not_mediate (by simp)
  | after delay rest => exact goes_of_one _ rfl

/-- Work that is not that of a sequence goes on below anything. -/
theorem goes_resume (r : Reply) (m : Message) {p : Pending} (hp : p.isChildren = false)
    (bus : Bus) : Goes Encloses fun k => resume r m p k bus := by
  cases p with
  | children s position rest => simp [Pending.isChildren] at hp
  | record recorder => exact goes_record recorder m bus
  | edits rest findings => exact goes_of_not_mediate (by simp)
  | reply r' =>
    simp only [resume]
    split
    · exact goes_answer m _ bus
    · exact goes_answer m _ bus
  | blockingCall c envelope handler =>
    simp only [resume, afterBlockingCall]
    split
    · exact goes_divert _ _ bus
    · split
      · exact goes_answer m _ bus
      · split
        · exact goes_answer m _ bus
        · exact goes_answer _ _ bus
  | handOff c =>
    simp only [resume, afterHandOff]
    split
    · exact goes_divert _ _ bus
    · exact goes_answer m _ bus
  | outOnly c left =>
    simp only [resume, afterOutOnly]
    split
    · exact goes_divert _ _ bus
    · exact goes_answer left _ bus
  | implicit mode =>
    simp only [resume]
    split
    · exact goes_answer _ _ bus
    · exact goes_answer m _ bus
  | attempt d started deadline =>
    simp only [resume]
    split
    · exact goes_undelivered d started _ m bus
    · exact goes_delivered d started m bus
  | retry d => exact goes_of_not_mediate (by simp)
  | transmit outcome edits => exact goes_of_not_mediate (by simp)

theorem goes_mediate {mediator : Mediator} (hs : ∀ s targets, mediator ≠ .scatter s targets)
    (hc : ∀ name kind children onError, mediator ≠ .sequence name kind children onError)
    (m : Message) (bus : Bus) : Goes Encloses fun k => mediate mediator m k bus := by
  cases mediator with
  | recorder r =>
    cases hd : r.delay with
    | some delay =>
      simp only [mediate, hd]
      exact goes_of_one _ rfl
    | none =>
      simp only [mediate, hd]
      exact goes_record r _ _
  | editor name edits result => exact goes_of_one _ rfl
  | call c => exact goes_call c m bus
  | sequence name kind children onError => exact absurd rfl (hc name kind children onError)
  | scatter s targets => exact absurd rfl (hs s targets)

/-! ## Sequences -/

/-- The next child is entered, or the sequence is through. -/
theorem goes_children (s : SequenceRun) (position : Nat) (rest : List Mediator) (m : Message)
    (bus : Bus) : Goes (fun _ _ => True) fun k => (children s position rest m k, bus) := by
  cases rest with
  | nil => exact (goes_answer _ _ bus).mono fun _ _ _ => trivial
  | cons child rest =>
    exact ⟨_, .mediate child, [.children s position rest], bus, trivial, fun _ => rfl⟩

theorem goes_mediate_sequence (name : String) (kind : SequenceKind) (children : List Mediator)
    (onError : Option Mediator) (m : Message) (bus : Bus) :
    Goes (fun _ _ => True) fun k => mediate (.sequence name kind children onError) m k bus := by
  cases onError with
  | none => exact goes_children _ _ _ _ bus
  | some handler => exact goes_children _ _ _ _ _

/-- All work goes on below anything. -/
theorem goes_resume_of (r : Reply) (m : Message) (p : Pending) (bus : Bus) :
    Goes (fun _ _ => True) fun k => resume r m p k bus := by
  by_cases hp : p.isChildren = true
  · cases p with
    | children s position rest =>
      simp only [resume]
      split
      · exact goes_children s (position + 1) rest m bus
      · exact (goes_answer m _ bus).mono fun _ _ _ => trivial
      · exact (goes_answer m _ bus).mono fun _ _ _ => trivial
    | _ => exact absurd hp (by simp [Pending.isChildren])
  · exact (goes_resume r m (Bool.eq_false_iff.2 hp) bus).mono fun _ _ _ => trivial

/-! ## Waiting -/

/-- An attempt that is cut off is refused, with the work from the attempt on. -/
theorem cut?_eq_some {k : List Pending} {f : Flow} (h : cut? m bus k = some f) :
    ∃ m' r p k', f = answer m' r (p :: k') ∧ p :: k' <:+ k := by
  induction k generalizing m with
  | nil => simp [cut?] at h
  | cons p k ih =>
    have later {m : Message} (h : cut? m bus k = some f) :
        ∃ m' r q k', f = answer m' r (q :: k') ∧ q :: k' <:+ p :: k := by
      obtain ⟨m', r, q, k', hf, hk⟩ := ih h
      exact ⟨m', r, q, k', hf, hk.trans (List.suffix_cons p k)⟩
    cases p with
    | outOnly c left => exact later h
    | attempt d started deadline =>
      cases deadline with
      | none => exact later h
      | some t =>
        simp only [cut?] at h
        split at h
        · exact ⟨_, _, _, _, (Option.some.inj h).symm, List.suffix_refl _⟩
        · exact later h
    | _ => exact later h

/-! ## Moves -/

/-- What is known of what a function gives is known of the flow that goes on. -/
theorem of_move {P : Flow → Prop} {x : Flow × Bus} {f : Flow} {bus' : Bus} (hx : P x.1)
    (h : some x = some (f, bus')) : P f := by
  rwa [Option.some.inj h] at hx

/-- A flow that waits goes on only with an attempt that is cut off, on the bus as it is. -/
theorem cut_of_move {k : List Pending} {f : Flow} {bus' : Bus}
    (h : (cut? m bus k).map (fun f => (f, bus)) = some (f, bus')) :
    cut? m bus k = some f ∧ bus' = bus := by
  obtain ⟨f', hcut, he⟩ := Option.map_eq_some_iff.1 h
  obtain ⟨rfl, rfl⟩ := Prod.mk.inj he
  exact ⟨hcut, rfl⟩

end Goes

end Flow

end ServiceBus
