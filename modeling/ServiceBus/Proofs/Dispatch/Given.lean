import ServiceBus.Proofs.Dispatch.Channels
import ServiceBus.Proofs.Flow.Outcome

/-
ServiceBus.Proofs.Dispatch.Given — what a channel is given on the way of a flow.

A channel keeps every message that it was given. `Flow.Gives` is a course of a flow
together with the messages that one channel has got by the moves of this course, in their
order. As in `Flow.Reaches`, nothing is kept of the bus from one move to the next, so what
other flows give to the channel in between is not among them.

Every course has such a list, since no move takes anything back (`Flow.sent_of_step`), and
an attempt gives the message that it has to the channel of its dispatch, or fails
(`Flow.attempt_cases`).
-/
namespace ServiceBus.Flow

/-- A flow comes to another one by moves that are each made on a bus of the kind and lead to a
flow of the kind; `given` is what the channel is given by them. -/
inductive Gives (ok : Bus → Prop) (may : Flow → Prop) (channel : String) (f : Flow) :
    List Message → Flow → Prop where
  | refl : Gives ok may channel f [] f
  | move {given : List Message} {g g' : Flow} {bus bus' : Bus} {new : List SentMessage}
      (h : Gives ok may channel f given g) (hok : ok bus) (hs : g.step bus = some (g', bus'))
      (hmay : may g')
      (hnew : (bus'.transport channel).sent = new ++ (bus.transport channel).sent) :
      Gives ok may channel f (given ++ new.reverse.map SentMessage.message) g'

/-! ## What a move gives away -/

section Moves

variable {f f' : Flow} {bus bus' : Bus}

theorem sent_transmit (channel : String) (address : Option String) (m : Message)
    (k : List Pending) (bus : Bus) (other : String) :
    ((transmit channel address m k bus).2.transport other).sent =
      (if other = channel then [⟨address.or m.destination, m⟩] else []) ++
        (bus.transport other).sent := by
  obtain ⟨hsent, -⟩ := (bus.transport channel).accept_spec (address.or m.destination) m
  by_cases h : other = channel
  · subst h
    rw [transmit, Bus.transport_setTransport, if_pos rfl]
    exact hsent
  · rw [transmit, Bus.transport_setTransport_of_ne h, if_neg h]
    rfl

/-- An attempt fails before it sends, or it gives its message to its channel. -/
theorem attempt_cases (d : Dispatch) (m : Message) (k : List Pending) (bus : Bus) :
    (∃ e bus', attempt d m k bus = (answer m (.failed e) k, bus') ∧
      bus'.transports = bus.transports) ∨
    ∃ outcome edits deadline bus', attempt d m k bus =
        (.busy m (.transmit outcome edits) (.attempt d bus.now deadline :: k), bus') ∧
      ∀ channel, (bus'.transport channel).sent =
        (if channel = d.channel then [⟨d.address.or m.destination, m⟩] else []) ++
          (bus.transport channel).sent := by
  unfold attempt
  split
  · exact .inl ⟨_, _, rfl, rfl⟩
  · split
    · exact .inl ⟨_, _, rfl, rfl⟩
    · right
      cases d.timeout.limit with
      | none =>
        have hsent := sent_transmit d.channel d.address m (.attempt d bus.now none :: k) bus
        exact ⟨_, _, _, _, rfl, hsent⟩
      | some limit =>
        have hsent := sent_transmit d.channel d.address m
          (.attempt d bus.now (some (bus.startTimer limit).1) :: k) (bus.startTimer limit).2
        exact ⟨_, _, _, _, rfl, hsent⟩

/-- What a channel has got so far stays. -/
theorem sent_of_step (h : f.step bus = some (f', bus')) (channel : String) :
    ∃ new, (bus'.transport channel).sent = new ++ (bus.transport channel).sent := by
  have same (htransports : bus'.transports = bus.transports) :
      ∃ new, (bus'.transport channel).sent = new ++ (bus.transport channel).sent :=
    ⟨[], by rw [Bus.transport_congr htransports]; rfl⟩
  obtain hservice | ⟨m, task, k, g, -, hloud, hw, -⟩ := service_of_step f h
  · exact same (congrArg Service.transports hservice)
  · cases hloud with
    | attempt d =>
      obtain hw : some (attempt d m k bus) = some (g, bus') := hw
      obtain ⟨e, b, he, htransports⟩ | ⟨outcome, edits, deadline, b, he, hsent⟩ :=
        attempt_cases d m k bus
      · obtain ⟨-, rfl⟩ := Prod.mk.inj (Option.some.inj (hw.symm.trans (congrArg some he)))
        exact same htransports
      · obtain ⟨-, rfl⟩ := Prod.mk.inj (Option.some.inj (hw.symm.trans (congrArg some he)))
        exact ⟨_, hsent channel⟩
    | ended r d started deadline k =>
      have hended := transports_ended r d started deadline m k bus
      obtain hw : some (resume r m (.attempt d started deadline) k bus) = some (g, bus') := hw
      rw [Option.some.inj hw] at hended
      exact same hended
    | @implicit c hc k =>
      obtain hw : some (call c m k bus) = some (g, bus') := hw
      obtain ⟨_, _, _, -, hx, -, hservice⟩ | ⟨sent, p, b, -, hservice, hcall⟩ :=
        call_cases c m k bus
      · rw [Option.some.inj hw] at hservice
        exact same (congrArg Service.transports hservice)
      · simp only [hcall, send, hc] at hw
        have hsent := sent_transmit c.transport none sent (.implicit c.mode :: p :: k) b channel
        rw [Option.some.inj hw, Bus.transport_congr (congrArg Service.transports hservice)] at hsent
        exact ⟨_, hsent⟩

/-- A busy flow gives a message away only where it makes an attempt, or begins a call without
endpoint. -/
theorem transports_of_work {m : Message} {task : Task} {k : List Pending}
    (hs : (busy m task k).step bus = some (f', bus')) (hattempt : ∀ d, task ≠ .attempt d)
    (hcall : ∀ c, task = .mediate (.call c) → c.endpoint ≠ none) :
    bus'.transports = bus.transports := by
  by_cases hloud : Loud task k
  · cases hloud with
    | attempt d => exact absurd rfl (hattempt d)
    | implicit hnone => exact absurd hnone (hcall _ rfl)
    | ended r d started deadline k =>
      have hended := transports_ended r d started deadline m k bus
      have hw : some (resume r m (.attempt d started deadline) k bus) = some (f', bus') := hs
      rwa [Option.some.inj hw] at hended
  · exact congrArg Service.transports (service_of_work hs hloud)

section New

variable {channel : String} {new : List SentMessage} {m : Message} {k : List Pending}

theorem new_of_transports (htransports : bus'.transports = bus.transports)
    (hnew : (bus'.transport channel).sent = new ++ (bus.transport channel).sent) :
    new.reverse.map SentMessage.message = [] := by
  rw [Bus.transport_congr htransports] at hnew
  rw [List.self_eq_append_left.1 hnew]
  rfl

/-- What an attempt gives to the channel of its dispatch. -/
theorem new_of_attempt {d : Dispatch} (hs : (busy m (.attempt d) k).step bus = some (f', bus'))
    (hnew : (bus'.transport d.channel).sent = new ++ (bus.transport d.channel).sent) :
    (new.reverse.map SentMessage.message = [] ∧ ∃ e, f' = answer m (.failed e) k) ∨
      (new.reverse.map SentMessage.message = [m] ∧ ∃ outcome edits deadline,
        f' = .busy m (.transmit outcome edits) (.attempt d bus.now deadline :: k)) := by
  have hs : some (attempt d m k bus) = some (f', bus') := hs
  obtain ⟨e, b, he, htransports⟩ | ⟨outcome, edits, deadline, b, he, hsent⟩ :=
    attempt_cases d m k bus
  all_goals obtain ⟨rfl, rfl⟩ := Prod.mk.inj (Option.some.inj (hs.symm.trans (congrArg some he)))
  · exact .inl ⟨new_of_transports htransports hnew, e, rfl⟩
  · have hsent := hsent d.channel
    rw [if_pos rfl] at hsent
    obtain rfl := List.append_cancel_right (hnew.symm.trans hsent)
    exact .inr ⟨rfl, outcome, edits, deadline, rfl⟩

end New

end Moves

/-! ## Courses -/

variable {ok : Bus → Prop} {may : Flow → Prop} {channel : String} {f g : Flow}
  {given : List Message}

/-- Every course has its list. -/
theorem Reaches.gives (h : Reaches ok f g) (channel : String) :
    ∃ given, Gives ok (fun _ => True) channel f given g := by
  induction h with
  | refl => exact ⟨[], .refl⟩
  | move _ hok hs ih =>
    obtain ⟨given, ih⟩ := ih
    obtain ⟨new, hnew⟩ := sent_of_step hs channel
    exact ⟨_, .move ih hok hs trivial hnew⟩

namespace Gives

theorem reaches (h : Gives ok may channel f given g) : Reaches ok f g := by
  induction h with
  | refl => exact .refl
  | move _ hok hs _ _ ih => exact .move ih hok hs

theorem of_step {f' : Flow} {bus bus' : Bus} {new : List SentMessage} (hok : ok bus)
    (hs : f.step bus = some (f', bus')) (hmay : may f')
    (hnew : (bus'.transport channel).sent = new ++ (bus.transport channel).sent)
    (h : Gives ok may channel f' given g) :
    Gives ok may channel f (new.reverse.map SentMessage.message ++ given) g := by
  induction h with
  | refl =>
    rw [List.append_nil]
    exact .move .refl hok hs hmay hnew
  | move _ hok' hs' hmay' hnew' ih =>
    rw [← List.append_assoc]
    exact .move ih hok' hs' hmay' hnew'

/-- The first move, if there is one, and what it gives away. -/
theorem eq_or_step (h : Gives ok may channel f given g) :
    (g = f ∧ given = []) ∨ ∃ bus f' bus' new rest, ok bus ∧ f.step bus = some (f', bus') ∧
      may f' ∧ (bus'.transport channel).sent = new ++ (bus.transport channel).sent ∧
      given = new.reverse.map SentMessage.message ++ rest ∧ Gives ok may channel f' rest g := by
  induction h with
  | refl => exact .inl ⟨rfl, rfl⟩
  | move _ hok hs hmay hnew ih =>
    right
    obtain ⟨rfl, rfl⟩ | ⟨bus₀, f₀, bus₁, new₀, rest, hok₀, hs₀, hmay₀, hnew₀, rfl, h₀⟩ := ih
    · exact ⟨_, _, _, _, [], hok, hs, hmay, hnew, by simp, .refl⟩
    · exact ⟨bus₀, f₀, bus₁, new₀, _, hok₀, hs₀, hmay₀, hnew₀, List.append_assoc ..,
        .move h₀ hok hs hmay hnew⟩

/-- A flow that has come to its end gives nothing away. -/
theorem of_answer {m : Message} {r : Reply} (h : Gives ok may channel (answer m r []) given g) :
    g = answer m r [] ∧ given = [] := by
  obtain h | ⟨bus, f', bus', new, rest, -, hs, -⟩ := h.eq_or_step
  · exact h
  · simp [answer, step, work] at hs

/-- A flow with more work behind it is still on its way, or it has come to its end and goes on
with that work. -/
theorem of_andThen {later : List Pending} (hlater : ∀ p ∈ later, p.isAttempt = false)
    (hmay : ∀ f : Flow, may (f.andThen later) → may f)
    (h : Gives ok may channel (f.andThen later) given g) :
    (∃ f', g = f'.andThen later ∧ Gives ok may channel f given f') ∨
      ∃ m r before behind, given = before ++ behind ∧
        Gives ok may channel f before (answer m r []) ∧
        Gives ok may channel (answer m r later) behind g := by
  induction h with
  | refl => exact .inl ⟨f, rfl, .refl⟩
  | move _ hok hs hmay' hnew ih =>
    obtain ⟨f', rfl, hf'⟩ | ⟨m, r, before, behind, rfl, hend, hbehind⟩ := ih
    · cases hfinished : f'.finished? with
      | none =>
        rw [step_andThen hfinished hlater] at hs
        obtain ⟨⟨f'', bus''⟩, hs', he⟩ := Option.map_eq_some_iff.1 hs
        obtain ⟨rfl, rfl⟩ := Prod.mk.inj he
        exact .inl ⟨f'', rfl, .move hf' hok hs' (hmay _ hmay') hnew⟩
      | some outcome =>
        obtain ⟨m, r⟩ := outcome
        obtain rfl := finished?_eq_some.1 hfinished
        exact .inr ⟨m, r, _, _, rfl, hf', .move .refl hok hs hmay' hnew⟩
    · exact .inr ⟨m, r, before, _, List.append_assoc .., hend, .move hbehind hok hs hmay' hnew⟩

/-- A run is a course that gives all that the channel gets by it. -/
theorem run (limit : Nat) {bus : Bus} (hok : ∀ i < limit, ok (f.run i bus).2)
    (hmay : ∀ i < limit, may (f.run (i + 1) bus).1) :
    ∃ given, Gives ok may channel f given (f.run limit bus).1 ∧
      ((f.run limit bus).2.transport channel).calls.map SentMessage.message =
        (bus.transport channel).calls.map SentMessage.message ++ given := by
  induction limit generalizing f bus with
  | zero => exact ⟨[], .refl, (List.append_nil _).symm⟩
  | succ limit ih =>
    cases hs : f.step bus with
    | none =>
      simp only [Flow.run, hs]
      exact ⟨[], .refl, (List.append_nil _).symm⟩
    | some x =>
      obtain ⟨f', bus'⟩ := x
      have hrun (i : Nat) : f.run (i + 1) bus = f'.run i bus' := by simp only [Flow.run, hs]
      obtain ⟨new, hnew⟩ := sent_of_step hs channel
      have hok' (i : Nat) (hi : i < limit) : ok (f'.run i bus').2 := by
        rw [← hrun]
        exact hok (i + 1) (Nat.succ_lt_succ hi)
      have hmay' (i : Nat) (hi : i < limit) : may (f'.run (i + 1) bus').1 := by
        rw [← hrun]
        exact hmay (i + 1) (Nat.succ_lt_succ hi)
      obtain ⟨given, hcourse, hgiven⟩ := ih hok' hmay'
      have hfirst : may f' := by
        have hfirst := hmay 0 (Nat.succ_pos _)
        rwa [hrun] at hfirst
      rw [hrun]
      refine ⟨_, .of_step (hok 0 (Nat.succ_pos _)) hs hfirst hnew hcourse, ?_⟩
      rw [hgiven, Transport.calls, Transport.calls, hnew, List.reverse_append, List.map_append,
        List.append_assoc]

end Gives

end ServiceBus.Flow
