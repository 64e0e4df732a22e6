import ServiceBus.Proofs.Bus.Runs
import ServiceBus.Proofs.Call.Sending
import ServiceBus.Proofs.Dispatch.Attempts
import ServiceBus.Proofs.Dispatch.Endpoints
import ServiceBus.Proofs.Dispatch.Service
import ServiceBus.Proofs.Flow.Inevitable
import ServiceBus.Proofs.Time

/-
ServiceBus.Proofs.Dispatch.Alone — a send that has an endpoint for itself.

`Flow.alone` is a flow together with the clock that it waits for: it moves as long as it
can, and when it has to wait, the clock goes to the next of its timers. Beside it stands
what its channels did so far with the attempts that it made. Between two moves others may
do on the bus whatever they like, except with the endpoint, and no time passes (`Apart`).

`Scene` is what stays known of the bus meanwhile. On such a bus an attempt that a channel
was given comes to the end that `Dispatch.result?` says, at the time it says, and nothing
has happened to the endpoint until then (`Comes.transmit`).
-/
namespace ServiceBus

/-! ## Channels -/

namespace Transport

variable {t : Transport} {d : Dispatch} {o : Outcome}

/-- What a channel may do with a send. -/
def Gives (t : Transport) (o : Outcome) : Prop :=
  o ∈ t.script ∨ o = t.standing ∨ ∃ address outcomes,
    t.byAddress.get? address = some outcomes ∧ o ∈ outcomes

/-- A channel for which every attempt comes to an end, and that hands no message to its fault
handlers. -/
structure Serves (t : Transport) (d : Dispatch) : Prop where
  plain : t.Plain
  ends : ∀ o, t.Gives o → ∃ result, d.result? o = some result

theorem gives_nextOutcome (t : Transport) (address : Option String) :
    t.Gives (t.nextOutcome address).1 ∧
      ∀ o, (t.nextOutcome address).2.Gives o → t.Gives o := by
  have hcommon : t.Gives (t.nextOutcome none).1 ∧
      ∀ o, (t.nextOutcome none).2.Gives o → t.Gives o := by
    unfold nextOutcome
    simp only
    split
    · next o rest hscript =>
      refine ⟨.inl (by simp [hscript]), ?_⟩
      rintro o' (ho | ho)
      · exact .inl (by simp [hscript, ho])
      · exact .inr ho
    · exact ⟨.inr (.inl rfl), fun _ ho => ho⟩
  cases address with
  | none => exact hcommon
  | some a =>
    unfold nextOutcome
    simp only
    split
    · next o rest hfound =>
      refine ⟨.inr (.inr ⟨a, _, hfound, List.mem_cons_self⟩), ?_⟩
      rintro o' (ho | rfl | ⟨address, outcomes, houtcomes, ho⟩)
      · exact .inl ho
      · exact .inr (.inl rfl)
      · rw [Dict.get?_insert] at houtcomes
        split at houtcomes
        · next haddress =>
          obtain rfl := Option.some.inj houtcomes
          exact .inr (.inr ⟨a, _, hfound, List.mem_cons_of_mem o ho⟩)
        · exact .inr (.inr ⟨address, outcomes, houtcomes, ho⟩)
    · exact hcommon

/-- A channel that takes a message settles what becomes of it, and serves as before. -/
theorem Serves.accept (h : t.Serves d) (address : Option String) (m : Message) :
    (∃ result, d.result? (t.accept address m).1 = some result) ∧
      (t.accept address m).2.Serves d := by
  obtain ⟨hgiven, hkept⟩ := gives_nextOutcome
    { t with sent := ⟨address, m⟩ :: t.sent, sends := t.sends + 1 } address
  refine ⟨h.ends _ hgiven, ?_, ?_⟩
  · rw [Plain, (t.accept_spec address m).2]
    exact h.plain
  · intro o ho
    exact h.ends o (hkept o ho)

end Transport

theorem Bus.hasRung_of_le {b : Bus} {t : Timer} (h : t.due ≤ b.rung) : b.hasRung t = true :=
  decide_eq_true h

theorem Bus.hasRung_of_lt {b : Bus} {t : Timer} (h : b.rung < t.due) : b.hasRung t = false :=
  decide_eq_false (not_le_of_gt h)

namespace Flow

/-! ## A flow and its clock -/

/-- The time at which the next of the timers rings that a flow waits for. -/
def nextDue? (f : Flow) : Option Time := (f.timers.map Timer.due).min?

/-- The attempt that a move begins: its time, and what the channel does with it. -/
def begun? : Flow → Flow → Option (Time × Outcome)
  | .busy _ (.attempt _) _, .busy _ (.transmit outcome _) (.attempt _ started _ :: _) =>
    some (started, outcome)
  | _, _ => none

/-- One move of a flow, or else of the clock that it waits for. -/
def alone (x : Flow × List (Time × Outcome)) (b : Bus) :
    Option ((Flow × List (Time × Outcome)) × Bus) :=
  match x.1.step b with
  | some (f, b) => some ((f, x.2 ++ (x.1.begun? f).toList), b)
  | none => x.1.nextDue?.map fun due =>
    (x, { b with now := max b.now due, rung := max b.now due })

/-- What others do while a send is under way: they leave its endpoint alone, and its channel
still serves. -/
structure Apart (d : Dispatch) (b b' : Bus) : Prop where
  now : b'.now = b.now
  rung : b'.rung = b.rung
  endpoint : b'.endpoints.get? d.endpoint = b.endpoints.get? d.endpoint
  serves : (b.transport d.channel).Serves d → (b'.transport d.channel).Serves d

theorem Apart.refl (d : Dispatch) (b : Bus) : Apart d b b := ⟨rfl, rfl, rfl, fun h => h⟩

/-- A bus on which the endpoint of a send has some health, at a time. -/
structure Scene (d : Dispatch) (e : Endpoint) (h : Health) (now rung : Time) (b : Bus) : Prop where
  registered : b.endpoints.get? d.endpoint = some { e with health := h }
  now : b.now = now
  rung : b.rung = rung
  serves : (b.transport d.channel).Serves d

variable {d : Dispatch} {e : Endpoint} {h : Health} {now rung : Time} {b b' : Bus}

namespace Scene

theorem apart (hscene : Scene d e h now rung b) (hw : Apart d b b') :
    Scene d e h now rung b' := by
  refine ⟨?_, hw.now.trans hscene.now, hw.rung.trans hscene.rung, hw.serves hscene.serves⟩
  rw [hw.endpoint]
  exact hscene.registered

/-- A change that leaves the endpoints, the channels and the clock alone. -/
theorem congr (hscene : Scene d e h now rung b) (hendpoints : b'.endpoints = b.endpoints)
    (htransports : b'.transports = b.transports) (hrun : b'.runState = b.runState) :
    Scene d e h now rung b' := by
  refine ⟨?_, (congrArg RunState.now hrun).trans hscene.now,
    (congrArg RunState.rung hrun).trans hscene.rung, ?_⟩
  · rw [hendpoints]
    exact hscene.registered
  · rw [Bus.transport_congr htransports]
    exact hscene.serves

theorem measure (hscene : Scene d e h now rung b) (x : Metric) :
    Scene d e h now rung (b.measure x) := hscene.congr rfl rfl rfl

theorem startTimer (hscene : Scene d e h now rung b) (delay : Nat) :
    Scene d e h now rung (b.startTimer delay).2 := hscene.congr rfl rfl rfl

theorem due_startTimer (hscene : Scene d e h now rung b) (delay : Nat) :
    (b.startTimer delay).1.due = now + delay := by
  rw [← hscene.now]
  rfl

/-- The health of the endpoint changes. -/
theorem updateHealth (hscene : Scene d e h now rung b) (f : Health → Health) :
    Scene d e (f h) now rung (b.updateHealth d.endpoint f) := by
  refine ⟨?_, hscene.now, hscene.rung, hscene.serves⟩
  rw [Bus.updateHealth, Dict.get?_modify, if_pos rfl, hscene.registered]
  rfl

end Scene

/-- A send comes to a state in which `P` holds. -/
abbrev Comes (d : Dispatch) (P : Flow × List (Time × Outcome) → Bus → Prop) (f : Flow)
    (given : List (Time × Outcome)) (b : Bus) : Prop :=
  Inevitably alone (Apart d) P (f, given) b

namespace Comes

variable {P : Flow × List (Time × Outcome) → Bus → Prop} {f : Flow} {given : List (Time × Outcome)}
  {m : Message} {k : List Pending}

/-- A move that the flow can make. -/
theorem move (hscene : Scene d e h now rung b)
    (hmove : ∀ b', Scene d e h now rung b' → ∃ f' b'', f.step b' = some (f', b'') ∧
      Comes d P f' (given ++ (f.begun? f').toList) b'') : Comes d P f given b := by
  refine .of_step (Apart.refl d b) fun b' hw => ?_
  obtain ⟨f', b'', hs, hcomes⟩ := hmove b' (hscene.apart hw)
  refine ⟨_, b'', ?_, hcomes⟩
  simp [alone, hs]

/-- A move that begins no attempt. -/
theorem move_on (hscene : Scene d e h now rung b)
    (hmove : ∀ b', Scene d e h now rung b' → ∃ f' b'', f.step b' = some (f', b'') ∧
      f.begun? f' = none ∧ Comes d P f' given b'') : Comes d P f given b := by
  refine move hscene fun b' hb' => ?_
  obtain ⟨f', b'', hs, hbegun, hcomes⟩ := hmove b' hb'
  refine ⟨f', b'', hs, ?_⟩
  rwa [hbegun, Option.toList_none, List.append_nil]

/-- A move that leaves the bus as it is, too. -/
theorem move_still {f' : Flow} (hscene : Scene d e h now rung b)
    (hs : ∀ b', Scene d e h now rung b' → f.step b' = some (f', b'))
    (hbegun : f.begun? f' = none)
    (hnext : ∀ b', Scene d e h now rung b' → Comes d P f' given b') : Comes d P f given b :=
  move_on hscene fun b' hb' => ⟨f', b', hs b' hb', hbegun, hnext b' hb'⟩

/-- A flow that waits goes on when its next timer rings. -/
theorem wait (due : Time) (f' : Flow) (hscene : Scene d e h now rung b) (hrung : rung ≤ now)
    (hdue : now ≤ due) (hnextDue : f.nextDue? = some due)
    (hstill : ∀ b' : Bus, b'.rung < due → f.step b' = none)
    (hs : ∀ b' : Bus, b'.rung = due → f.step b' = some (f', b')) (hbegun : f.begun? f' = none)
    (hnext : ∀ b', Scene d e h due due b' → Comes d P f' given b') : Comes d P f given b := by
  have hrings (b' : Bus) (hb' : Scene d e h due due b') : Comes d P f given b' :=
    move_still hb' (fun b'' hb'' => hs b'' hb''.rung) hbegun hnext
  by_cases hlate : due ≤ rung
  · -- the timer has rung already
    obtain rfl : due = rung := le_antisymm hlate (le_trans hrung hdue)
    obtain rfl : due = now := le_antisymm hrung hdue
    exact hrings b hscene
  · refine .of_step (Apart.refl d b) fun b' hw => ?_
    have hb' := hscene.apart hw
    have hwaits : f.step b' = none := hstill b' (by rw [hb'.rung]; exact lt_of_not_ge hlate)
    have hmax : max b'.now due = due := by rw [hb'.now]; exact max_eq_right hdue
    refine ⟨(f, given), { b' with now := due, rung := due }, ?_, hrings _ ?_⟩
    · simp [alone, hwaits, hnextDue, hmax]
    · exact ⟨hb'.registered, rfl, rfl, hb'.serves⟩

/-! ## The channel at work -/

/-- What a channel makes of a message after it has delivered it takes no time. -/
theorem edit {edits : List (Edit Mediator)} {findings : List Finding}
    (hedits : ∀ x ∈ edits, x.isHandleFault = false) (hscene : Scene d e h now rung b)
    (hnext : ∀ m' b', Scene d e h now rung b' →
      Comes d P (answer m' (.proceed true) k) given b') :
    Comes d P (.busy m (.edit edits findings) (.reply (.proceed true) :: k)) given b := by
  induction edits generalizing m findings b with
  | nil =>
    refine move_still hscene (fun _ _ => rfl) rfl fun b' hb' => ?_
    exact move_still hb' (fun _ _ => rfl) rfl fun b'' hb'' => hnext m b'' hb''
  | cons x rest ih =>
    have hplain : x.isHandleFault = false := hedits x List.mem_cons_self
    have hrest : ∀ y ∈ rest, y.isHandleFault = false := by
      intro y hy
      exact hedits y (List.mem_cons_of_mem x hy)
    refine move_on hscene fun b' hb' => ?_
    have hs : (Flow.busy m (.edit (x :: rest) findings) (.reply (.proceed true) :: k)).step b' =
        some (.busy (x.perform m b').2.1 (.edit rest ((x.perform m b').1 :: findings))
          (.reply (.proceed true) :: k), (x.perform m b').2.2) := by
      cases x <;> first | rfl | simp [Edit.isHandleFault] at hplain
    have hperformed : Scene d e h now rung (x.perform m b').2.2 :=
      hb'.congr (congrArg Service.endpoints (b'.service_perform x m)) (b'.perform_transports x m)
        (runState_perform m b' x)
    exact ⟨_, _, hs, rfl, ih hrest hperformed⟩

/-- What the channel replies at the end of an attempt. -/
def replyOf : Option TransportFault → Reply
  | none => .proceed true
  | some fault => .refused fault

/-- When an attempt is cut off. -/
def Deadline (d : Dispatch) (started : Time) (deadline : Option Timer) : Prop :=
  deadline.map Timer.due = d.timeout.limit.map fun (limit : Nat) => started + limit

theorem Deadline.eq_some {started : Time} {limit : Nat} {deadline : Option Timer}
    (hdeadline : Deadline d started deadline) (hlimit : d.timeout.limit = some limit) :
    ∃ t, deadline = some t ∧ t.due = started + limit := by
  rw [Deadline, hlimit, Option.map_some] at hdeadline
  obtain ⟨t, ht, hdue⟩ := Option.map_eq_some_iff.1 hdeadline
  exact ⟨t, ht, hdue⟩

section Waiting

variable {started : Time} {deadline : Option Timer} {t t' : Timer} {rest : Outcome}
  {edits : List (Edit Mediator)}

/-- A channel goes on after a delay that ends no later than the attempt is cut off. -/
theorem delayed (hintime : ∀ t', deadline = some t' → t.due ≤ t'.due)
    (hscene : Scene d e h now rung b) (hrung : rung ≤ now) (hdue : now ≤ t.due)
    (hnext : ∀ b', Scene d e h t.due t.due b' →
      Comes d P (.busy m (.transmit rest edits) [.attempt d started deadline]) given b') :
    Comes d P (.busy m (.sleep t) [.transmit rest edits, .attempt d started deadline])
      given b := by
  refine wait t.due (answer m (.proceed true) [.transmit rest edits, .attempt d started deadline])
    hscene hrung hdue ?_ ?_ ?_ rfl ?_
  · cases deadline with
    | none => simp [nextDue?, timers, cutTimers]
    | some t' => simp [nextDue?, timers, cutTimers, List.min?_cons, min_eq_left (hintime t' rfl)]
  · intro b' hb'
    have hasleep : b'.hasRung t = false := Bus.hasRung_of_lt hb'
    cases deadline with
    | none => simp [step, work, cut?, hasleep]
    | some t' =>
      have hlater : b'.hasRung t' = false :=
        Bus.hasRung_of_lt (lt_of_lt_of_le hb' (hintime t' rfl))
      simp [step, work, cut?, hasleep, hlater]
  · intro b' hb'
    have hrings : b'.hasRung t = true := Bus.hasRung_of_le (le_of_eq hb'.symm)
    simp [step, work, hrings]
  · intro b' hb'
    exact move_still hb' (fun _ _ => rfl) rfl hnext

/-- A channel that takes longer is cut off. -/
theorem overtaken (hlate : t'.due < t.due) (hscene : Scene d e h now rung b) (hrung : rung ≤ now)
    (hdue : now ≤ t'.due)
    (hnext : ∀ b', Scene d e h t'.due t'.due b' → Comes d P
      (answer m (.refused (cutOff d)) [.attempt d started (some t')]) given b') :
    Comes d P (.busy m (.sleep t) [.transmit rest edits, .attempt d started (some t')])
      given b := by
  refine wait t'.due (answer m (.refused (cutOff d)) [.attempt d started (some t')])
    hscene hrung hdue ?_ ?_ ?_ rfl hnext
  · simp only [nextDue?, timers, cutTimers, List.map_cons, List.map_nil, List.min?_cons,
      List.min?_nil, Option.elim_some, Option.elim_none, Option.some.injEq]
    exact min_eq_right (le_of_lt hlate)
  · intro b' hb'
    have hasleep : b'.hasRung t = false := Bus.hasRung_of_lt (lt_trans hb' hlate)
    have hlater : b'.hasRung t' = false := Bus.hasRung_of_lt hb'
    simp [step, work, cut?, hasleep, hlater]
  · intro b' hb'
    have hasleep : b'.hasRung t = false := Bus.hasRung_of_lt (hb' ▸ hlate)
    have hrings : b'.hasRung t' = true := Bus.hasRung_of_le (le_of_eq hb'.symm)
    simp [step, work, cut?, hasleep, hrings]

/-- A channel that never ends is cut off. -/
theorem hanging (hscene : Scene d e h now rung b) (hrung : rung ≤ now) (hdue : now ≤ t.due)
    (hnext : ∀ b', Scene d e h t.due t.due b' → Comes d P
      (answer m (.refused (cutOff d)) [.attempt d started (some t)]) given b') :
    Comes d P (.busy m .hang [.attempt d started (some t)]) given b := by
  refine wait t.due (answer m (.refused (cutOff d)) [.attempt d started (some t)])
    hscene hrung hdue ?_ ?_ ?_ rfl hnext
  · simp [nextDue?, timers, cutTimers]
  · intro b' hb'
    have hasleep : b'.hasRung t = false := Bus.hasRung_of_lt hb'
    simp [step, work, cut?, hasleep]
  · intro b' hb'
    have hrings : b'.hasRung t = true := Bus.hasRung_of_le (le_of_eq hb'.symm)
    simp [step, work, cut?, hrings]

end Waiting

/-- An attempt that a channel was given ends when the outcome says, or when it is cut off;
`waited` is for how long the channel had it already. -/
theorem transmit {o : Outcome} {edits : List (Edit Mediator)} {started : Time}
    {waited n : Nat} {deadline : Option Timer} {fault : Option TransportFault}
    (hedits : ∀ x ∈ edits, x.isHandleFault = false) (hdeadline : Deadline d started deadline)
    (hwaited : ∀ limit, d.timeout.limit = some limit → waited ≤ limit)
    (hresult : d.result? (.after waited o) = some (n, fault))
    (hscene : Scene d e h (started + waited) rung b) (hrung : rung ≤ started + waited)
    (hnext : ∀ m' b' rung', rung' ≤ started + n → Scene d e h (started + n) rung' b' →
      Comes d P (answer m' (replyOf fault) [.attempt d started deadline]) given b') :
    Comes d P (.busy m (.transmit o edits) [.attempt d started deadline]) given b := by
  induction o generalizing m waited rung b with
  | success =>
    have hends := Dispatch.result?_after_of_ended (o := .success) rfl hwaited
    obtain ⟨rfl, rfl⟩ := Prod.mk.inj (Option.some.inj (hends.symm.trans hresult))
    refine move_still hscene (fun _ _ => rfl) rfl fun b' hb' => ?_
    exact edit hedits hb' fun m' b'' hb'' => hnext m' b'' _ hrung hb''
  | respond payload =>
    have hends := Dispatch.result?_after_of_ended (o := .respond payload) rfl hwaited
    obtain ⟨rfl, rfl⟩ := Prod.mk.inj (Option.some.inj (hends.symm.trans hresult))
    refine move_still hscene (fun _ _ => rfl) rfl fun b' hb' => ?_
    exact edit hedits hb' fun m' b'' hb'' => hnext m' b'' _ hrung hb''
  | fault f =>
    have hends := Dispatch.result?_after_of_ended (o := .fault f) rfl hwaited
    obtain ⟨rfl, rfl⟩ := Prod.mk.inj (Option.some.inj (hends.symm.trans hresult))
    refine move_still hscene (fun _ _ => rfl) rfl fun b' hb' => ?_
    exact hnext m b' _ hrung hb'
  | hang =>
    cases hlimit : d.timeout.limit with
    | none => simp [Dispatch.result?, Outcome.result?, hlimit] at hresult
    | some limit =>
      have hends := Dispatch.result?_of_lt hlimit (o := .after waited .hang)
        (by simp [Outcome.result?])
      obtain ⟨rfl, rfl⟩ := Prod.mk.inj (Option.some.inj (hends.symm.trans hresult))
      obtain ⟨t, rfl, hdue⟩ := hdeadline.eq_some hlimit
      have hwaited := hwaited limit hlimit
      refine move_still hscene (fun _ _ => rfl) rfl fun b' hb' => ?_
      refine hanging hb' hrung ?_ fun b'' hb'' => ?_
      · rw [hdue]
        exact Time.add_millis_le_add_millis hwaited started
      · rw [hdue] at hb''
        exact hnext m b'' _ (le_refl _) hb''
  | after delay rest ih =>
    refine move_on hscene fun b' hb' => ⟨.busy m (.sleep (b'.startTimer delay).1)
      [.transmit rest edits, .attempt d started deadline], (b'.startTimer delay).2, rfl, rfl, ?_⟩
    have hstarted := hb'.startTimer delay
    have hdue := hb'.due_startTimer delay
    rw [Time.add_millis_add] at hdue
    generalize (b'.startTimer delay).1 = t at hdue ⊢
    have hlater : started + waited ≤ t.due := by
      rw [hdue]
      exact Time.add_millis_le_add_millis (Nat.le_add_right waited delay) started
    rw [Dispatch.result?_after_after] at hresult
    by_cases hintime : ∀ limit, d.timeout.limit = some limit → waited + delay ≤ limit
    · refine delayed ?_ hstarted hrung hlater fun b'' hb'' => ?_
      · intro t' ht'
        rw [ht', Deadline, Option.map_some] at hdeadline
        obtain ⟨limit, hlimit, hsum⟩ := Option.map_eq_some_iff.1 hdeadline.symm
        rw [hdue, ← hsum]
        exact Time.add_millis_le_add_millis (hintime limit hlimit) started
      · rw [hdue] at hb''
        exact ih hintime hresult hb'' (le_refl _)
    · -- the attempt is cut off while the channel sleeps
      obtain ⟨limit, hlimit, hlate⟩ : ∃ limit, d.timeout.limit = some limit ∧
          limit < waited + delay := by
        simpa using hintime
      have hends := Dispatch.result?_after_of_lt (o := rest) hlimit hlate
      obtain ⟨rfl, rfl⟩ := Prod.mk.inj (Option.some.inj (hends.symm.trans hresult))
      obtain ⟨t', rfl, hcutDue⟩ := hdeadline.eq_some hlimit
      have hfirst : t'.due < t.due := by
        rw [hcutDue, hdue]
        exact Time.add_millis_lt_add_millis hlate started
      have hcutLater : started + waited ≤ t'.due := by
        rw [hcutDue]
        exact Time.add_millis_le_add_millis (hwaited limit hlimit) started
      refine overtaken hfirst hstarted hrung hcutLater fun b'' hb'' => ?_
      rw [hcutDue] at hb''
      exact hnext m b'' _ (le_refl _) hb''

end Comes

end Flow

end ServiceBus
