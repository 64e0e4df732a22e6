import ServiceBus.Proofs.Traffic.Lookup
import ServiceBus.Proofs.Traffic.Registration

/-
ServiceBus.Proofs.Traffic.Late — replies that come when their run is over.

A reply names its run by the correlation identity alone, and a later run may have the
same one. A run that is closed is left alone by every reply. What becomes of the reply
depends on what is found under its key by then: without an open buffer it is rejected.
An open buffer belongs to a run that began later, and there the reply counts as that of
one of the branches, by the branch number that it carries.

It does happen: a message that a channel was given by the branch of a run that has timed
out since becomes the result of another run.
-/
namespace ServiceBus

open Bus

/-! ## The message of a branch -/

/-- The message of a branch carries the identity of its run and the number of the branch. -/
theorem Scatter.branch_carries (s : Scatter) (correlation : String) {index : Nat} (m : Message)
    (bus : Bus) (hindex : Width.word64.holds index = true) :
    (s.branch correlation index m bus).1.textProperty? Property.correlation = some correlation ∧
      branchOf (s.branch correlation index m bus).1 = some index := by
  constructor
  · simp [branch, Message.textProperty?, Message.property?, Message.setProperty, Message.pushFrame,
      show Property.correlation ≠ Property.branchAsync by decide,
      show Property.correlation ≠ Property.branchIndex by decide, Value.text?]
  · simp [branch, branchOf, Message.property?, Message.setProperty, Message.pushFrame,
      show Property.branchIndex ≠ Property.branchAsync by decide, hindex]

namespace Traffic

/-! ## Replies to a run that is over -/

section Closed

variable {before after : List RunEvent} {t : Traffic} {s : Scatter} {targets : List Mediator}
  {m : Message} {b : Bus} {g : Gathering}

/-- Once a run is closed, an open buffer found under its key is that of a run that has begun
later. -/
theorem History.began_of_open (h : History (before ++ .began s targets m b g :: after) t)
    (hclosed : t.bus.isBufferClosed g.buffer = true) {ref : Nat}
    (hfind : t.bus.findBuffer? s.aggregator g.correlation = some ref)
    (hopen : t.bus.isBufferClosed ref = false) :
    ∃ middle s₁ targets₁ m₁ b₁ g₁ later,
      after = middle ++ .began s₁ targets₁ m₁ b₁ g₁ :: later ∧
      s₁.aggregator = s.aggregator ∧ g₁.correlation = g.correlation ∧ g₁.buffer = ref := by
  obtain ⟨r, hr, rfl⟩ := h.findBuffer?_iff.1 hfind
  have hscatter := h.scatter_of_began (List.mem_append_right _ List.mem_cons_self)
  have hunder : (g.run m).Under s.aggregator g.correlation :=
    ⟨congrArg Scatter.aggregator hscatter, rfl⟩
  -- the closed run itself is not the one that is found
  have hne : (RunEvent.began s targets m b g).begun ≠ some r := by
    intro hsame
    obtain rfl : g.run m = r := Option.some.inj hsame
    exact Bool.false_ne_true (hopen.symm.trans hclosed)
  obtain ⟨middle, e, later, rfl, hbegun, hunder₁, -⟩ := hr.of_append_cons hunder hne
  cases e with
  | concluded g₁ m₁ b₁ => simp [RunEvent.begun] at hbegun
  | broken g₁ m₁ => simp [RunEvent.begun] at hbegun
  | began s₁ targets₁ m₁ b₁ g₁ =>
    obtain rfl : g₁.run m₁ = r := Option.some.inj hbegun
    have hscatter₁ := h.scatter_of_began (List.mem_append_right _ (List.mem_cons_of_mem _
      (List.mem_append_right _ List.mem_cons_self)))
    refine ⟨middle, s₁, targets₁, m₁, b₁, g₁, later, rfl, ?_, hunder₁.2, rfl⟩
    exact (congrArg Scatter.aggregator hscatter₁).symm.trans hunder₁.1

/-- The messages of the branches of a run carry its identity. Once the run is closed, a reply
leaves it alone. The reply is rejected and changes nothing unless an open buffer is found
under its key. In that case it concerns this buffer only, and is accepted exactly if its
branch number is not settled there and it reports a fault or has a value. Where the reply
carries the identity of the closed run, the buffer is that of a run that has begun later
under the same key; if there is none, the reply is rejected. -/
theorem History.reply_of_closed (h : History (before ++ .began s targets m b g :: after) t)
    (hclosed : t.bus.isBufferClosed g.buffer = true) (s' : Scatter) (reply : Message) :
    let answer := s'.deliver reply t.bus
    let found := (reply.textProperty? Property.correlation).bind (t.bus.findBuffer? s'.aggregator)
    (∀ (index : Nat) (bus : Bus), Width.word64.holds index = true →
      (s.branch g.correlation index m bus).1.textProperty? Property.correlation =
        some g.correlation ∧
      Scatter.branchOf (s.branch g.correlation index m bus).1 = some index) ∧
    answer.2.buffer? g.buffer = t.bus.buffer? g.buffer ∧
    ((∀ ref, found = some ref → t.bus.isBufferClosed ref = true) →
      answer = (.ok .rejected, t.bus)) ∧
    (∀ ref, found = some ref → t.bus.isBufferClosed ref = false →
      (∀ other, other ≠ ref → answer.2.buffer? other = t.bus.buffer? other) ∧
      ∀ index buffer, Scatter.branchOf reply = some index → t.bus.buffer? ref = some buffer →
        (answer.1 = .ok .accepted ↔ index ∉ buffer.settled ∧
          (reply.isTrue Property.sendingFault = true ∨
            ∀ e, s'.config.policy.value = some e → ∃ v, t.bus.evaluator e reply = .ok v))) ∧
    (s'.aggregator = s.aggregator →
      reply.textProperty? Property.correlation = some g.correlation →
      (∀ ref, found = some ref → t.bus.isBufferClosed ref = false →
        ∃ middle s₁ targets₁ m₁ b₁ g₁ later,
          after = middle ++ .began s₁ targets₁ m₁ b₁ g₁ :: later ∧
          s₁.aggregator = s.aggregator ∧ g₁.correlation = g.correlation ∧ g₁.buffer = ref) ∧
      ((∀ s₁ targets₁ m₁ b₁ g₁, .began s₁ targets₁ m₁ b₁ g₁ ∈ after →
        s₁.aggregator = s.aggregator → g₁.correlation ≠ g.correlation) →
        answer = (.ok .rejected, t.bus))) := by
  intro answer found
  have rejected (hno : ∀ ref, found = some ref → t.bus.isBufferClosed ref = true) :
      answer = (.ok .rejected, t.bus) := Scatter.deliver_rejected hno
  have others {ref : Nat} (hfind : found = some ref) (other : Nat) (hne : other ≠ ref) :
      answer.2.buffer? other = t.bus.buffer? other := by
    obtain ⟨ops, -, hrun⟩ := Scatter.deliver_runState hfind
    rw [buffer?_of_runState hrun, buffer?_updateBuffer, if_neg hne.symm]
  have later (haggregator : s'.aggregator = s.aggregator)
      (hkey : reply.textProperty? Property.correlation = some g.correlation) (ref : Nat)
      (hfind : found = some ref) (hopen : t.bus.isBufferClosed ref = false) :
      ∃ middle s₁ targets₁ m₁ b₁ g₁ later,
        after = middle ++ .began s₁ targets₁ m₁ b₁ g₁ :: later ∧
        s₁.aggregator = s.aggregator ∧ g₁.correlation = g.correlation ∧ g₁.buffer = ref := by
    have hat : t.bus.findBuffer? s.aggregator g.correlation = some ref := by
      simpa only [found, hkey, haggregator, Option.bind_some] using hfind
    exact h.began_of_open hclosed hat hopen
  refine ⟨fun index bus hindex => s.branch_carries g.correlation m bus hindex, ?_, rejected,
    fun ref hfind hopen => ⟨others hfind, fun index buffer hindex hb => ?_⟩,
    fun haggregator hkey => ⟨later haggregator hkey, fun hnone => rejected fun ref hfind => ?_⟩⟩
  · by_cases hno : ∀ ref, found = some ref → t.bus.isBufferClosed ref = true
    · rw [rejected hno]
    · push Not at hno
      obtain ⟨ref, hfind, hopen⟩ := hno
      exact others hfind g.buffer fun hsame => hopen (hsame ▸ hclosed)
  · have hbuffer : buffer.isClosed = false := by
      rw [isBufferClosed_eq, hb, Option.any_some] at hopen
      exact hopen
    exact Scatter.deliver_accepted_iff hfind hindex hb hbuffer
  · by_contra hopen
    obtain ⟨middle, s₁, targets₁, m₁, b₁, g₁, rest, rfl, hs, hg, -⟩ :=
      later haggregator hkey ref hfind (Bool.eq_false_iff.2 hopen)
    exact hnone s₁ targets₁ m₁ b₁ g₁ (by simp) hs hg

end Closed

/-! ## A reply that is taken for another

Two runs of one scatter-gather have the same correlation identity. Its branch is a call
that is handed off, and each run may take 10 ms. -/

namespace Repeated

def orders : Scatter where
  name := "orders"
  config := ⟨true, .json, .body, { correlation := some "id" }, some 10⟩
  aggregator := "orders"

def ask : Mediator := .call { name := "ask", transport := "channel" }

def request (id : Nat) : Message := { id := ⟨id⟩ }

/-- Both runs have the correlation identity `x`. -/
def start : Bus := { evaluator := fun _ _ => .ok (.text "x") }

def firstRun : Gathering := ⟨orders, "x", 0, some ⟨10, 0⟩, [(0, ask)]⟩

def firstBegun : Bus := (orders.begin [ask] (request 0) start).2

/-- The first run waits for its reply. -/
def waiting : Flow × Bus × List RunEvent :=
  advance 8 (.gathering (request 0) firstRun [] []) firstBegun

/-- The message that the channel was given. -/
def sent : Message :=
  ((waiting.2.1.transport "channel").calls.head?.map (·.message)).getD (request 9)

/-- The time of the first run has passed. -/
def passed : Bus := { waiting.2.1 with now := 10, rung := 10 }

/-- The first run is concluded. -/
def timedOut : Flow × Bus × List RunEvent := advance 1 waiting.1 passed

/-- The second run waits for its reply. -/
def again : Flow × Bus × List RunEvent :=
  advance 9 (.busy (request 1) (.mediate (.scatter orders [(none, ask)])) []) timedOut.2.1

theorem history_waiting :
    History (.began orders [ask] (request 0) start firstRun :: waiting.2.2)
      ⟨waiting.2.1, [waiting.1]⟩ := by
  have h₀ : History [] ⟨start, []⟩ := .fresh rfl rfl (Nat.le_refl _)
  have h₁ := h₀.step (.start [] (request 0) (.mediate (.scatter orders [(none, ask)])) [])
  have hbegin : orders.begin [ask] (request 0) start = (.ok firstRun, firstBegun) := rfl
  exact History.advance [] [] (History.begin [] [] h₁ hbegin) 8

theorem history_again :
    History ([] ++ .began orders [ask] (request 0) start firstRun ::
        (waiting.2.2 ++ timedOut.2.2 ++ again.2.2))
      ⟨again.2.1, [again.1, timedOut.1]⟩ := by
  have hnow : waiting.2.1.now ≤ passed.now := Nat.zero_le _
  have h₁ : History _ ⟨passed, [waiting.1]⟩ :=
    history_waiting.step (.elsewhere _ rfl rfl hnow (Nat.le_refl _))
  have h₂ := History.advance [] [] h₁ 1
  have h₃ := h₂.step (.start _ (request 1) (.mediate (.scatter orders [(none, ask)])) [])
  have h₄ := History.advance [] [timedOut.1] h₃ 9
  simpa [again, timedOut] using h₄

theorem firstRun_isBufferClosed : again.2.1.isBufferClosed firstRun.buffer = true := rfl

/-- The reply of the first run does nothing to the buffer of the first run. -/
theorem reply_of_closed_sent : again.2.1.isBufferClosed 0 = true ∧
    (orders.deliver sent again.2.1).2.buffer? 0 = again.2.1.buffer? 0 :=
  ⟨firstRun_isBufferClosed,
    (History.reply_of_closed history_again firstRun_isBufferClosed orders sent).2.1⟩

end Repeated

open Repeated in
/-- A reply to a run that is over may be accepted, and its result is one of a later run: the
channel is given the message by the only branch of a run, the run times out, and another one
of the same correlation identity begins before the reply comes. -/
theorem late_reply_accepted : ∃ (past : List RunEvent) (t t' : Traffic) (s : Scatter)
      (targets : List Mediator) (m : Message) (b : Bus) (g : Gathering) (later : List RunEvent)
      (reply : Message),
    past = [.began s targets m b g] ∧ History past t ∧
    (t.bus.transport "channel").calls.map (·.message) = [reply] ∧
    History (past ++ later) t' ∧ t'.bus.isBufferClosed g.buffer = true ∧
    (s.deliver reply t'.bus).1 = .ok .accepted ∧
    t'.bus.findBuffer? s.aggregator g.correlation = some 1 ∧
    ((s.deliver reply t'.bus).2.buffer? 1).map (·.results.map (·.branch)) = some [0] :=
  ⟨_, ⟨waiting.2.1, [waiting.1]⟩, ⟨again.2.1, [again.1, timedOut.1]⟩, orders, [ask], request 0,
    start, firstRun, _, sent, rfl, history_waiting, rfl, history_again, rfl, rfl, rfl, rfl⟩

end Traffic

end ServiceBus
