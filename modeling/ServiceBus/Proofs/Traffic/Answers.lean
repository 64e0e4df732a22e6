import ServiceBus.Proofs.Bus.Replies
import ServiceBus.Proofs.Traffic.History

/-
ServiceBus.Proofs.Traffic.Answers — whether the answer to a reply tells what became of
it.

The buffer of a run is worked on by its branches, by its deadline and by replies, in any
order. `History.answers` says what an answer is worth there. A reply that nothing comes
between and that brings anything is accepted exactly if it alone made its branch count.
Whatever comes between, no branch is counted by two replies, one with a result is accepted
exactly if it counts, and only a reply that counts changes the account.

A reply whose value cannot be found is the exception: it is rejected, and yet its branch
counts as excluded (`valueless_reply_counts`). So is a reply that reports a fault and is
overtaken by another one: both are accepted, though only one of them counts
(`overtaken_reply_accepted`).
-/
namespace ServiceBus.Traffic

open Bus

variable {past : List RunEvent} {t : Traffic}

/-- What the answers to the replies of a run say: to a reply as the run stands, then to
deliveries side by side, and what the account has of them until the contents are taken
out. -/
theorem History.answers (h : History past t) {s : Scatter} {targets : List Mediator} {m : Message}
    {b : Bus} {g : Gathering} (hbegan : .began s targets m b g ∈ past)
    (htargets : 1 ≤ targets.length) :
    let start := Buffer.opened g.correlation (s.limitsFor targets.length m b.evaluator)
    (∃ ops, t.bus.buffer? g.buffer = some (start.performAll ops)) ∧
    (∀ (s' : Scatter) (reply : Message),
      let found := (reply.textProperty? Property.correlation).bind (t.bus.findBuffer? s'.aggregator)
      ((∀ ref, found = some ref → t.bus.isBufferClosed ref = true) →
        s'.deliver reply t.bus = (.ok .rejected, t.bus)) ∧
      ∀ index buffer, found = some g.buffer → t.bus.buffer? g.buffer = some buffer →
        buffer.isClosed = false → Scatter.branchOf reply = some index →
        ∃ answer counted buffer', (s'.deliver reply t.bus).1 = .ok answer ∧
          (s'.deliver reply t.bus).2.buffer? g.buffer = some buffer' ∧
          (counted = true ↔ index ∉ buffer.settled ∧ index ∈ buffer'.settled) ∧
          (counted = false → buffer'.account = buffer.account) ∧
          (s'.brought reply t.bus.evaluator ≠ .nothing → (answer = .accepted ↔ counted = true)) ∧
          (s'.brought reply t.bus.evaluator = .nothing → answer = .rejected)) ∧
    (∀ desk, Buffer.Desk.Reached (fun _ => True) start desk →
      (∀ branch, desk.deliveries.countP (Buffer.Delivery.hasCounted branch) ≤
        if branch ∈ desk.buffer.settled then 1 else 0) ∧
      (∀ d answer counted, (d, .answered answer counted) ∈ desk.deliveries →
        Buffer.Desk.Fits d answer counted) ∧
      ∀ (d : Buffer.Delivery) (stage : Buffer.Stage),
        (d.move desk.buffer stage).2.account ≠ desk.buffer.account ↔
          stage = .taken ∧ d.counts desk.buffer = true) ∧
    ∀ desk, Buffer.Desk.Reached (· ≠ .take) start desk →
      ∃ excluded, desk.buffer.Accounts excluded ∧
        ∀ d answer, (d, .answered answer true) ∈ desk.deliveries →
          Buffer.Desk.Noted desk.buffer excluded d := by
  intro start
  refine ⟨?_, fun s' reply => ⟨Scatter.deliver_rejected,
    fun index buffer hfind hb hopen hindex => ?_⟩, ?_, ?_⟩
  · obtain ⟨ops, hbuffer, -⟩ := h.buffer? hbegan
    exact ⟨ops, hbuffer⟩
  · obtain ⟨answer, counted, buffer', hmoves, hanswer, hrun⟩ :=
      Scatter.deliver_spec hfind hindex hb hopen
    obtain ⟨answer', counted', after, hmoves', hafter, hcounts, hsame, hsome, hnothing⟩ :=
      Buffer.Delivery.moves_of_open (d := ⟨index, s'.brought reply t.bus.evaluator⟩) hopen
    obtain ⟨hstage, rfl⟩ := Prod.mk.inj (hmoves.symm.trans hmoves')
    obtain ⟨rfl, rfl⟩ := Buffer.Stage.answered.inj hstage
    refine ⟨answer, counted, buffer', hanswer, ?_, hcounts.trans (and_iff_left hafter).symm,
      hsame, hsome, hnothing⟩
    rw [buffer?_of_runState hrun, buffer?_updateBuffer, if_pos rfl, hb, Option.map_some]
  · exact fun desk hdesk => ⟨hdesk.countP_hasCounted, fun d answer counted hd => hdesk.fits hd,
      fun d stage => Buffer.Delivery.move_account⟩
  · exact fun desk hdesk => hdesk.accounts (Buffer.Accounts.opened g.correlation htargets)

/-! ## Replies with and without a value

A scatter-gather merges the prices of two offers. Both branches hand their call off, and
a reply need not name a price. -/

namespace Priced

def offers : Scatter where
  name := "offers"
  config := ⟨true, .json, .body, { correlation := some "id", value := some "price" }, none⟩
  aggregator := "offers"

def ask : Mediator := .call { name := "ask", transport := "channel" }

def request : Message := { id := ⟨0⟩ }

/-- The run has the correlation identity `x`, and a price is a property of the reply. -/
def start : Bus where
  evaluator e m :=
    if e = "id" then .ok (.text "x")
    else
      match m.property? e with
      | some price => .ok price
      | none => .error (.notFound e)

def run : Gathering := ⟨offers, "x", 0, none, [(0, ask), (1, ask)]⟩

/-- Both branches wait for their replies. -/
def waiting : Flow × Bus × List RunEvent :=
  advance 16 (.gathering request run [] []) (offers.begin [ask, ask] request start).2

/-- A reply for the first branch. -/
def blank : Message where
  id := ⟨9⟩
  properties := Dict.ofList [(Property.branchIndex, .int 0), (Property.correlation, .text "x")]

def priced : Message := blank.setProperty "price" (.int 5)

theorem history_waiting :
    History (.began offers [ask, ask] request start run :: waiting.2.2)
      ⟨waiting.2.1, [waiting.1]⟩ := by
  have h₀ : History [] ⟨start, []⟩ := .fresh rfl rfl (Nat.le_refl _)
  have h₁ := h₀.step
    (.start [] request (.mediate (.scatter offers [(none, ask), (none, ask)])) [])
  have hbegin : offers.begin [ask, ask] request start =
      (.ok run, (offers.begin [ask, ask] request start).2) := rfl
  exact History.advance [] [] (History.begin [] [] h₁ hbegin) 16

/-- The reply that names a price is accepted, and counts. -/
theorem answers_priced : 1 ≤ [ask, ask].length ∧
    (offers.deliver priced waiting.2.1).1 = .ok .accepted ∧
    ((offers.deliver priced waiting.2.1).2.buffer? 0).map Buffer.settled = some [0] := by
  have htargets : 1 ≤ [ask, ask].length := by decide
  obtain ⟨buffer, hb⟩ : ∃ buffer, waiting.2.1.buffer? 0 = some buffer := ⟨_, rfl⟩
  have hfresh : (waiting.2.1.buffer? 0).map (fun b => (b.isClosed, b.settled)) =
      some (false, []) := rfl
  have hafter : ((offers.deliver priced waiting.2.1).2.buffer? 0).map Buffer.settled =
      some [0] := rfl
  obtain ⟨hopen, hsettled⟩ : buffer.isClosed = false ∧ buffer.settled = [] := by
    simpa [hb] using hfresh
  obtain ⟨-, hreply, -⟩ := History.answers history_waiting List.mem_cons_self htargets
  obtain ⟨answer, counted, buffer', hanswer, hb', hcounted, -, haccepted, -⟩ :=
    (hreply offers priced).2 0 buffer rfl hb hopen rfl
  have hprice : offers.brought priced waiting.2.1.evaluator ≠ .nothing :=
    Buffer.Brought.noConfusion
  have hsettled' : buffer'.settled = [0] :=
    Option.some.inj ((congrArg (Option.map Buffer.settled) hb').symm.trans hafter)
  have hcounts : counted = true := hcounted.2 (by simp [hsettled, hsettled'])
  exact ⟨htargets, hanswer.trans (congrArg Except.ok ((haccepted hprice).2 hcounts)), hafter⟩

end Priced

open Priced in
/-- A reply may count and be rejected: it answers for one of the two branches that a run
waits for, and does not name the price that is asked for. The branch is excluded for it. -/
theorem valueless_reply_counts : ∃ (past : List RunEvent) (t : Traffic) (s : Scatter)
      (targets : List Mediator) (m : Message) (b : Bus) (g : Gathering) (reply : Message),
    History past t ∧ .began s targets m b g ∈ past ∧
    (t.bus.buffer? g.buffer).map (fun b => (b.isClosed, b.settled, b.excluded)) =
      some (false, [], 0) ∧
    (s.deliver reply t.bus).1 = .ok .rejected ∧
    ((s.deliver reply t.bus).2.buffer? g.buffer).map (fun b => (b.settled, b.excluded)) =
      some ([0], 1) :=
  ⟨_, ⟨waiting.2.1, [waiting.1]⟩, offers, [ask, ask], request, start, run, blank,
    history_waiting, List.mem_cons_self, rfl, rfl, rfl⟩

/-- Two replies for one branch that report a fault are both accepted where one of them
overtakes the other one between its second and its third move. -/
theorem overtaken_reply_accepted : ∃ (correlation : String) (limits : BufferLimits)
      (desk : Buffer.Desk) (d : Buffer.Delivery),
    Buffer.Desk.Reached (· ≠ .take) (Buffer.opened correlation limits) desk ∧
    desk.deliveries = [(d, .answered .accepted false), (d, .answered .accepted true)] ∧
    desk.buffer.excluded = 1 := by
  let d : Buffer.Delivery := ⟨0, .fault⟩
  have both : Buffer.Desk.Reached (· ≠ .take) (Buffer.opened "x" ⟨2, none, none⟩)
      ⟨Buffer.opened "x" ⟨2, none, none⟩, [(d, .taken), (d, .taken)]⟩ :=
    ((((((Buffer.Desk.Reached.fresh).step (.arrive d)).step (.proceed [] [] d .arrived)).step
      (.proceed [] [] d .admitted)).step (.arrive d)).step
      (.proceed [] [(d, .taken)] d .arrived)).step (.proceed [] [(d, .taken)] d .admitted)
  have overtaken := (both.step (.proceed [(d, .taken)] [] d .taken)).step
    (.proceed [] [(d, .answered .accepted true)] d .taken)
  exact ⟨"x", ⟨2, none, none⟩, _, d, overtaken, rfl, rfl⟩

end ServiceBus.Traffic
