import ServiceBus.Proofs.Call.HandedOff
import ServiceBus.Proofs.Traffic.Branches

/-
ServiceBus.Proofs.Traffic.Awaited — a branch whose call was handed off, and its reply.

The branch stops and leaves it to its reply to bring the result in. Its run has to tell it
from a branch that stopped for good, and goes by the marks on the message.
`History.awaited` says that this works where no failure was marked before the call: the
branch is recorded as waiting, whatever happens meanwhile only a reply can settle it, and
the result of the reply is merged once and still there when the run is concluded.

A branch inherits the marks of its run, and nothing takes them away. So in a run on a
message of which an earlier send has failed, as in the sequence of a fault handler, the
branch is excluded, and its reply is lost (`handed_off_excluded`).
-/
namespace ServiceBus

/-! ## A result that stays -/

/-- The result is in the account: its branch has no other one, and is not excluded. -/
def Buffer.MergedOnce (b : Buffer) (result : BranchResult) : Prop :=
  ∃ excluded, b.Accounts excluded ∧ result.branch ∉ excluded ∧
    b.results.filter (·.branch == result.branch) = [result]

namespace Buffer

variable {b : Buffer} {result : BranchResult} {excluded : List Nat}

theorem mergedOnce_iff (h : b.Accounts excluded) : b.MergedOnce result ↔ result ∈ b.results := by
  constructor
  · rintro ⟨-, -, -, hfilter⟩
    have hmem : result ∈ b.results.filter (·.branch == result.branch) := by simp [hfilter]
    exact (List.mem_filter.1 hmem).1
  · intro hmem
    have hnodup := h.settled.nodup_iff.1 h.distinct
    obtain ⟨hresults, -, hdisjoint⟩ := List.nodup_append'.1 hnodup
    refine ⟨excluded, h, fun hexcluded => hdisjoint (List.mem_map_of_mem hmem) hexcluded, ?_⟩
    obtain ⟨before, after, hsplit⟩ := List.append_of_mem hmem
    rw [hsplit, List.map_append, List.map_cons, List.nodup_middle, List.nodup_cons,
      List.mem_append, not_or] at hresults
    obtain ⟨⟨hbefore, hafter⟩, -⟩ := hresults
    have others (l : List BranchResult) (hl : result.branch ∉ l.map BranchResult.branch) :
        l.filter (·.branch == result.branch) = [] := by
      refine List.filter_eq_nil_iff.2 fun r hr hsame => hl ?_
      exact List.mem_map.2 ⟨r, hr, beq_iff_eq.1 hsame⟩
    rw [hsplit, List.filter_append, others before hbefore, List.nil_append,
      List.filter_cons_of_pos (by simp), others after hafter]

/-- Contributions do not touch a result that is there. -/
theorem MergedOnce.performAll (h : b.MergedOnce result) {ops : List Operation}
    (hops : ∀ past ∈ b.history ops, empties past = false) :
    (b.performAll ops).MergedOnce result := by
  obtain ⟨excluded, haccounts, -⟩ := id h
  rw [mergedOnce_iff (haccounts.performAll hops), performAll_results hops]
  exact List.mem_append_left _ ((mergedOnce_iff haccounts).1 h)

end Buffer

namespace Traffic

open Bus

section

variable {past : List RunEvent} {t : Traffic} {s : Scatter} {targets : List Mediator}
  {m : Message} {b : Bus} {g : Gathering}

/-- While the buffer of a run is open, it has an account. -/
theorem History.accounts (h : History past t) (hbegan : .began s targets m b g ∈ past)
    (htargets : 1 ≤ targets.length) {buffer : Buffer} (hb : t.bus.buffer? g.buffer = some buffer)
    (hopen : buffer.isClosed = false) : ∃ excluded, buffer.Accounts excluded := by
  obtain ⟨ops, hops, -⟩ := h.buffer? hbegan
  obtain rfl := Option.some.inj (hops.symm.trans hb)
  exact ⟨_, (Buffer.Accounts.opened g.correlation htargets).performAll
    (Buffer.not_empties_of_open hopen)⟩

/-- The buffer of a run has the result, once. -/
def Merges (b : Bus) (ref : Nat) (result : BranchResult) : Prop :=
  ∃ buffer, b.buffer? ref = some buffer ∧ buffer.MergedOnce result

/-- A result stays until the run ends, and is there when the run is concluded. -/
theorem Since.merges {later : List RunEvent} {t' : Traffic} (hs : Since t later t')
    (h : History past t) {ref : Nat} {result : BranchResult} (hmerges : Merges t.bus ref result) :
    ((∀ r ∈ later.filterMap RunEvent.ended, r.buffer ≠ ref) → Merges t'.bus ref result) ∧
      ∀ g' m' b', .concluded g' m' b' ∈ later → g'.buffer = ref → Merges b' ref result := by
  have kept {later : List RunEvent} {t' : Traffic} (hs : Since t later t')
      (hended : ∀ r ∈ later.filterMap RunEvent.ended, r.buffer ≠ ref) :
      Merges t'.bus ref result := by
    obtain ⟨buffer, hb, hmerged⟩ := hmerges
    obtain ⟨ops, hops, hcontributes⟩ := hs.buffer? hb
    exact ⟨_, hops, hmerged.performAll
      (Buffer.not_empties (hcontributes hended))⟩
  refine ⟨kept hs, ?_⟩
  induction hs with
  | refl => simp
  | @step later t₁ t₂ e hs hstep ih =>
    intro g' m' b' hmem hsame
    rcases List.mem_append.1 hmem with hmem | hnow
    · exact ih g' m' b' hmem hsame
    · rw [Option.mem_toList] at hnow
      cases hnow
      have hbefore : Merges t₁.bus ref result := kept hs fun r hr => by
        have hearlier : r ∈ (past ++ later).filterMap RunEvent.ended := by
          rw [List.filterMap_append]
          exact List.mem_append_right _ hr
        exact hsame ▸ ((h.since hs).step hstep).ne_buffer_of_ended (r := g'.run m') rfl hearlier
      obtain ⟨b₁, he, -⟩ := hstep.effect
      cases he with
      | closed g' m' hclosed => exact hbefore
      | late g' m' hopen hdeadline hrung =>
        obtain ⟨buffer, hb, hmerged⟩ := hbefore
        refine ⟨buffer.performAll [.close .timeout], ?_, hmerged.performAll ?_⟩
        · rw [buffer?_updateBuffer, if_pos hsame, hb]
          rfl
        · simp [Buffer.history, Buffer.empties]

/-- A reply with a value for a branch that is not settled is accepted, and its result is
merged. -/
theorem History.merges (h : History past t) (hbegan : .began s targets m b g ∈ past)
    (htargets : 1 ≤ targets.length) {reply : Message} {index : Nat} {buffer : Buffer}
    {payload : Payload} (hanswers : s.AnswersFor reply t.bus g.buffer index)
    (hb : t.bus.buffer? g.buffer = some buffer) (hopen : buffer.isClosed = false)
    (hnew : index ∉ buffer.settled) (hfault : reply.isTrue Property.sendingFault = false)
    (hvalue : s.value? reply t.bus.evaluator = some payload) :
    (s.deliver reply t.bus).1 = .ok .accepted ∧
      Merges (s.deliver reply t.bus).2 g.buffer ⟨index, payload⟩ := by
  obtain ⟨excluded, haccounts⟩ := h.accounts hbegan htargets hb hopen
  obtain ⟨answer, counted, buffer', hmoves, hanswer, hrun⟩ :=
    Scatter.deliver_spec hanswers.found hanswers.branch hb hopen
  have hb' : (s.deliver reply t.bus).2.buffer? g.buffer = some buffer' := by
    rw [buffer?_of_runState hrun, buffer?_updateBuffer, if_pos rfl, hb, Option.map_some]
  have hbrought : s.brought reply t.bus.evaluator =
      .result payload (s.completes reply t.bus.evaluator) := by
    simp [Scatter.brought, hfault, hvalue]
  rw [hbrought, Buffer.Delivery.moves_of_new hopen hnew] at hmoves
  obtain ⟨hstage, rfl⟩ := Prod.mk.inj hmoves
  obtain ⟨rfl, rfl⟩ := Buffer.Stage.answered.inj hstage
  -- the buffer with the branch no longer awaited still admits it
  have hadmits : ({ buffer with awaiting := buffer.awaiting - 1 } : Buffer).admits index = true :=
    Buffer.admits_iff.2 ⟨hopen, hnew⟩
  have haccepted := Buffer.accepted_of_admits hadmits payload
    (s.completes reply t.bus.evaluator)
  refine ⟨hanswer.trans (congrArg Except.ok haccepted), _, hb',
    (Buffer.mergedOnce_iff ((haccounts.awaiting _).perform rfl)).2 ?_⟩
  have hresults := (Buffer.add_accepted_iff _ _ _).1 haccepted
  simp only [Buffer.Delivery.operation, Buffer.perform, hresults]
  exact List.mem_append_right _ List.mem_cons_self

/-- A branch whose call was handed off is recorded as waiting, unless the message was marred
before the call or the branch is settled. -/
theorem records {f f' : Flow} {e : BranchEnd} {bus bus' : Bus} {buffer : Buffer} {c : Call}
    {m₀ : Message} (he : f.branchEnd? = some e) (hreply : e.reply.verdict = .ok false)
    (hsent : c.HandsOff m₀ e.message) (hmarred : m₀.isMarred = false)
    (hb : bus.buffer? e.gathering.buffer = some buffer) (hs : f.step bus = some (f', bus')) :
    bus'.buffer? e.gathering.buffer = some (if e.index ∈ buffer.settled then buffer
      else { buffer with awaiting := buffer.awaiting + 1 }) := by
  have hoperation : e.gathering.scatter.acceptance e.index e.message e.reply.verdict
      bus.evaluator = some (.markAwaiting e.index) := by
    simp only [hreply, Scatter.acceptance, hsent.awaitsReply, hmarred, Bool.not_false, if_true]
  have hbuffers := Flow.buffers_of_branchEnd he hs
  rw [Bus.buffer?, hbuffers, hoperation, ← Bus.buffer?, buffer?_updateBuffer, if_pos rfl, hb]
  simp [Buffer.perform, Buffer.markAwaiting]

/-- A branch that stops because its call was handed off waits for its reply, if no failure and
no discarded reply was marked on the message before the call: it is recorded as waiting
unless a reply for it has come before, and settled only by a reply for it. The reply is
merged once, and stays until the run is concluded. -/
theorem History.awaited (h : History past t) (hbegan : .began s targets m b g ∈ past)
    (htargets : 1 ≤ targets.length) :
    (∀ index bus, (s.branch g.correlation index m bus).1.isMarred = m.isMarred) ∧
    (∀ (c : Call) (m₀ sent : Message), c.HandsOff m₀ sent →
      Scatter.awaitsReply sent = !m₀.isMarred ∧
      ∀ rest : List Pending, (∀ p ∈ rest, p.isChildren = true) →
        Flow.Reaches (·.Allows Edit.KeepsMarks) (.busy m₀ (.mediate (.call c)) rest)
          (Flow.answer sent (.proceed false) [])) ∧
    (∀ before after f f' e b' c m₀, t.flows = before ++ f :: after → f.branchEnd? = some e →
      e.gathering.buffer = g.buffer → e.reply.verdict = .ok false →
      Call.HandsOff c m₀ e.message → m₀.isMarred = false → f.step t.bus = some (f', b') →
      ∃ buffer, t.bus.buffer? g.buffer = some buffer ∧
        b'.buffer? g.buffer = some (if e.index ∈ buffer.settled then buffer
          else { buffer with awaiting := buffer.awaiting + 1 }) ∧
        (e.index ∈ buffer.settled → Replied History past t g.buffer e.index) ∧
        ∀ later t' buffer', e.index ∉ buffer.settled →
          Since ⟨b', before ++ f' :: after⟩ later t' → t'.bus.buffer? g.buffer = some buffer' →
          e.index ∈ buffer'.settled →
          Replied (Since ⟨b', before ++ f' :: after⟩) later t' g.buffer e.index) ∧
    ∀ reply index buffer payload, s.AnswersFor reply t.bus g.buffer index →
      t.bus.buffer? g.buffer = some buffer → buffer.isClosed = false → index ∉ buffer.settled →
      reply.isTrue Property.sendingFault = false →
      s.value? reply t.bus.evaluator = some payload →
      (s.deliver reply t.bus).1 = .ok .accepted ∧
        ∀ later t', Since ⟨(s.deliver reply t.bus).2, t.flows⟩ later t' →
          ((∀ r ∈ later.filterMap RunEvent.ended, r.buffer ≠ g.buffer) →
            Merges t'.bus g.buffer ⟨index, payload⟩) ∧
          ∀ g' m' b', .concluded g' m' b' ∈ later → g'.buffer = g.buffer →
            Merges b' g.buffer ⟨index, payload⟩ := by
  refine ⟨fun index bus => s.branch_marred g.correlation index m bus,
    fun c m₀ sent hsent => ⟨hsent.awaitsReply, fun rest => hsent.reaches⟩, ?_, ?_⟩
  · rintro before after f f' e b' c m₀ hflows he hrun hreply hsent hmarred hs
    obtain ⟨ops, hb, -⟩ := h.buffer? hbegan
    rw [← hrun] at hb ⊢
    have hb' := records he hreply hsent hmarred hb hs
    have hopen : e.key ∈ t.openBranches := by
      refine List.mem_flatMap.2 ⟨f, ?_, Flow.key_mem_openBranches he⟩
      rw [hflows]
      exact List.mem_append_right _ List.mem_cons_self
    refine ⟨_, hb, hb', fun hsettled => hrun ▸ ?_, ?_⟩
    · exact h.settled hbegan (hrun ▸ hb) (hrun ▸ hopen) hsettled
    · intro later t' buffer' hnew hsince hb₁ hsettled
      rw [if_neg hnew] at hb'
      refine hsince.settled hb' hb₁ ?_ hnew hsettled
      have hflows' : t = ⟨t.bus, before ++ f :: after⟩ := by rw [← hflows]
      have hone := h.count_openBranches e.gathering.buffer e.index
      rw [hflows'] at hone
      exact Nat.lt_one_iff.1 (Nat.lt_of_lt_of_le (count_of_branchEnd before after he hs) hone)
  · intro reply index buffer payload hanswers hb hopen hnew hfault hvalue
    obtain ⟨haccepted, hmerges⟩ :=
      h.merges hbegan htargets hanswers hb hopen hnew hfault hvalue
    exact ⟨haccepted, fun later t' hsince =>
      hsince.merges (h.step (.reply t.flows s reply)) hmerges⟩

end

/-! ## A run with and without an earlier failure

The only branch of a run is a call that is handed off, and the message of the run says
whether an earlier send of it failed, as the message of a fault handler does. -/

namespace Marked

def quotes : Scatter where
  name := "quotes"
  config := ⟨true, .json, .body, { correlation := some "id" }, none⟩
  aggregator := "quotes"

def ask : Call := { name := "ask", transport := "channel" }

def targets : List (Option String × Mediator) := [(none, .call ask)]

def request (fault : Bool) : Message where
  id := ⟨0⟩
  properties := Dict.ofList [(Property.sendingFault, .bool fault)]

def start : Bus := { evaluator := fun _ _ => .ok (.text "x") }

def run : Gathering := ⟨quotes, "x", 0, none, [(0, .call ask)]⟩

def begun (fault : Bool) : Bus := (quotes.begin [.call ask] (request fault) start).2

/-- The run up to the move that takes its branch into account. -/
def stopping (fault : Bool) : Flow × Bus × List RunEvent :=
  advance 7 (.gathering (request fault) run [] []) (begun fault)

/-- The run with its branch taken into account. -/
def recorded (fault : Bool) : Flow × Bus × List RunEvent :=
  advance 1 (stopping fault).1 (stopping fault).2.1

/-- The message of the branch. -/
def copy (fault : Bool) : Message := (quotes.branch "x" 0 (request fault) (begun fault)).1

def reply : Message where
  id := ⟨9⟩
  properties := Dict.ofList [(Property.branchIndex, .int 0), (Property.correlation, .text "x")]

theorem history_stopping (fault : Bool) :
    History (.began quotes [.call ask] (request fault) start run :: (stopping fault).2.2)
      ⟨(stopping fault).2.1, [(stopping fault).1]⟩ := by
  have h₀ : History [] ⟨start, []⟩ := .fresh rfl rfl (Nat.le_refl _)
  have h₁ := h₀.step (.start [] (request fault) (.mediate (.scatter quotes targets)) [])
  have hbegin : quotes.begin (targets.map Prod.snd) (request fault) start =
      (.ok run, begun fault) := rfl
  have h₂ := History.begin [] [] h₁ hbegin
  cases fault <;> exact History.advance [] [] h₂ 7

theorem route_copy (fault : Bool) : ask.route (copy fault) = .handOff := by
  have hnone : (copy fault).property? Property.outOnly = none :=
    (quotes.branch_keeps "x" 0 (request fault) (begun fault) (by decide)).trans rfl
  simp only [Call.route, Message.isOutOnly, Message.isTrue, hnone]
  rfl

/-- The channel takes the message of the branch. -/
theorem handsOff (fault : Bool) : ask.HandsOff (copy fault) (ask.handedOver (copy fault)) := by
  have hquiet : start.Allows Edit.KeepsMarks := by
    intro channel edits hedits
    have hnone : (start.transport channel).edits = [] := rfl
    simp [hnone] at hedits
  refine ⟨⟨.inr (List.cons_ne_nil _ _), rfl⟩, route_copy fault, start, .proceed true, true, hquiet,
    rfl, ?_⟩
  simp only [Call.sending, Call.outgoing, route_copy]
  have hdestination : (ask.handedOver (copy fault)).destination = none := rfl
  generalize ask.handedOver (copy fault) = sent at hdestination
  have given : (Flow.send ask sent [] start).1.step start =
      some (.busy sent (.edit [] []) [.reply (.proceed true), .implicit .handOff], start) := by
    simp only [Flow.send, Flow.transmit, ask, hdestination]
    rfl
  have edited : (Flow.busy sent (.edit [] []) [.reply (.proceed true), .implicit .handOff]).step
      start = some (Flow.answer sent (.edited []) [.reply (.proceed true), .implicit .handOff],
        start) := rfl
  have replied : (Flow.answer sent (.edited []) [.reply (.proceed true), .implicit .handOff]).step
      start = some (Flow.answer sent (.proceed true) [.implicit .handOff], start) := rfl
  have ended : (Flow.answer sent (.proceed true) [.implicit .handOff]).step start =
      some (Flow.answer sent (.proceed true) [], start) := rfl
  exact .move (.move (.move (.move .refl hquiet given) hquiet edited) hquiet replied) hquiet ended

/-- Without an earlier failure the branch is recorded as waiting, and its reply is accepted. -/
theorem awaited_unmarked : 1 ≤ [Mediator.call ask].length ∧ (copy false).isMarred = false ∧
    ((recorded false).2.1.buffer? 0).map Buffer.awaiting = some 1 ∧
    (quotes.deliver reply (stopping false).2.1).1 = .ok .accepted := by
  have htargets : 1 ≤ [Mediator.call ask].length := by decide
  obtain ⟨hinherited, -, hrecords, hmerges⟩ :=
    History.awaited (history_stopping false) List.mem_cons_self htargets
  have hmarred : (copy false).isMarred = false := (hinherited 0 (begun false)).trans rfl
  obtain ⟨buffer, hb⟩ : ∃ buffer, (stopping false).2.1.buffer? 0 = some buffer := ⟨_, rfl⟩
  have hfresh : ((stopping false).2.1.buffer? 0).map
      (fun b => (b.isClosed, b.settled, b.awaiting)) = some (false, [], 0) := rfl
  obtain ⟨hopen, hsettled, hawaiting⟩ :
      buffer.isClosed = false ∧ buffer.settled = [] ∧ buffer.awaiting = 0 := by
    simpa [hb] using hfresh
  have hnew : 0 ∉ buffer.settled := by simp [hsettled]
  obtain ⟨buffer₁, hb₁, hrecorded, -⟩ := hrecords [] [] (stopping false).1 (recorded false).1
    ⟨_, 0, ask.handedOver (copy false), .proceed false⟩ (recorded false).2.1 ask (copy false) rfl
    rfl rfl rfl (handsOff false) hmarred rfl
  obtain rfl : buffer = buffer₁ := Option.some.inj (hb.symm.trans hb₁)
  rw [if_neg hnew] at hrecorded
  obtain ⟨haccepted, -⟩ := hmerges reply 0 buffer reply.payload ⟨rfl, rfl⟩ hb hopen hnew rfl rfl
  refine ⟨htargets, hmarred, ?_, haccepted⟩
  have hafter : (recorded false).2.1.buffer? 0 = _ := hrecorded
  rw [hafter, Option.map_some, hawaiting]

end Marked

open Marked in
/-- A branch may be excluded though its call was handed off: the message of the run says that
an earlier send has failed. The reply of the branch is rejected. -/
theorem handed_off_excluded : ∃ (past : List RunEvent) (t t' : Traffic) (s : Scatter)
      (targets : List Mediator) (m m₀ : Message) (b : Bus) (g : Gathering) (f f' : Flow)
      (e : BranchEnd) (c : Call) (reply : Message),
    History past t ∧ .began s targets m b g ∈ past ∧ t.flows = [f] ∧ f.branchEnd? = some e ∧
    e.gathering.buffer = g.buffer ∧ e.reply.verdict = .ok false ∧ c.HandsOff m₀ e.message ∧
    f.step t.bus = some (f', t'.bus) ∧
    (t.bus.buffer? g.buffer).map (fun b => (b.settled, b.isClosed)) = some ([], false) ∧
    (t'.bus.buffer? g.buffer).map (fun b => (b.settled, b.awaiting, b.excluded)) =
      some ([0], 0, 1) ∧
    s.AnswersFor reply t.bus g.buffer e.index ∧ reply.isTrue Property.sendingFault = false ∧
    (s.deliver reply t'.bus).1 = .ok .rejected :=
  ⟨_, ⟨(stopping true).2.1, [(stopping true).1]⟩, ⟨(recorded true).2.1, [(recorded true).1]⟩,
    quotes, [.call ask], request true, copy true, start, run, (stopping true).1, (recorded true).1,
    ⟨_, 0, ask.handedOver (copy true), .proceed false⟩, ask, reply, history_stopping true,
    List.mem_cons_self, rfl, rfl, rfl, rfl, handsOff true, rfl, rfl, rfl, ⟨rfl, rfl⟩, rfl, rfl⟩

end Traffic

end ServiceBus
