import ServiceBus.Proofs.Dispatch.Given
import ServiceBus.Proofs.Dispatch.History
import ServiceBus.Proofs.Registry.Indirection
import ServiceBus.Simulation.World

/-
ServiceBus.Proofs.Dispatch.StandIn — an indirect endpoint stands for another one.

Whatever is done under the name of an indirect endpoint begins by looking up what the name
stands for, so it is the same as under the name of that endpoint (`Bus.StandsFor`).

That nothing else changes is more than that for a send, which goes on for many moves.
`Flow.SendsTo` lists the flows that a send can come to, and `SendsTo.changesOnly` says that
a move of theirs changes the endpoint of the send at most. The one exception is a channel
that calls a fault handler of the message: its mediators make sends of their own, and the
send waits behind them (`Flow.InHandler`).
-/
namespace ServiceBus

/-! ## One endpoint apart from all others -/

namespace Registry

variable {r r' r'' : Registry} {name : String}

/-- Nothing changes but the health of the endpoint of one name. -/
def ChangesOnly (name : String) (r r' : Registry) : Prop :=
  ∃ f : Health → Health, ∀ other, r'.get? other =
    if other = name then (r.get? other).map fun e => { e with health := f e.health }
    else r.get? other

theorem changesOnly_modify (name : String) (r : Registry) (f : Health → Health) :
    ChangesOnly name r (Dict.modify r name fun e => { e with health := f e.health }) :=
  ⟨f, fun other => Dict.get?_modify r other name _⟩

namespace ChangesOnly

theorem refl (name : String) (r : Registry) : ChangesOnly name r r :=
  ⟨id, fun other => by simp⟩

theorem trans (h : ChangesOnly name r r') (h' : ChangesOnly name r' r'') :
    ChangesOnly name r r'' := by
  obtain ⟨f, hf⟩ := h
  obtain ⟨g, hg⟩ := h'
  refine ⟨g ∘ f, fun other => ?_⟩
  rw [hg, hf]
  split
  · rw [Option.map_map]
    rfl
  · rfl

theorem wellNamed (h : ChangesOnly name r r') (hr : r.WellNamed) : r'.WellNamed := by
  obtain ⟨f, hf⟩ := h
  intro other e' he'
  rw [hf] at he'
  split at he'
  · obtain ⟨e, he, rfl⟩ := Option.map_eq_some_iff.1 he'
    exact hr other e he
  · exact hr other e' he'

end ChangesOnly

end Registry

open Registry (ChangesOnly)

namespace Bus

variable {b : Bus} {name : String} {e : Endpoint}

theorem changesOnly_updateHealth (b : Bus) (name : String) (f : Health → Health) :
    ChangesOnly name b.endpoints (b.updateHealth name f).endpoints :=
  Registry.changesOnly_modify name b.endpoints f

theorem changesOnly_recordFailure (b : Bus) (e : Endpoint) (code : Int32) (s : Settings) :
    ChangesOnly e.name b.endpoints (b.recordFailure e code s).2.endpoints := by
  simp only [recordFailure]
  split <;> exact b.changesOnly_updateHealth e.name fun h => (h.recordFailure b.now code s).2

theorem changesOnly_recordResponse (h : b.concrete name = .ok e) :
    ChangesOnly e.name b.endpoints (b.recordResponse name).2.endpoints := by
  simp only [recordResponse, h]
  exact b.changesOnly_updateHealth e.name _

theorem changesOnly_recordFaultResponse (h : b.concrete name = .ok e) (fault : TransportFault)
    (m : Message) :
    ChangesOnly e.name b.endpoints (b.recordFaultResponse name fault m).2.2.endpoints := by
  simp only [recordFaultResponse, h]
  exact changesOnly_recordFailure (Bus.measure (b.settingsFor e m).2 _) e _ _

end Bus

/-! ## The course of a send -/

/-- A task of a send to an endpoint, made by the send itself or by its channel. -/
def Task.SendsTo (name : String) : Task → Prop
  | .attempt d => d.endpoint = name
  | .mediate _ => False
  | _ => True

/-- Work of a send to an endpoint, made by the send itself or by its channel. -/
def Pending.SendsTo (name : String) : Pending → Prop
  | .attempt d _ _ => d.endpoint = name
  | .retry d => d.endpoint = name
  | .transmit .. => True
  | .reply _ => True
  | _ => False

namespace Flow

variable {name : String} {m : Message} {task : Task} {k : List Pending} {bus bus' : Bus}
  {f f' : Flow}

/-- A fault handler is at work, and the channel that called it waits. -/
def InHandler (f : Flow) : Prop := ∃ rest findings, .edits rest findings ∈ f.pending

/-- A send to an endpoint, on its way or at its end. -/
inductive SendsTo (name : String) : Flow → Prop where
  | own {m : Message} {task : Task} {k : List Pending} (htask : task.SendsTo name)
      (hk : ∀ p ∈ k, p.SendsTo name) : SendsTo name (.busy m task k)
  /-- Behind a fault handler that the channel has called. -/
  | behind {k : List Pending} (f : Flow) (rest : List (Edit Mediator)) (findings : List Finding)
      (hk : ∀ p ∈ k, p.SendsTo name) : SendsTo name (f.andThen (.edits rest findings :: k))

namespace SendsTo

theorem answer (m : Message) (r : Reply) (hk : ∀ p ∈ k, p.SendsTo name) :
    SendsTo name (Flow.answer m r k) := .own trivial hk

theorem below {p : Pending} (htask : task.SendsTo name) (hp : p.SendsTo name)
    (hk : ∀ p ∈ k, p.SendsTo name) : SendsTo name (.busy m task (p :: k)) :=
  .own htask (List.forall_mem_cons.2 ⟨hp, hk⟩)

theorem dispatch {e : Endpoint} (h : bus.concrete name = .ok e) (channel : String)
    (mode : SendMode) (m : Message) :
    SendsTo e.name (Flow.dispatch name channel mode m [] bus).1 := by
  simp only [Flow.dispatch, h]
  exact .own rfl (by simp)

/-! ## Moves of a send -/

theorem attempt {d : Dispatch} (hd : d.endpoint = name) (hk : ∀ p ∈ k, p.SendsTo name) :
    SendsTo name (Flow.attempt d m k bus).1 := by
  obtain ⟨e, bus', h, -⟩ | ⟨outcome, edits, deadline, bus', h, -⟩ := attempt_cases d m k bus
  · rw [h]
    exact .answer m _ hk
  · rw [h]
    exact .below trivial hd hk

theorem undelivered {d : Dispatch} (hd : d.endpoint = name) (hk : ∀ p ∈ k, p.SendsTo name)
    (started : Time) (fault : TransportFault) :
    SendsTo name (Flow.undelivered d started fault m k bus).1 := by
  unfold Flow.undelivered
  simp only
  split
  · exact .answer _ _ hk
  · split
    · split
      · exact .own hd hk
      · exact .below trivial hd hk
    · exact .answer _ _ hk

theorem resume {p : Pending} (hp : p.SendsTo name) (hk : ∀ p ∈ k, p.SendsTo name) (r : Reply) :
    SendsTo name (Flow.resume r m p k bus).1 := by
  cases p with
  | attempt d started deadline =>
    simp only [Flow.resume]
    split
    · exact undelivered hp hk started _
    · exact .answer _ _ hk
  | retry d => exact .own hp hk
  | transmit outcome edits => exact .own trivial hk
  | reply r' =>
    simp only [Flow.resume]
    split
    · exact .answer _ _ hk
    · exact .answer _ _ hk
  | _ => exact hp.elim

theorem deliver (hk : ∀ p ∈ k, p.SendsTo name) (outcome : Outcome) (edits : List (Edit Mediator)) :
    SendsTo name (Flow.deliver outcome edits m k bus).1 := by
  cases outcome with
  | success => exact .below trivial trivial hk
  | respond payload => exact .below trivial trivial hk
  | fault fault => exact .answer m _ hk
  | hang => exact .own trivial hk
  | after delay rest => exact .below trivial trivial hk

/-- The channel makes its edits, or calls a fault handler. -/
theorem edit (hk : ∀ p ∈ k, p.SendsTo name) (edits : List (Edit Mediator))
    (findings : List Finding) : SendsTo name (Flow.edit edits findings m k bus).1 := by
  unfold Flow.edit
  split
  · exact .answer m _ hk
  · next rest =>
    obtain ⟨m', task, top, bus', -, hgoes⟩ := goes_runHandler m (.proceed true) (.proceed false) bus
    have hrun : runHandler m (.proceed true) (.proceed false) (.edits rest findings :: k) =
        (Flow.busy m' task top).andThen (.edits rest findings :: k) := congrArg Prod.fst (hgoes _)
    rw [hrun]
    exact .behind (.busy m' task top) rest findings hk
  · exact .own trivial hk

theorem cut (hk : ∀ p ∈ k, p.SendsTo name) (h : Flow.cut? m bus k = some f) : SendsTo name f := by
  obtain ⟨m', r, p, k', rfl, hsuffix⟩ := cut?_eq_some h
  exact .answer m' r fun q hq => hk q (hsuffix.subset hq)

theorem work (htask : task.SendsTo name) (hk : ∀ p ∈ k, p.SendsTo name)
    (h : Flow.work m task k bus = some (f', bus')) : SendsTo name f' := by
  cases task with
  | mediate mediator => exact htask.elim
  | edit edits findings => exact of_move (edit hk edits findings) h
  | attempt d => exact of_move (attempt htask hk) h
  | transmit outcome edits => exact of_move (deliver hk outcome edits) h
  | sleep t =>
    simp only [Flow.work] at h
    split at h
    · exact of_move (x := (_, _)) (.answer m _ hk) h
    · exact cut hk (cut_of_move h).1
  | hang => exact cut hk (cut_of_move h).1
  | reply r =>
    cases k with
    | nil => simp [Flow.work] at h
    | cons p k =>
      rw [List.forall_mem_cons] at hk
      exact of_move (resume hk.1 hk.2 r) h

/-- A send goes on as one. -/
theorem step (h : SendsTo name f) (hs : f.step bus = some (f', bus')) : SendsTo name f' := by
  cases h with
  | own htask hk => exact work htask hk hs
  | @behind k f rest findings hk =>
    cases hend : f.finished? with
    | some outcome =>
      -- the handler is through, and the channel goes on
      obtain ⟨m, r⟩ := outcome
      obtain rfl := finished?_eq_some.1 hend
      obtain ⟨rfl, -⟩ := Prod.mk.inj (Option.some.inj hs)
      exact .own trivial hk
    | none =>
      rw [step_andThen_or_cut hend] at hs
      obtain hs | ⟨-, hs⟩ := Option.or_eq_some_iff.1 hs
      · obtain ⟨⟨f'', bus''⟩, -, he⟩ := Option.map_eq_some_iff.1 hs
        obtain ⟨rfl, -⟩ := Prod.mk.inj he
        exact .behind f'' rest findings hk
      · -- the attempt is cut off while the handler waits
        exact cut hk (cut_of_move hs).1

/-- Every flow that a send comes to is one of it. -/
theorem reaches {ok : Bus → Prop} (h : SendsTo name f) (hreaches : Reaches ok f f') :
    SendsTo name f' := by
  induction hreaches with
  | refl => exact h
  | move _ _ hs ih => exact ih.step hs

end SendsTo

/-! ## What a send changes -/

/-- The end of an attempt changes its endpoint at most. -/
theorem changesOnly_ended (hnamed : bus.endpoints.WellNamed) (d : Dispatch) (started : Time)
    (deadline : Option Timer) (r : Reply) (m : Message) (k : List Pending) :
    ChangesOnly d.endpoint bus.endpoints
      (resume r m (.attempt d started deadline) k bus).2.endpoints := by
  -- what the recording of the failure gives
  have recorded {b b' : Bus} {e : Endpoint} {code : Int32} {s : Settings} {v : Verdict}
      (he : e.name = d.endpoint) (h : b.recordFailure e code s = (v, b'))
      (hmeasured : b.endpoints = bus.endpoints) :
      ChangesOnly d.endpoint bus.endpoints b'.endpoints := by
    have hrecorded := b.changesOnly_recordFailure e code s
    rwa [h, he, hmeasured] at hrecorded
  simp only [resume]
  split
  · unfold undelivered
    simp only
    split
    · exact .refl _ _
    · next e he =>
      have hname : e.name = d.endpoint := hnamed _ e (Bus.endpoint_eq_ok.1 he)
      split <;> next heq =>
        have hrecorded := recorded hname heq rfl
        first
          | exact hrecorded
          | split <;> exact hrecorded
  · unfold delivered
    cases d.mode with
    | handOff => exact .refl _ _
    | blocking => exact Bus.changesOnly_updateHealth _ _ _

/-- A move of a send changes its endpoint at most, unless a fault handler makes it. -/
theorem SendsTo.changesOnly (h : SendsTo name f) (hnamed : bus.endpoints.WellNamed)
    (hs : f.step bus = some (f', bus')) :
    ChangesOnly name bus.endpoints bus'.endpoints ∨ f.InHandler := by
  have same (hendpoints : bus'.endpoints = bus.endpoints) :
      ChangesOnly name bus.endpoints bus'.endpoints := hendpoints ▸ .refl name _
  cases h with
  | @own m task k htask hk =>
    left
    by_cases hloud : Loud task k
    · have hs : Flow.work m task k bus = some (f', bus') := hs
      cases hloud with
      | attempt d =>
        have hattempt := Dispatching.attempt_effect d m k bus
        rw [Option.some.inj hs] at hattempt
        cases hattempt with
        | still hendpoints _ => exact same hendpoints
      | ended r d started deadline k =>
        obtain rfl : d.endpoint = name := hk _ List.mem_cons_self
        have hended := changesOnly_ended hnamed d started deadline r m k
        have hs : some (Flow.resume r m (.attempt d started deadline) k bus) = some (f', bus') := hs
        rwa [Option.some.inj hs] at hended
      | implicit _ _ => exact htask.elim
    · exact same (congrArg Service.endpoints (service_of_work hs hloud))
  | @behind k f rest findings hk =>
    right
    refine ⟨rest, findings, ?_⟩
    cases f <;> simp [Flow.andThen, pending]

/-! ## Channels that call no fault handler -/

theorem not_inHandler {P : Message → Prop} (h : Exchanging P f) : ¬ f.InHandler := by
  rintro ⟨rest, findings, hmem⟩
  have hsend {p : Pending} (hp : p.isSend = true) : p ≠ .edits rest findings := by
    rintro rfl
    simp [Pending.isSend] at hp
  cases h with
  | ended => simp [Flow.answer, pending] at hmem
  | underway _ h =>
    cases h <;> simp [pending] at hmem <;> exact hsend ‹Pending.isSend _ = true› hmem.symm

theorem exchanging_dispatch (name channel : String) (mode : SendMode) (m : Message) (bus : Bus) :
    Exchanging (fun _ => True) (dispatch name channel mode m [] bus).1 := by
  unfold dispatch
  split
  · exact .failed m _
  · exact .underway trivial (.attempting _)

/-- A channel that calls no fault handler leaves a send to itself. -/
theorem exchanging_step (h : Exchanging (fun _ => True) f)
    (hok : bus.Allows (·.isHandleFault = false)) (hs : f.step bus = some (f', bus')) :
    Exchanging (fun _ => True) f' := by
  have hkept : Outlasts fun _ => True := ⟨fun _ _ => trivial, fun _ => trivial, fun _ _ => trivial⟩
  exact h.step hkept (fun other edits hedits e he => ⟨hok other edits hedits e he, by simp⟩) hs

theorem exchanging_of_reaches (h : Exchanging (fun _ => True) f)
    (hreaches : Reaches (·.Allows (·.isHandleFault = false)) f f') :
    Exchanging (fun _ => True) f' := by
  induction hreaches with
  | refl => exact h
  | move _ hok hs ih => exact exchanging_step ih hok hs

/-- A send that has the bus for itself changes its endpoint at most. -/
theorem changesOnly_run (hsends : SendsTo name f) (hexchanging : Exchanging (fun _ => True) f)
    (hnamed : bus.endpoints.WellNamed) (hok : bus.Allows (·.isHandleFault = false)) (n : Nat) :
    ChangesOnly name bus.endpoints (f.run n bus).2.endpoints := by
  induction n generalizing f bus with
  | zero => exact .refl name _
  | succ n ih =>
    rw [run]
    split
    · next f' bus' hs =>
      have hmove : ChangesOnly name bus.endpoints bus'.endpoints :=
        (hsends.changesOnly hnamed hs).resolve_right (not_inHandler hexchanging)
      exact hmove.trans (ih (hsends.step hs) (exchanging_step hexchanging hok hs)
        (hmove.wellNamed hnamed) (hok.step hs))
    · exact .refl name _

/-- A send that began on a bus does nothing to any endpoint but its own. -/
structure SendsAlone (name : String) (begun : Bus) (x : Flow × Bus) : Prop where
  begins : x.2.endpoints = begun.endpoints
  /-- Every move, on whatever bus it is made, but for those of a fault handler that the channel
  called. -/
  goesOn : ∀ f f' b b', Reaches (fun _ => True) x.1 f → b.endpoints.WellNamed →
    f.step b = some (f', b') → ChangesOnly name b.endpoints b'.endpoints ∨ f.InHandler
  /-- There is no fault handler at work where the channels call none. -/
  unhandled : ∀ f, Reaches (·.Allows (·.isHandleFault = false)) x.1 f → ¬ f.InHandler
  /-- The send as a whole, if it has the bus for itself, with such channels. -/
  runs : begun.Allows (·.isHandleFault = false) → ∀ n,
    ChangesOnly name begun.endpoints (x.1.run n x.2).2.endpoints

theorem dispatch_sendsAlone {e : Endpoint} (hnamed : bus.endpoints.WellNamed)
    (h : bus.concrete name = .ok e) (channel : String) (mode : SendMode) (m : Message) :
    SendsAlone e.name bus (dispatch name channel mode m [] bus) := by
  have hservice := Dispatching.service_dispatch name channel mode m [] bus
  have hendpoints : (dispatch name channel mode m [] bus).2.endpoints = bus.endpoints :=
    congrArg Service.endpoints hservice
  have hsends : SendsTo e.name (dispatch name channel mode m [] bus).1 := .dispatch h channel mode m
  have hexchanging := exchanging_dispatch name channel mode m bus
  refine ⟨hendpoints, fun f f' b b' hreaches hb hs => (hsends.reaches hreaches).changesOnly hb hs,
    fun f hreaches => not_inHandler (exchanging_of_reaches hexchanging hreaches), fun hok n => ?_⟩
  have hallows : (dispatch name channel mode m [] bus).2.Allows (·.isHandleFault = false) := by
    intro other edits hedits
    rw [Bus.transport_congr (congrArg Service.transports hservice)] at hedits
    exact hok other edits hedits
  rw [← hendpoints] at hnamed ⊢
  exact changesOnly_run hsends hexchanging hnamed hallows n

end Flow

/-! ## Indirect endpoints -/

open Simulation (World)

namespace Bus

variable {b : Bus} {name key : String} {own e : Endpoint}

/-- What is done under a name is done to another endpoint, and to no other one. -/
structure StandsFor (b : Bus) (name : String) (e : Endpoint) : Prop where
  sends : ∀ channel mode m k,
    Flow.dispatch name channel mode m k b = Flow.dispatch e.name channel mode m k b
  sendsAlone : ∀ channel mode m,
    Flow.SendsAlone e.name b (Flow.dispatch name channel mode m [] b)
  responds : b.recordResponse name = b.recordResponse e.name
  respondsAlone : ChangesOnly e.name b.endpoints (b.recordResponse name).2.endpoints
  faults : ∀ fault m, b.recordFaultResponse name fault m = b.recordFaultResponse e.name fault m
  faultsAlone : ∀ fault m,
    ChangesOnly e.name b.endpoints (b.recordFaultResponse name fault m).2.2.endpoints
  /-- What is seen of the endpoint from outside. -/
  described : ∀ w : World, w.bus = b →
    (w.describeEndpoint name).map (·.resolved) = .ok (.ok e) ∧
      (w.describeEndpoint e.name).map (·.resolved) = .ok (.ok e)

theorem concrete_of_get? (h : b.endpoints.get? name = some own) :
    b.concrete name = b.endpoints.concrete own := by
  rw [concrete, endpoint_eq_ok.2 h]
  rfl

theorem concrete_of_indirect (h : b.endpoints.get? name = some own)
    (hkind : own.kind = .indirect key) : b.concrete name = b.endpoints.resolve key := by
  rw [concrete_of_get? h, Registry.concrete, hkind]

theorem concrete_of_concrete (h : b.endpoints.get? name = some e) (he : e.Concrete) :
    b.concrete name = .ok e := by
  rw [concrete_of_get? h, Registry.concrete]
  split
  · next hkind => exact absurd hkind (he _)
  · rfl

theorem describeEndpoint_of_get? {w : World} (h : w.bus.endpoints.get? name = some own) :
    (w.describeEndpoint name).map (·.resolved) = .ok (w.bus.concrete name) := by
  rw [concrete_of_get? h, World.describeEndpoint, World.endpoint, h]
  rfl

theorem standsFor (hnamed : b.endpoints.WellNamed) (hown : b.endpoints.get? name = some own)
    (hname : b.concrete name = .ok e) : b.StandsFor name e := by
  obtain ⟨he, hconcrete⟩ := concrete_eq_ok hnamed hname
  have hself : b.concrete e.name = .ok e := concrete_of_concrete he hconcrete
  exact {
    sends channel mode m k := by simp only [Flow.dispatch, hname, hself]
    sendsAlone := Flow.dispatch_sendsAlone hnamed hname
    responds := by simp only [recordResponse, hname, hself]
    respondsAlone := changesOnly_recordResponse hname
    faults fault m := by simp only [recordFaultResponse, hname, hself]
    faultsAlone := changesOnly_recordFaultResponse hname
    described := by
      rintro w rfl
      rw [describeEndpoint_of_get? hown, describeEndpoint_of_get? he, hname, hself]
      exact ⟨rfl, rfl⟩ }

/-- A key is resolved by the chain that it begins, whatever the registry. An indirect endpoint
whose key leads to an endpoint stands for that one. -/
theorem indirection_transparent (b : Bus) :
    (∀ key, b.endpoints.Traced key) ∧
    (b.endpoints.WellNamed → ∀ name own key e, b.endpoints.get? name = some own →
      own.kind = .indirect key → b.endpoints.resolve key = .ok e → b.StandsFor name e) := by
  refine ⟨b.endpoints.traced, fun hnamed name own key e hown hkind he => ?_⟩
  exact standsFor hnamed hown ((concrete_of_indirect hown hkind).trans he)

/-! ## A chain, a cycle and a key that leads nowhere -/

namespace Signs

open Dispatching (Quote.quote Quote.front)

/-- An indirect endpoint. -/
def sign (name key : String) : Endpoint := ⟨name, .indirect key, {}, {}, false⟩

def bus : Bus where
  endpoints := Dict.ofList [("quote", Quote.quote), ("front", Quote.front),
    ("shop", sign "shop" "front"), ("lost", sign "lost" "nowhere"),
    ("egg", sign "egg" "hen"), ("hen", sign "hen" "egg")]

theorem wellNamed : bus.endpoints.WellNamed :=
  (((((Registry.wellNamed_empty.register (e := Quote.quote) rfl).register
    (e := Quote.front) rfl).register (e := sign "shop" "front") rfl).register
    (e := sign "lost" "nowhere") rfl).register (e := sign "egg" "hen") rfl).register
    (e := sign "hen" "egg") rfl

theorem indirection_transparent_signs :
    bus.StandsFor "shop" Quote.quote ∧
      bus.endpoints.resolve "lost" = .error (.unknownEndpoint "nowhere") ∧
      bus.endpoints.resolve "egg" = .error (.configuration (.indirectionTooDeep "egg")) := by
  obtain ⟨htraced, hstandsFor⟩ := indirection_transparent bus
  refine ⟨hstandsFor wellNamed "shop" _ "front" _ rfl rfl rfl, ?_, ?_⟩
  · exact ((htraced "lost").missing "nowhere").2
      ⟨1, by decide, .there rfl rfl (.here "nowhere"), rfl⟩
  · have hround : bus.endpoints.Passes 2 "egg" "egg" :=
      .there rfl rfl (.there rfl rfl (.here "egg"))
    exact (htraced "egg").cyclic 0 2 "egg" (.here "egg") (by decide) hround

end Signs

end Bus

end ServiceBus
