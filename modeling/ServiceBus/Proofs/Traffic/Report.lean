import ServiceBus.Proofs.Traffic.History
import ServiceBus.Proofs.Buffer.Outcome

/-
ServiceBus.Proofs.Traffic.Report — what the report of a scatter-gather says, in
whatever order its branches, their replies and the deadline come.

Counts, reason, warning and the placed value are computed in different
places. `History.report` says that they agree with one and the same list of
operations, those that were performed on the buffer of the run between its
beginning and its conclusion.
-/
namespace ServiceBus

/-! ## The parts of a conclusion -/

/-- A valid configuration has at least one branch. -/
theorem ScatterConfig.one_le_of_validate {c : ScatterConfig} {targets : Nat}
    (h : c.validate targets = .ok ()) : 1 ≤ targets := by
  rcases Nat.eq_zero_or_pos targets with rfl | hpos
  · simp only [validate, if_true] at h
    exact absurd h (by simp [bind, Except.bind, throw, throwThe, MonadExceptOf.throw])
  · exact hpos

/-- A warning is due below the wanted minimum, and only there. -/
theorem Buffer.partialWarning_isSome {b : Buffer} {received : Nat} {reason : CloseReason} :
    (b.partialWarning received reason).isSome = true ↔
      ∃ minimum, b.limits.minimum = some minimum ∧ received < minimum.toNat := by
  unfold partialWarning
  cases b.limits.minimum with
  | none => simp
  | some minimum =>
    simp only [Option.some.injEq, exists_eq_left']
    split
    · simp; omega
    · simp; omega

/-- A report agrees with the results accepted and the branches excluded. -/
structure AggregationReport.Tallies (report : AggregationReport) (limits : BufferLimits)
    (accepted : List BranchResult) (excluded : List Nat) : Prop where
  merged_eq : report.merged = accepted.length
  excluded_eq : report.excluded = excluded.length
  /-- No branch is merged twice, excluded twice, or merged and excluded. -/
  distinct : (accepted.map BranchResult.branch ++ excluded).Nodup
  within : report.merged + report.excluded ≤ limits.expected
  allBranches : report.reason = .allBranches →
    report.merged + report.excluded = limits.expected
  maxMessages : report.reason = .maxMessages →
    ∃ maximum, limits.maximum = some maximum ∧ report.merged = max 1 maximum.toNat
  below : report.reason ≠ .maxMessages → ∀ maximum, limits.maximum = some maximum →
    1 ≤ maximum.toNat → report.merged < maximum.toNat
  warning : report.warning.isSome = true ↔
    ∃ minimum, limits.minimum = some minimum ∧ report.merged < minimum.toNat

/-- Counts that agree with the reason of the closing make a report that tallies. -/
theorem AggregationReport.tallies {b : Buffer} {excluded : List Nat} (correlation : String)
    (reason : CloseReason) (h : b.Accounts excluded) (hwithin : b.accounted ≤ b.limits.expected)
    (hall : reason = .allBranches → b.accounted = b.limits.expected)
    (hfull : reason = .maxMessages →
      ∃ maximum, b.limits.maximum = some maximum ∧ b.results.length = max 1 maximum.toNat)
    (hbelow : reason ≠ .maxMessages →
      ∀ maximum, b.limits.maximum = some maximum → b.results.length < max 1 maximum.toNat) :
    Tallies ⟨correlation, b.results.length, b.excluded, reason,
      b.partialWarning b.results.length reason⟩ b.limits b.results excluded where
  merged_eq := rfl
  excluded_eq := h.count
  distinct := h.settled.nodup_iff.1 h.distinct
  within := hwithin
  allBranches := hall
  maxMessages := hfull
  below hne maximum hm hone := by
    have hlt := hbelow hne maximum hm
    rw [Nat.max_eq_right hone] at hlt
    exact hlt
  warning := Buffer.partialWarning_isSome

namespace Scatter

/-- `m'` is `m` with the accepted results joined and placed as configured, and with
the mark for a partial result; nothing else is changed. -/
def Placed (s : Scatter) (accepted : List BranchResult) (warned : Bool) (m m' : Message) : Prop :=
  ∃ (ordered : List BranchResult) (joined : Payload),
    (s.config.parallel = true → ordered = accepted) ∧
    (s.config.parallel = false →
      ordered.Perm accepted ∧ ordered.Pairwise fun a b => a.branch < b.branch) ∧
    (match s.config.form with
      | .json => joined = .json (.list (ordered.map fun r => r.payload.toValue))
      | .xml root => joined = .xml ("<" ++ root ++ ">" ++
          String.join (ordered.map fun r => r.payload.xmlFragment) ++ "</" ++ root ++ ">")) ∧
    (match s.config.place with
      | .body => m' = { m.setPayload joined with
          properties := m.properties.insert Property.partialResult (.bool warned) }
      | .variable name => m' = { m with
          vars := m.vars.insert name joined.toValue
          properties := m.properties.insert Property.partialResult (.bool warned) })

theorem setPayload_properties (m : Message) (p : Payload) :
    (m.setPayload p).properties = m.properties := by
  unfold Message.setPayload
  cases p.contentType? <;> rfl

/-- Results are joined by branch where the branches run one after the other. -/
theorem ordered_spec (s : Scatter) {results : List BranchResult}
    (hnodup : (results.map BranchResult.branch).Nodup) :
    (s.config.parallel = true → s.ordered results = results) ∧
      (s.config.parallel = false → (s.ordered results).Perm results ∧
        (s.ordered results).Pairwise fun a b => a.branch < b.branch) := by
  refine ⟨fun h => by simp [ordered, h], fun h => ?_⟩
  have hperm : (s.ordered results).Perm results := by
    simpa [ordered, h] using List.mergeSort_perm results fun a b => decide (a.branch ≤ b.branch)
  refine ⟨hperm, ?_⟩
  have hsorted : (results.mergeSort fun a b => decide (a.branch ≤ b.branch)).Pairwise
      fun a b => decide (a.branch ≤ b.branch) = true := by
    refine List.pairwise_mergeSort (fun a b c hab hbc => ?_) (fun a b => ?_) results
    · simp only [decide_eq_true_eq] at hab hbc ⊢
      omega
    · simp only [Bool.or_eq_true, decide_eq_true_eq]
      omega
  have hsorted : (s.ordered results).Pairwise fun a b => a.branch ≤ b.branch := by
    simpa [ordered, h] using hsorted
  -- sorted and without repetition
  have hne : (s.ordered results).Pairwise fun a b => a.branch ≠ b.branch :=
    List.pairwise_map.1 ((hperm.map BranchResult.branch).nodup_iff.2 hnodup)
  exact (hsorted.and hne).imp fun ⟨hle, hne⟩ => by omega

theorem place_placed (s : Scatter) {results : List BranchResult}
    (hnodup : (results.map BranchResult.branch).Nodup) (warned : Bool) (m : Message) :
    s.Placed results warned m ((place s.config.place m
      (merge s.config.form (s.ordered results))).setProperty Property.partialResult
        (.bool warned)) := by
  obtain ⟨hparallel, hsequential⟩ := s.ordered_spec hnodup
  refine ⟨s.ordered results, merge s.config.form (s.ordered results), hparallel, hsequential,
    ?_, ?_⟩
  · cases s.config.form <;> rfl
  · cases s.config.place with
    | body =>
      show Message.setProperty _ _ _ = _
      rw [Message.setProperty, place, setPayload_properties]
    | «variable» name => rfl

/-- The conclusion of a run whose buffer is closed. -/
theorem conclude_of_closed {g : Gathering} {m : Message} {b : Bus} {buffer : Buffer}
    {reason : CloseReason} (hb : b.buffer? g.buffer = some buffer)
    (hr : buffer.reason = some reason) :
    ∃ b', conclude g m b =
      (.ok ⟨g.correlation, buffer.results.length, buffer.excluded, reason,
          buffer.partialWarning buffer.results.length reason⟩,
        (place g.scatter.config.place m (merge g.scatter.config.form
          (g.scatter.ordered buffer.results))).setProperty Property.partialResult
            (.bool (buffer.partialWarning buffer.results.length reason).isSome), b') := by
  have hlength : (g.scatter.ordered buffer.results).length = buffer.results.length := by
    unfold ordered
    split <;> simp
  simp only [conclude, hb, Option.getD_some, Buffer.take, hr, hlength]
  exact ⟨_, rfl⟩

end Scatter

theorem Flow.conclude_of_ok {m m' : Message} {g : Gathering} {b b' : Bus}
    {report : AggregationReport} (h : Scatter.conclude g m b = (.ok report, m', b'))
    (k : List Pending) : Flow.conclude m g k b = (answer m' (.gathered report) k, b') := by
  rw [conclude, h]

/-! ## The report of a run -/

namespace Traffic.History

variable {past : List RunEvent} {t : Traffic}

/-- What a closed buffer owes to the operations that were performed on it. -/
theorem Closed.tallies {limits : BufferLimits} {correlation : String} {due : Option Time}
    {now : Time} {buffer : Buffer} (hexpected : 1 ≤ limits.expected)
    (h : Closed (Buffer.opened correlation limits) due now buffer) :
    ∃ (ops closing : List Buffer.Operation) (reason : CloseReason),
      (∀ op ∈ ops, op.contributes = true) ∧ (closing = [] ∨ closing = [.close .timeout]) ∧
      buffer = (Buffer.opened correlation limits).performAll (ops ++ closing) ∧
      buffer.reason = some reason ∧
      buffer.results = ((Buffer.opened correlation limits).history ops).filterMap Buffer.acceptedBy ∧
      (reason = .timeout → ∃ time, due = some time ∧ time ≤ now) ∧
        AggregationReport.Tallies
          ⟨correlation, buffer.results.length, buffer.excluded, reason,
            buffer.partialWarning buffer.results.length reason⟩ limits
          (((Buffer.opened correlation limits).history ops).filterMap Buffer.acceptedBy)
          (((Buffer.opened correlation limits).history ops).filterMap Buffer.excludedBy) := by
  -- what holds before the deadline, if it is the deadline that closes the buffer
  have account (ops : List Buffer.Operation) (hops : ∀ op ∈ ops, op.contributes = true) :
      let b := (Buffer.opened correlation limits).performAll ops
      b.Justified ∧ b.limits = limits ∧
        b.results = ((Buffer.opened correlation limits).history ops).filterMap Buffer.acceptedBy ∧
        b.Accounts (((Buffer.opened correlation limits).history ops).filterMap
          Buffer.excludedBy) := by
    refine ⟨(Buffer.Justified.opened correlation hexpected).performAll hops,
      Buffer.performAll_limits _ ops, ?_, ?_⟩
    · exact Buffer.performAll_results (Buffer.not_empties hops)
    · simpa using (Buffer.Accounts.opened correlation hexpected).performAll
        (Buffer.not_empties hops)
  cases h with
  | contributed ops hops hclosed =>
    obtain ⟨hjustified, hlimits, hresults, haccounts⟩ := account ops hops
    obtain ⟨reason, hreason⟩ := Buffer.isClosed_iff.1 hclosed
    have htallies := AggregationReport.tallies correlation reason haccounts hjustified.within
      (fun he => hjustified.all (he ▸ hreason)) (fun he => hjustified.full (he ▸ hreason))
      (fun hne => hjustified.below (by rw [hreason]; simpa using hne))
    refine ⟨ops, [], reason, hops, .inl rfl, by simp, hreason, hresults, ?_, ?_⟩
    · rintro rfl
      exact absurd hreason hjustified.untimed
    · rw [hlimits, hresults] at htallies
      rw [hresults]
      exact htallies
  | late ops hops hopen time hdue hpassed =>
    obtain ⟨hjustified, hlimits, hresults, haccounts⟩ := account ops hops
    have hnone := Buffer.isClosed_eq_false.1 hopen
    have htallies := AggregationReport.tallies correlation .timeout haccounts
      hjustified.within (by simp) (by simp) (fun _ => hjustified.below (by simp [hnone]))
    refine ⟨ops, [.close .timeout], .timeout, hops, .inr rfl,
      by rw [Buffer.performAll_append]; rfl, by simp [hnone], by simpa using hresults,
      fun _ => ⟨time, hdue, hpassed⟩, ?_⟩
    rw [hlimits, hresults] at htallies
    simpa [Buffer.partialWarning, hresults] using htallies

/-- A run that is concluded gives a report. It tallies with what was contributed to the
buffer of the run since its beginning, in the order in which that came; a timeout
was in force and has passed if it is the reason; and the results accepted stand
where the configuration wants them, on the message that the run began with. -/
theorem report (h : History past t) {s : Scatter} {targets : List Mediator} {m₀ m : Message}
    {b₀ b : Bus} {g₀ g : Gathering} (hbegan : .began s targets m₀ b₀ g₀ ∈ past)
    (hvalid : s.config.validate targets.length = .ok ()) (hconcluded : .concluded g m b ∈ past)
    (hsame : g.buffer = g₀.buffer) :
    let limits := s.limitsFor targets.length m₀ b₀.evaluator
    let start := Buffer.opened g₀.correlation limits
    ∃ (ops closing : List Buffer.Operation) (report : AggregationReport) (m' : Message) (b' : Bus),
      (∀ op ∈ ops, op.contributes = true) ∧ (closing = [] ∨ closing = [.close .timeout]) ∧
      b.buffer? g.buffer = some (start.performAll (ops ++ closing)) ∧
      (∀ k, Flow.conclude m g k b = (Flow.answer m' (.gathered report) k, b')) ∧
      report.Tallies limits ((start.history ops).filterMap Buffer.acceptedBy)
        ((start.history ops).filterMap Buffer.excludedBy) ∧
      (report.reason = .timeout →
        ∃ ms, s.timeoutFor m₀ b₀.evaluator = some ms ∧ b₀.now + ms.toNat ≤ b.now) ∧
      s.Placed ((start.history ops).filterMap Buffer.acceptedBy) report.warning.isSome m₀ m' := by
  intro limits start
  -- the run that is concluded is the one that began with this buffer
  obtain ⟨s', targets', m₁, b₁, g₁, buffer, hbegan', hrun, hbuffer, hclosed⟩ :=
    h.concluded hconcluded
  have hrun' : g₁.buffer = g.buffer := (congrArg Run.buffer hrun).symm
  have hevent := h.began_unique hbegan hbegan' (hsame.symm.trans hrun'.symm)
  cases hevent
  obtain ⟨b₂, hbegin⟩ := h.began hbegan
  obtain ⟨hscatter, -, -, -, hdue⟩ := Scatter.begin_eq_ok hbegin
  have hg : g.scatter = s := (congrArg Run.scatter hrun).trans hscatter
  have hm : m = m₀ := congrArg Run.message hrun
  have hcorrelation : g.correlation = g₀.correlation := congrArg Run.correlation hrun
  have hrundue : (g.run m).due = (s.timeoutFor m₀ b₀.evaluator).map fun ms => b₀.now + ms.toNat :=
    (congrArg Run.due hrun).trans hdue
  obtain ⟨ops, closing, reason, hops, hclosing, hsteps, hreason, hresults, htimeout, htallies⟩ :=
    hclosed.tallies (ScatterConfig.one_le_of_validate hvalid)
  obtain ⟨b', hconclude⟩ := Scatter.conclude_of_closed (m := m) hbuffer hreason
  rw [hg, hcorrelation] at hconclude
  refine ⟨ops, closing, _, _, b', hops, hclosing, hsteps ▸ hbuffer,
    fun k => Flow.conclude_of_ok hconclude k, htallies, ?_, ?_⟩
  · intro he
    obtain ⟨time, htime, hpassed⟩ := htimeout he
    rw [hrundue] at htime
    obtain ⟨ms, hms, rfl⟩ := Option.map_eq_some_iff.1 htime
    exact ⟨ms, hms, hpassed⟩
  · rw [← hresults, hm]
    refine s.place_placed ?_ _ m₀
    have hdistinct := htallies.distinct
    rw [← hresults] at hdistinct
    exact (List.nodup_append'.1 hdistinct).1

end Traffic.History

/-! ## A run with two branches, one of which fails -/

namespace Traffic.Halved

/-- Two results are wanted. -/
def scatter : Scatter where
  name := "halved"
  config := ⟨true, .json, .body, { correlation := some "id", minimum := some (.literal 2) }, none⟩
  aggregator := "halves"

def targets : List (Option String × Mediator) :=
  [(none, .recorder { id := "a", name := "a" }),
    (none, .recorder { id := "b", name := "b", error := some (.unknownEndpoint "b") })]

def request : Message := { id := ⟨0⟩ }

def start : Bus := { evaluator := fun _ _ => .ok (.text "x") }

def run (waiting : List (Nat × Mediator)) : Gathering := ⟨scatter, "x", 0, none, waiting⟩

/-- The run when it begins. -/
def beginning : Gathering := run ((List.range 2).zip (targets.map Prod.snd))

def begun : Bus := (scatter.begin (targets.map Prod.snd) request start).2

/-- Both branches are through. -/
def through : Flow × Bus × List RunEvent := advance 6 (.gathering request beginning [] []) begun

theorem history_through :
    History (([] ++ [.began scatter (targets.map Prod.snd) request start beginning]) ++
        through.2.2 ++ [.concluded (run []) request through.2.1])
      ⟨(Flow.conclude request (run []) [] through.2.1).2,
        [(Flow.conclude request (run []) [] through.2.1).1]⟩ := by
  have h₀ : History [] ⟨start, []⟩ := .fresh rfl rfl (Nat.le_refl _)
  have h₁ := h₀.step (.start [] request (.mediate (.scatter scatter targets)) [])
  have hbegin : scatter.begin (targets.map Prod.snd) request start = (.ok beginning, begun) := rfl
  have h₂ := History.advance [] [] (History.begin [] [] h₁ hbegin) 6
  have hwaits : (advance 6 (.gathering request beginning [] []) begun).1 =
      .gathering request (run []) [] [] := rfl
  rw [hwaits] at h₂
  exact History.conclude [] [] h₂ rfl

/-- Both branches are accounted for. -/
theorem report_halved : ∃ (report : AggregationReport) (m' : Message) (b' : Bus),
    Flow.conclude request (run []) [] through.2.1 = (Flow.answer m' (.gathered report) [], b') ∧
      report.merged + report.excluded ≤ 2 := by
  have hbegan : RunEvent.began scatter (targets.map Prod.snd) request start beginning ∈
      ([] ++ [.began scatter (targets.map Prod.snd) request start beginning]) ++ through.2.2 ++
        [.concluded (run []) request through.2.1] := by simp
  have hconcluded : RunEvent.concluded (run []) request through.2.1 ∈
      ([] ++ [.began scatter (targets.map Prod.snd) request start beginning]) ++ through.2.2 ++
        [.concluded (run []) request through.2.1] := by simp
  obtain ⟨ops, closing, report, m', b', -, -, -, hconclude, htallies, -⟩ :=
    History.report history_through hbegan rfl hconcluded rfl
  exact ⟨report, m', b', hconclude [], htallies.within⟩

end Traffic.Halved

end ServiceBus
