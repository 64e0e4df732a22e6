import ServiceBus.Proofs.Buffer.Accounting

/-
ServiceBus.Proofs.Buffer.Outcome — what the reason of a closing says about the
counts of a buffer.

A run contributes to its buffer until it ends: results are added, branches are
excluded, replies are counted. `Justified` says of a buffer that is only
contributed to that its counts stay within the limits and agree with the reason
for which it was closed; every contribution keeps it (`Justified.performAll`).
A maximum of zero counts as one, since the first result is added before the
buffer is found to be full.
-/
namespace ServiceBus.Buffer

/-- The result that an operation adds to the buffer it finds. -/
def acceptedBy : Buffer × Operation → Option BranchResult
  | (b, .add result completed) =>
    if (b.add result completed).1 = .accepted then some result else none
  | _ => none

theorem not_empties_of_contributes {op : Operation} (h : op.contributes = true) (b : Buffer) :
    empties (b, op) = false := by
  cases op with
  | take => simp [Operation.contributes] at h
  | _ => rfl

/-- Contributions take nothing out. -/
theorem not_empties {b : Buffer} {ops : List Operation}
    (h : ∀ op ∈ ops, op.contributes = true) : ∀ past ∈ b.history ops, empties past = false := by
  induction ops generalizing b with
  | nil => simp [history]
  | cons op ops ih =>
    rw [List.forall_mem_cons] at h
    rw [history, List.forall_mem_cons]
    exact ⟨not_empties_of_contributes h.1 b, ih h.2⟩

theorem perform_results {b : Buffer} {op : Operation} (h : empties (b, op) = false) :
    (b.perform op).results = b.results ++ (acceptedBy (b, op)).toList := by
  cases op with
  | add result completed =>
    rcases add_results b result completed with ⟨ha, hr⟩ | ⟨ha, hr⟩
    · simp [perform, acceptedBy, ha, hr]
    · simp [perform, acceptedBy, ha, hr]
  | exclude branch =>
    cases hadmits : b.admits branch with
    | true => simp [perform, acceptedBy, exclude_of_admits hadmits, setAside]
    | false => simp [perform, acceptedBy, exclude_of_not_admits hadmits]
  | markAwaiting branch =>
    obtain ⟨n, hn⟩ := markAwaiting_eq b branch
    simp [perform, acceptedBy, hn]
  | settleAwaiting branch =>
    obtain ⟨n, hn⟩ := settleAwaiting_eq b branch
    simp [perform, acceptedBy, hn]
  | close reason => simp [perform, acceptedBy]
  | take => simp [perform, acceptedBy, take_of_open h]

/-- The results are those accepted, in the order of acceptance. -/
theorem performAll_results {b : Buffer} {ops : List Operation}
    (h : ∀ past ∈ b.history ops, empties past = false) :
    (b.performAll ops).results = b.results ++ (b.history ops).filterMap acceptedBy := by
  induction ops generalizing b with
  | nil => simp [history]
  | cons op ops ih =>
    rw [history, List.forall_mem_cons] at h
    rw [performAll_cons, ih h.2, perform_results h.1, history, List.append_assoc]
    cases hacc : acceptedBy (b, op) <;> simp [hacc]

/-! ## Counts and reasons -/

/-- The counts of a buffer that is only contributed to. -/
structure Justified (b : Buffer) : Prop where
  within : b.accounted ≤ b.limits.expected
  room : b.isClosed = false → b.accounted < b.limits.expected
  all : b.reason = some .allBranches → b.accounted = b.limits.expected
  full : b.reason = some .maxMessages →
    ∃ maximum, b.limits.maximum = some maximum ∧ b.results.length = max 1 maximum.toNat
  below : b.reason ≠ some .maxMessages →
    ∀ maximum, b.limits.maximum = some maximum → b.results.length < max 1 maximum.toNat
  untimed : b.reason ≠ some .timeout

theorem Justified.opened (correlation : String) {limits : BufferLimits}
    (h : 1 ≤ limits.expected) : Justified (opened correlation limits) where
  within := Nat.zero_le _
  room _ := h
  all hr := by simp [Buffer.opened] at hr
  full hr := by simp [Buffer.opened] at hr
  below _ maximum _ := by
    show 0 < max 1 maximum.toNat
    omega
  untimed := by simp [Buffer.opened]

namespace Justified

variable {b : Buffer}

/-- Counting replies changes no count that matters here. -/
theorem awaiting (h : Justified b) (n : Nat) : Justified { b with awaiting := n } :=
  ⟨h.within, h.room, h.all, h.full, h.below, h.untimed⟩

/-- An open buffer within its limits may be closed because all branches are in. -/
theorem closeIfAccounted (hopen : b.reason = none) (hw : b.accounted ≤ b.limits.expected)
    (hb : ∀ maximum, b.limits.maximum = some maximum → b.results.length < max 1 maximum.toNat) :
    Justified b.closeIfAccounted := by
  unfold Buffer.closeIfAccounted
  split
  · rename_i hall
    exact ⟨by simpa using hw, by simp, fun _ => by simp; omega, by simp [hopen],
      fun _ => by simpa using hb, by simp [hopen]⟩
  · exact ⟨hw, fun _ => by omega, by simp [hopen], by simp [hopen], fun _ => hb, by simp [hopen]⟩

theorem add (h : Justified b) {result : BranchResult} (hadmits : b.admits result.branch = true)
    (completed : Bool) : Justified (b.add result completed).2 := by
  have hclosed := (admits_iff.1 hadmits).1
  have hopen : (b.append result).reason = none := isClosed_eq_false.1 hclosed
  have hreason : b.reason ≠ some .maxMessages := by simp [isClosed_eq_false.1 hclosed]
  have hlength : (b.append result).results.length = b.results.length + 1 := by simp [append]
  have haccounted : (b.append result).accounted = b.accounted + 1 := by
    simp [accounted, append]
    omega
  have hw : (b.append result).accounted ≤ (b.append result).limits.expected := by
    have := h.room hclosed
    show _ ≤ b.limits.expected
    omega
  rcases (add_of_admits hadmits completed).2 with ⟨hfull, he⟩ | ⟨hfull, -, he⟩ | ⟨hfull, -, he⟩
  · -- there was room for this result and there is none for another one
    obtain ⟨maximum, hm, hle⟩ : ∃ maximum, b.limits.maximum = some maximum ∧
        maximum.toNat ≤ (b.append result).results.length := by
      unfold isFull at hfull
      split at hfull
      · exact ⟨_, ‹_›, of_decide_eq_true hfull⟩
      · simp at hfull
    have hlt := h.below hreason maximum hm
    rw [he]
    have hmaximum : ((b.append result).close .maxMessages).limits.maximum = some maximum := by
      rw [close_limits]
      exact hm
    refine ⟨by simpa using hw, by simp, by simp [hopen], fun _ => ⟨maximum, hmaximum, ?_⟩,
      by simp [hopen], by simp [hopen]⟩
    rw [close_results]
    omega
  · rw [he]
    refine ⟨by simpa using hw, by simp, by simp [hopen], by simp [hopen], fun _ maximum hm => ?_,
      by simp [hopen]⟩
    rw [close_limits] at hm
    have := lt_maximum_of_not_full hfull hm
    rw [close_results]
    omega
  · rw [he]
    refine closeIfAccounted hopen hw fun maximum hm => ?_
    have := lt_maximum_of_not_full hfull hm
    omega

theorem exclude (h : Justified b) {branch : Nat} (hadmits : b.admits branch = true) :
    Justified (b.exclude branch) := by
  have hclosed := (admits_iff.1 hadmits).1
  have hopen : b.reason = none := isClosed_eq_false.1 hclosed
  have hroom := h.room hclosed
  rw [exclude_of_admits hadmits]
  refine closeIfAccounted hopen ?_ (h.below (by simp [hopen]))
  simp only [accounted, setAside] at hroom ⊢
  omega

/-- Every contribution keeps the counts. -/
theorem perform (h : Justified b) {op : Operation} (hop : op.contributes = true) :
    Justified (b.perform op) := by
  cases op with
  | add result completed =>
    cases hadmits : b.admits result.branch with
    | true => exact h.add hadmits completed
    | false => simpa [Buffer.perform, add_of_not_admits hadmits] using h
  | exclude branch =>
    cases hadmits : b.admits branch with
    | true => exact h.exclude hadmits
    | false => simpa [Buffer.perform, exclude_of_not_admits hadmits] using h
  | markAwaiting branch =>
    obtain ⟨n, hn⟩ := markAwaiting_eq b branch
    simpa [Buffer.perform, hn] using h.awaiting n
  | settleAwaiting branch =>
    obtain ⟨n, hn⟩ := settleAwaiting_eq b branch
    simpa [Buffer.perform, hn] using h.awaiting n
  | close reason => simp [Operation.contributes] at hop
  | take => simp [Operation.contributes] at hop

theorem performAll (h : Justified b) {ops : List Operation}
    (hops : ∀ op ∈ ops, op.contributes = true) : Justified (b.performAll ops) := by
  induction ops generalizing b with
  | nil => exact h
  | cons op ops ih =>
    rw [List.forall_mem_cons] at hops
    exact ih (h.perform hops.1) hops.2

end Justified

end ServiceBus.Buffer
