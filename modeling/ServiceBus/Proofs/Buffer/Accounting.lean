import ServiceBus.Aggregation.Buffer
import Mathlib.Data.List.Nodup
import Mathlib.Data.List.Perm.Lattice

/-
ServiceBus.Proofs.Buffer.Accounting — what a buffer keeps account of, whatever
is done to it and in whatever order.

A history is a list of operations, each one atomic; `history` pairs every
operation with the buffer that it found. `Accounts b excluded` says that the
settled branches of `b` are those of its results and, apart from them, those in
`excluded`, each one once, and that an open buffer has room for more.
Every operation keeps it, except that taking the contents out of a closed buffer
leaves no results to account for. `performAll_opened` puts together what follows
for a buffer and its history.
-/
namespace ServiceBus.Buffer

/-! ## Operations and histories -/

/-- One operation on a buffer. -/
inductive Operation where
  | add (result : BranchResult) (completed : Bool)
  | exclude (branch : Nat)
  | markAwaiting (branch : Nat)
  | settleAwaiting (branch : Nat)
  | close (reason : CloseReason)
  | take

/-- Whether an operation counts branches and replies only: it neither closes the
buffer for a reason of its own nor takes its contents out. -/
def Operation.contributes : Operation → Bool
  | .close _ => false
  | .take => false
  | _ => true

/-- The buffer after an operation. -/
def perform (b : Buffer) : Operation → Buffer
  | .add result completed => (b.add result completed).2
  | .exclude branch => b.exclude branch
  | .markAwaiting branch => b.markAwaiting branch
  | .settleAwaiting branch => (b.settleAwaiting branch).2
  | .close reason => b.close reason
  | .take => b.take.2

/-- The buffer after a history. -/
def performAll (b : Buffer) (ops : List Operation) : Buffer := ops.foldl perform b

@[simp] theorem performAll_nil (b : Buffer) : b.performAll [] = b := rfl

@[simp] theorem performAll_cons (b : Buffer) (op : Operation) (ops : List Operation) :
    b.performAll (op :: ops) = (b.perform op).performAll ops := rfl

theorem performAll_append (b : Buffer) (ops later : List Operation) :
    b.performAll (ops ++ later) = (b.performAll ops).performAll later := by
  simp [performAll, List.foldl_append]

/-- The operations of a history, each with the buffer that it found. -/
def history (b : Buffer) : List Operation → List (Buffer × Operation)
  | [] => []
  | op :: ops => (b, op) :: history (b.perform op) ops

/-- The branch that an operation adds to the excluded ones of the buffer it finds. -/
def excludedBy : Buffer × Operation → Option Nat
  | (b, .exclude branch) => if b.isClosed || b.settled.contains branch then none else some branch
  | _ => none

/-- Whether an operation closes the buffer it finds. -/
def closes (past : Buffer × Operation) : Bool :=
  !past.1.isClosed && (past.1.perform past.2).isClosed

/-- Whether an operation takes the contents out of the buffer it finds. -/
def empties : Buffer × Operation → Bool
  | (b, .take) => b.isClosed
  | _ => false

/-! ## What one operation does

Closing touches nothing but the reason, so every operation is one change of the
account and perhaps a closing on top of it. -/

section Closing

variable (b : Buffer) (reason : CloseReason)

theorem close_eq : b.close reason = { b with reason := b.reason.or (some reason) } := by
  obtain ⟨_, _, _, _, _, _, former⟩ := b
  cases former <;> rfl

@[simp] theorem close_results : (b.close reason).results = b.results := by rw [close_eq]
@[simp] theorem close_excluded : (b.close reason).excluded = b.excluded := by rw [close_eq]
@[simp] theorem close_settled : (b.close reason).settled = b.settled := by rw [close_eq]
@[simp] theorem close_limits : (b.close reason).limits = b.limits := by rw [close_eq]
@[simp] theorem close_correlation : (b.close reason).correlation = b.correlation := by
  rw [close_eq]
@[simp] theorem close_accounted : (b.close reason).accounted = b.accounted := by
  simp [accounted]
@[simp] theorem close_reason : (b.close reason).reason = b.reason.or (some reason) := by
  rw [close_eq]
@[simp] theorem close_isClosed : (b.close reason).isClosed = true := by
  cases h : b.reason <;> simp [isClosed, h]

end Closing

theorem isClosed_iff {b : Buffer} : b.isClosed = true ↔ ∃ reason, b.reason = some reason :=
  Option.isSome_iff_exists

theorem isClosed_eq_false {b : Buffer} : b.isClosed = false ↔ b.reason = none := by
  simp [isClosed]

theorem closeIfAccounted_eq (b : Buffer) :
    b.closeIfAccounted = b ∨
      b.limits.expected ≤ b.accounted ∧ b.closeIfAccounted = b.close .allBranches := by
  unfold closeIfAccounted
  split
  · exact .inr ⟨‹_›, rfl⟩
  · exact .inl rfl

section CloseIfAccounted

variable (b : Buffer)

@[simp] theorem closeIfAccounted_results : b.closeIfAccounted.results = b.results := by
  rcases closeIfAccounted_eq b with h | ⟨-, h⟩ <;> simp [h]
@[simp] theorem closeIfAccounted_limits : b.closeIfAccounted.limits = b.limits := by
  rcases closeIfAccounted_eq b with h | ⟨-, h⟩ <;> simp [h]

end CloseIfAccounted

/-- The buffer with one more result. -/
def append (b : Buffer) (result : BranchResult) : Buffer :=
  { b with results := b.results ++ [result], settled := result.branch :: b.settled }

/-- The buffer with one more branch excluded. -/
def setAside (b : Buffer) (branch : Nat) : Buffer :=
  { b with excluded := b.excluded + 1, settled := branch :: b.settled }

/-- Whether a branch can still be brought in. -/
def admits (b : Buffer) (branch : Nat) : Bool := !(b.isClosed || b.settled.contains branch)

theorem admits_iff {b : Buffer} {branch : Nat} :
    b.admits branch = true ↔ b.isClosed = false ∧ branch ∉ b.settled := by
  simp [admits]

theorem admits_eq {b : Buffer} {branch : Nat} :
    (b.isClosed || b.settled.contains branch) = !b.admits branch := by
  rw [admits, Bool.not_not]

/-- An accepted result is appended; then the buffer is closed because it is full,
because the condition holds, because all branches are in, or not at all. -/
theorem add_of_admits {b : Buffer} {result : BranchResult} (h : b.admits result.branch = true)
    (completed : Bool) : (b.add result completed).1 = .accepted ∧
      ((b.append result).isFull = true ∧
          (b.add result completed).2 = (b.append result).close .maxMessages ∨
        (b.append result).isFull = false ∧ completed = true ∧
          (b.add result completed).2 = (b.append result).close .completionCondition ∨
        (b.append result).isFull = false ∧ completed = false ∧
          (b.add result completed).2 = (b.append result).closeIfAccounted) := by
  have hadd : b.add result completed =
      if (b.append result).isFull then (.accepted, (b.append result).close .maxMessages)
      else if completed then (.accepted, (b.append result).close .completionCondition)
      else (.accepted, (b.append result).closeIfAccounted) := by
    simp only [add, admits_eq, h]
    rfl
  rw [hadd]
  cases (b.append result).isFull <;> cases completed <;> simp

theorem add_of_not_admits {b : Buffer} {result : BranchResult}
    (h : b.admits result.branch = false) (completed : Bool) :
    b.add result completed = (.rejected, b) := by
  simp only [add, admits_eq, h, Bool.not_false, if_true]

theorem exclude_of_admits {b : Buffer} {branch : Nat} (h : b.admits branch = true) :
    b.exclude branch = (b.setAside branch).closeIfAccounted := by
  simp only [exclude, admits_eq, h]
  rfl

theorem exclude_of_not_admits {b : Buffer} {branch : Nat} (h : b.admits branch = false) :
    b.exclude branch = b := by
  simp only [exclude, admits_eq, h, Bool.not_false, if_true]

theorem excludedBy_exclude (b : Buffer) (branch : Nat) :
    excludedBy (b, .exclude branch) = if b.admits branch then some branch else none := by
  simp only [excludedBy, admits_eq]
  cases b.admits branch <;> rfl

theorem not_admits_of_closed {b : Buffer} (h : b.isClosed = true) (branch : Nat) :
    b.admits branch = false := by
  simp [admits, h]

/-- The awaited replies are a count of their own. -/
theorem markAwaiting_eq (b : Buffer) (branch : Nat) :
    ∃ n, b.markAwaiting branch = { b with awaiting := n } := by
  unfold markAwaiting
  split
  · exact ⟨b.awaiting, rfl⟩
  · exact ⟨_, rfl⟩

theorem settleAwaiting_eq (b : Buffer) (branch : Nat) :
    ∃ n, (b.settleAwaiting branch).2 = { b with awaiting := n } := by
  unfold settleAwaiting
  split
  · exact ⟨b.awaiting, rfl⟩
  · exact ⟨_, rfl⟩

theorem take_of_open {b : Buffer} (h : b.isClosed = false) : b.take.2 = b := by
  simp [take, isClosed_eq_false.1 h]

theorem take_of_closed {b : Buffer} (h : b.isClosed = true) :
    b.take.2 = { b with results := [] } := by
  obtain ⟨reason, hr⟩ := isClosed_iff.1 h
  simp [take, hr]

/-! ## After the closing -/

/-- What no operation changes once the buffer is closed. -/
theorem perform_of_closed {b : Buffer} (h : b.isClosed = true) (op : Operation) :
    (b.perform op).reason = b.reason ∧ (b.perform op).excluded = b.excluded ∧
      (b.perform op).settled = b.settled ∧ (op ≠ .take → (b.perform op).results = b.results) := by
  cases op with
  | add result completed =>
    have hadd := add_of_not_admits (not_admits_of_closed h result.branch) completed
    simp [perform, hadd]
  | exclude branch =>
    have hex := exclude_of_not_admits (not_admits_of_closed h branch)
    simp [perform, hex]
  | markAwaiting branch =>
    obtain ⟨n, hn⟩ := markAwaiting_eq b branch
    simp [perform, hn]
  | settleAwaiting branch =>
    obtain ⟨n, hn⟩ := settleAwaiting_eq b branch
    simp [perform, hn]
  | close reason => simp [perform, close, h]
  | take => simp [perform, take_of_closed h]

theorem perform_isClosed_of_closed {b : Buffer} (h : b.isClosed = true) (op : Operation) :
    (b.perform op).isClosed = true := by
  rw [isClosed, (perform_of_closed h op).1]
  exact h

/-- The reason of a closed buffer stays. -/
theorem performAll_reason_of_closed {b : Buffer} (h : b.isClosed = true) (ops : List Operation) :
    (b.performAll ops).reason = b.reason := by
  induction ops generalizing b with
  | nil => rfl
  | cons op ops ih =>
    rw [performAll_cons, ih (perform_isClosed_of_closed h op), (perform_of_closed h op).1]

theorem countP_closes_of_closed {b : Buffer} (h : b.isClosed = true) (ops : List Operation) :
    (b.history ops).countP closes = 0 := by
  induction ops generalizing b with
  | nil => rfl
  | cons op ops ih =>
    have hstep : closes (b, op) = false := by simp [closes, h]
    simp [history, hstep, ih (perform_isClosed_of_closed h op)]

/-- A buffer that was open at first has been closed by exactly one operation of
its history if it is closed in the end, and by none otherwise. -/
theorem countP_closes {b : Buffer} (h : b.isClosed = false) (ops : List Operation) :
    (b.history ops).countP closes = if (b.performAll ops).isClosed then 1 else 0 := by
  induction ops generalizing b with
  | nil => simp [history, h]
  | cons op ops ih =>
    cases hop : (b.perform op).isClosed with
    | false =>
      have hstep : closes (b, op) = false := by simp [closes, hop]
      rw [history, List.countP_cons_of_neg (by simp [hstep]), ih hop]
      rfl
    | true =>
      have hstep : closes (b, op) = true := by simp [closes, h, hop]
      have hend : ((b.perform op).performAll ops).isClosed = true := by
        rw [isClosed, performAll_reason_of_closed hop]
        exact hop
      simp [history, hstep, countP_closes_of_closed hop, hend]

/-! ## The account -/

/-- The account of a buffer whose contents were not taken out: the settled branches
are those of its results and the `excluded` ones, each one once, and while it is
open there is room for one more. -/
structure Accounts (b : Buffer) (excluded : List Nat) : Prop where
  settled : b.settled.Perm (b.results.map BranchResult.branch ++ excluded)
  distinct : b.settled.Nodup
  count : b.excluded = excluded.length
  expects : b.isClosed = false → b.accounted < b.limits.expected
  wants : b.isClosed = false → ∀ maximum, b.limits.maximum = some maximum →
    1 ≤ maximum.toNat → b.results.length < maximum.toNat

theorem Accounts.opened (correlation : String) {limits : BufferLimits}
    (h : 1 ≤ limits.expected) : Accounts (opened correlation limits) [] where
  settled := .nil
  distinct := .nil
  count := rfl
  expects _ := h
  wants _ _ _ h := h

namespace Accounts

variable {b : Buffer} {excluded : List Nat}

/-- Counting replies keeps the account. -/
theorem awaiting (h : Accounts b excluded) (n : Nat) :
    Accounts { b with awaiting := n } excluded :=
  ⟨h.settled, h.distinct, h.count, h.expects, h.wants⟩

/-- A closed buffer needs no room. -/
theorem close (reason : CloseReason)
    (hs : b.settled.Perm (b.results.map BranchResult.branch ++ excluded)) (hd : b.settled.Nodup)
    (hc : b.excluded = excluded.length) : Accounts (b.close reason) excluded where
  settled := by simpa using hs
  distinct := by simpa using hd
  count := by simpa using hc
  expects hopen := by simp at hopen
  wants hopen := by simp at hopen

/-- A buffer that is closed as soon as all branches are in has room while it is
open. -/
theorem closeIfAccounted (hs : b.settled.Perm (b.results.map BranchResult.branch ++ excluded))
    (hd : b.settled.Nodup) (hc : b.excluded = excluded.length)
    (hw : ∀ maximum, b.limits.maximum = some maximum → 1 ≤ maximum.toNat →
      b.results.length < maximum.toNat) : Accounts b.closeIfAccounted excluded := by
  unfold Buffer.closeIfAccounted
  split
  · exact close _ hs hd hc
  · exact ⟨hs, hd, hc, fun _ => by omega, fun _ => hw⟩

end Accounts

theorem lt_maximum_of_not_full {b : Buffer} (h : b.isFull = false) {maximum : UInt32}
    (hm : b.limits.maximum = some maximum) : b.results.length < maximum.toNat := by
  simpa [isFull, hm] using h

namespace Accounts

variable {b : Buffer} {excluded : List Nat}

/-- The account follows an accepted result. -/
theorem add (h : Accounts b excluded) {result : BranchResult}
    (hadmits : b.admits result.branch = true) (completed : Bool) :
    Accounts (b.add result completed).2 excluded := by
  have hs : (b.append result).settled.Perm
      ((b.append result).results.map BranchResult.branch ++ excluded) := by
    simpa [Buffer.append] using
      (h.settled.cons result.branch).trans (List.perm_middle.symm)
  have hd : (b.append result).settled.Nodup := h.distinct.cons (admits_iff.1 hadmits).2
  rcases (add_of_admits hadmits completed).2 with ⟨-, he⟩ | ⟨-, -, he⟩ | ⟨hfull, -, he⟩
  · rw [he]; exact close _ hs hd h.count
  · rw [he]; exact close _ hs hd h.count
  · rw [he]
    exact closeIfAccounted hs hd h.count fun _ hm _ => lt_maximum_of_not_full hfull hm

/-- The account follows an excluded branch. -/
theorem exclude (h : Accounts b excluded) {branch : Nat} (hadmits : b.admits branch = true) :
    Accounts (b.exclude branch) (excluded ++ [branch]) := by
  rw [exclude_of_admits hadmits]
  have hs : (b.setAside branch).settled.Perm
      ((b.setAside branch).results.map BranchResult.branch ++ (excluded ++ [branch])) := by
    rw [← List.append_assoc]
    exact (h.settled.cons branch).trans (List.perm_append_singleton branch _).symm
  refine closeIfAccounted hs (h.distinct.cons (admits_iff.1 hadmits).2) ?_ ?_
  · simp [setAside, h.count]
  · exact h.wants (admits_iff.1 hadmits).1

/-- Every operation keeps the account, save one that takes the contents out. -/
theorem perform (h : Accounts b excluded) {op : Operation} (hop : empties (b, op) = false) :
    Accounts (b.perform op) (excluded ++ (excludedBy (b, op)).toList) := by
  cases op with
  | add result completed =>
    cases hadmits : b.admits result.branch with
    | true => simpa [excludedBy, Buffer.perform] using h.add hadmits completed
    | false => simpa [excludedBy, Buffer.perform, add_of_not_admits hadmits] using h
  | exclude branch =>
    cases hadmits : b.admits branch with
    | true => simpa [excludedBy_exclude, hadmits, Buffer.perform] using h.exclude hadmits
    | false =>
      simpa [excludedBy_exclude, hadmits, Buffer.perform, exclude_of_not_admits hadmits] using h
  | markAwaiting branch =>
    obtain ⟨n, hn⟩ := markAwaiting_eq b branch
    simpa [excludedBy, Buffer.perform, hn] using h.awaiting n
  | settleAwaiting branch =>
    obtain ⟨n, hn⟩ := settleAwaiting_eq b branch
    simpa [excludedBy, Buffer.perform, hn] using h.awaiting n
  | close reason =>
    simpa [excludedBy, Buffer.perform] using close reason h.settled h.distinct h.count
  | take => simpa [excludedBy, Buffer.perform, take_of_open hop] using h

/-- The account of a buffer at the end of a history in which its contents were not
taken out. -/
theorem performAll (h : Accounts b excluded) {ops : List Operation}
    (hops : ∀ past ∈ b.history ops, empties past = false) :
    Accounts (b.performAll ops) (excluded ++ (b.history ops).filterMap excludedBy) := by
  induction ops generalizing b excluded with
  | nil => simpa [history] using h
  | cons op ops ih =>
    have hop : empties (b, op) = false := hops _ (by simp [history])
    have hrest : ∀ past ∈ (b.perform op).history ops, empties past = false :=
      fun past hp => hops past (by simp [history, hp])
    have hstep := ih (h.perform hop) hrest
    cases hex : excludedBy (b, op) <;> simpa [history, hex] using hstep

end Accounts

/-! ## A buffer from its opening on -/

@[simp] theorem perform_limits (b : Buffer) (op : Operation) :
    (b.perform op).limits = b.limits := by
  cases op with
  | add result completed =>
    cases hadmits : b.admits result.branch with
    | true =>
      rcases (add_of_admits hadmits completed).2 with ⟨-, he⟩ | ⟨-, -, he⟩ | ⟨-, -, he⟩ <;>
        simp [perform, he, append]
    | false => simp [perform, add_of_not_admits hadmits]
  | exclude branch =>
    cases hadmits : b.admits branch with
    | true => simp [perform, exclude_of_admits hadmits, setAside]
    | false => simp [perform, exclude_of_not_admits hadmits]
  | markAwaiting branch =>
    obtain ⟨n, hn⟩ := markAwaiting_eq b branch
    simp [perform, hn]
  | settleAwaiting branch =>
    obtain ⟨n, hn⟩ := settleAwaiting_eq b branch
    simp [perform, hn]
  | close reason => simp [perform]
  | take =>
    cases hb : b.isClosed with
    | true => simp [perform, take_of_closed hb]
    | false => simp [perform, take_of_open hb]

@[simp] theorem performAll_limits (b : Buffer) (ops : List Operation) :
    (b.performAll ops).limits = b.limits := by
  induction ops generalizing b with
  | nil => rfl
  | cons op ops ih => rw [performAll_cons, ih, perform_limits]

/-- Nothing was taken out of a buffer that is still open. -/
theorem not_empties_of_open {b : Buffer} {ops : List Operation}
    (h : (b.performAll ops).isClosed = false) : ∀ past ∈ b.history ops, empties past = false := by
  induction ops generalizing b with
  | nil => simp [history]
  | cons op ops ih =>
    have hb : b.isClosed = false := by
      cases hb : b.isClosed with
      | false => rfl
      | true =>
        rw [isClosed, performAll_reason_of_closed hb (op :: ops)] at h
        exact absurd hb (by simp [isClosed, h])
    intro past hp
    rcases List.mem_cons.1 hp with rfl | hp
    · cases op <;> simp [empties, hb]
    · exact ih h past hp

/-- An addition appends its result or leaves the buffer as it is. -/
theorem add_results (b : Buffer) (result : BranchResult) (completed : Bool) :
    (b.add result completed).1 = .accepted ∧
        (b.add result completed).2.results = b.results ++ [result] ∨
      (b.add result completed).1 = .rejected ∧ (b.add result completed).2 = b := by
  cases hadmits : b.admits result.branch with
  | true =>
    obtain ⟨haccepted, he⟩ := add_of_admits hadmits completed
    refine .inl ⟨haccepted, ?_⟩
    rcases he with ⟨-, he⟩ | ⟨-, -, he⟩ | ⟨-, -, he⟩ <;> simp [he, append]
  | false => exact .inr (by simp [add_of_not_admits hadmits])

theorem add_accepted_iff (b : Buffer) (result : BranchResult) (completed : Bool) :
    (b.add result completed).1 = .accepted ↔
      (b.add result completed).2.results = b.results ++ [result] := by
  rcases add_results b result completed with ⟨ha, hr⟩ | ⟨ha, hr⟩
  · simp [ha, hr]
  · simp [ha, hr]

/-- The result of a branch that the buffer admits is accepted. -/
theorem accepted_of_admits {b : Buffer} {branch : Nat} (h : b.admits branch = true)
    (payload : Payload) (completed : Bool) : (b.add ⟨branch, payload⟩ completed).1 = .accepted :=
  (@add_of_admits b ⟨branch, payload⟩ h completed).1

/-- Whatever is done to a buffer that expects at least one branch, in whatever order:
it is closed at most once and for good; until its contents are taken out, the
settled branches are, each one once, those of the results and the excluded ones;
an addition is accepted exactly if it appends its result; an open buffer has room;
and a closed one stays as it is, but for its results being taken out. -/
theorem performAll_opened (correlation : String) {limits : BufferLimits}
    (h : 1 ≤ limits.expected) (ops : List Operation) :
    let start := opened correlation limits
    let b := start.performAll ops
    let excluded := (start.history ops).filterMap excludedBy
    ((start.history ops).countP closes = (if b.isClosed then 1 else 0) ∧
      ∀ later, b.isClosed = true → (b.performAll later).reason = b.reason) ∧
    ((∀ past ∈ start.history ops, empties past = false) →
      (b.results.map BranchResult.branch).Nodup ∧ excluded.Nodup ∧
      (b.results.map BranchResult.branch).Disjoint excluded ∧
      (∀ branch, branch ∈ b.settled ↔
        branch ∈ b.results.map BranchResult.branch ∨ branch ∈ excluded) ∧
      b.settled.Nodup ∧ b.excluded = excluded.length ∧
      b.settled.length = b.results.length + b.excluded) ∧
    (∀ result completed, (b.add result completed).1 = .accepted ↔
      (b.add result completed).2.results = b.results ++ [result]) ∧
    (b.isClosed = false → b.results.length + b.excluded < limits.expected ∧
      ∀ maximum, limits.maximum = some maximum → 1 ≤ maximum.toNat →
        b.results.length < maximum.toNat) ∧
    (b.isClosed = true → ∀ op : Operation, (op ≠ .take → (b.perform op).results = b.results) ∧
      (b.perform op).excluded = b.excluded ∧ (b.perform op).settled = b.settled ∧
      (b.perform op).reason = b.reason) := by
  intro start b excluded
  have accounts (hpast : ∀ past ∈ start.history ops, empties past = false) :
      Accounts b excluded := by
    simpa using (Accounts.opened correlation h).performAll hpast
  have limits_eq : b.limits = limits := performAll_limits start ops
  refine ⟨⟨countP_closes rfl ops, fun later hb => performAll_reason_of_closed hb later⟩, ?_,
    fun result completed => add_accepted_iff b result completed, ?_, ?_⟩
  · intro hpast
    have ha := accounts hpast
    have hnodup := ha.settled.nodup_iff.1 ha.distinct
    obtain ⟨hr, he, hdisjoint⟩ := List.nodup_append'.1 hnodup
    refine ⟨hr, he, hdisjoint, fun branch => ?_, ha.distinct, ha.count, ?_⟩
    · rw [ha.settled.mem_iff, List.mem_append]
    · rw [ha.settled.length_eq, List.length_append, List.length_map, ha.count]
  · intro hb
    have ha := accounts (not_empties_of_open hb)
    exact ⟨limits_eq ▸ ha.expects hb, fun maximum hm => ha.wants hb maximum (limits_eq ▸ hm)⟩
  · intro hb op
    obtain ⟨hreason, hexcluded, hsettled, hresults⟩ := perform_of_closed hb op
    exact ⟨hresults, hexcluded, hsettled, hreason⟩

/-- Three branches: a repeated result, a late exclusion, and a result after the
closing. -/
theorem performAll_opened_three : 1 ≤ (⟨3, none, some 2⟩ : BufferLimits).expected ∧
    ((opened "run" ⟨3, none, some 2⟩).history
      [.add ⟨0, .empty⟩ false, .add ⟨0, .empty⟩ false, .markAwaiting 1, .add ⟨1, .empty⟩ false,
        .exclude 2, .add ⟨2, .empty⟩ true]).countP closes = 1 :=
  ⟨by decide, (performAll_opened "run" (show 1 ≤ (⟨3, none, some 2⟩ : BufferLimits).expected by
    decide) _).1.1⟩

end ServiceBus.Buffer
