import ServiceBus.Proofs.Buffer.Deliveries

/-
ServiceBus.Proofs.Buffer.Complete — whether a buffer that is closed because all branches
are in has them all.

A buffer is closed for that reason as soon as it has settled as many branches as it
expects. Which numbers they have it does not look at, so a number that is none of its
branches counts like any other one. `performAll_allBranches` says what the reason is
worth: the settled numbers are as many as the branches and no two of them are the same,
so for each number from outside one branch is missing, and without such a number none is.
-/
namespace ServiceBus.Buffer

/-! ## The branches that a history settles -/

/-- The branch that an operation settles in the buffer it finds. -/
def settledBy (past : Buffer × Operation) : Option Nat := past.2.settles.filter (past.1.admits ·)

/-- A branch is settled by its result or by being excluded. -/
theorem settledBy_eq (past : Buffer × Operation) :
    settledBy past = ((acceptedBy past).map BranchResult.branch).or (excludedBy past) := by
  obtain ⟨b, op⟩ := past
  cases op with
  | add result completed =>
    cases hadmits : b.admits result.branch with
    | true =>
      have haccepted := (add_of_admits hadmits completed).1
      simp [settledBy, Operation.settles, acceptedBy, Option.filter, hadmits, haccepted]
    | false =>
      have hadd := add_of_not_admits hadmits completed
      simp [settledBy, Operation.settles, acceptedBy, excludedBy, Option.filter, hadmits, hadd]
  | exclude branch =>
    rw [excludedBy_exclude]
    cases hadmits : b.admits branch <;>
      simp [settledBy, Operation.settles, acceptedBy, Option.filter, hadmits]
  | _ => rfl

/-- The settled branches are those merged and those excluded on the way, whatever became of
the contents. -/
theorem settled_performAll_perm (b : Buffer) (ops : List Operation) :
    (b.performAll ops).settled.Perm (((b.history ops).filterMap acceptedBy).map
      BranchResult.branch ++ (b.history ops).filterMap excludedBy ++ b.settled) := by
  induction ops generalizing b with
  | nil => simp [history]
  | cons op ops ih =>
    refine (ih (b.perform op)).trans ?_
    have hstep : (b.perform op).settled = (settledBy (b, op)).toList ++ b.settled :=
      settled_perform b op
    rw [hstep, settledBy_eq, history]
    cases hacc : acceptedBy (b, op) with
    | some result =>
      have hnone : excludedBy (b, op) = none := by
        cases op <;> first | rfl | simp [acceptedBy] at hacc
      simp only [List.filterMap_cons, hacc, hnone, List.map_cons, Option.map_some, Option.some_or,
        Option.toList_some, List.cons_append, List.nil_append]
      exact List.perm_middle
    | none =>
      cases hexcluded : excludedBy (b, op) with
      | some branch =>
        simp only [List.filterMap_cons, hacc, hexcluded, Option.map_none, Option.none_or,
          Option.toList_some, List.cons_append, List.nil_append, List.append_assoc]
        exact (List.perm_middle).append_left _
      | none => simp [hacc, hexcluded]

theorem nodup_settled_perform {b : Buffer} (h : b.settled.Nodup) (op : Operation) :
    (b.perform op).settled.Nodup := by
  rw [settled_perform]
  cases hsettled : op.settles.filter (b.admits ·) with
  | none => exact h
  | some branch =>
    have hadmits := (Option.filter_eq_some_iff.1 hsettled).2
    exact h.cons (admits_iff.1 hadmits).2

theorem nodup_settled_performAll {b : Buffer} (h : b.settled.Nodup) (ops : List Operation) :
    (b.performAll ops).settled.Nodup := by
  induction ops generalizing b with
  | nil => exact h
  | cons op ops ih => exact ih (nodup_settled_perform h op)

theorem settled_performAll_of_closed {b : Buffer} (h : b.isClosed = true) (ops : List Operation) :
    (b.performAll ops).settled = b.settled := by
  induction ops generalizing b with
  | nil => rfl
  | cons op ops ih =>
    rw [performAll_cons, ih (perform_isClosed_of_closed h op), (perform_of_closed h op).2.2.1]

theorem mem_settled_performAll {b : Buffer} {branch : Nat} (h : branch ∈ b.settled)
    (ops : List Operation) : branch ∈ (b.performAll ops).settled := by
  induction ops generalizing b with
  | nil => exact h
  | cons op ops ih => exact ih (mem_settled_perform h op)

/-- A branch that is brought in is settled by then, or the buffer is closed. -/
theorem settled_or_closed {b : Buffer} {op : Operation} {branch : Nat}
    (h : op.settles = some branch) :
    (b.perform op).isClosed = true ∨ branch ∈ (b.perform op).settled := by
  cases hadmits : b.admits branch with
  | true =>
    rw [settled_perform, h, Option.filter_some, if_pos hadmits]
    exact .inr List.mem_cons_self
  | false =>
    cases hclosed : b.isClosed with
    | true => exact .inl (perform_isClosed_of_closed hclosed op)
    | false =>
      have hbefore : branch ∈ b.settled := by simpa [admits, hclosed] using hadmits
      exact .inr (mem_settled_perform hbefore op)

/-- No history settles a branch that none of its operations brings in. -/
theorem mem_settled_of_performAll {b : Buffer} {ops : List Operation} {branch : Nat}
    (h : branch ∈ (b.performAll ops).settled) :
    branch ∈ b.settled ∨ ∃ op ∈ ops, op.settles = some branch := by
  induction ops generalizing b with
  | nil => exact .inl h
  | cons op ops ih =>
    obtain hsettled | ⟨later, hlater, hsettles⟩ := ih h
    · exact (mem_settled_of_perform hsettled).imp_right fun hsettles =>
        ⟨op, List.mem_cons_self, hsettles⟩
    · exact .inr ⟨later, List.mem_cons_of_mem op hlater, hsettles⟩

/-! ## The closing -/

theorem Accounts.length_settled {b : Buffer} {excluded : List Nat} (h : b.Accounts excluded) :
    b.settled.length = b.accounted := by
  rw [h.settled.length_eq, List.length_append, List.length_map, accounted, h.count]

/-- A contribution that closes an open buffer because all branches are in settles the last
one of as many as are expected. -/
theorem Accounts.length_settled_perform {b : Buffer} {excluded : List Nat} (h : b.Accounts excluded)
    (hopen : b.isClosed = false) {op : Operation} (hop : op ≠ .close .allBranches)
    (hreason : (b.perform op).reason = some .allBranches) :
    (b.perform op).settled.length = b.limits.expected := by
  have hnone : b.reason = none := isClosed_eq_false.1 hopen
  have hroom := h.expects hopen
  have hlength := h.length_settled
  -- a buffer with one more branch settled that is closed now was expecting just that one
  have last {after : Buffer} (hafter : after.reason = none)
      (hlimits : after.limits = b.limits) (hsettled : after.settled.length = b.accounted + 1)
      (haccounted : after.accounted = b.accounted + 1)
      (hclosed : after.closeIfAccounted.reason = some .allBranches) :
      after.closeIfAccounted.settled.length = b.limits.expected := by
    rcases closeIfAccounted_eq after with hsame | ⟨hfull, -⟩
    · rw [hsame, hafter] at hclosed
      simp at hclosed
    · rw [settled_closeIfAccounted, hsettled]
      rw [hlimits, haccounted] at hfull
      omega
  cases op with
  | add result completed =>
    cases hadmits : b.admits result.branch with
    | false => simp [Buffer.perform, add_of_not_admits hadmits, hnone] at hreason
    | true =>
      simp only [Buffer.perform] at hreason ⊢
      rcases (add_of_admits hadmits completed).2 with ⟨-, he⟩ | ⟨-, -, he⟩ | ⟨-, -, he⟩
      · simp [he, append, hnone] at hreason
      · simp [he, append, hnone] at hreason
      · rw [he] at hreason ⊢
        refine last hnone rfl (congrArg (· + 1) hlength) ?_ hreason
        simp [accounted, append]
        omega
  | exclude branch =>
    cases hadmits : b.admits branch with
    | false => simp [Buffer.perform, exclude_of_not_admits hadmits, hnone] at hreason
    | true =>
      simp only [Buffer.perform, exclude_of_admits hadmits] at hreason ⊢
      exact last hnone rfl (congrArg (· + 1) hlength) rfl hreason
  | markAwaiting branch =>
    obtain ⟨n, hn⟩ := markAwaiting_eq b branch
    simp [Buffer.perform, hn, hnone] at hreason
  | settleAwaiting branch =>
    obtain ⟨n, hn⟩ := settleAwaiting_eq b branch
    simp [Buffer.perform, hn, hnone] at hreason
  | close reason =>
    simp only [Buffer.perform, close_reason, hnone, Option.none_or, Option.some.injEq] at hreason
    exact absurd (congrArg Operation.close hreason) hop
  | take => simp [Buffer.perform, take_of_open hopen, hnone] at hreason

/-- Where a history closes a buffer because all branches are in, it has settled as many as
are expected. -/
theorem Accounts.length_settled_performAll {b : Buffer} {excluded : List Nat}
    (h : b.Accounts excluded) (hopen : b.isClosed = false) {ops : List Operation}
    (hops : .close .allBranches ∉ ops) (hreason : (b.performAll ops).reason = some .allBranches) :
    (b.performAll ops).settled.length = b.limits.expected := by
  induction ops generalizing b excluded with
  | nil => simp [isClosed_eq_false.1 hopen] at hreason
  | cons op ops ih =>
    rw [List.mem_cons, not_or] at hops
    obtain ⟨hop, hrest⟩ := hops
    rw [performAll_cons] at hreason ⊢
    cases hafter : (b.perform op).isClosed with
    | true =>
      rw [performAll_reason_of_closed hafter] at hreason
      rw [settled_performAll_of_closed hafter]
      exact h.length_settled_perform hopen (Ne.symm hop) hreason
    | false =>
      have hempties : empties (b, op) = false := by cases op <;> simp [empties, hopen]
      exact (ih (h.perform hempties) hafter hrest hreason).trans
        (congrArg BufferLimits.expected (perform_limits b op))

/-! ## Missing branches -/

/-- The branches below `n` that are none of the numbers `l`. -/
def missing (n : Nat) (l : List Nat) : List Nat := (List.range n).filter fun branch => branch ∉ l

/-- The numbers of `l` that are no branch below `n`. -/
def foreign (n : Nat) (l : List Nat) : List Nat := l.filter fun branch => n ≤ branch

theorem missing_eq_nil {n : Nat} {l : List Nat} : missing n l = [] ↔ ∀ branch < n, branch ∈ l := by
  simp [missing, List.filter_eq_nil_iff]

theorem foreign_eq_nil {n : Nat} {l : List Nat} : foreign n l = [] ↔ ∀ branch ∈ l, branch < n := by
  simp [foreign, List.filter_eq_nil_iff]

/-- Of `n` different numbers, as many are from outside as are missing among the first `n`. -/
theorem length_missing {n : Nat} {l : List Nat} (hnodup : l.Nodup) (hlength : l.length = n) :
    (missing n l).length = (foreign n l).length := by
  -- both are what is left of `n` numbers without those that are branches and in the list
  have hcommon : ((List.range n).filter fun branch => branch ∈ l).Perm
      (l.filter fun branch => branch < n) := by
    refine (List.perm_ext_iff_of_nodup (List.nodup_range.filter _) (hnodup.filter _)).2
      fun branch => ?_
    simp [and_comm]
  have hrange := List.length_eq_length_filter_add (l := List.range n) fun branch => branch ∈ l
  have hl := List.length_eq_length_filter_add (l := l) fun branch => branch < n
  have houtside : (l.filter fun branch => !decide (branch < n)) = foreign n l :=
    List.filter_congr fun branch _ => by simp [← decide_not]
  have hinside : ((List.range n).filter fun branch => !decide (branch ∈ l)) = missing n l := by
    simp [missing]
  rw [hinside, List.length_range, hcommon.length_eq] at hrange
  rw [houtside, hlength] at hl
  omega

/-- What it says of a buffer to be closed because all branches are in, if nobody closed it
for this reason from outside: it has merged or excluded as many different numbers as there
are branches. As many branches are missing as there are numbers among them that are no branch,
so all branches are in exactly if there is none, and at any rate if nothing but branches was
brought in. -/
theorem performAll_allBranches (correlation : String) {limits : BufferLimits}
    (hexpected : 1 ≤ limits.expected) {ops : List Operation} (hops : .close .allBranches ∉ ops) :
    let start := opened correlation limits
    let merged := ((start.history ops).filterMap acceptedBy).map BranchResult.branch
    let excluded := (start.history ops).filterMap excludedBy
    (start.performAll ops).reason = some .allBranches →
      (merged ++ excluded).Nodup ∧ (merged ++ excluded).length = limits.expected ∧
      (missing limits.expected (merged ++ excluded)).length =
        (foreign limits.expected (merged ++ excluded)).length ∧
      ((∀ branch < limits.expected, branch ∈ merged ∨ branch ∈ excluded) ↔
        ∀ branch, branch ∈ merged ∨ branch ∈ excluded → branch < limits.expected) ∧
      ((∀ op ∈ ops, ∀ branch, op.settles = some branch → branch < limits.expected) →
        ∀ branch < limits.expected, branch ∈ merged ∨ branch ∈ excluded) := by
  intro start merged excluded hreason
  have hperm : (start.performAll ops).settled.Perm (merged ++ excluded) := by
    simpa [start, opened, merged, excluded] using settled_performAll_perm start ops
  have hnodup : (merged ++ excluded).Nodup :=
    hperm.nodup_iff.1 (nodup_settled_performAll List.nodup_nil ops)
  have hlength : (merged ++ excluded).length = limits.expected :=
    hperm.length_eq.symm.trans ((Accounts.opened correlation hexpected).length_settled_performAll
      rfl hops hreason)
  have hcount := length_missing hnodup hlength
  have hall : (∀ branch < limits.expected, branch ∈ merged ∨ branch ∈ excluded) ↔
      ∀ branch, branch ∈ merged ∨ branch ∈ excluded → branch < limits.expected := by
    simp only [← List.mem_append]
    rw [← missing_eq_nil, ← foreign_eq_nil, ← List.length_eq_zero_iff, hcount,
      List.length_eq_zero_iff]
  refine ⟨hnodup, hlength, hcount, hall, fun hsettles => hall.2 fun branch hbranch => ?_⟩
  rw [← List.mem_append, ← hperm.mem_iff] at hbranch
  obtain hbefore | ⟨op, hop, hsettled⟩ := mem_settled_of_performAll hbranch
  · exact absurd hbefore List.not_mem_nil
  · exact hsettles op hop branch hsettled

/-- A result of the branch 0, and a branch 7 that is excluded. -/
def mixed : List Operation := [.add ⟨0, .empty⟩ false, .exclude 7]

/-- A buffer that expects two branches is closed by the branches 0 and 7, so one is missing. -/
theorem performAll_allBranches_mixed : 1 ≤ (⟨2, none, none⟩ : BufferLimits).expected ∧
    .close .allBranches ∉ mixed ∧
    ((opened "run" ⟨2, none, none⟩).performAll mixed).reason = some .allBranches ∧
    (missing 2 [0, 7]).length = (foreign 2 [0, 7]).length := by
  have hexpected : 1 ≤ (⟨2, none, none⟩ : BufferLimits).expected := by decide
  have hops : .close .allBranches ∉ mixed := by simp [mixed]
  exact ⟨hexpected, hops, rfl, (performAll_allBranches "run" hexpected hops rfl).2.2.1⟩

end ServiceBus.Buffer
