import ServiceBus.Proofs.Registry.Chains

/-
ServiceBus.Proofs.Registry.Indirection — what becomes of a key, whatever chain it begins.

`Registry.Passes` follows the keys of indirect endpoints without a bound. A chain may end
at an endpoint that stands for itself, or at a name that is not registered, or it may go
on for ever, and then it comes back to a name that it has passed. A search with a bound
takes the same way (`Passes.follow`), and within the bound the chain has come to one of
the two ends or has not (`comes_to_end_or_passes`). `Registry.Traced` puts together what
follows for `Registry.resolve`.
-/
namespace ServiceBus.Registry

variable {r : Registry} {n m : Nat} {first name name' last key : String} {e : Endpoint}

/-- A chain of indirect endpoints passes from one name to another one by a number of keys. -/
inductive Passes (r : Registry) : Nat → String → String → Prop where
  | here (name : String) : Passes r 0 name name
  | there {n : Nat} {name next last : String} {e : Endpoint} (hfound : r.get? name = some e)
      (hkind : e.kind = .indirect next) (h : Passes r n next last) : Passes r (n + 1) name last

namespace Passes

theorem trans (h : Passes r n first name) (h' : Passes r m name last) :
    Passes r (n + m) first last := by
  induction h with
  | here name => rwa [Nat.zero_add]
  | there hfound hkind _ ih =>
    rw [Nat.add_right_comm]
    exact .there hfound hkind (ih h')

/-- A chain has names at every place. -/
theorem split (h : Passes r (n + m) first last) :
    ∃ name, Passes r n first name ∧ Passes r m name last := by
  induction n generalizing first with
  | zero =>
    rw [Nat.zero_add] at h
    exact ⟨first, .here first, h⟩
  | succ n ih =>
    rw [Nat.add_right_comm] at h
    cases h with
    | there hfound hkind h =>
      obtain ⟨name, hbefore, hbehind⟩ := ih h
      exact ⟨name, .there hfound hkind hbefore, hbehind⟩

/-- A chain that comes back to a name can pass it any number of times. -/
theorem round (h : Passes r n name name) (times : Nat) : Passes r (times * n) name name := by
  induction times with
  | zero =>
    rw [Nat.zero_mul]
    exact .here name
  | succ times ih =>
    rw [Nat.succ_mul]
    exact ih.trans h

/-- A chain that runs into a cycle goes on for ever. -/
theorem endless (h : Passes r n first name) (hm : 0 < m) (hround : Passes r m name name)
    (length : Nat) : ∃ last, Passes r length first last := by
  have hlength : length ≤ n + length * m :=
    Nat.le_trans (Nat.le_mul_of_pos_right length hm) (Nat.le_add_left ..)
  have hlong : Passes r (n + length * m) first name := h.trans (hround.round length)
  obtain ⟨rest, hrest⟩ := Nat.exists_eq_add_of_le hlength
  rw [hrest] at hlong
  obtain ⟨last, hlast, -⟩ := hlong.split
  exact ⟨last, hlast⟩

/-- A search takes the way of the chain, with one look-up for each key. -/
theorem follow (h : Passes r n first name) (m : Nat) :
    r.follow key (n + m) first = r.follow key m name := by
  induction h with
  | here name => rw [Nat.zero_add]
  | there hfound hkind _ ih =>
    rw [Nat.add_right_comm]
    simp only [Registry.follow, hfound, hkind]
    exact ih

end Passes

/-- Where a name leads is the endpoint at the end of its chain. -/
theorem leads_iff_passes :
    Leads r (n + 1) first e ↔
      ∃ name, Passes r n first name ∧ r.get? name = some e ∧ e.Concrete := by
  constructor
  · intro h
    induction n generalizing first with
    | zero =>
      cases h with
      | here hfound hconcrete => exact ⟨first, .here first, hfound, hconcrete⟩
      | there _ _ h => cases h
    | succ n ih =>
      cases h with
      | there hfound hkind h =>
        obtain ⟨name, hpasses, hend⟩ := ih h
        exact ⟨name, .there hfound hkind hpasses, hend⟩
  · rintro ⟨name, hpasses, hfound, hconcrete⟩
    induction hpasses with
    | here name => exact .here hfound hconcrete
    | there hfirst hkind _ ih => exact .there hfirst hkind (ih hfound)

/-- Within any number of keys a chain comes to an end, or it is longer than that. -/
theorem comes_to_end_or_passes (r : Registry) (m : Nat) (first : String) :
    (∃ n < m, ∃ name, Passes r n first name ∧
      (r.get? name = none ∨ ∃ e, r.get? name = some e ∧ e.Concrete)) ∨
    ∃ name, Passes r m first name := by
  induction m generalizing first with
  | zero => exact .inr ⟨first, .here first⟩
  | succ m ih =>
    cases hfound : r.get? first with
    | none => exact .inl ⟨0, Nat.succ_pos m, first, .here first, .inl hfound⟩
    | some e =>
      by_cases hkind : e.Concrete
      · exact .inl ⟨0, Nat.succ_pos m, first, .here first, .inr ⟨e, hfound, hkind⟩⟩
      · obtain ⟨next, hnext⟩ : ∃ next, e.kind = .indirect next := by
          simpa [Endpoint.Concrete] using hkind
        obtain ⟨n, hn, name, hpasses, hend⟩ | ⟨name, hpasses⟩ := ih next
        · exact .inl ⟨n + 1, Nat.succ_lt_succ hn, name, .there hfound hnext hpasses, hend⟩
        · exact .inr ⟨name, .there hfound hnext hpasses⟩

/-! ## Resolving a key -/

theorem resolve_of_missing (h : Passes r n key name) (hn : n < depth) (hname : r.get? name = none) :
    r.resolve key = .error (.unknownEndpoint name) := by
  obtain ⟨m, hm⟩ := Nat.exists_eq_add_of_lt hn
  rw [resolve, hm, Nat.add_assoc, h.follow, Registry.follow, hname]

theorem resolve_of_passes (h : Passes r depth key name) :
    r.resolve key = .error (.configuration (.indirectionTooDeep key)) :=
  h.follow 0

theorem resolve_eq_ok_iff :
    r.resolve key = .ok e ↔
      ∃ n < depth, ∃ name, Passes r n key name ∧ r.get? name = some e ∧ e.Concrete := by
  rw [resolve_eq_ok]
  constructor
  · rintro ⟨n, hn, h⟩
    obtain ⟨n, rfl⟩ : ∃ k, n = k + 1 := by cases h <;> exact ⟨_, rfl⟩
    exact ⟨n, hn, leads_iff_passes.1 h⟩
  · rintro ⟨n, hn, h⟩
    exact ⟨n + 1, hn, leads_iff_passes.2 h⟩

/-- A key leads to an endpoint, to a name that is not registered, or too far. -/
theorem resolve_cases (r : Registry) (key : String) :
    (∃ n < depth, ∃ name e, Passes r n key name ∧ r.get? name = some e ∧ e.Concrete ∧
      r.resolve key = .ok e) ∨
    (∃ n < depth, ∃ name, Passes r n key name ∧ r.get? name = none ∧
      r.resolve key = .error (.unknownEndpoint name)) ∨
    r.resolve key = .error (.configuration (.indirectionTooDeep key)) := by
  obtain ⟨n, hn, name, hpasses, hname | ⟨e, he, hconcrete⟩⟩ | ⟨name, hpasses⟩ :=
    comes_to_end_or_passes r depth key
  · exact .inr (.inl ⟨n, hn, name, hpasses, hname, resolve_of_missing hpasses hn hname⟩)
  · exact .inl ⟨n, hn, name, e, hpasses, he, hconcrete,
      resolve_eq_ok_iff.2 ⟨n, hn, name, hpasses, he, hconcrete⟩⟩
  · exact .inr (.inr (resolve_of_passes hpasses))

theorem resolve_eq_unknown_iff :
    r.resolve key = .error (.unknownEndpoint name) ↔
      ∃ n < depth, Passes r n key name ∧ r.get? name = none := by
  constructor
  · intro h
    obtain ⟨n, hn, name', e, -, -, -, hok⟩ | ⟨n, hn, name', hpasses, hname, hunknown⟩ | hdeep :=
      resolve_cases r key
    · simp [h] at hok
    · obtain rfl : name' = name := by
        rw [h] at hunknown
        exact (Failure.unknownEndpoint.inj (Except.error.inj hunknown)).symm
      exact ⟨n, hn, hpasses, hname⟩
    · simp [h] at hdeep
  · rintro ⟨n, hn, hpasses, hname⟩
    exact resolve_of_missing hpasses hn hname

/-- What becomes of a key, by the chain that it begins. A chain that has passed `n` keys has
`n + 1` names, so one with at most eight names has passed fewer than eight. -/
structure Traced (r : Registry) (key : String) : Prop where
  /-- The endpoint at the end of the chain, which is not indirect. -/
  found : ∀ e, r.resolve key = .ok e ↔
    ∃ n < 8, ∃ name, Passes r n key name ∧ r.get? name = some e ∧ e.Concrete
  /-- The first name that is not registered. -/
  missing : ∀ name, r.resolve key = .error (.unknownEndpoint name) ↔
    ∃ n < 8, Passes r n key name ∧ r.get? name = none
  /-- All other cases. -/
  otherwise : r.resolve key = .error (.configuration (.indirectionTooDeep key)) ↔
    (∀ e, r.resolve key ≠ .ok e) ∧ ∀ name, r.resolve key ≠ .error (.unknownEndpoint name)
  cyclic : ∀ n m name, Passes r n key name → 0 < m → Passes r m name name →
    r.resolve key = .error (.configuration (.indirectionTooDeep key))

theorem traced (r : Registry) (key : String) : Traced r key where
  found _ := resolve_eq_ok_iff
  missing _ := resolve_eq_unknown_iff
  otherwise := by
    constructor
    · intro h
      simp [h]
    · rintro ⟨hok, hunknown⟩
      obtain ⟨-, -, -, e, -, -, -, h⟩ | ⟨-, -, name, -, -, h⟩ | h := resolve_cases r key
      · exact absurd h (hok e)
      · exact absurd h (hunknown name)
      · exact h
  cyclic n m name h hm hround := by
    obtain ⟨last, hlast⟩ := h.endless hm hround depth
    exact resolve_of_passes hlast

end ServiceBus.Registry
