import ServiceBus.Proofs.Dispatch.Endpoints

/-
ServiceBus.Proofs.Registry.Chains — where names lead.

`Registry.Leads` says in how many look-ups a name leads to an endpoint that stands for
itself. A search that may make so many look-ups finds the endpoint (`follow_eq_ok_iff`).
One that may make fewer says that the indirection is too deep, and names the key it began
at (`Leads.follow_too_deep`).
-/
namespace ServiceBus.Registry

variable {r : Registry} {n m : Nat} {name key current : String} {e e' : Endpoint}

/-- A name leads to an endpoint that stands for itself, in a number of look-ups. -/
inductive Leads (r : Registry) : Nat → String → Endpoint → Prop where
  | here {name : String} {e : Endpoint} : r.get? name = some e → e.Concrete → Leads r 1 name e
  | there {n : Nat} {name next : String} {e e' : Endpoint} :
    r.get? name = some e → e.kind = .indirect next → Leads r n next e' → Leads r (n + 1) name e'

namespace Leads

theorem registered (h : Leads r n name e) : ∃ found, r.get? name = some found := by
  cases h with
  | here hfound _ => exact ⟨_, hfound⟩
  | there hfound _ _ => exact ⟨_, hfound⟩

/-! ## Following keys -/

/-- A search that may make enough look-ups finds the endpoint. -/
theorem follow (h : Leads r n current e) (hn : n ≤ m) : r.follow key m current = .ok e := by
  induction h generalizing m with
  | here hfound hconcrete =>
    obtain ⟨m, rfl⟩ := Nat.exists_eq_add_of_le' hn
    simp only [Registry.follow, hfound]
    split
    · next hkind => exact absurd hkind (hconcrete _)
    · rfl
  | there hfound hkind _ ih =>
    obtain ⟨m, rfl⟩ := Nat.exists_eq_add_of_le' (Nat.le_of_add_left_le hn)
    simp only [Registry.follow, hfound, hkind]
    exact ih (by omega)

/-- A search that may not make enough look-ups says so. -/
theorem follow_too_deep (h : Leads r n current e) (hn : m < n) :
    r.follow key m current = .error (.configuration (.indirectionTooDeep key)) := by
  induction h generalizing m with
  | here _ _ =>
    obtain rfl : m = 0 := by omega
    rfl
  | there hfound hkind _ ih =>
    cases m with
    | zero => rfl
    | succ m =>
      simp only [Registry.follow, hfound, hkind]
      exact ih (by omega)

end Leads

/-- What a search finds is where its name leads, in no more look-ups than it may make. -/
theorem follow_eq_ok_iff :
    r.follow key m current = .ok e ↔ ∃ n ≤ m, Leads r n current e := by
  constructor
  · intro h
    induction m generalizing current with
    | zero => simp [follow] at h
    | succ m ih =>
      simp only [follow] at h
      split at h
      · simp at h
      · next found hfound =>
        split at h
        · next next hkind =>
          obtain ⟨n, hn, hleads⟩ := ih h
          exact ⟨n + 1, Nat.succ_le_succ hn, .there hfound hkind hleads⟩
        · next hkind =>
          obtain rfl := Except.ok.inj h
          exact ⟨1, by omega, .here hfound hkind⟩
  · rintro ⟨n, hn, hleads⟩
    exact hleads.follow hn

theorem resolve_eq_ok : r.resolve key = .ok e ↔ ∃ n ≤ depth, Leads r n key e := follow_eq_ok_iff

/-- A search fails at a name that is not registered, or because it began too far off. -/
theorem follow_eq_error {f : Failure} (h : r.follow key m current = .error f) :
    f = .configuration (.indirectionTooDeep key) ∨
      ∃ name, r.get? name = none ∧ f = .unknownEndpoint name := by
  induction m generalizing current with
  | zero =>
    obtain rfl := Except.error.inj h
    exact .inl rfl
  | succ m ih =>
    simp only [follow] at h
    split at h
    · next hfound =>
      obtain rfl := Except.error.inj h
      exact .inr ⟨current, hfound, rfl⟩
    · split at h
      · exact ih h
      · simp at h

end ServiceBus.Registry
