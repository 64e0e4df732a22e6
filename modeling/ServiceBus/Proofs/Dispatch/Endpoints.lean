import ServiceBus.Bus
import ServiceBus.Proofs.Fallible

/-
ServiceBus.Proofs.Dispatch.Endpoints — the endpoints of a registry over time.

Each endpoint is registered under its own name, and whatever a name stands for in the
end is a registered endpoint that is not indirect (`Bus.concrete_eq_ok`). Sends and
replies change nothing but the health of such an endpoint: `Registry.Evolves` says
that of a registry and a later one.
-/
namespace ServiceBus

/-- An endpoint that stands for itself. -/
def Endpoint.Concrete (e : Endpoint) : Prop := ∀ key, e.kind ≠ .indirect key

namespace Registry

variable {r r' r'' : Registry}

/-- Every endpoint is registered under its own name. -/
def WellNamed (r : Registry) : Prop := ∀ name e, r.get? name = some e → e.name = name

theorem wellNamed_empty : WellNamed ∅ := by
  intro name e he
  rw [Dict.get?_empty] at he
  simp at he

theorem WellNamed.register {e : Endpoint} (h : r.WellNamed) (hr : r.register e = .ok r') :
    r'.WellNamed := by
  unfold Registry.register at hr
  split at hr
  · simp at hr
  · obtain rfl := Except.ok.inj hr
    intro name e' he'
    rw [Dict.get?_insert] at he'
    split at he'
    · next hname =>
      obtain rfl := Option.some.inj he'
      exact hname.symm
    · exact h name e' he'

/-- The registry of a configuration is well named. -/
theorem wellNamed_ofEntries {entries : List EndpointEntry} (h : ofEntries entries = .ok r) :
    r.WellNamed := by
  have registered (entries : List EndpointEntry) {start r : Registry} (hstart : start.WellNamed)
      (hr : entries.foldlM (fun (r : Registry) entry => do r.register (← Endpoint.ofEntry entry))
        start = .ok r) : r.WellNamed := by
    induction entries generalizing start with
    | nil =>
      obtain rfl := Except.ok.inj hr
      exact hstart
    | cons entry rest ih =>
      rw [List.foldlM_cons] at hr
      obtain ⟨next, hnext, hr⟩ := Fallible.bind_eq_ok.1 hr
      obtain ⟨e, -, hnext⟩ := Fallible.bind_eq_ok.1 hnext
      exact ih (hstart.register hnext) hr
  obtain ⟨built, hbuilt, h⟩ := Fallible.bind_eq_ok.1 h
  obtain ⟨-, -, h⟩ := Fallible.bind_eq_ok.1 h
  obtain rfl := Except.ok.inj h
  exact registered entries wellNamed_empty hbuilt

/-- Keys lead to registered endpoints that stand for themselves. -/
theorem follow_eq_ok {key current : String} {n : Nat} {e : Endpoint}
    (h : r.follow key n current = .ok e) : ∃ name, r.get? name = some e ∧ e.Concrete := by
  induction n generalizing current with
  | zero => simp [follow] at h
  | succ n ih =>
    simp only [follow] at h
    split at h
    · simp at h
    · next found hfound =>
      split at h
      · exact ih h
      · next hkind =>
        obtain rfl := Except.ok.inj h
        exact ⟨current, hfound, hkind⟩

/-- Nothing but the health of endpoints that stand for themselves has changed. -/
def Evolves (r r' : Registry) : Prop :=
  (∀ name, r.get? name = none → r'.get? name = none) ∧
    ∀ name e, r.get? name = some e → ∃ health,
      r'.get? name = some { e with health } ∧ (¬ e.Concrete → health = e.health)

namespace Evolves

theorem refl (r : Registry) : Evolves r r :=
  ⟨fun _ h => h, fun _ e h => ⟨e.health, h, fun _ => rfl⟩⟩

theorem trans (h : Evolves r r') (h' : Evolves r' r'') : Evolves r r'' := by
  refine ⟨fun name hnone => h'.1 name (h.1 name hnone), fun name e he => ?_⟩
  obtain ⟨health, he', hkept⟩ := h.2 name e he
  obtain ⟨health', he'', hkept'⟩ := h'.2 name _ he'
  exact ⟨health', he'', fun hc => (hkept' hc).trans (hkept hc)⟩

/-- The health of an endpoint that stands for itself changes. -/
theorem modify {name : String} {e : Endpoint} (he : r.get? name = some e) (hc : e.Concrete)
    (f : Health → Health) :
    Evolves r (Dict.modify r name fun e => { e with health := f e.health }) := by
  refine ⟨fun other hnone => ?_, fun other e' he' => ?_⟩
  · rw [Dict.get?_modify, hnone]
    simp
  · rw [Dict.get?_modify, he']
    split
    · next hother =>
      subst hother
      obtain rfl : e = e' := Option.some.inj (he.symm.trans he')
      exact ⟨f e.health, rfl, fun hnc => absurd hc hnc⟩
    · exact ⟨e'.health, rfl, fun _ => rfl⟩

theorem wellNamed (h : Evolves r r') (hr : r.WellNamed) : r'.WellNamed := by
  intro name e' he'
  cases he : r.get? name with
  | none =>
    rw [h.1 name he] at he'
    simp at he'
  | some e =>
    obtain ⟨health, hh, -⟩ := h.2 name e he
    obtain rfl := Option.some.inj (hh.symm.trans he')
    exact hr name e he

/-- A later endpoint was there before, with its own health then. -/
theorem get?_eq_some (h : Evolves r r') {name : String} {e' : Endpoint}
    (he' : r'.get? name = some e') :
    ∃ e, r.get? name = some e ∧ e' = { e with health := e'.health } := by
  cases he : r.get? name with
  | none =>
    rw [h.1 name he] at he'
    simp at he'
  | some e =>
    obtain ⟨health, hh, -⟩ := h.2 name e he
    obtain rfl := Option.some.inj (hh.symm.trans he')
    exact ⟨e, rfl, rfl⟩

end Evolves

end Registry

namespace Bus

variable {b : Bus}

theorem endpoint_eq_ok {name : String} {e : Endpoint} :
    b.endpoint name = .ok e ↔ b.endpoints.get? name = some e := by
  unfold endpoint
  split
  · next found hfound => simp [hfound]
  · next hfound => simp [hfound]

/-- What a name stands for is registered under its own name, and stands for itself. -/
theorem concrete_eq_ok {name : String} {e : Endpoint} (hnamed : b.endpoints.WellNamed)
    (h : b.concrete name = .ok e) : b.endpoints.get? e.name = some e ∧ e.Concrete := by
  have hfound : ∃ key, b.endpoints.get? key = some e ∧ e.Concrete := by
    unfold concrete at h
    cases hname : b.endpoint name with
    | error failure =>
      rw [hname] at h
      simp [bind, Except.bind] at h
    | ok found =>
      rw [hname] at h
      have h : b.endpoints.concrete found = .ok e := h
      unfold Registry.concrete at h
      split at h
      · exact Registry.follow_eq_ok h
      · next hkind =>
        obtain rfl := Except.ok.inj h
        exact ⟨name, endpoint_eq_ok.1 hname, hkind⟩
  obtain ⟨key, hkey, hconcrete⟩ := hfound
  obtain rfl := hnamed key e hkey
  exact ⟨hkey, hconcrete⟩

end Bus

end ServiceBus
