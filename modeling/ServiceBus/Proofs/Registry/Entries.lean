import ServiceBus.Proofs.Definition.Checks
import ServiceBus.Proofs.Registry.Chains

/-
ServiceBus.Proofs.Registry.Entries — what the entries of a configuration come to.

An entry comes to an endpoint if its definition is accepted and the fields of its kind
are filled in (`Endpoint.ofEntry_eq_ok`). Registering entries one after the other
(`Registry.fill`) fails at an entry that does not, or at a name that is taken; what is
built otherwise has exactly the endpoints that the entries come to
(`Registry.get?_fill`). All that is checked then is where the keys lead
(`Registry.ofEntries_eq_ok`).
-/
namespace ServiceBus

/-! ## One entry -/

/-- The fields of a kind hold more than blanks. -/
def EndpointKind.Filled : EndpointKind → Prop
  | .address uri => Text.trimmed uri ≠ ""
  | .wsdl uri _ _ => Text.trimmed uri ≠ ""
  | .indirect key => Text.trimmed key ≠ ""
  | .default => True

/-- A definition with the address of its endpoint, unless it has one of its own. -/
def Definition.addressed (d : Definition) : EndpointKind → Definition
  | .address uri => { d with address := d.address.or (some uri) }
  | .wsdl uri _ _ => { d with address := d.address.or (some uri) }
  | .indirect _ => d
  | .default => d

namespace EndpointEntry

variable {entry : EndpointEntry}

/-- A field that must be there. -/
def field (entry : EndpointEntry) (name : String) : Option String → Except Failure String
  | some s => .ok s
  | none => .error (.configuration (.missingField entry.name name))

/-- The definition of an entry, read. -/
def readDefinition (entry : EndpointEntry) : Except Failure Definition :=
  match entry.definition with
  | some v => Definition.ofValue v
  | none => pure {}

/-- The kind of an entry with the fields that belong to it. -/
def endpointKind (entry : EndpointEntry) : Except Failure EndpointKind :=
  match entry.kind with
  | .address => do return .address (← entry.field "uri" entry.uri)
  | .wsdl => do
    let uri ← entry.field "uri" entry.uri
    let service ← entry.field "service" entry.service
    let portName ← entry.field "port" entry.portName
    return .wsdl uri service portName
  | .default => return .default
  | .indirect => do return .indirect (← entry.field "key" entry.key)

theorem field_eq_ok {name s : String} {o : Option String} :
    entry.field name o = .ok s ↔ o = some s := by
  cases o with
  | none => simp [field]
  | some s' => simp [field]

theorem endpointKind_eq_indirect {key : String} :
    entry.endpointKind = .ok (.indirect key) ↔ entry.kind = .indirect ∧ entry.key = some key := by
  unfold endpointKind
  cases entry.kind <;> simp [Fallible.bind_eq_ok, field_eq_ok, pure, Except.pure]

theorem readDefinition_valid {d : Definition} (h : entry.readDefinition = .ok d) : d.Valid := by
  unfold readDefinition at h
  split at h
  · exact (Definition.ofValue_eq_ok.1 h).2
  · obtain rfl := Except.ok.inj h
    exact Definition.validate_eq_ok.1 rfl

end EndpointEntry

namespace Endpoint

variable {name : String} {kind : EndpointKind} {d : Definition} {entry : EndpointEntry}
  {e : Endpoint}

/-- An endpoint is made of a valid definition and a kind whose fields are filled in. -/
theorem make_eq_ok : make name kind d = .ok e ↔
    d.Valid ∧ kind.Filled ∧ ⟨name, kind, d.addressed kind, {}, false⟩ = e := by
  rw [make, Fallible.unit_bind_eq_ok, Definition.validate_eq_ok]
  refine and_congr_right fun _ => ?_
  cases kind with
  | default => simp [EndpointKind.Filled, Definition.addressed, pure, Except.pure]
  | address uri => exact Fallible.ite_error_eq_ok
  | wsdl uri service portName => exact Fallible.ite_error_eq_ok
  | indirect key => exact Fallible.ite_error_eq_ok

theorem ofEntry_eq (entry : EndpointEntry) : ofEntry entry = (do
    let d ← entry.readDefinition
    let kind ← entry.endpointKind
    make entry.name kind d) := by
  obtain ⟨name, kind, uri, service, portName, key, definition⟩ := entry
  cases kind with
  | address => cases definition <;> cases uri <;> rfl
  | wsdl => cases definition <;> cases uri <;> cases service <;> cases portName <;> rfl
  | default => cases definition <;> rfl
  | indirect => cases definition <;> cases key <;> rfl

theorem ofEntry_eq_ok : ofEntry entry = .ok e ↔ ∃ d kind, entry.readDefinition = .ok d ∧
    entry.endpointKind = .ok kind ∧ kind.Filled ∧
    ⟨entry.name, kind, d.addressed kind, {}, false⟩ = e := by
  simp only [ofEntry_eq, Fallible.bind_eq_ok, make_eq_ok]
  constructor
  · rintro ⟨d, hd, kind, hkind, -, hfilled, rfl⟩
    exact ⟨d, kind, hd, hkind, hfilled, rfl⟩
  · rintro ⟨d, kind, hd, hkind, hfilled, rfl⟩
    exact ⟨d, hd, kind, hkind, EndpointEntry.readDefinition_valid hd, hfilled, rfl⟩

theorem name_of_ofEntry (h : ofEntry entry = .ok e) : e.name = entry.name := by
  obtain ⟨d, kind, -, -, -, rfl⟩ := ofEntry_eq_ok.1 h
  rfl

theorem kind_of_ofEntry (h : ofEntry entry = .ok e) : entry.endpointKind = .ok e.kind := by
  obtain ⟨d, kind, -, hkind, -, rfl⟩ := ofEntry_eq_ok.1 h
  exact hkind

end Endpoint

/-! ## One entry after the other -/

namespace Registry

variable {r r' : Registry} {entry : EndpointEntry} {entries : List EndpointEntry}
  {name key : String} {e : Endpoint} {f : Failure}

/-- Registers what an entry comes to. -/
def enter (r : Registry) (entry : EndpointEntry) : Except Failure Registry := do
  r.register (← Endpoint.ofEntry entry)

/-- Registers what each of the entries comes to. -/
def fill (r : Registry) (entries : List EndpointEntry) : Except Failure Registry :=
  entries.foldlM enter r

theorem enter_eq_ok : r.enter entry = .ok r' ↔ ∃ e, Endpoint.ofEntry entry = .ok e ∧
    r.get? entry.name = none ∧ Dict.insert r entry.name e = r' := by
  rw [enter, Fallible.bind_eq_ok]
  refine exists_congr fun e => and_congr_right fun he => ?_
  rw [register, Endpoint.name_of_ofEntry he, Fallible.ite_error_eq_ok]
  simp [Dict.contains]

/-- What is registered in the end was registered before, or an entry comes to it. -/
theorem get?_fill (h : r.fill entries = .ok r') : r'.get? name = some e ↔
    r.get? name = some e ∨
      ∃ entry ∈ entries, entry.name = name ∧ Endpoint.ofEntry entry = .ok e := by
  induction entries generalizing r with
  | nil =>
    obtain rfl := Except.ok.inj h
    simp
  | cons entry entries ih =>
    rw [fill, List.foldlM_cons, Fallible.bind_eq_ok] at h
    obtain ⟨next, hnext, h⟩ := h
    obtain ⟨e', he', hnew, rfl⟩ := enter_eq_ok.1 hnext
    have hentered : Dict.get? (Dict.insert r entry.name e') name = some e ↔
        r.get? name = some e ∨ (entry.name = name ∧ Endpoint.ofEntry entry = .ok e) := by
      rw [Dict.get?_insert, he']
      by_cases hname : name = entry.name
      · subst hname
        simp [hnew]
      · simp [hname, Ne.symm hname]
    rw [ih h, hentered]
    simp [or_assoc]

/-- Every entry comes to an endpoint that is registered under its name. -/
theorem get?_of_fill (h : r.fill entries = .ok r') (hentry : entry ∈ entries) :
    ∃ e, Endpoint.ofEntry entry = .ok e ∧ r'.get? entry.name = some e := by
  have hcomes : ∃ e, Endpoint.ofEntry entry = .ok e := by
    induction entries generalizing r with
    | nil => simp at hentry
    | cons first entries ih =>
      rw [fill, List.foldlM_cons, Fallible.bind_eq_ok] at h
      obtain ⟨next, hnext, h⟩ := h
      rcases List.mem_cons.1 hentry with rfl | hentry
      · obtain ⟨e, he, -⟩ := enter_eq_ok.1 hnext
        exact ⟨e, he⟩
      · exact ih h hentry
  obtain ⟨e, he⟩ := hcomes
  exact ⟨e, he, (get?_fill h).2 (.inr ⟨entry, hentry, rfl, he⟩)⟩

/-- Entries with names of their own fail to be registered only at an entry that comes to
nothing. -/
theorem fill_eq_error (hnew : ∀ entry ∈ entries, r.get? entry.name = none)
    (hnodup : (entries.map EndpointEntry.name).Nodup) (h : r.fill entries = .error f) :
    ∃ entry ∈ entries, Endpoint.ofEntry entry = .error f := by
  induction entries generalizing r with
  | nil => simp [fill, pure, Except.pure] at h
  | cons entry entries ih =>
    rw [List.map_cons, List.nodup_cons] at hnodup
    have hfree : r.get? entry.name = none := hnew entry List.mem_cons_self
    rw [fill, List.foldlM_cons, Fallible.bind_eq_error] at h
    rcases h with hentry | ⟨next, hnext, hrest⟩
    · rw [enter, Fallible.bind_eq_error] at hentry
      rcases hentry with hentry | ⟨e, he, hregister⟩
      · exact ⟨entry, List.mem_cons_self, hentry⟩
      · rw [register, Endpoint.name_of_ofEntry he] at hregister
        simp [Dict.contains, hfree] at hregister
    · obtain ⟨e, -, -, rfl⟩ := enter_eq_ok.1 hnext
      have hnew' : ∀ other ∈ entries,
          Dict.get? (Dict.insert r entry.name e) other.name = none := by
        intro other hother
        have hne : other.name ≠ entry.name := by
          intro heq
          exact hnodup.1 (heq ▸ List.mem_map_of_mem hother)
        rw [Dict.get?_insert, if_neg hne]
        exact hnew other (List.mem_cons_of_mem entry hother)
      obtain ⟨other, hother, hf⟩ := ih hnew' hnodup.2 hrest
      exact ⟨other, List.mem_cons_of_mem entry hother, hf⟩

/-! ## Where the keys lead -/

/-- Checks that the key of an entry leads to an endpoint. -/
def checkKey (r : Registry) (entry : EndpointEntry) : Except Failure Unit :=
  match entry.key with
  | some key => do
    let _ ← r.resolve key
  | none => pure ()

theorem ofEntries_eq (entries : List EndpointEntry) : ofEntries entries = (do
    let r ← fill ∅ entries
    entries.forM r.checkKey
    return r) := rfl

theorem checkKey_eq_ok :
    r.checkKey entry = .ok () ↔ ∀ key, entry.key = some key → ∃ e, r.resolve key = .ok e := by
  unfold checkKey
  cases entry.key with
  | none => simp [pure, Except.pure]
  | some key => simp [Fallible.bind_eq_ok, pure, Except.pure]

theorem checkKey_eq_error (h : r.checkKey entry = .error f) :
    ∃ key, entry.key = some key ∧ r.resolve key = .error f := by
  unfold checkKey at h
  cases hkey : entry.key with
  | none => simp [hkey, pure, Except.pure] at h
  | some key =>
    rw [hkey] at h
    rcases Fallible.bind_eq_error.1 h with hresolve | ⟨_, -, hpure⟩
    · exact ⟨key, rfl, hresolve⟩
    · simp [pure, Except.pure] at hpure

theorem ofEntries_eq_ok : ofEntries entries = .ok r ↔ fill ∅ entries = .ok r ∧
    ∀ entry ∈ entries, ∀ key, entry.key = some key → ∃ e, r.resolve key = .ok e := by
  have hchecked (built : Registry) : (do
      entries.forM built.checkKey
      return built : Except Failure Registry) = .ok r ↔
      (∀ entry ∈ entries, ∀ key, entry.key = some key → ∃ e, built.resolve key = .ok e) ∧
        built = r := by
    rw [Fallible.unit_bind_eq_ok, Fallible.forM_eq_ok]
    simp [checkKey_eq_ok, pure, Except.pure]
  rw [ofEntries_eq, Fallible.bind_eq_ok]
  constructor
  · rintro ⟨built, hbuilt, h⟩
    obtain ⟨hkeys, rfl⟩ := (hchecked built).1 h
    exact ⟨hbuilt, hkeys⟩
  · rintro ⟨hbuilt, hkeys⟩
    exact ⟨r, hbuilt, (hchecked r).2 ⟨hkeys, rfl⟩⟩

theorem ofEntries_eq_error (h : ofEntries entries = .error f) : fill ∅ entries = .error f ∨
    ∃ r, fill ∅ entries = .ok r ∧
      ∃ entry ∈ entries, ∃ key, entry.key = some key ∧ r.resolve key = .error f := by
  rw [ofEntries_eq, Fallible.bind_eq_error] at h
  rcases h with hfill | ⟨r, hr, hkeys⟩
  · exact .inl hfill
  · rcases Fallible.bind_eq_error.1 hkeys with hkeys | ⟨_, -, hpure⟩
    · obtain ⟨entry, hentry, hf⟩ := Fallible.forM_eq_error hkeys
      obtain ⟨key, hkey, hresolve⟩ := checkKey_eq_error hf
      exact .inr ⟨r, hr, entry, hentry, key, hkey, hresolve⟩
    · simp [pure, Except.pure] at hpure

end Registry

end ServiceBus
