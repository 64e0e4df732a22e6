import ServiceBus.Deployment
import ServiceBus.Proofs.Registry.Entries

/-
ServiceBus.Proofs.Registry.Validated — building a bus from a validated configuration.

Validation looks at the fields of the entries and at their names, but neither at the
definitions nor at where the keys lead. What it accepts is accepted again when the
endpoints are made: an entry comes to an endpoint if its definition is accepted
(`Endpoint.ofEntry_of_validate`), and no name is taken.

`EndpointEntry.Leads` says where a name leads by the entries alone, in whatever order
they stand. `Registry.leads_iff` is the link to the registry that is built of them, and
`BusConfig.build_of_validate` sums up when the bus can be built, why not otherwise, and
that nothing depends on the order of the entries.
-/
namespace ServiceBus

/-! ## The fields of an entry -/

namespace Config

theorem checkNotEmpty_eq_ok {value field : String} :
    checkNotEmpty value field = .ok () ↔ Text.trimmed value ≠ "" := by
  rw [checkNotEmpty, Fallible.ite_error_eq_ok]
  simp

theorem checkUri_eq_ok {value field : String} (h : checkUri value field = .ok ()) :
    Text.trimmed value ≠ "" := by
  rw [checkUri, Fallible.unit_bind_eq_ok] at h
  exact checkNotEmpty_eq_ok.1 h.1

/-- A field that holds more than blanks is there. -/
theorem eq_some_of_trimmed {o : Option String} (h : Text.trimmed (o.getD "") ≠ "") :
    ∃ s, o = some s ∧ Text.trimmed s ≠ "" := by
  cases o with
  | none => exact absurd rfl h
  | some s => exact ⟨s, rfl, h⟩

end Config

namespace EndpointEntry

variable {entry : EndpointEntry} {entries entries' : List EndpointEntry} {n : Nat}
  {name target : String}

/-- The fields of a validated entry are filled in. -/
theorem endpointKind_of_validate (h : entry.validate = .ok ()) :
    ∃ kind, entry.endpointKind = .ok kind ∧ kind.Filled := by
  obtain ⟨-, hfields⟩ := Fallible.unit_bind_eq_ok.1 h
  unfold endpointKind
  cases hkind : entry.kind with
  | address =>
    rw [hkind] at hfields
    obtain ⟨uri, huri, hfilled⟩ := Config.eq_some_of_trimmed (Config.checkUri_eq_ok hfields)
    exact ⟨.address uri, by rw [huri]; rfl, hfilled⟩
  | wsdl =>
    rw [hkind] at hfields
    obtain ⟨huri, hfields⟩ := Fallible.unit_bind_eq_ok.1 hfields
    obtain ⟨hservice, hport⟩ := Fallible.unit_bind_eq_ok.1 hfields
    obtain ⟨uri, huri, hfilled⟩ := Config.eq_some_of_trimmed (Config.checkUri_eq_ok huri)
    obtain ⟨service, hservice, -⟩ :=
      Config.eq_some_of_trimmed (Config.checkNotEmpty_eq_ok.1 hservice)
    obtain ⟨portName, hport, -⟩ :=
      Config.eq_some_of_trimmed (Config.checkNotEmpty_eq_ok.1 hport)
    exact ⟨.wsdl uri service portName, by rw [huri, hservice, hport]; rfl, hfilled⟩
  | indirect =>
    rw [hkind] at hfields
    obtain ⟨key, hkey, hfilled⟩ :=
      Config.eq_some_of_trimmed (Config.checkNotEmpty_eq_ok.1 hfields)
    exact ⟨.indirect key, by rw [hkey]; rfl, hfilled⟩
  | default => exact ⟨.default, rfl, trivial⟩

end EndpointEntry

namespace Endpoint

variable {entry : EndpointEntry} {f : Failure}

/-- A validated entry comes to nothing only if its definition is not accepted. -/
theorem ofEntry_eq_error (hentry : entry.validate = .ok ()) (h : ofEntry entry = .error f) :
    ∃ v, entry.definition = some v ∧ Definition.ofValue v = .error f := by
  obtain ⟨kind, hkind, hfilled⟩ := EndpointEntry.endpointKind_of_validate hentry
  cases hread : entry.readDefinition with
  | ok d =>
    have hok := ofEntry_eq_ok.2 ⟨d, kind, hread, hkind, hfilled, rfl⟩
    rw [hok] at h
    simp at h
  | error f' =>
    rw [ofEntry_eq, hread] at h
    obtain rfl := Except.error.inj h
    unfold EndpointEntry.readDefinition at hread
    split at hread
    · next v hv => exact ⟨v, hv, hread⟩
    · simp [pure, Except.pure] at hread

theorem ofEntry_of_validate (hentry : entry.validate = .ok ()) :
    (∃ e, ofEntry entry = .ok e) ↔
      ∀ v, entry.definition = some v → ∃ d, Definition.ofValue v = .ok d := by
  constructor
  · rintro ⟨e, he⟩ v hv
    obtain ⟨d, -, hd, -⟩ := ofEntry_eq_ok.1 he
    rw [EndpointEntry.readDefinition, hv] at hd
    exact ⟨d, hd⟩
  · intro haccepted
    cases he : ofEntry entry with
    | ok e => exact ⟨e, rfl⟩
    | error f =>
      obtain ⟨v, hv, hf⟩ := ofEntry_eq_error hentry he
      obtain ⟨d, hd⟩ := haccepted v hv
      rw [hd] at hf
      simp at hf

end Endpoint

/-! ## Where names lead -/

namespace EndpointEntry

/-- By the entries of a configuration, a name leads to the name of an entry that is not
indirect, in a number of look-ups. -/
inductive Leads (entries : List EndpointEntry) : Nat → String → String → Prop where
  | here {entry : EndpointEntry} : entry ∈ entries → entry.kind ≠ .indirect →
    Leads entries 1 entry.name entry.name
  | there {n : Nat} {entry : EndpointEntry} {key target : String} : entry ∈ entries →
    entry.kind = .indirect → entry.key = some key → Leads entries n key target →
    Leads entries (n + 1) entry.name target

variable {entry : EndpointEntry} {entries entries' : List EndpointEntry} {n : Nat}
  {name target : String}

/-- The order of the entries does not matter. -/
theorem Leads.perm (hperm : entries.Perm entries') (h : Leads entries n name target) :
    Leads entries' n name target := by
  induction h with
  | here hentry hkind => exact .here (hperm.mem_iff.1 hentry) hkind
  | there hentry hkind hkey _ ih => exact .there (hperm.mem_iff.1 hentry) hkind hkey ih

theorem kind_eq_indirect {kind : EndpointKind} (h : entry.endpointKind = .ok kind) :
    entry.kind = .indirect ↔ ∃ key, kind = .indirect key := by
  constructor
  · intro hkind
    rw [endpointKind, hkind] at h
    obtain ⟨key, -, h⟩ := Fallible.bind_eq_ok.1 h
    exact ⟨key, (Except.ok.inj h).symm⟩
  · rintro ⟨key, rfl⟩
    exact (endpointKind_eq_indirect.1 h).1

end EndpointEntry

namespace Registry

variable {r r' : Registry} {entries entries' : List EndpointEntry} {n : Nat}
  {name key target : String}

/-- Names lead where the entries say. -/
theorem leads_iff (hfill : fill ∅ entries = .ok r) :
    (∃ e, r.Leads n name e ∧ e.name = target) ↔ EndpointEntry.Leads entries n name target := by
  have hregistered {name : String} {e : Endpoint} (he : r.get? name = some e) :
      ∃ entry ∈ entries, entry.name = name ∧ Endpoint.ofEntry entry = .ok e := by
    rcases (get?_fill hfill).1 he with hbefore | hentry
    · simp at hbefore
    · exact hentry
  constructor
  · rintro ⟨e, h, rfl⟩
    induction h with
    | here he hconcrete =>
      obtain ⟨entry, hentry, rfl, hcomes⟩ := hregistered he
      rw [Endpoint.name_of_ofEntry hcomes]
      refine .here hentry ?_
      intro hkind
      obtain ⟨key, hkey⟩ :=
        (EndpointEntry.kind_eq_indirect (Endpoint.kind_of_ofEntry hcomes)).1 hkind
      exact hconcrete key hkey
    | there he hkind _ ih =>
      obtain ⟨entry, hentry, rfl, hcomes⟩ := hregistered he
      have hread := Endpoint.kind_of_ofEntry hcomes
      rw [hkind] at hread
      obtain ⟨hindirect, hkey⟩ := EndpointEntry.endpointKind_eq_indirect.1 hread
      exact .there hentry hindirect hkey ih
  · intro h
    induction h with
    | here hentry hkind =>
      obtain ⟨e, hcomes, he⟩ := get?_of_fill hfill hentry
      refine ⟨e, .here he ?_, Endpoint.name_of_ofEntry hcomes⟩
      intro key hkey
      have hread := Endpoint.kind_of_ofEntry hcomes
      exact hkind ((EndpointEntry.kind_eq_indirect hread).2 ⟨key, hkey⟩)
    | there hentry hindirect hkey _ ih =>
      obtain ⟨e, hcomes, he⟩ := get?_of_fill hfill hentry
      obtain ⟨e', hleads, hname⟩ := ih
      have hread := EndpointEntry.endpointKind_eq_indirect.2 ⟨hindirect, hkey⟩
      have hkind := Except.ok.inj ((Endpoint.kind_of_ofEntry hcomes).symm.trans hread)
      exact ⟨e', .there he hkind hleads, hname⟩

theorem resolve_iff (hfill : fill ∅ entries = .ok r) :
    (∃ e, r.resolve key = .ok e ∧ e.name = target) ↔
      ∃ n ≤ depth, EndpointEntry.Leads entries n key target := by
  simp only [resolve_eq_ok, ← leads_iff hfill]
  constructor
  · rintro ⟨e, ⟨n, hn, hleads⟩, hname⟩
    exact ⟨n, hn, e, hleads, hname⟩
  · rintro ⟨n, hn, e, hleads, hname⟩
    exact ⟨e, ⟨n, hn, hleads⟩, hname⟩

/-- The registry does not depend on the order of the entries. -/
theorem eq_of_perm (hperm : entries.Perm entries') (hfill : fill ∅ entries = .ok r)
    (hfill' : fill ∅ entries' = .ok r') : r = r' := by
  refine Dict.ext_get? fun name => Option.ext fun e => ?_
  rw [get?_fill hfill, get?_fill hfill']
  simp [hperm.mem_iff]

end Registry

/-! ## The bus of a configuration -/

namespace Deployment

variable {c : BusConfig} {d : Deployment}

theorem build_eq_ok : build c = .ok d ↔ ∃ r, Registry.ofEntries c.endpoints = .ok r ∧
    ⟨c, { endpoints := r, defaults := c.endpointDefaults }⟩ = d := by
  rw [build]
  cases Registry.ofEntries c.endpoints with
  | error f => simp [Except.mapError, bind, Except.bind]
  | ok r => simp [Except.mapError, bind, Except.bind, pure, Except.pure]

theorem build_eq_error {problem : DeploymentProblem} : build c = .error problem ↔
    ∃ f, Registry.ofEntries c.endpoints = .error f ∧ .registry f = problem := by
  rw [build]
  cases Registry.ofEntries c.endpoints with
  | error f => simp [Except.mapError, bind, Except.bind]
  | ok r => simp [Except.mapError, bind, Except.bind, pure, Except.pure]

end Deployment

namespace BusConfig

variable {c : BusConfig} {entries : List EndpointEntry} {seen : List String}

theorem checkEntries_eq_ok : checkEntries seen entries = .ok () ↔
    (∀ entry ∈ entries, entry.validate = .ok ()) ∧
      (entries.map EndpointEntry.name).Nodup ∧ ∀ entry ∈ entries, entry.name ∉ seen := by
  induction entries generalizing seen with
  | nil => simp [checkEntries]
  | cons entry entries ih =>
    rw [checkEntries, Fallible.unit_bind_eq_ok, Fallible.ite_throw_bind_eq_ok, ih]
    simp only [List.contains_iff_mem, List.map_cons, List.nodup_cons, forall_eq_or_imp,
      List.mem_map, List.mem_cons]
    constructor
    · rintro ⟨hentry, hseen, hentries, hnodup, hnew⟩
      refine ⟨⟨hentry, hentries⟩, ⟨?_, hnodup⟩, hseen, fun other hother => ?_⟩
      · rintro ⟨other, hother, hname⟩
        exact hnew other hother (.inl hname)
      · intro hmem
        exact hnew other hother (.inr hmem)
    · rintro ⟨⟨hentry, hentries⟩, ⟨hfirst, hnodup⟩, hseen, hnew⟩
      refine ⟨hentry, hseen, hentries, hnodup, ?_⟩
      rintro other hother (hname | hmem)
      · exact hfirst ⟨other, hother, hname⟩
      · exact hnew other hother hmem

theorem checkEntries_of_validate (h : c.validate = .ok ()) :
    checkEntries [] c.endpoints = .ok () := by
  simp only [validate, Fallible.unit_bind_eq_ok] at h
  obtain ⟨-, -, h⟩ := h
  split at h
  · exact (Fallible.unit_bind_eq_ok.1 h).2
  · exact h

/-- The order of the entries does not matter to the checks. -/
theorem validate_of_perm (h : c.validate = .ok ()) (hperm : entries.Perm c.endpoints) :
    validate { c with endpoints := entries } = .ok () := by
  have hentries : checkEntries [] entries = .ok () := by
    obtain ⟨hvalid, hnodup, -⟩ := checkEntries_eq_ok.1 (checkEntries_of_validate h)
    refine checkEntries_eq_ok.2 ⟨?_, ?_, by simp⟩
    · intro entry hentry
      exact hvalid entry (hperm.mem_iff.1 hentry)
    · exact ((hperm.map EndpointEntry.name).nodup_iff).2 hnodup
  simp only [validate, Fallible.unit_bind_eq_ok] at h ⊢
  obtain ⟨hlogging, hdefaults, h⟩ := h
  refine ⟨hlogging, hdefaults, ?_⟩
  split at h
  · exact Fallible.unit_bind_eq_ok.2 ⟨(Fallible.unit_bind_eq_ok.1 h).1, hentries⟩
  · exact hentries

/-- What validation leaves open: that definitions are accepted, and that keys lead to
entries. -/
structure Buildable (entries : List EndpointEntry) : Prop where
  definitions : ∀ entry ∈ entries, ∀ v, entry.definition = some v →
    ∃ d, Definition.ofValue v = .ok d
  keys : ∀ entry ∈ entries, ∀ key, entry.key = some key →
    ∃ n ≤ Registry.depth, ∃ target, EndpointEntry.Leads entries n key target

theorem Buildable.perm {entries' : List EndpointEntry} (hperm : entries.Perm entries')
    (h : Buildable entries) : Buildable entries' := by
  constructor
  · intro entry hentry
    exact h.definitions entry (hperm.mem_iff.2 hentry)
  · intro entry hentry key hkey
    obtain ⟨n, hn, target, hleads⟩ := h.keys entry (hperm.mem_iff.2 hentry) key hkey
    exact ⟨n, hn, target, hleads.perm hperm⟩

/-- Registering the entries of a validated configuration fails only at a definition that is
not accepted. -/
theorem fill_eq_error {f : Failure} (h : c.validate = .ok ())
    (hfill : Registry.fill ∅ c.endpoints = .error f) :
    ∃ entry ∈ c.endpoints, ∃ v, entry.definition = some v ∧ Definition.ofValue v = .error f := by
  obtain ⟨hvalid, hnodup, -⟩ := checkEntries_eq_ok.1 (checkEntries_of_validate h)
  obtain ⟨entry, hentry, hf⟩ := Registry.fill_eq_error (by simp) hnodup hfill
  exact ⟨entry, hentry, Endpoint.ofEntry_eq_error (hvalid entry hentry) hf⟩

theorem build_iff (h : c.validate = .ok ()) :
    (∃ d, Deployment.build c = .ok d) ↔ Buildable c.endpoints := by
  obtain ⟨hvalid, -⟩ := checkEntries_eq_ok.1 (checkEntries_of_validate h)
  constructor
  · rintro ⟨d, hd⟩
    obtain ⟨r, hr, -⟩ := Deployment.build_eq_ok.1 hd
    obtain ⟨hfill, hkeys⟩ := Registry.ofEntries_eq_ok.1 hr
    constructor
    · intro entry hentry
      obtain ⟨e, he, -⟩ := Registry.get?_of_fill hfill hentry
      exact (Endpoint.ofEntry_of_validate (hvalid entry hentry)).1 ⟨e, he⟩
    · intro entry hentry key hkey
      obtain ⟨e, he⟩ := hkeys entry hentry key hkey
      obtain ⟨n, hn, hleads⟩ := (Registry.resolve_iff hfill).1 ⟨e, he, rfl⟩
      exact ⟨n, hn, e.name, hleads⟩
  · intro hbuildable
    cases hfill : Registry.fill ∅ c.endpoints with
    | error f =>
      obtain ⟨entry, hentry, v, hv, hf⟩ := fill_eq_error h hfill
      obtain ⟨d, hd⟩ := hbuildable.definitions entry hentry v hv
      rw [hd] at hf
      simp at hf
    | ok r =>
      have haccepted : Registry.ofEntries c.endpoints = .ok r := by
        refine Registry.ofEntries_eq_ok.2 ⟨hfill, fun entry hentry key hkey => ?_⟩
        obtain ⟨n, hn, target, hleads⟩ := hbuildable.keys entry hentry key hkey
        obtain ⟨e, he, -⟩ := (Registry.resolve_iff hfill).2 ⟨n, hn, hleads⟩
        exact ⟨e, he⟩
      exact ⟨_, Deployment.build_eq_ok.2 ⟨r, haccepted, rfl⟩⟩

/-- Building the bus of a validated configuration fails with what is wrong with a definition,
or because a key leads nowhere or too far. -/
theorem build_eq_error {problem : DeploymentProblem} (h : c.validate = .ok ())
    (hbuild : Deployment.build c = .error problem) : ∃ f, problem = .registry f ∧
      ((∃ entry ∈ c.endpoints, ∃ v, entry.definition = some v ∧
          Definition.ofValue v = .error f) ∨
        ∃ entry ∈ c.endpoints, ∃ key, entry.key = some key ∧
          (f = .configuration (.indirectionTooDeep key) ∨
            ∃ name, (∀ other ∈ c.endpoints, other.name ≠ name) ∧ f = .unknownEndpoint name)) := by
  obtain ⟨f, hf, rfl⟩ := Deployment.build_eq_error.1 hbuild
  refine ⟨f, rfl, ?_⟩
  rcases Registry.ofEntries_eq_error hf with hfill | ⟨r, hfill, entry, hentry, key, hkey, hresolve⟩
  · exact .inl (fill_eq_error h hfill)
  · refine .inr ⟨entry, hentry, key, hkey, ?_⟩
    rcases Registry.follow_eq_error hresolve with hdeep | ⟨name, hname, hunknown⟩
    · exact .inl hdeep
    · refine .inr ⟨name, ?_, hunknown⟩
      rintro other hother rfl
      obtain ⟨e, -, he⟩ := Registry.get?_of_fill hfill hother
      rw [he] at hname
      simp at hname

/-- The bus of a validated configuration can be built exactly if the definitions are accepted
and the keys lead to entries that are not indirect; nothing else goes wrong. What keys stand
for is said by the entries, and neither this nor whether the bus can be built depends on
their order. -/
theorem build_of_validate {c : BusConfig} (h : c.validate = .ok ()) :
    ((∃ d, Deployment.build c = .ok d) ↔
      (∀ entry ∈ c.endpoints, ∀ v, entry.definition = some v →
        ∃ d, Definition.ofValue v = .ok d) ∧
      ∀ entry ∈ c.endpoints, ∀ key, entry.key = some key →
        ∃ n ≤ 8, ∃ target, EndpointEntry.Leads c.endpoints n key target) ∧
    (∀ problem, Deployment.build c = .error problem → ∃ f, problem = .registry f ∧
      ((∃ entry ∈ c.endpoints, ∃ v, entry.definition = some v ∧
          Definition.ofValue v = .error f) ∨
        ∃ entry ∈ c.endpoints, ∃ key, entry.key = some key ∧
          (f = .configuration (.indirectionTooDeep key) ∨
            ∃ name, (∀ other ∈ c.endpoints, other.name ≠ name) ∧ f = .unknownEndpoint name))) ∧
    (∀ d, Deployment.build c = .ok d → ∀ key target,
      (∃ e, d.bus.endpoints.resolve key = .ok e ∧ e.name = target) ↔
        ∃ n ≤ 8, EndpointEntry.Leads c.endpoints n key target) ∧
    ∀ entries : List EndpointEntry, entries.Perm c.endpoints →
      validate { c with endpoints := entries } = .ok () ∧
      ((∃ d, Deployment.build { c with endpoints := entries } = .ok d) ↔
        ∃ d, Deployment.build c = .ok d) ∧
      ∀ d d', Deployment.build c = .ok d →
        Deployment.build { c with endpoints := entries } = .ok d' → d'.bus = d.bus := by
  refine ⟨?_, fun _ hbuild => build_eq_error h hbuild, ?_, ?_⟩
  · rw [build_iff h]
    constructor
    · intro hbuildable
      exact ⟨hbuildable.definitions, hbuildable.keys⟩
    · rintro ⟨hdefinitions, hkeys⟩
      exact ⟨hdefinitions, hkeys⟩
  · intro d hd key target
    obtain ⟨r, hr, rfl⟩ := Deployment.build_eq_ok.1 hd
    exact Registry.resolve_iff (Registry.ofEntries_eq_ok.1 hr).1
  · intro entries hperm
    have hvalid := validate_of_perm h hperm
    refine ⟨hvalid, ?_, ?_⟩
    · rw [build_iff h, build_iff hvalid]
      exact ⟨Buildable.perm hperm, Buildable.perm hperm.symm⟩
    · intro d d' hd hd'
      obtain ⟨r, hr, rfl⟩ := Deployment.build_eq_ok.1 hd
      obtain ⟨r', hr', rfl⟩ := Deployment.build_eq_ok.1 hd'
      have heq : r' = r := Registry.eq_of_perm hperm (Registry.ofEntries_eq_ok.1 hr').1
        (Registry.ofEntries_eq_ok.1 hr).1
      rw [heq]

/-- An alias that stands before the endpoint that it stands for. -/
def aliasFirst : BusConfig := {
  endpoints := [{ name := "alias", kind := .indirect, key := some "quote" },
    { name := "quote", kind := .address, uri := some "http://quote" }] }

theorem build_of_validate_aliasFirst : aliasFirst.validate = .ok () ∧
    ∃ d, Deployment.build aliasFirst = .ok d ∧
      (∃ e, d.bus.endpoints.resolve "alias" = .ok e ∧ e.name = "quote") ∧
      ∃ d', d'.bus = d.bus ∧
        Deployment.build { aliasFirst with endpoints := aliasFirst.endpoints.reverse } = .ok d' := by
  have hvalid : aliasFirst.validate = .ok () := by rfl
  obtain ⟨hbuild, -, hresolve, horder⟩ := build_of_validate hvalid
  have hquote : EndpointEntry.Leads aliasFirst.endpoints 1 "quote" "quote" :=
    .here (.tail _ (.head _)) (by decide)
  have halias : EndpointEntry.Leads aliasFirst.endpoints 2 "alias" "quote" :=
    .there (.head _) rfl rfl hquote
  obtain ⟨d, hd⟩ : ∃ d, Deployment.build aliasFirst = .ok d := by
    refine hbuild.2 ⟨by simp [aliasFirst], ?_⟩
    intro entry hentry key hkey
    simp only [aliasFirst, List.mem_cons, List.not_mem_nil, or_false] at hentry
    rcases hentry with rfl | rfl
    · obtain rfl := Option.some.inj hkey
      exact ⟨1, by decide, "quote", hquote⟩
    · simp at hkey
  obtain ⟨-, hsame, hbus⟩ := horder aliasFirst.endpoints.reverse (List.reverse_perm _)
  obtain ⟨d', hd'⟩ := hsame.2 ⟨d, hd⟩
  exact ⟨hvalid, d, hd, (hresolve d hd "alias" "quote").2 ⟨2, by decide, halias⟩, d',
    hbus d d' hd hd', hd'⟩

end BusConfig

end ServiceBus
