import ServiceBus.Deployment
import ServiceBus.Proofs.Registry.Entries

/-
ServiceBus.Proofs.Registry.Reports — which names of a registry can be resolved, and what
is reported of its endpoints.

A registry is accepted when every key leads to an endpoint, in as many look-ups as a
search may make. The name of an indirect endpoint is one look-up further away than its
key. So each registered endpoint stands for another one (`Registry.leads_of_ofEntries`),
and can be sent to; but the name of one whose key is as far away as a key may be is too
far away to be resolved. Reports resolve names, and so there is none for a registry with
such a name (`Deployment.reports_of_accepted`).
-/
namespace ServiceBus

namespace Registry

variable {r : Registry} {entries : List EndpointEntry} {name : String} {e target : Endpoint}
  {n : Nat}

/-- What an endpoint of an accepted registry stands for is at most one look-up further away
than a search may go. -/
theorem leads_of_ofEntries (h : ofEntries entries = .ok r) (he : r.get? name = some e) :
    ∃ n target, r.Leads n name target ∧ n ≤ depth + 1 ∧ r.concrete e = .ok target := by
  obtain ⟨hfill, hkeys⟩ := ofEntries_eq_ok.1 h
  by_cases hconcrete : e.Concrete
  · refine ⟨1, e, .here he hconcrete, by decide, ?_⟩
    unfold concrete
    split
    · next key hkind => exact absurd hkind (hconcrete key)
    · rfl
  · obtain ⟨key, hkind⟩ : ∃ key, e.kind = .indirect key := by
      simpa [Endpoint.Concrete] using hconcrete
    rcases (get?_fill hfill).1 he with hbefore | ⟨entry, hentry, -, hcomes⟩
    · simp at hbefore
    · have hkey : entry.endpointKind = .ok (.indirect key) := by
        rw [Endpoint.kind_of_ofEntry hcomes, hkind]
      obtain ⟨target, htarget⟩ :=
        hkeys entry hentry key (EndpointEntry.endpointKind_eq_indirect.1 hkey).2
      obtain ⟨n, hn, hleads⟩ := resolve_eq_ok.1 htarget
      refine ⟨n + 1, target, .there he hkind hleads, Nat.succ_le_succ hn, ?_⟩
      unfold concrete
      rw [hkind]
      exact htarget

/-- A name is resolved to what it leads to, unless that is too far away. -/
theorem Leads.resolve (h : r.Leads n name target) : r.resolve name =
    if n ≤ depth then .ok target else .error (.configuration (.indirectionTooDeep name)) := by
  split
  · next hn => exact h.follow hn
  · next hn => exact h.follow_too_deep (Nat.lt_of_not_le hn)

end Registry

namespace Deployment

variable {d : Deployment} {e : Endpoint} {report : EndpointReport}

theorem report_eq_ok : d.report e = .ok report ↔ ∃ target,
    d.bus.endpoints.resolve e.name = .ok target ∧
      ⟨e, target, Settings.resolve target.definition probe d.bus.evaluator d.bus.defaults⟩ =
        report := by
  rw [Deployment.report]
  cases d.bus.endpoints.resolve e.name with
  | error f => simp [Except.mapError, bind, Except.bind]
  | ok target => simp [Except.mapError, bind, Except.bind, pure, Except.pure]

theorem report_eq_error {problem : DeploymentProblem} : d.report e = .error problem ↔ ∃ f,
    d.bus.endpoints.resolve e.name = .error f ∧ .resolution e.name f = problem := by
  rw [Deployment.report]
  cases d.bus.endpoints.resolve e.name with
  | error f => simp [Except.mapError, bind, Except.bind]
  | ok target => simp [Except.mapError, bind, Except.bind, pure, Except.pure]

section

variable {entries : List EndpointEntry} (h : Registry.ofEntries entries = .ok d.bus.endpoints)

include h

theorem named_of_accepted : ∀ p ∈ d.endpoints, p.2.name = p.1 := by
  rintro ⟨name, e⟩ hp
  exact Registry.wellNamed_ofEntries h name e (Dict.mem_toList.1 hp)

/-- Reports are given of all endpoints in order, and resolve their names. -/
theorem reports_of_eq_ok {reports : List EndpointReport} (hreports : d.reports = .ok reports) :
    List.Forall₂ (fun (name, e) report =>
      report.endpoint = e ∧ d.bus.endpoints.resolve name = .ok report.target)
      d.endpoints reports := by
  have hreport := Fallible.mapM_eq_ok.1 hreports
  refine List.Forall₂.imp ?_
    ((List.forall₂_and_left d.endpoints reports).2 ⟨named_of_accepted h, hreport⟩)
  rintro ⟨name, e⟩ report ⟨hname, hreport⟩
  obtain ⟨target, htarget, rfl⟩ := report_eq_ok.1 hreport
  rw [hname] at htarget
  exact ⟨rfl, htarget⟩

/-- If there are no reports, the first name that is too far away is the reason. -/
theorem reports_of_eq_error {problem : DeploymentProblem} (hproblem : d.reports = .error problem) :
    ∃ before name e after, d.endpoints = before ++ (name, e) :: after ∧
      (∀ p ∈ before, ∃ target, d.bus.endpoints.resolve p.1 = .ok target) ∧
      (∃ target, d.bus.endpoints.Leads (Registry.depth + 1) name target) ∧
      problem = .resolution name (.configuration (.indirectionTooDeep name)) := by
  have hnamed := named_of_accepted h
  obtain ⟨before, ⟨name, e⟩, after, hall, hbefore, hreport⟩ := Fallible.mapM_eq_error hproblem
  obtain ⟨f, hf, rfl⟩ := report_eq_error.1 hreport
  have hmem : (name, e) ∈ d.endpoints := by simp [hall]
  obtain rfl : e.name = name := hnamed _ hmem
  obtain ⟨n, target, hleads, hn, -⟩ := Registry.leads_of_ofEntries h (Dict.mem_toList.1 hmem)
  rw [hleads.resolve] at hf
  split at hf
  · simp at hf
  · next hdeep =>
    obtain rfl : n = Registry.depth + 1 := by omega
    obtain rfl := Except.error.inj hf
    refine ⟨before, e.name, e, after, hall, ?_, ⟨target, hleads⟩, rfl⟩
    intro p hp
    obtain ⟨report, hreport⟩ := hbefore p hp
    obtain ⟨target, htarget, -⟩ := report_eq_ok.1 hreport
    rw [hnamed p (by simp [hall, hp])] at htarget
    exact ⟨target, htarget⟩

/-- There are reports exactly if no name is too far away. -/
theorem reports_eq_ok : (∃ reports, d.reports = .ok reports) ↔
    ∀ name target, ¬ d.bus.endpoints.Leads (Registry.depth + 1) name target := by
  constructor
  · rintro ⟨reports, hreports⟩ name target hleads
    obtain ⟨e, he⟩ := hleads.registered
    have hmem : (name, e) ∈ d.endpoints := Dict.mem_toList.2 he
    obtain ⟨report, hreport⟩ := Fallible.exists_of_mapM hreports hmem
    obtain ⟨found, hfound, -⟩ := report_eq_ok.1 hreport
    rw [named_of_accepted h _ hmem, hleads.resolve, if_neg (Nat.not_succ_le_self _)] at hfound
    simp at hfound
  · intro hnear
    cases hreports : d.reports with
    | ok reports => exact ⟨reports, rfl⟩
    | error problem =>
      obtain ⟨-, name, -, -, -, -, ⟨target, hleads⟩, -⟩ := reports_of_eq_error h hreports
      exact absurd hleads (hnear name target)

end

/-- Each endpoint of an accepted registry stands for another one or for itself, and so does
its name, unless what it stands for is one look-up too far away. Reports are given of all
endpoints in order, unless there is such a name: then it is named instead, the first of
them. -/
theorem reports_of_accepted {entries : List EndpointEntry} {r : Registry}
    (h : Registry.ofEntries entries = .ok r) :
    (∀ name e, r.get? name = some e → ∃ n target, r.Leads n name target ∧
      n ≤ Registry.depth + 1 ∧ r.concrete e = .ok target ∧
      r.resolve name = if n ≤ Registry.depth then .ok target
        else .error (.configuration (.indirectionTooDeep name))) ∧
    ∀ d : Deployment, d.bus.endpoints = r →
      ((∃ reports, d.reports = .ok reports) ↔
        ∀ name target, ¬ r.Leads (Registry.depth + 1) name target) ∧
      (∀ reports, d.reports = .ok reports → List.Forall₂ (fun (name, e) report =>
        report.endpoint = e ∧ r.resolve name = .ok report.target) d.endpoints reports) ∧
      ∀ problem, d.reports = .error problem → ∃ before name e after,
        d.endpoints = before ++ (name, e) :: after ∧
        (∀ p ∈ before, ∃ target, r.resolve p.1 = .ok target) ∧
        (∃ target, r.Leads (Registry.depth + 1) name target) ∧
        problem = .resolution name (.configuration (.indirectionTooDeep name)) := by
  constructor
  · intro name e he
    obtain ⟨n, target, hleads, hn, hconcrete⟩ := Registry.leads_of_ofEntries h he
    exact ⟨n, target, hleads, hn, hconcrete, hleads.resolve⟩
  · rintro d rfl
    refine ⟨reports_eq_ok h, ?_, ?_⟩
    · intro reports hreports
      exact reports_of_eq_ok h hreports
    · intro problem hproblem
      exact reports_of_eq_error h hproblem

/-- A chain of nine names, as long as one may be. -/
def farOff : List EndpointEntry :=
  [{ name := "a", kind := .indirect, key := some "b" },
    { name := "b", kind := .indirect, key := some "c" },
    { name := "c", kind := .indirect, key := some "d" },
    { name := "d", kind := .indirect, key := some "e" },
    { name := "e", kind := .indirect, key := some "f" },
    { name := "f", kind := .indirect, key := some "g" },
    { name := "g", kind := .indirect, key := some "h" },
    { name := "h", kind := .indirect, key := some "i" },
    { name := "i", kind := .default }]

theorem reports_of_accepted_farOff : ∃ d, build { endpoints := farOff } = .ok d ∧
    Registry.ofEntries farOff = .ok d.bus.endpoints ∧
    (∃ n target, d.bus.endpoints.Leads n "b" target ∧ n ≤ Registry.depth + 1 ∧
      d.bus.endpoints.resolve "b" = if n ≤ Registry.depth then .ok target
        else .error (.configuration (.indirectionTooDeep "b"))) ∧
    ∃ name target, d.bus.endpoints.Leads (Registry.depth + 1) name target := by
  have hbuilt : ∃ d, build { endpoints := farOff } = .ok d ∧
      Registry.ofEntries farOff = .ok d.bus.endpoints ∧
      (∃ e, d.bus.endpoints.get? "b" = some e) ∧ ∃ problem, d.reports = .error problem :=
    ⟨_, rfl, rfl, ⟨_, rfl⟩, _, rfl⟩
  obtain ⟨d, hbuild, haccepted, ⟨e, he⟩, problem, hproblem⟩ := hbuilt
  obtain ⟨hnames, hreports⟩ := reports_of_accepted haccepted
  refine ⟨d, hbuild, haccepted, ?_, ?_⟩
  · obtain ⟨n, target, hleads, hn, -, hresolve⟩ := hnames "b" e he
    exact ⟨n, target, hleads, hn, hresolve⟩
  · obtain ⟨-, name, -, -, -, -, hfar, -⟩ := (hreports d rfl).2.2 problem hproblem
    exact ⟨name, hfar⟩

/-- The chain is accepted, but its first name cannot be resolved, and so there are no
reports. -/
theorem accepted_without_reports : ∃ d, build { endpoints := farOff } = .ok d ∧
    d.bus.endpoints.contains "a" = true ∧
    d.bus.endpoints.resolve "a" = .error (.configuration (.indirectionTooDeep "a")) ∧
    d.reports = .error (.resolution "a" (.configuration (.indirectionTooDeep "a"))) := by
  refine ⟨_, rfl, ?_, ?_, ?_⟩
  · rfl
  · rfl
  · rfl

end Deployment

end ServiceBus
