import ServiceBus.Metrics

/-
ServiceBus.Proofs.Metrics.Counters — what the counters of a report show.

A counter is found by its title, a text put together from a name and labels. Names of
endpoints may hold any characters, so it is to be shown that no two kinds of events
share a title (`counterTitle_inj`): the names hold no brace, codes no comma, and
outcomes no equals sign. A counter of the report is then the number of its events in
the log (`counter_report`).
-/
namespace ServiceBus

namespace Decimal

theorem digit_of_readDigitsFrom {acc n : Nat} {cs : List Char} {c : Char}
    (h : readDigitsFrom acc cs = some n) (hc : c ∈ cs) : digitValue? c ≠ none := by
  induction cs generalizing acc with
  | nil => simp at hc
  | cons c' rest ih =>
    simp only [readDigitsFrom] at h
    split at h
    · next d hd =>
      obtain rfl | hc := List.mem_cons.1 hc
      · simp [hd]
      · exact ih h hc
    · simp at h

theorem not_mem_digits {c : Char} (hc : digitValue? c = none) (n : Nat) : c ∉ digits n := by
  intro hmem
  exact digit_of_readDigitsFrom (readDigitsFrom_digits n) hmem hc

theorem digits_inj {n n' : Nat} (h : digits n = digits n') : n = n' := by
  have hread := readDigits?_digits n
  rw [h, readDigits?_digits] at hread
  exact (Option.some.inj hread).symm

theorem integerText_inj {i j : Int} (h : integerText i = integerText j) : i = j := by
  -- only the text of a negative number has a minus sign
  have hminus {n : Nat} {cs : List Char} (h : digits n = '-' :: cs) : False := by
    have hnot : '-' ∉ digits n := not_mem_digits (by decide) n
    simp [h] at hnot
  cases i with
  | ofNat n =>
    cases j with
    | ofNat n' => exact congrArg Int.ofNat (digits_inj h)
    | negSucc n' => exact (hminus h).elim
  | negSucc n =>
    cases j with
    | ofNat n' => exact (hminus h.symm).elim
    | negSucc n' =>
      have hdigits : n + 1 = n' + 1 := digits_inj (List.tail_eq_of_cons_eq h)
      rw [Nat.succ.inj hdigits]

end Decimal

namespace ErrorCodes

theorem codeText_inj {code code' : Int32} (h : codeText code = codeText code') : code = code' :=
  Int32.toInt_inj.1 (Decimal.integerText_inj h)

theorem comma_not_mem_codeText (code : Int32) : ',' ∉ codeText code := by
  have hcomma (n : Nat) : ',' ∉ Decimal.digits n := Decimal.not_mem_digits (by decide) n
  unfold codeText Decimal.integerText
  split
  · exact hcomma _
  · simpa using hcomma _

end ErrorCodes

/-- An event without the time that it took. -/
def Metric.untimed : Metric → Metric
  | .dispatched endpoint outcome _ => .dispatched endpoint outcome 0
  | m => m

namespace Metrics

/-! ## Titles -/

/-- Texts that are equal are equal up to the first place of a mark, and behind it. -/
theorem cut_inj {a a' b b' : List Char} {mark : Char} (ha : mark ∉ a) (ha' : mark ∉ a')
    (h : a ++ mark :: b = a' ++ mark :: b') : a = a' ∧ b = b' := by
  have htake {a b : List Char} (ha : mark ∉ a) :
      (a ++ mark :: b).takeWhile (· ≠ mark) = a := by
    rw [List.takeWhile_append_of_pos]
    · simp
    · intro c hc
      simpa using ne_of_mem_of_not_mem hc ha
  obtain rfl : a = a' := by rw [← htake ha, h, htake ha']
  exact ⟨rfl, List.tail_eq_of_cons_eq (List.append_cancel_left h)⟩

/-- Texts that are equal are equal up to the last place of a mark, and behind it. -/
theorem cut_last_inj {a a' b b' : List Char} {mark : Char} (hb : mark ∉ b) (hb' : mark ∉ b')
    (h : a ++ mark :: b = a' ++ mark :: b') : a = a' ∧ b = b' := by
  have hreverse := congrArg List.reverse h
  simp only [List.reverse_append, List.reverse_cons, List.append_assoc, List.singleton_append]
    at hreverse
  obtain ⟨hb, ha⟩ := cut_inj (by simpa using hb) (by simpa using hb') hreverse
  exact ⟨List.reverse_inj.1 ha, List.reverse_inj.1 hb⟩

/-- The labels of a title as text. -/
def labelText (labels : List (String × String)) : String :=
  String.intercalate "," (labels.map fun (k, v) => k ++ "=" ++ v)

/-- Titles with names that hold no brace tell their names and labels. -/
theorem title_inj {name name' : String} {labels labels' : List (String × String)}
    (hname : '\x7b' ∉ name.toList) (hname' : '\x7b' ∉ name'.toList)
    (h : title name labels = title name' labels') :
    name = name' ∧ labelText labels = labelText labels' := by
  have hlist := congrArg String.toList h
  simp only [title, String.toList_append, List.append_assoc] at hlist
  obtain ⟨hnames, hlabels⟩ := cut_inj hname hname' hlist
  exact ⟨String.toList_inj.1 hnames, String.toList_inj.1 (List.append_cancel_right hlabels)⟩

/-- The name in the title of the counter of an event. -/
def family : Metric → String
  | .dispatched .. => "mediation_dispatch_total"
  | .faulted .. => "mediation_dispatch_faults_total"
  | .suspended _ => "mediation_endpoint_suspensions_total"
  | .closed .. => "mediation_aggregation_closed_total"

theorem brace_not_mem_family (m : Metric) : '\x7b' ∉ (family m).toList := by
  cases m <;> simp [family]

theorem counterTitle_eq (m : Metric) : ∃ labels, counterTitle m = title (family m) labels := by
  cases m <;> exact ⟨_, rfl⟩

theorem family_of_counterTitle {m m' : Metric} (h : counterTitle m = counterTitle m') :
    family m = family m' := by
  obtain ⟨labels, hm⟩ := counterTitle_eq m
  obtain ⟨labels', hm'⟩ := counterTitle_eq m'
  rw [hm, hm'] at h
  exact (title_inj (brace_not_mem_family m) (brace_not_mem_family m') h).1

theorem counterTitle_untimed (m : Metric) : counterTitle m.untimed = counterTitle m := by
  cases m <;> rfl

theorem outcome_of_labelText {endpoint endpoint' : String} {outcome outcome' : DispatchOutcome}
    (h : labelText [("endpoint", endpoint), ("outcome", outcome.name)] =
      labelText [("endpoint", endpoint'), ("outcome", outcome'.name)]) :
    endpoint = endpoint' ∧ outcome = outcome' := by
  have hequals (o : DispatchOutcome) : '=' ∉ o.name.toList := by cases o <;> decide
  have htext (e : String) (o : DispatchOutcome) :
      (labelText [("endpoint", e), ("outcome", o.name)]).toList =
        ("endpoint=".toList ++ e.toList ++ ",outcome".toList) ++ '=' :: o.name.toList := by
    simp [labelText]
  have hlist := congrArg String.toList h
  rw [htext, htext] at hlist
  obtain ⟨hendpoint, houtcome⟩ := cut_last_inj (hequals _) (hequals _) hlist
  refine ⟨String.toList_inj.1 (List.append_cancel_left (List.append_cancel_right hendpoint)), ?_⟩
  cases outcome <;> cases outcome' <;> simp_all [DispatchOutcome.name]

theorem code_of_labelText {endpoint endpoint' : String} {code code' : Int32}
    (h : labelText [("code", String.ofList (ErrorCodes.codeText code)), ("endpoint", endpoint)] =
      labelText [("code", String.ofList (ErrorCodes.codeText code')), ("endpoint", endpoint')]) :
    endpoint = endpoint' ∧ code = code' := by
  have htext (e : String) (c : Int32) :
      (labelText [("code", String.ofList (ErrorCodes.codeText c)), ("endpoint", e)]).toList =
        "code=".toList ++ (ErrorCodes.codeText c ++ ',' :: ("endpoint=".toList ++ e.toList)) := by
    simp [labelText]
  have hlist := congrArg String.toList h
  rw [htext, htext] at hlist
  obtain ⟨hcode, hendpoint⟩ := cut_inj (ErrorCodes.comma_not_mem_codeText _)
    (ErrorCodes.comma_not_mem_codeText _) (List.append_cancel_left hlist)
  exact ⟨String.toList_inj.1 (List.append_cancel_left hendpoint), ErrorCodes.codeText_inj hcode⟩

theorem endpoint_of_labelText {endpoint endpoint' : String}
    (h : labelText [("endpoint", endpoint)] = labelText [("endpoint", endpoint')]) :
    endpoint = endpoint' := by
  have htext (e : String) :
      (labelText [("endpoint", e)]).toList = "endpoint=".toList ++ e.toList := by
    simp [labelText]
  have hlist := congrArg String.toList h
  rw [htext, htext] at hlist
  exact String.toList_inj.1 (List.append_cancel_left hlist)

/-- Events with the same counter are alike but for the time that they took. -/
theorem counterTitle_inj {m m' : Metric} :
    counterTitle m = counterTitle m' ↔ m.untimed = m'.untimed := by
  constructor
  · intro h
    have hfamily := family_of_counterTitle h
    cases m with
    | dispatched endpoint outcome elapsed =>
      cases m' with
      | dispatched endpoint' outcome' elapsed' =>
        obtain ⟨-, hlabels⟩ := title_inj (by simp) (by simp) h
        obtain ⟨rfl, rfl⟩ := outcome_of_labelText hlabels
        rfl
      | _ => simp [family] at hfamily
    | faulted endpoint code =>
      cases m' with
      | faulted endpoint' code' =>
        obtain ⟨-, hlabels⟩ := title_inj (by simp) (by simp) h
        obtain ⟨rfl, rfl⟩ := code_of_labelText hlabels
        rfl
      | _ => simp [family] at hfamily
    | suspended endpoint =>
      cases m' with
      | suspended endpoint' =>
        obtain ⟨-, hlabels⟩ := title_inj (by simp) (by simp) h
        obtain rfl := endpoint_of_labelText hlabels
        rfl
      | _ => simp [family] at hfamily
    | closed reason incomplete =>
      cases m' with
      | closed reason' incomplete' =>
        have hcases : ∀ r r' b b', counterTitle (.closed r b) = counterTitle (.closed r' b') →
            r = r' ∧ b = b' := by
          intro r r' b b'
          cases r <;> cases r' <;> cases b <;> cases b' <;> decide
        obtain ⟨rfl, rfl⟩ := hcases _ _ _ _ h
        rfl
      | _ => simp [family] at hfamily
  · intro h
    rw [← counterTitle_untimed m, h, counterTitle_untimed]

/-! ## Counters -/

/-- What a counter of a report shows; one that is not there shows nothing counted. -/
def counter (r : Dict Reading) (title : String) : Nat :=
  match r.get? title with
  | some (.counter n) => n
  | _ => 0

/-- One more event of a counter. -/
def count (r : Dict Reading) (title : String) : Dict Reading :=
  match r.get? title with
  | some (.counter n) => r.insert title (.counter (n + 1))
  | _ => r.insert title (.counter 1)

/-- The value of an event goes into its histogram. -/
def sample (r : Dict Reading) (m : Metric) : Dict Reading :=
  match sample? m with
  | none => r
  | some (title, value) =>
    match r.get? title with
    | some (.samples values) => r.insert title (.samples (values ++ [value]))
    | _ => r.insert title (.samples [value])

theorem add_eq (r : Dict Reading) (m : Metric) : add r m = sample (count r (counterTitle m)) m :=
  rfl

theorem counter_count (r : Dict Reading) (title other : String) :
    counter (count r title) other = counter r other + if other = title then 1 else 0 := by
  unfold count
  by_cases h : other = title
  · subst h
    split <;> simp_all [counter]
  · split <;> simp [counter, h]

theorem sample_ne_counterTitle {m x : Metric} {name : String} {value : Nat}
    (h : sample? m = some (name, value)) : counterTitle x ≠ name := by
  intro hname
  cases m with
  | dispatched endpoint outcome elapsed =>
    obtain ⟨rfl, -⟩ := Prod.mk.inj (Option.some.inj h)
    obtain ⟨labels, hx⟩ := counterTitle_eq x
    rw [hx] at hname
    obtain ⟨hfamily, -⟩ := title_inj (brace_not_mem_family x) (by simp) hname
    cases x <;> simp [family] at hfamily
  | _ => simp [sample?] at h

/-- Histograms are kept apart from all counters. -/
theorem counter_sample (r : Dict Reading) (m x : Metric) :
    counter (sample r m) (counterTitle x) = counter r (counterTitle x) := by
  unfold sample
  split
  · rfl
  · next title value hsample =>
    have hne : counterTitle x ≠ title := sample_ne_counterTitle hsample
    split <;> simp [counter, hne]

theorem report_cons (m : Metric) (log : List Metric) : report (m :: log) = add (report log) m := by
  simp [report]

/-- A counter shows the number of its events. -/
theorem counter_report (log : List Metric) (x : Metric) :
    counter (report log) (counterTitle x) = log.countP fun m => m.untimed = x.untimed := by
  induction log with
  | nil => rfl
  | cons m log ih =>
    rw [report_cons, add_eq, counter_sample, counter_count, ih, List.countP_cons]
    simp [counterTitle_inj, eq_comm]

end Metrics

end ServiceBus
