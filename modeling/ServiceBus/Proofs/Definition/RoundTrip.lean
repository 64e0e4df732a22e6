import ServiceBus.Proofs.Definition.Checks
import ServiceBus.Proofs.Definition.Fields

/-
ServiceBus.Proofs.Definition.RoundTrip — definitions of endpoints, written and read
again.

  - `Schema.Gathers` says what a record comes to by members that are taken into account
    one after the other. A written section is the members of its fields behind each
    other, so reading it back is one step for each field.
  - `Definition.read_write`: a definition is read back as it was, up to a literal
    security key, which is read as what its text stands for (`Definition.reread`).
  - The checks of a definition look at literals only, and still hold of the definition that
    is read back (`Definition.Valid.reread`).

From these follows `Definition.round_trip`: a definition that was read from data comes
back as it was, and in any definition that passes its checks every expression comes back
with its text.
-/
namespace ServiceBus

/-! ## Records -/

namespace Schema

section

variable {σ α : Type} {take : σ → String → Value → Except SchemaError σ} {s s' : σ}

/-- Members that are taken into account one after the other lead from one state of a record to
another one. -/
def Gathers (take : σ → String → Value → Except SchemaError σ) (s : σ)
    (members : List (String × Value)) (s' : σ) : Prop :=
  members.foldlM (fun s (k, v) => take s k v) s = .ok s'

namespace Gathers

theorem append {xs ys : List (String × Value)} {s₁ : σ} (h : Gathers take s xs s₁)
    (h' : Gathers take s₁ ys s') : Gathers take s (xs ++ ys) s' := by
  rw [Gathers, List.foldlM_append, h]
  exact h'

section Member

variable {name : String} {read : Value → Except SchemaError α} {write : α → Value} {o : Option α}

/-- A field that may be absent is read as what its value is read as. -/
theorem changed (set : Option α → σ) (f : α → α)
    (htake : ∀ v, take (set none) name v = do return set (← Schema.optional read v))
    (hread : ∀ a, o = some a → optional read (write a) = .ok (some (f a))) :
    Gathers take (set none) (member name write o) (set (o.map f)) := by
  cases o with
  | none => rfl
  | some a =>
    simp only [Gathers, member, List.foldlM_cons, htake, hread a rfl]
    rfl

theorem kept (set : Option α → σ)
    (htake : ∀ v, take (set none) name v = do return set (← Schema.optional read v))
    (hread : ∀ a, o = some a → optional read (write a) = .ok (some a)) :
    Gathers take (set none) (member name write o) (set o) := by
  have h := changed set id htake hread
  rwa [Option.map_id] at h

end Member

/-- A list that is left out when empty is read as it was. -/
theorem codes {name : String} (set : List Int32 → σ)
    (htake : ∀ v, take (set []) name v = do return set (← Schema.list Schema.int32 v))
    (l : List Int32) : Gathers take (set []) (RetryLists.listMember name l) (set l) := by
  have hread : Schema.list Schema.int32 (ErrorCodes.mk l).write = .ok l :=
    list_map int32_toInt l
  cases l with
  | nil => rfl
  | cons c l =>
    simp only [Gathers, RetryLists.listMember, List.isEmpty_cons, Bool.false_eq_true, if_false,
      List.foldlM_cons, htake, hread]
    rfl

theorem record {names : List String} {start : σ} {members : List (String × Value)}
    (h : Gathers take start members s) :
    Schema.record names start take (.object members) = .ok s := by
  unfold Gathers at h
  simp only [Schema.record, fields]
  show (members.foldlM (fun s (k, v) => take s k v) start >>= fun s => _) = _
  rw [h]
  rfl

end Gathers

/-- What holds of an empty record and is kept by every member holds of the record that is
read. -/
theorem record_keeps {P : σ → Prop} {names : List String} {start : σ} {v : Value}
    (hstart : P start) (htake : ∀ s k v s', P s → take s k v = .ok s' → P s')
    (h : record names start take v = .ok s) : P s := by
  have gathered (members : List (String × Value)) {start : σ} (hstart : P start)
      (hs : Gathers take start members s) : P s := by
    induction members generalizing start with
    | nil =>
      obtain rfl := Except.ok.inj hs
      exact hstart
    | cons e members ih =>
      rw [Gathers, List.foldlM_cons, Fallible.bind_eq_ok] at hs
      obtain ⟨next, hnext, hs⟩ := hs
      exact ih (htake _ _ _ _ hstart hnext) hs
  rw [record, Fallible.bind_eq_ok] at h
  obtain ⟨fs, -, h⟩ := h
  rw [Fallible.bind_eq_ok] at h
  obtain ⟨s', hs', h⟩ := h
  split at h
  · simp [throw, throwThe, MonadExceptOf.throw] at h
  · obtain rfl := Except.ok.inj h
    exact gathered fs.members hstart hs'

/-- What is left alone once read stays so in a field that may be absent. -/
theorem optional_keeps {read : Value → Except SchemaError α} {f : α → α} {v : Value}
    {o : Option α} (hf : ∀ a, read v = .ok a → f a = a) (h : optional read v = .ok o) :
    o.map f = o := by
  unfold optional at h
  split at h
  · obtain rfl := Except.ok.inj h
    rfl
  · cases hread : read v with
    | error e => simp [hread, Except.map] at h
    | ok a =>
      rw [hread] at h
      obtain rfl := Except.ok.inj h
      rw [Option.map_some, hf a hread]

end

end Schema

/-! ## The sections of a definition -/

open Schema

section

variable {α : Type} [Field α]

/-- A policy field that is read back is there. -/
theorem Policy.optional_write {p p' : Policy α}
    (hnull : ∀ a, p = .literal a → (Field.write a).isNull = false)
    (h : Policy.read p.write = .ok p') : Schema.optional Policy.read p.write = .ok (some p') :=
  optional_of_read (isNull_write hnull) h

end

theorem MessageFormat.read_name (f : MessageFormat) : read (.text f.name) = .ok f := by
  cases f <;> rfl

theorem Optimization.read_name (o : Optimization) : read (.text o.name) = .ok o := by
  cases o <;> rfl

theorem Addressing.read_write (a : Addressing) : read a.write = .ok a := by
  obtain ⟨version, separate⟩ := a
  cases version <;> rfl

/-- The security of an endpoint once it is written and read. -/
def Security.reread (s : Security) : Security := { s with policy := s.policy.map Policy.reread }

theorem Security.read_write (s : Security) : read s.write = .ok s.reread := by
  refine Gathers.record ?_
  refine .append (.append
    (.kept (fun x => ({ inbound := x } : Security)) (fun _ => rfl) ?_)
    (.kept (fun x => ({ inbound := s.inbound, outbound := x } : Security)) (fun _ => rfl) ?_))
    (.changed (fun x => ({ s with policy := x } : Security)) Policy.reread (fun _ => rfl) ?_)
  · intro _ _
    rfl
  · intro _ _
    rfl
  · intro p _
    exact p.optional_write (fun _ _ => rfl) p.read_write_text

/-- A security that was read is not changed by being written and read again. -/
theorem Security.reread_of_read {v : Value} {s : Security} (h : read v = .ok s) :
    s.reread = s := by
  refine Schema.record_keeps (P := fun s => s.reread = s) rfl ?_ h
  intro s k v s' hs htake
  split at htake
  · obtain ⟨o, ho, hs'⟩ := Fallible.bind_eq_ok.1 htake
    obtain rfl := Except.ok.inj hs'
    have hpolicy : o.map Policy.reread = o := optional_keeps (fun _ => Policy.reread_of_read) ho
    simp only [reread, hpolicy]
  · obtain ⟨o, -, hs'⟩ := Fallible.bind_eq_ok.1 htake
    obtain rfl := Except.ok.inj hs'
    exact congrArg (fun s => { s with inbound := o }) hs
  · obtain ⟨o, -, hs'⟩ := Fallible.bind_eq_ok.1 htake
    obtain rfl := Except.ok.inj hs'
    exact congrArg (fun s => { s with outbound := o }) hs
  · obtain rfl := Except.ok.inj htake
    exact hs

theorem TimeoutPolicy.read_write (t : TimeoutPolicy) : read t.write = .ok t := by
  refine Gathers.record ?_
  refine .append
    (.kept (fun x => ({ duration := x } : TimeoutPolicy)) (fun _ => rfl) ?_)
    (.kept (fun x => ({ t with action := x } : TimeoutPolicy)) (fun _ => rfl) ?_)
  · intro p _
    exact p.optional_write (fun _ _ => rfl) p.read_write_word64
  · intro p _
    exact p.optional_write (fun _ _ => rfl) p.read_write_action

theorem SuspendPolicy.read_write {s : SuspendPolicy} (h : s.HasFactor) : read s.write = .ok s := by
  have hfactor {p : Policy Float} (hp : s.factor = some p) (x : Float) (hx : p = .literal x) :
      Config.isFactor x = true := h x (by rw [hp, hx])
  refine Gathers.record ?_
  refine .append (.append (.append
    (.kept (fun x => ({ codes := x } : SuspendPolicy)) (fun _ => rfl) ?_)
    (.kept (fun x => ({ codes := s.codes, initial := x } : SuspendPolicy)) (fun _ => rfl) ?_))
    (.kept (fun x => ({ s with factor := none, maximum := x } : SuspendPolicy)) (fun _ => rfl) ?_))
    (.kept (fun x => ({ s with factor := x } : SuspendPolicy)) (fun _ => rfl) ?_)
  · intro p _
    exact p.optional_write (fun _ _ => rfl) p.read_write_codes
  · intro p _
    exact p.optional_write (fun _ _ => rfl) p.read_write_word64
  · intro p _
    exact p.optional_write (fun _ _ => rfl) p.read_write_word64
  · intro p hp
    refine p.optional_write ?_ (Policy.read_write_factor (hfactor hp))
    intro x hx
    show (Value.ofFloat x).isNull = false
    rw [Value.ofFloat_of_isFactor (hfactor hp x hx)]
    rfl

theorem MarkPolicy.read_write (p : MarkPolicy) : read p.write = .ok p := by
  refine Gathers.record ?_
  refine .append (.append
    (.kept (fun x => ({ codes := x } : MarkPolicy)) (fun _ => rfl) ?_)
    (.kept (fun x => ({ codes := p.codes, retries := x } : MarkPolicy)) (fun _ => rfl) ?_))
    (.kept (fun x => ({ p with delay := x } : MarkPolicy)) (fun _ => rfl) ?_)
  · intro q _
    exact q.optional_write (fun _ _ => rfl) q.read_write_codes
  · intro q _
    exact q.optional_write (fun _ _ => rfl) q.read_write_word32
  · intro q _
    exact q.optional_write (fun _ _ => rfl) q.read_write_word64

theorem RetryLists.read_write (r : RetryLists) : read r.write = .ok r :=
  Gathers.record <|
    .append (.codes (fun l => ({ disabled := l } : RetryLists)) (fun _ => rfl) r.disabled)
      (.codes (fun l => ({ r with enabled := l } : RetryLists)) (fun _ => rfl) r.enabled)

namespace Definition

/-- A definition once it is written and read: only a literal security key may change. -/
def reread (d : Definition) : Definition := { d with security := d.security.map Security.reread }

theorem read_write {d : Definition} (h : ∀ s, d.suspend = some s → s.HasFactor) :
    read d.write = .ok d.reread := by
  -- one step for each field, in the order in which the fields are written
  refine Gathers.record ?_
  simp only [List.append_assoc]
  refine .append (.kept (fun x => ({ address := x } : Definition)) (fun _ => rfl) ?_) ?_
  · intro _ _
    rfl
  refine .append (.kept (fun x => ({ address := d.address, addressing := x } : Definition))
    (fun _ => rfl) ?_) ?_
  · intro a _
    exact optional_of_read rfl a.read_write
  refine .append (.kept (fun x => ({
    address := d.address, addressing := d.addressing, charset := x } : Definition))
    (fun _ => rfl) ?_) ?_
  · intro _ _
    rfl
  refine .append (.kept (fun x => ({
    address := d.address, addressing := d.addressing, charset := d.charset,
    format := x } : Definition)) (fun _ => rfl) ?_) ?_
  · intro f _
    exact optional_of_read rfl f.read_name
  refine .append (.kept (fun x => ({
    address := d.address, addressing := d.addressing, charset := d.charset, format := d.format,
    mark := x } : Definition)) (fun _ => rfl) ?_) ?_
  · intro p _
    exact optional_of_read rfl p.read_write
  refine .append (.kept (fun x => ({ d with
    optimize := x, retry := none, security := none, suspend := none,
    timeout := none } : Definition)) (fun _ => rfl) ?_) ?_
  · intro o _
    exact optional_of_read rfl o.read_name
  refine .append (.kept (fun x => ({ d with
    retry := x, security := none, suspend := none, timeout := none } : Definition))
    (fun _ => rfl) ?_) ?_
  · intro r _
    exact optional_of_read rfl r.read_write
  refine .append (.changed (fun x => ({ d with
    security := x, suspend := none, timeout := none } : Definition)) Security.reread
    (fun _ => rfl) ?_) ?_
  · intro s _
    exact optional_of_read rfl s.read_write
  refine .append (.kept (fun x => ({ d.reread with suspend := x, timeout := none } : Definition))
    (fun _ => rfl) ?_)
    (.kept (fun x => ({ d.reread with timeout := x } : Definition)) (fun _ => rfl) ?_)
  · intro s hs
    exact optional_of_read rfl (SuspendPolicy.read_write (h s hs))
  · intro t _
    exact optional_of_read rfl t.read_write

/-- What was read is not changed by being written and read again. -/
theorem reread_of_read {v : Value} {d : Definition} (h : read v = .ok d) : d.reread = d := by
  refine Schema.record_keeps (P := fun d => d.reread = d) rfl ?_ h
  intro d k v d' hd htake
  have hd : d.security.map Security.reread = d.security := congrArg security hd
  have hkept (d' : Definition) (hsecurity : d'.security = d.security) : d'.reread = d' := by
    rw [reread, hsecurity, hd, ← hsecurity]
  split at htake
  case h_6 =>
    obtain ⟨o, ho, hd'⟩ := Fallible.bind_eq_ok.1 htake
    obtain rfl := Except.ok.inj hd'
    have hsecurity : o.map Security.reread = o :=
      optional_keeps (fun _ => Security.reread_of_read) ho
    simp only [reread, hsecurity]
  case h_11 =>
    obtain rfl := Except.ok.inj htake
    exact hkept d rfl
  -- no other field has anything to do with the security
  all_goals
    obtain ⟨o, -, hd'⟩ := Fallible.bind_eq_ok.1 htake
    obtain rfl := Except.ok.inj hd'
    exact hkept _ rfl

/-- The policy fields of a definition. -/
inductive PolicyField where
  | securityKey
  | timeoutDuration
  | timeoutAction
  | suspendCodes
  | initialDuration
  | progressionFactor
  | maximumDuration
  | markCodes
  | retries
  | retryDelay
deriving Repr, DecidableEq

/-- The text of the expression in a policy field, if the field is declared and is one. -/
def expression? (d : Definition) : PolicyField → Option String
  | .securityKey => d.security.bind (·.policy.bind Policy.expression?)
  | .timeoutDuration => d.timeout.bind (·.duration.bind Policy.expression?)
  | .timeoutAction => d.timeout.bind (·.action.bind Policy.expression?)
  | .suspendCodes => d.suspend.bind (·.codes.bind Policy.expression?)
  | .initialDuration => d.suspend.bind (·.initial.bind Policy.expression?)
  | .progressionFactor => d.suspend.bind (·.factor.bind Policy.expression?)
  | .maximumDuration => d.suspend.bind (·.maximum.bind Policy.expression?)
  | .markCodes => d.mark.bind (·.codes.bind Policy.expression?)
  | .retries => d.mark.bind (·.retries.bind Policy.expression?)
  | .retryDelay => d.mark.bind (·.delay.bind Policy.expression?)

/-- Expressions are not changed by being written and read again. -/
theorem expression?_reread {d : Definition} {f : PolicyField} {e : String}
    (h : d.expression? f = some e) : d.reread.expression? f = some e := by
  cases f with
  | securityKey =>
    obtain ⟨s, hs, hkey⟩ := Option.bind_eq_some_iff.1 h
    obtain ⟨p, hp, he⟩ := Option.bind_eq_some_iff.1 hkey
    cases p with
    | literal key => simp [Policy.expression?] at he
    | expression text =>
      obtain rfl := Option.some.inj he
      simp [expression?, reread, hs, Security.reread, hp, Policy.reread, Policy.expression?]
  | _ => exact h

/-! ## Written and read again -/

/-- The definition that is read back still passes the checks. -/
theorem Valid.reread {d : Definition} (h : d.Valid) : d.reread.Valid := by
  refine ⟨h.timeout, h.factor, h.maximum, h.retry, ?_⟩
  intro s key hs hkey
  obtain ⟨s', hs', rfl⟩ := Option.map_eq_some_iff.1 hs
  obtain ⟨p, hp, hread⟩ := Option.map_eq_some_iff.1 hkey
  cases p with
  | expression e => simp [Policy.reread] at hread
  | literal written =>
    have hne := h.key s' written hs' hp
    simp only [Policy.reread, Policy.ofKey] at hread
    split at hread
    · simp at hread
    · obtain rfl := Policy.literal.inj hread
      rw [Text.trimmed_trimmed]
      exact hne

/-- A definition that passes its checks is read back. -/
theorem ofValue_write {d : Definition} (h : d.Valid) : ofValue d.write = .ok d.reread :=
  ofValue_eq_ok.2 ⟨read_write h.factor, h.reread⟩

/-- A definition that was read from data comes back as it was when it is written and read
again, and any definition that passes its checks comes back with the texts of all its
expressions: at most a literal security key changes. -/
theorem round_trip :
    (∀ v d, ofValue v = .ok d → ofValue d.write = .ok d) ∧
    ∀ d : Definition, d.validate = .ok () → ofValue d.write = .ok d.reread ∧
      ∀ f e, d.expression? f = some e → d.reread.expression? f = some e := by
  constructor
  · intro v d h
    obtain ⟨hread, hvalid⟩ := ofValue_eq_ok.1 h
    have hwritten := ofValue_write hvalid
    rwa [reread_of_read hread] at hwritten
  · intro d h
    refine ⟨ofValue_write (validate_eq_ok.1 h), ?_⟩
    intro f e he
    exact expression?_reread he

theorem round_trip_mixed :
    (let v : Value := .object [("timeout", .object [("duration_ms", .text " 30000 ")]),
      ("suspend_on_failure", .object [("error_codes", .text "101504, 101503"),
        ("initial_duration_ms", .text " \x7b /wait \x7d"), ("maximum_duration_ms", .null)])];
    let d : Definition := {
      timeout := some { duration := some (.literal 30000) },
      suspend := some {
        codes := some (.literal ⟨[101504, 101503]⟩),
        initial := some (.expression " /wait ") } };
    ofValue v = .ok d ∧ ofValue d.write = .ok d) ∧
    (let d : Definition := {
      security := some { policy := some (.literal " key ") },
      mark := some {
        codes := some (.expression "")
        retries := some (.expression " \x7b2\x7d ") } };
    d.validate = .ok () ∧ ofValue d.write = .ok d.reread ∧
      d.reread.expression? .retries = some " \x7b2\x7d ") := by
  constructor
  · intro v d
    have hread : ofValue v = .ok d := by rfl
    exact ⟨hread, round_trip.1 v d hread⟩
  · intro d
    have hvalid : d.validate = .ok () := by rfl
    obtain ⟨hwritten, hkept⟩ := round_trip.2 d hvalid
    exact ⟨hvalid, hwritten, hkept .retries _ rfl⟩

end Definition

end ServiceBus
