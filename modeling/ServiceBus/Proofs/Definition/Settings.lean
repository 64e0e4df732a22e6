import ServiceBus.Endpoint.Settings
import ServiceBus.Proofs.Fallible

/-
ServiceBus.Proofs.Definition.Settings — the settings that a definition has for a message.

Resolving a definition does not fail. `Policy.Comes` says what one field comes to, in the
five ways there are: it is not declared, it is a literal, its expression is converted, fails,
or has a value of another type. `Settings.Settles` says it of all the fields together, with
the two corrections that are made afterwards.

`resolve_eq` writes the settings down field by field, without the sections that a definition
declares its fields in. Each field is there once, so it can be seen what depends on what
(`Settings.Agrees`).
-/
namespace ServiceBus

/-! ## One field -/

namespace Policy

variable {α : Type} [Field α] {ev : Evaluator} {m : Message} {p : Option (Policy α)} {default a : α}

/-- What a field comes to for a message, where it may be absent and its expression may have no
value. -/
inductive Comes (ev : Evaluator) (m : Message) (default : α) : Option (Policy α) → α → Prop where
  | undeclared : Comes ev m default none default
  | literal (a : α) : Comes ev m default (some (.literal a)) a
  | converted {e : String} {v : Value} {a : α} (hvalue : ev e m = .ok v)
      (hconvert : convert v = .ok a) : Comes ev m default (some (.expression e)) a
  | failed {e : String} {err : EvaluationError} (hfailed : ev e m = .error err) :
      Comes ev m default (some (.expression e)) default
  | unfit {e : String} {v : Value} {err : SchemaError} (hvalue : ev e m = .ok v)
      (hunfit : (convert v : Except SchemaError α) = .error err) :
      Comes ev m default (some (.expression e)) default

/-- A field that comes to the same in two situations. -/
def Alike (ev ev' : Evaluator) (m m' : Message) (default : α) (p p' : Option (Policy α)) : Prop :=
  ∀ a, Comes ev m default p a ↔ Comes ev' m' default p' a

end Policy

namespace EndpointDefaults

/-- Defaults that were accepted have a factor that a suspension may grow by. -/
theorem isFactor_of_validate {defaults : EndpointDefaults} (h : defaults.validate = .ok ()) :
    Config.isFactor defaults.factor = true := by
  obtain ⟨hfactor, -⟩ := Fallible.unit_bind_eq_ok.1 h
  by_contra hnot
  rw [Config.checkFactor, if_neg hnot] at hfactor
  exact nomatch hfactor

end EndpointDefaults

namespace Settings

open Policy (Comes Alike)

section

variable {α : Type} [Field α] {ev : Evaluator} {m : Message} {p : Option (Policy α)} {default a : α}

@[simp] theorem field_none (ev : Evaluator) (m : Message) (default : α) :
    field none ev m default = default := rfl

@[simp] theorem field_some (p : Policy α) (ev : Evaluator) (m : Message) (default : α) :
    field (some p) ev m default = p.resolveOr ev m default := rfl

theorem comes_field (p : Option (Policy α)) (ev : Evaluator) (m : Message) (default : α) :
    Comes ev m default p (field p ev m default) := by
  match p with
  | none => exact .undeclared
  | some (.literal a) => exact .literal a
  | some (.expression e) =>
    simp only [field, Policy.resolveOr, Policy.resolve]
    cases hvalue : ev e m with
    | error err => exact .failed hvalue
    | ok v =>
      cases hconvert : (Policy.convert v : Except SchemaError α) with
      | ok a => simpa [hconvert] using Comes.converted hvalue hconvert
      | error err => simpa [hconvert] using Comes.unfit hvalue hconvert

theorem eq_field_of_comes (h : Comes ev m default p a) : a = field p ev m default := by
  cases h with
  | undeclared => rfl
  | literal => rfl
  | converted hvalue hconvert =>
    simp only [field, Policy.resolveOr, Policy.resolve, hvalue, hconvert]
  | failed hfailed => simp only [field, Policy.resolveOr, Policy.resolve, hfailed]
  | unfit hvalue hunfit => simp only [field, Policy.resolveOr, Policy.resolve, hvalue, hunfit]

theorem field_eq_of_alike {ev' : Evaluator} {m' : Message} {p' : Option (Policy α)}
    (h : Alike ev ev' m m' default p p') : field p ev m default = field p' ev' m' default :=
  eq_field_of_comes ((h _).1 (comes_field p ev m default))

end

variable {d d' : Definition} {m m' : Message} {ev ev' : Evaluator} {defaults : EndpointDefaults}
variable {s s' : Settings}

/-! ## All fields -/

theorem factorOr_self (x : Float) : factorOr x x = x := ite_self x

/-- The settings field by field. -/
theorem resolve_eq (d : Definition) (m : Message) (ev : Evaluator) (defaults : EndpointDefaults) :
    resolve d m ev defaults =
      let initial := (field (d.suspend.bind (·.initial)) ev m defaults.initial).toNat
      let maximum := (field (d.suspend.bind (·.maximum)) ev m defaults.maximum).toNat
      { suspendCodes := field (d.suspend.bind (·.codes)) ev m ErrorCodes.none
        markCodes := field (d.mark.bind (·.codes)) ev m ErrorCodes.none
        initial
        factor := factorOr defaults.factor
          (field (d.suspend.bind (·.factor)) ev m defaults.factor)
        maximum := max maximum initial
        retries := field (d.mark.bind (·.retries)) ev m defaults.retries
        delay := (field (d.mark.bind (·.delay)) ev m defaults.delay).toNat
        retry := d.retryLists } := by
  unfold resolve
  cases d.suspend with
  | none => cases d.mark <;> simp [ofDefaults, factorOr_self]
  | some suspend =>
    -- a factor that is not declared is not corrected either
    cases hfactor : suspend.factor <;> cases d.mark <;> simp [ofDefaults, hfactor, factorOr_self]

/-- What the settings of a definition are for a message. Each field stands for itself, but for the
two corrections. -/
structure Settles (d : Definition) (m : Message) (ev : Evaluator) (defaults : EndpointDefaults)
    (s : Settings) : Prop where
  suspendCodes : Comes ev m ErrorCodes.none (d.suspend.bind (·.codes)) s.suspendCodes
  markCodes : Comes ev m ErrorCodes.none (d.mark.bind (·.codes)) s.markCodes
  initial : ∃ n, Comes ev m defaults.initial (d.suspend.bind (·.initial)) n ∧ s.initial = n.toNat
  /-- A factor that is not usable becomes the default factor. -/
  factor : ∃ x, Comes ev m defaults.factor (d.suspend.bind (·.factor)) x ∧
    s.factor = if x.isFinite ∧ 1.0 ≤ x then x else defaults.factor
  /-- A maximum below the initial duration is raised to it. -/
  maximum : ∃ n, Comes ev m defaults.maximum (d.suspend.bind (·.maximum)) n ∧
    s.maximum = if n.toNat < s.initial then s.initial else n.toNat
  retries : Comes ev m defaults.retries (d.mark.bind (·.retries)) s.retries
  delay : ∃ n, Comes ev m defaults.delay (d.mark.bind (·.delay)) n ∧ s.delay = n.toNat
  retry : s.retry = d.retryLists

theorem settles_resolve (d : Definition) (m : Message) (ev : Evaluator)
    (defaults : EndpointDefaults) : Settles d m ev defaults (resolve d m ev defaults) := by
  rw [resolve_eq]
  exact {
    suspendCodes := comes_field ..
    markCodes := comes_field ..
    initial := ⟨_, comes_field .., rfl⟩
    factor := ⟨_, comes_field .., by simp [factorOr, Config.isFactor]⟩
    maximum := ⟨_, comes_field .., by simp only; split <;> omega⟩
    retries := comes_field ..
    delay := ⟨_, comes_field .., rfl⟩
    retry := rfl }

/-- What the health of an endpoint relies on. -/
structure Sane (s : Settings) : Prop where
  finite : s.factor.isFinite = true
  growing : 1.0 ≤ s.factor
  bounded : s.initial ≤ s.maximum

theorem Settles.sane (h : Settles d m ev defaults s)
    (hdefaults : Config.isFactor defaults.factor = true) : Sane s := by
  have hfactor : s.factor.isFinite = true ∧ 1.0 ≤ s.factor := by
    obtain ⟨x, -, hx⟩ := h.factor
    rw [hx]
    split
    · next husable => exact husable
    · simpa [Config.isFactor] using hdefaults
  refine ⟨hfactor.1, hfactor.2, ?_⟩
  obtain ⟨n, -, hn⟩ := h.maximum
  rw [hn]
  split <;> omega

/-! ## One field apart from the others -/

/-- A setting is the same in two situations if its own field comes to the same, whatever the other
fields do. The maximum also needs the initial duration, which it is raised to. -/
structure Agrees (d d' : Definition) (m m' : Message) (ev ev' : Evaluator)
    (defaults : EndpointDefaults) (s s' : Settings) : Prop where
  suspendCodes :
    Alike ev ev' m m' ErrorCodes.none (d.suspend.bind (·.codes)) (d'.suspend.bind (·.codes)) →
      s.suspendCodes = s'.suspendCodes
  markCodes :
    Alike ev ev' m m' ErrorCodes.none (d.mark.bind (·.codes)) (d'.mark.bind (·.codes)) →
      s.markCodes = s'.markCodes
  initial :
    Alike ev ev' m m' defaults.initial (d.suspend.bind (·.initial)) (d'.suspend.bind (·.initial)) →
      s.initial = s'.initial
  factor :
    Alike ev ev' m m' defaults.factor (d.suspend.bind (·.factor)) (d'.suspend.bind (·.factor)) →
      s.factor = s'.factor
  maximum :
    Alike ev ev' m m' defaults.maximum (d.suspend.bind (·.maximum)) (d'.suspend.bind (·.maximum)) →
      s.initial = s'.initial → s.maximum = s'.maximum
  retries :
    Alike ev ev' m m' defaults.retries (d.mark.bind (·.retries)) (d'.mark.bind (·.retries)) →
      s.retries = s'.retries
  delay :
    Alike ev ev' m m' defaults.delay (d.mark.bind (·.delay)) (d'.mark.bind (·.delay)) →
      s.delay = s'.delay
  retry : d.retryLists = d'.retryLists → s.retry = s'.retry

theorem agrees_resolve (d d' : Definition) (m m' : Message) (ev ev' : Evaluator)
    (defaults : EndpointDefaults) :
    Agrees d d' m m' ev ev' defaults (resolve d m ev defaults) (resolve d' m' ev' defaults) := by
  rw [resolve_eq, resolve_eq]
  exact {
    suspendCodes := field_eq_of_alike
    markCodes := field_eq_of_alike
    initial h := congrArg UInt64.toNat (field_eq_of_alike h)
    factor h := congrArg (factorOr defaults.factor) (field_eq_of_alike h)
    maximum h hinitial := congrArg₂ max (congrArg UInt64.toNat (field_eq_of_alike h)) hinitial
    retries := field_eq_of_alike
    delay h := congrArg UInt64.toNat (field_eq_of_alike h)
    retry h := h }

/-- Whatever a definition declares, and whatever the evaluator makes of it, the settings for a
message are sane if the defaults were accepted. Every setting is what its own field comes to, but
for the two corrections, and depends on no other field but by them. -/
theorem resolve_settled (h : defaults.validate = .ok ()) (d : Definition) (m : Message)
    (ev : Evaluator) :
    Sane (resolve d m ev defaults) ∧ Settles d m ev defaults (resolve d m ev defaults) ∧
      ∀ d' m' ev',
        Agrees d d' m m' ev ev' defaults (resolve d m ev defaults) (resolve d' m' ev' defaults) :=
  have hsettles := settles_resolve d m ev defaults
  ⟨hsettles.sane (EndpointDefaults.isFactor_of_validate h), hsettles,
    fun d' m' ev' => agrees_resolve d d' m m' ev ev' defaults⟩

/-- A definition with both corrections to make, and expressions of every kind. -/
def patchy : Definition where
  suspend := some {
    codes := some (.expression "unknown"), initial := some (.expression "initial"),
    factor := some (.literal 0.5), maximum := some (.literal 5000) }
  mark := some { retries := some (.expression "retries") }

/-- Text for a number, text that is none, and nothing else. -/
def patchyValues : Evaluator := fun e _ => match e with
  | "initial" => .ok (.text " 7000 ")
  | "retries" => .ok (.text "soon")
  | e => .error (.unsupported e)

theorem resolve_settled_patchy :
    EndpointDefaults.validate {} = .ok () ∧
      Sane (resolve patchy default patchyValues {}) ∧
      Settles patchy default patchyValues {} (resolve patchy default patchyValues {}) ∧
      (resolve patchy default patchyValues {}).initial = 7000 ∧
      (resolve patchy default patchyValues {}).maximum = 7000 ∧
      (resolve patchy default patchyValues {}).retries = 0 := by
  have haccepted : EndpointDefaults.validate {} = .ok () := by decide
  obtain ⟨hsane, hsettles, -⟩ := resolve_settled haccepted patchy default patchyValues
  exact ⟨haccepted, hsane, hsettles, by decide, by decide, by decide⟩

end Settings

end ServiceBus
