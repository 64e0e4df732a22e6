import ServiceBus.Proofs.Call.Diversion

/-
ServiceBus.Proofs.Call.Rejected — what a call leaves behind that fails before it sends.

A call needs a frame to come back to, unless it waits, and it needs the body that its source
holds. The frame is checked before anything is done, so without one the message stays as it
was. The source is read only after the body of the message has been parked, though, so a call
that has a target leaves the parked body on the message when its source turns out to be
missing (`Call.rejects`). Everything else stays: the rest of the message, and all of the bus.

The parking place can be a source too. It is not missing then, since the body was just
put there (`Rehoming.Missing`).
-/
namespace ServiceBus

/-! ## The way out -/

namespace Rehoming

/-- The message with its body parked, if the way back is to put it back. -/
def parking (r : Rehoming) (m : Message) : Message :=
  if r.source.isSome && r.target.isSome then m.setProperty Property.parkedBody m.payload.toValue
  else m

/-- The source is a property or a variable that the message does not have, also after its body
was parked. -/
structure Missing (r : Rehoming) (m : Message) (place : Slot) : Prop where
  source : r.source = some (.slot place)
  absent : m.slot? place = none
  apart : r.target.isSome = true → place ≠ .property Property.parkedBody

/-- The message type that the way out switches to. -/
def newType? (r : Rehoming) (m : Message) : Option String :=
  match r.source, r.sourceType with
  | some _, some type => if sameType (some type) m.messageType then none else some type
  | _, _ => none

variable {r : Rehoming} {m : Message} {place : Slot}

theorem slot?_parking (hsource : r.source = some (.slot place)) :
    (r.parking m).slot? place = none ↔ r.Missing m place := by
  have hmissing : r.Missing m place ↔
      m.slot? place = none ∧ (r.target.isSome = true → place ≠ .property Property.parkedBody) :=
    ⟨fun h => ⟨h.absent, h.apart⟩, fun h => ⟨hsource, h.1, h.2⟩⟩
  rw [hmissing, parking, hsource]
  cases htarget : r.target.isSome with
  | false => simp
  | true =>
    match place with
    | .variable name => simp [Message.slot?, Message.setProperty]
    | .property name =>
      have hset : (m.setProperty Property.parkedBody m.payload.toValue).slot? (.property name) =
          if name = Property.parkedBody then some m.payload.toValue else m.property? name :=
        m.property?_setProperty ..
      simp only [Option.isSome_some, Bool.and_self, if_true, hset, ne_eq, Slot.property.injEq,
        true_implies]
      split
      · simp [*]
      · simp [*]
        rfl

/-- The types are switched to the one of the source, or else to the one of the message, which
is no other than it is already. -/
theorem switch_eq {source : PayloadSource} (hsource : r.source = some source) (moved : Message) :
    (match r.effectiveType (.capture m) with
      | some type =>
        (if sameType (some type) m.messageType then moved else moved.setContentType type type,
          (.ok () : Except Failure Unit))
      | none => (moved, .ok ())) =
    (match r.newType? m with
      | some type => moved.setContentType type type
      | none => moved, .ok ()) := by
  cases htype : r.sourceType with
  | some type =>
    have heffective : r.effectiveType (.capture m) = some type := by
      rw [effectiveType, htype, Option.some_or]
    have hnew : r.newType? m = if sameType (some type) m.messageType then none else some type := by
      simp only [newType?, hsource, htype]
    rw [heffective, hnew]
    cases hsame : sameType (some type) m.messageType <;> simp [hsame]
  | none =>
    have heffective : r.effectiveType (.capture m) = m.messageType := by
      rw [effectiveType, htype, Option.none_or]
      rfl
    have hnew : r.newType? m = none := by simp only [newType?, hsource, htype]
    rw [heffective, hnew]
    cases m.messageType with
    | none => rfl
    | some own => simp [sameType, Text.eqIgnoringCase]

/-- The way out of a call with a source, once the body is parked. -/
theorem outbound_eq {source : PayloadSource} (hsource : r.source = some source) :
    r.outbound m (.capture m) =
      match readSource (r.parking m) source (r.effectiveType (.capture m)) with
      | .ok p =>
        (match r.newType? m with
          | some type => ({ r.parking m with payload := p } : Message).setContentType type type
          | none => { r.parking m with payload := p }, .ok ())
      | .error e => (r.parking m, .error e) := by
  have hparking : (if r.target.isSome then m.setProperty Property.parkedBody m.payload.toValue
      else m) = r.parking m := by
    simp only [parking, hsource, Option.isSome_some, Bool.true_and]
  have hread (type : Option String) :
      (if source.isBody then .ok (r.parking m).payload
        else readSource (r.parking m) source type) = readSource (r.parking m) source type := by
    cases source <;> rfl
  simp only [outbound, hsource, hparking, hread]
  cases readSource (r.parking m) source (r.effectiveType (.capture m)) with
  | error e => rfl
  | ok p =>
    exact switch_eq hsource { r.parking m with payload := p }

/-- A missing source is noticed only once the body is parked. -/
theorem outbound_of_missing (h : r.Missing m place) :
    r.outbound m (.capture m) = (r.parking m, .error (.internal (.missingSource place))) := by
  rw [outbound_eq h.source, readSource, (slot?_parking h.source).2 h]

/-- Nothing but a missing source keeps a body from being moved. -/
theorem outbound_eq_ok_iff :
    (r.outbound m (.capture m)).2 = .ok () ↔ ∀ place, ¬ r.Missing m place := by
  constructor
  · intro h place hmissing
    rw [outbound_of_missing hmissing] at h
    simp at h
  · intro h
    cases hsource : r.source with
    | none => simp only [outbound, hsource]
    | some source =>
      rw [outbound_eq hsource]
      match source with
      | .body => rfl
      | .inline p => rfl
      | .slot place =>
        obtain ⟨v, hv⟩ := Option.ne_none_iff_exists'.1 ((slot?_parking hsource).not.2 (h place))
        rw [readSource, hv]

end Rehoming

namespace Call

variable {c : Call} {m : Message}

/-- A call gets as far as sending unless it has no frame to come back to or its source is
missing. -/
theorem ready_iff : c.Ready m ↔
    (c.blocking = true ∨ m.continuation ≠ []) ∧ ∀ place, ¬ c.rehoming.Missing m place :=
  ⟨fun h => ⟨h.frame, Rehoming.outbound_eq_ok_iff.1 h.moved⟩,
    fun h => ⟨h.1, Rehoming.outbound_eq_ok_iff.2 h.2⟩⟩

/-- A call that fails before it sends gives nothing to any channel, and leaves the message as it
was, except that a call with a target has parked the body when it finds its source missing.
That is a change unless the same body was parked already. -/
theorem rejects (c : Call) (m : Message) (k : List Pending) (bus : Bus) :
    (¬ c.Ready m ↔ (c.blocking = false ∧ m.continuation = []) ∨
      ∃ place, c.rehoming.Missing m place) ∧
    (c.blocking = false → m.continuation = [] →
      (Flow.busy m (.mediate (.call c)) k).step bus =
        some (Flow.answer m (.failed (.invariant .noFrameForCall)) k, bus)) ∧
    ∀ place, (c.blocking = true ∨ m.continuation ≠ []) → c.rehoming.Missing m place →
      (Flow.busy m (.mediate (.call c)) k).step bus =
        some (Flow.answer (c.rehoming.parking m) (.failed (.internal (.missingSource place))) k,
          bus) ∧
      (∀ name, name ≠ Property.parkedBody →
        (c.rehoming.parking m).property? name = m.property? name) ∧
      { c.rehoming.parking m with properties := m.properties } = m ∧
      (c.rehoming.parking m = m ↔
        c.rehoming.target = none ∨ m.property? Property.parkedBody = some m.payload.toValue) := by
  refine ⟨?_, fun hmode hframes => ?_, fun place hframe hmissing => ⟨?_, ?_, ?_, ?_⟩⟩
  · simp only [ready_iff, not_and_or, not_or, not_forall, not_not, Bool.not_eq_true]
  · simp [Flow.step, Flow.work, Flow.mediate, Flow.call, hmode, hframes]
  · have hmoved := Rehoming.outbound_of_missing hmissing
    have hfails := call_eq_failed hframe (congrArg Prod.snd hmoved) k bus
    rw [hmoved] at hfails
    exact congrArg some hfails
  · intro name hname
    unfold Rehoming.parking
    split
    · exact (m.property?_setProperty ..).trans (if_neg hname)
    · rfl
  · unfold Rehoming.parking
    split <;> rfl
  · have hsource : c.rehoming.source.isSome = true := by rw [hmissing.source]; rfl
    cases htarget : c.rehoming.target with
    | none => simp [Rehoming.parking, htarget]
    | some target =>
      have hparking : c.rehoming.parking m =
          m.setProperty Property.parkedBody m.payload.toValue := by
        simp only [Rehoming.parking, hsource, htarget, Option.isSome_some, Bool.and_self, if_true]
      have hsame : m.setProperty Property.parkedBody m.payload.toValue = m ↔
          m.properties.insert Property.parkedBody m.payload.toValue = m.properties :=
        ⟨congrArg Message.properties, fun h => by rw [Message.setProperty, h]⟩
      rw [hparking, hsame, Dict.insert_eq_self_iff]
      simp [Message.property?]

/-! ## A question that nobody asked

The request of the call is a question in a property that the message does not have. -/

namespace Unasked

def ask (target : Option PayloadTarget) : Call where
  name := "ask"
  transport := "channel"
  blocking := true
  rehoming := { source := some (.slot (.property "question")), target }

def message : Message where
  id := ⟨0⟩
  payload := .json (.object [("order", .int 7)])

theorem missing (target : Option PayloadTarget) :
    (ask target).rehoming.Missing message (.property "question") :=
  ⟨rfl, rfl, by simp [Property.parkedBody]⟩

/-- Without a target, nothing is parked, and nothing changes. -/
theorem rejects_untargeted :
    (ask none).rehoming.Missing message (.property "question") ∧
      (Flow.busy message (.mediate (.call (ask none))) []).step {} =
        some (Flow.answer message
          (.failed (.internal (.missingSource (.property "question")))) [], {}) := by
  obtain ⟨hrejected, -, -, hsame⟩ :=
    (rejects (ask none) message [] {}).2.2 _ (.inl rfl) (missing none)
  rw [hsame.2 (.inl rfl)] at hrejected
  exact ⟨missing none, hrejected⟩

/-- With a target, the body is left parked on a message that had nothing parked. -/
theorem parked_on_rejection : ∃ after : Message,
    (Flow.busy message (.mediate (.call (ask (some (.slot (.variable "answer")))))) []).step {} =
        some (Flow.answer after
          (.failed (.internal (.missingSource (.property "question")))) [], {}) ∧
      message.property? Property.parkedBody = none ∧
      after.property? Property.parkedBody = some (.object [("order", .int 7)]) :=
  ⟨_, rfl, rfl, rfl⟩

end Unasked

end Call

end ServiceBus
