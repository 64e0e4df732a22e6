import Mathlib.Data.List.Nodup
import ServiceBus.Proofs.Flow.Apart
import ServiceBus.Proofs.Flow.Inevitable
import ServiceBus.Simulation.Run

/-
ServiceBus.Proofs.Sequence.Passage — the passage of a message through a tree of
sequences, with stops.

A message that is handed off stops. Its passage goes on when the reply comes:
the call that stopped it takes the message that its channel was given as the
reply, the sequence that the returned frame names is resumed, and when a
sequence is through, the one that the frame on top names is resumed in its turn.
`Passage.step` makes one move of the flow, or one of these when the flow is at
its end.

A passage notes every leaf of the tree when the flow enters it, and every frame
that a call gave back.
-/
namespace ServiceBus

/-! ## Trees of sequences -/

namespace Mediator

/-- The name and the kind of a sequence. -/
def key? : Mediator → Option (String × SequenceKind)
  | .sequence name kind _ _ => some (name, kind)
  | _ => none

mutual

/-- The leaves of a tree of sequences, from left to right. -/
def leaves : Mediator → List Mediator
  | .sequence _ _ children _ => leavesOf children
  | x => [x]

/-- The leaves of all trees of a list. -/
def leavesOf : List Mediator → List Mediator
  | [] => []
  | x :: xs => x.leaves ++ leavesOf xs

end

mutual

/-- The sequences of a tree. -/
def sequences : Mediator → List Mediator
  | .sequence name kind children onError =>
    .sequence name kind children onError :: sequencesOf children
  | _ => []

/-- The sequences of all trees of a list. -/
def sequencesOf : List Mediator → List Mediator
  | [] => []
  | x :: xs => x.sequences ++ sequencesOf xs

end

mutual

/-- The calls of a tree that are handed off, each with the frame of the innermost
sequence around it; `frame` is the one in which the tree itself stands. -/
def stops (frame : Frame) : Mediator → List (Call × Frame)
  | .call c => if c.blocking then [] else [(c, frame)]
  | .sequence name kind children _ => stopsOf (Frame.start kind name) children
  | _ => []

/-- The calls of the children of a sequence that are handed off; `frame` is the one of
the first child. -/
def stopsOf (frame : Frame) : List Mediator → List (Call × Frame)
  | [] => []
  | x :: xs => x.stops frame ++ stopsOf (frame.moveTo (frame.position + 1)) xs

end

/-- Resumes the sequence of a tree that a frame names. -/
def resume? (root : Mediator) (f : Frame) (m : Message) : Option Flow :=
  (root.sequences.find? fun x => x.key? == some (f.sequence, f.kind)).bind fun x =>
    Simulation.World.resumeAt x f m

mutual

/-- The frame of a call in a tree names the sequence that the call is a child of, and
its place there. -/
theorem mem_stops {frame f : Frame} {c : Call} (x : Mediator) (h : (c, f) ∈ x.stops frame) :
    (x = .call c ∧ f = frame) ∨ ∃ children onError,
      .sequence f.sequence f.kind children onError ∈ x.sequences ∧
        children[f.position]? = some (.call c) := by
  cases x with
  | call c' =>
    simp only [stops] at h
    split at h
    · simp at h
    · obtain ⟨rfl, rfl⟩ := Prod.mk.inj (List.mem_singleton.1 h)
      exact .inl ⟨rfl, rfl⟩
  | sequence name kind list onError =>
    refine .inr ?_
    obtain ⟨i, hi, rfl⟩ | ⟨children, onError', hmem, hchild⟩ := mem_stopsOf list h
    · refine ⟨list, onError, by simp [sequences, Frame.start, Frame.moveTo], ?_⟩
      simp only [Frame.start, Frame.moveTo, Nat.zero_add]
      exact hi
    · exact ⟨children, onError', by simp [sequences, hmem], hchild⟩
  | _ => simp [stops] at h

theorem mem_stopsOf {frame f : Frame} {c : Call} (xs : List Mediator)
    (h : (c, f) ∈ stopsOf frame xs) :
    (∃ i : Nat, xs[i]? = some (.call c) ∧ f = frame.moveTo (frame.position + i)) ∨
      ∃ children onError, .sequence f.sequence f.kind children onError ∈ sequencesOf xs ∧
        children[f.position]? = some (.call c) := by
  cases xs with
  | nil => simp [stopsOf] at h
  | cons x xs =>
    rw [stopsOf, List.mem_append] at h
    rcases h with h | h
    · obtain ⟨rfl, rfl⟩ | ⟨children, onError, hmem, hchild⟩ := mem_stops x h
      · exact .inl ⟨0, rfl, rfl⟩
      · exact .inr ⟨children, onError, by simp [sequencesOf, hmem], hchild⟩
    · obtain ⟨i, hi, rfl⟩ | ⟨children, onError, hmem, hchild⟩ := mem_stopsOf xs h
      · refine .inl ⟨i + 1, hi, ?_⟩
        have hplace : frame.position + 1 + i = frame.position + (i + 1) := by omega
        simp only [Frame.moveTo, hplace]
      · exact .inr ⟨children, onError, by simp [sequencesOf, hmem], hchild⟩

end

/-- Where no two sequences have the same name and kind, a frame names the one that it
is of. -/
theorem resume?_of_mem {root : Mediator} {name : String} {kind : SequenceKind}
    {children : List Mediator} {onError : Option Mediator}
    (hdistinct : (root.sequences.map key?).Nodup)
    (hmem : Mediator.sequence name kind children onError ∈ root.sequences) (position : Nat)
    (m : Message) :
    root.resume? ⟨kind, name, position⟩ m =
      some (Flow.children ⟨name, onError.isSome⟩ (position + 1) (children.drop (position + 1)) m
        []) := by
  have hfind : root.sequences.find? (fun x => x.key? == some (name, kind)) =
      some (.sequence name kind children onError) := by
    cases hf : root.sequences.find? (fun x => x.key? == some (name, kind)) with
    | none => exact absurd (List.find?_eq_none.1 hf _ hmem) (by simp [key?])
    | some x =>
      have hkey : x.key? = some (name, kind) := by simpa using List.find?_some hf
      rw [List.inj_on_of_nodup_map hdistinct (List.mem_of_find?_eq_some hf) hmem hkey]
  rw [resume?, hfind]
  simp [Simulation.World.resumeAt]

end Mediator

/-! ## Passages -/

/-- The leaf of a tree of sequences that a flow is about to enter. -/
def Flow.leaf? : Flow → Option Mediator
  | .busy _ (.mediate x) k => if k.all Pending.isChildren && x.key?.isNone then some x else none
  | _ => none

/-- A message on its way through a tree of sequences. -/
structure Passage where
  flow : Flow
  /-- The leaves entered so far, in order. -/
  entered : List Mediator
  /-- The calls whose reply came, each with the frame that it gave back, in order. -/
  returned : List (Call × Frame)

namespace Passage

/-- The reply to a call that stopped the message is the message as its channel was
given it; the sequence that the returned frame names is resumed. -/
def reply (root : Mediator) (p : Passage) (c : Call) (bus : Bus) : Option (Passage × Bus) :=
  match (bus.transport c.transport).sent with
  | [] => none
  | sent :: _ =>
    match c.respond sent.message bus with
    | (.ok frame, m, bus) =>
      (root.resume? frame m).map fun f => (⟨f, p.entered, p.returned ++ [(c, frame)]⟩, bus)
    | (.error _, _, _) => none

/-- One move of a passage; none if it is through or has to wait. -/
def step (root : Mediator) (p : Passage) (bus : Bus) : Option (Passage × Bus) :=
  match p.flow.step bus with
  | some (f, bus) => some (⟨f, p.entered ++ p.flow.leaf?.toList, p.returned⟩, bus)
  | none =>
    match p.flow.finished? with
    | some (_, .proceed false) =>
      match p.entered.getLast? with
      | some (.call c) => reply root p c bus
      | _ => none
    | some (m, .proceed true) =>
      match m.continuation with
      | top :: _ => (root.resume? top m).map fun f => (⟨f, p.entered, p.returned⟩, bus)
      | [] => none
    | _ => none

variable {root : Mediator} {p : Passage} {bus bus' : Bus}

theorem step_of_flow {f : Flow} (h : p.flow.step bus = some (f, bus')) :
    p.step root bus = some (⟨f, p.entered ++ p.flow.leaf?.toList, p.returned⟩, bus') := by
  simp only [step, h]

theorem step_of_waiting (h : p.flow.step bus = none) (hf : p.flow.finished? = none) :
    p.step root bus = none := by
  simp only [step, h, hf]

end Passage

/-! ## Flows inside a leaf -/

namespace Flow

theorem finished?_andThen {f : Flow} {later : List Pending} (h : later ≠ []) :
    (f.andThen later).finished? = none := by
  cases f with
  | busy m task k =>
    cases task with
    | reply r =>
      cases k with
      | nil =>
        cases later with
        | nil => exact absurd rfl h
        | cons p later => rfl
      | cons p k => rfl
    | _ => rfl
  | gathering m g branches k => rfl
  | branching m g i branch others k => rfl

/-- A flow inside a leaf enters no leaf of the tree. -/
theorem Inside.leaf?_andThen {f : Flow} (h : Inside f) (later : List Pending) :
    (f.andThen later).leaf? = none := by
  cases f with
  | busy m task k =>
    cases task with
    | mediate x =>
      cases hl : k.getLast? with
      | none => simp [Inside, pending, hl] at h
      | some p =>
        have hp : p.isChildren = false := h.getLast? p hl
        have hmem : p ∈ k ++ later := List.mem_append_left later (List.mem_of_getLast? hl)
        have hall : (k ++ later).all Pending.isChildren = false :=
          List.all_eq_false.2 ⟨p, hmem, by simp [hp]⟩
        simp only [andThen, leaf?, hall, Bool.false_and, Bool.false_eq_true, if_false]
    | _ => rfl
  | gathering m g branches k => rfl
  | branching m g i branch others k => rfl

/-- Once entered, a mediator that is not a sequence has a flow of its own. -/
theorem inside_of_mediate {x : Mediator} (hx : x.key? = none) (m : Message) (bus : Bus) :
    Inside (mediate x m [] bus).1 := by
  cases x with
  | sequence name kind children onError => simp [Mediator.key?] at hx
  | scatter s targets =>
    simp only [mediate]
    split
    · exact inside_of_pending (by simp [answer, pending]) (by simp [answer])
    · exact inside_of_pending (by simp [pending]) (by simp)
  | _ => exact (goes_mediate (by simp) (by simp) m bus).inside (by simp)

end Flow

/-- What a flow inside a leaf comes to by itself, it comes to in front of the work that the
tree has left, and no leaf of the tree is entered on the way. -/
theorem Inevitably.inside {root : Mediator} {world : Bus → Bus → Prop} {P : Flow → Bus → Prop}
    {Q : Passage → Bus → Prop} {f : Flow} {bus : Bus} {later : List Pending}
    {entered : List Mediator} {returned : List (Call × Frame)}
    (h : Inevitably Flow.step world P f bus) (hinside : f.Inside) (hlater : later ≠ [])
    (hattempt : ∀ p ∈ later, p.isAttempt = false)
    (hP : ∀ f bus, P f bus →
      Inevitably (Passage.step root) world Q ⟨f.andThen later, entered, returned⟩ bus) :
    Inevitably (Passage.step root) world Q ⟨f.andThen later, entered, returned⟩ bus := by
  refine h.simulate (R := fun f _ p => f.Inside ∧ p = ⟨f.andThen later, entered, returned⟩)
    ⟨hinside, rfl⟩ ?_ ?_ ?_
  · intro f bus p bus' hR _
    exact hR
  · rintro f bus - ⟨hinside, rfl⟩ ⟨bus', hlive⟩
    have hmoves : (f.andThen later).step bus = _ :=
      Flow.step_andThen (Flow.finished?_of_step hlive) hattempt
    refine ⟨fun hnone => ?_, fun f' bus'' hsome => ?_⟩
    · rw [hnone] at hmoves
      exact Passage.step_of_waiting hmoves (Flow.finished?_andThen hlater)
    · rw [hsome] at hmoves
      refine ⟨_, Passage.step_of_flow hmoves, Flow.inside_of_step hinside hsome, ?_⟩
      simp only [hinside.leaf?_andThen later, Option.toList_none, List.append_nil]
  · rintro f bus - ⟨-, rfl⟩ hf
    exact hP f bus hf

end ServiceBus
