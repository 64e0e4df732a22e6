import ServiceBus.Proofs.Traffic.Schedule

/-
ServiceBus.Proofs.Traffic.Diary — which branches have stopped, and which replies were taken.

A buffer counts the replies that are still to come and does not keep whose they are. A diary
does: it is a history with a note of each branch that stops and waits for its reply, and of
each reply that is taken for a branch (`Traffic.Diary`). Every history has one
(`History.diary`). A reply that is not noted changes nothing (`Scatter.deliver_of_note?`).

From the notes follows who waits (`Note.waiting`), and how often a reply was taken for a
branch that did not wait while others did (`Note.overtakings`).
-/
namespace ServiceBus

open Bus

/-! ## Notes -/

/-- What a step does for the replies that a run waits for. -/
inductive Note where
  /-- A branch has stopped and waits for its reply. -/
  | stop (ref index : Nat)
  /-- A reply is taken for a branch that is not settled. -/
  | reply (ref index : Nat)

namespace Note

/-- The buffer of the run that a note is about. -/
def ref : Note → Nat
  | .stop ref _ => ref
  | .reply ref _ => ref

/-- The branch that stops, if the run has the buffer `ref`. -/
def stopIn? (ref : Nat) : Note → Option Nat
  | .stop ref' index => if ref' = ref then some index else none
  | .reply .. => none

/-- The branch that is replied for, if the run has the buffer `ref`. -/
def replyIn? (ref : Nat) : Note → Option Nat
  | .stop .. => none
  | .reply ref' index => if ref' = ref then some index else none

/-- The branches that have stopped, the last one first. -/
def stopped (ref : Nat) (notes : List Note) : List Nat := notes.filterMap (stopIn? ref)

/-- The branches that a reply was taken for, the last one first. -/
def replied (ref : Nat) (notes : List Note) : List Nat := notes.filterMap (replyIn? ref)

/-- Some branches without those that are gone. -/
def without (branches gone : List Nat) : List Nat :=
  branches.filter fun index => decide (index ∉ gone)

/-- The branches that have stopped and have had no reply. -/
def waiting (ref : Nat) (notes : List Note) : List Nat :=
  without (stopped ref notes) (replied ref notes)

/-- How many replies were taken for a branch that did not wait, while others did. The last note
comes first. -/
def overtakings (ref : Nat) : List Note → Nat
  | [] => 0
  | .stop .. :: earlier => overtakings ref earlier
  | .reply ref' index :: earlier =>
    overtakings ref earlier +
      if ref' = ref ∧ index ∉ waiting ref earlier ∧ waiting ref earlier ≠ [] then 1 else 0

section Lists

variable {note : Note} {notes : List Note} {branches gone : List Nat} {r index : Nat}

theorem without_cons (hnodup : branches.Nodup) :
    without branches (index :: gone) = (without branches gone).erase index := by
  rw [without, without, (hnodup.filter _).erase_eq_filter, List.filter_filter]
  refine List.filter_congr fun i _ => ?_
  by_cases hi : i = index <;> simp [hi]

@[simp] theorem stopped_stop : stopped r (.stop r index :: notes) = index :: stopped r notes := by
  simp [stopped, stopIn?]

@[simp] theorem replied_stop : replied r (.stop r index :: notes) = replied r notes := by
  simp [replied, List.filterMap_cons, replyIn?]

@[simp] theorem stopped_reply : stopped r (.reply r index :: notes) = stopped r notes := by
  simp [stopped, List.filterMap_cons, stopIn?]

@[simp] theorem replied_reply :
    replied r (.reply r index :: notes) = index :: replied r notes := by
  simp [replied, replyIn?]

theorem stopped_of_ne (h : note.ref ≠ r) : stopped r (note :: notes) = stopped r notes := by
  cases note <;> simp_all [stopped, List.filterMap_cons, stopIn?, ref]

theorem replied_of_ne (h : note.ref ≠ r) : replied r (note :: notes) = replied r notes := by
  cases note <;> simp_all [replied, List.filterMap_cons, replyIn?, ref]

theorem stopped_eq_nil (h : ∀ note ∈ notes, note.ref ≠ r) : stopped r notes = [] := by
  induction notes with
  | nil => rfl
  | cons note notes ih =>
    rw [List.forall_mem_cons] at h
    rw [stopped_of_ne h.1, ih h.2]

theorem replied_eq_nil (h : ∀ note ∈ notes, note.ref ≠ r) : replied r notes = [] := by
  induction notes with
  | nil => rfl
  | cons note notes ih =>
    rw [List.forall_mem_cons] at h
    rw [replied_of_ne h.1, ih h.2]

theorem waiting_of_ne (h : note.ref ≠ r) : waiting r (note :: notes) = waiting r notes := by
  rw [waiting, stopped_of_ne h, replied_of_ne h, waiting]

theorem overtakings_of_ne (h : note.ref ≠ r) :
    overtakings r (note :: notes) = overtakings r notes := by
  cases note <;> simp_all [overtakings, ref]

/-- A branch that stops waits, unless its reply has come before. -/
theorem waiting_stop : waiting r (.stop r index :: notes) =
    if index ∈ replied r notes then waiting r notes else index :: waiting r notes := by
  rw [waiting, stopped_stop, replied_stop, without, List.filter_cons]
  by_cases hreplied : index ∈ replied r notes <;> simp [hreplied, waiting, without]

/-- A branch that has had its reply does not wait any more. -/
theorem waiting_reply (hnodup : (stopped r notes).Nodup) :
    waiting r (.reply r index :: notes) = (waiting r notes).erase index := by
  rw [waiting, stopped_reply, replied_reply, without_cons hnodup, waiting]

end Lists

end Note

/-! ## What is noted -/

/-- The note on a branch that is taken into account. -/
def BranchEnd.note? (e : BranchEnd) : Option Note :=
  match e.reply.verdict with
  | .ok false =>
    if Scatter.awaitsReply e.message then some (.stop e.gathering.buffer e.index) else none
  | _ => none

theorem BranchEnd.note?_eq_some {e : BranchEnd} {note : Note} :
    e.note? = some note ↔ e.Awaits ∧ note = .stop e.gathering.buffer e.index := by
  unfold BranchEnd.note? BranchEnd.Awaits
  split
  · next hverdict =>
    simp only [hverdict, true_and, Option.ite_none_right_eq_some, Option.some.injEq]
    exact and_congr_right' eq_comm
  · next hother =>
    constructor
    · intro h
      simp at h
    · rintro ⟨⟨hverdict, -⟩, -⟩
      exact absurd hverdict hother

/-- The note on the next move of a flow. -/
def Flow.note? (f : Flow) : Option Note := f.branchEnd?.bind BranchEnd.note?

namespace Scatter

/-- The note on a reply. -/
def note? (s : Scatter) (m : Message) (bus : Bus) : Option Note :=
  match (m.textProperty? Property.correlation).bind (bus.findBuffer? s.aggregator), branchOf m with
  | some ref, some index =>
    if (bus.buffer? ref).any (·.admits index) then some (.reply ref index) else none
  | _, _ => none

variable {s : Scatter} {m : Message} {bus : Bus} {ref index : Nat} {note : Note}

theorem note?_eq_some : s.note? m bus = some note ↔ ∃ ref index buffer,
    note = .reply ref index ∧ s.AnswersFor m bus ref index ∧ bus.buffer? ref = some buffer ∧
      buffer.admits index = true := by
  constructor
  · intro h
    unfold note? at h
    split at h
    · next ref index hfind hindex =>
      split at h
      · next hadmits =>
        obtain ⟨buffer, hb, hadmits⟩ := (Option.any_eq_true ..).1 hadmits
        exact ⟨ref, index, buffer, (Option.some.inj h).symm, ⟨hfind, hindex⟩, hb, hadmits⟩
      · simp at h
    · simp at h
  · rintro ⟨ref, index, buffer, rfl, ⟨hfind, hindex⟩, hb, hadmits⟩
    simp [note?, hfind, hindex, hb, hadmits]

/-- A reply that is not noted changes nothing. -/
theorem deliver_of_note? (h : s.note? m bus = none) : (s.deliver m bus).2 = bus := by
  unfold deliver
  split
  · rfl
  · next ref hfind =>
    split
    · rfl
    · next hopen =>
      split
      · next index buffer hindex hb =>
        have hsettled : index ∈ buffer.settled := by
          by_contra hnew
          have hadmits : buffer.admits index = true := by
            refine Buffer.admits_iff.2 ⟨?_, hnew⟩
            simpa [isBufferClosed_eq, hb] using hopen
          rw [note?_eq_some.2 ⟨ref, index, buffer, rfl, ⟨hfind, hindex⟩, hb, hadmits⟩] at h
          simp at h
        simp [Buffer.settleAwaiting, hsettled]
      · rfl

/-- A reply that is taken counts one reply less and settles its branch. -/
theorem deliver_of_answersFor {buffer : Buffer} (h : s.AnswersFor m bus ref index)
    (hb : bus.buffer? ref = some buffer) (hadmits : buffer.admits index = true) :
    ∃ buffer', (s.deliver m bus).2.runState = (bus.updateBuffer ref fun _ => buffer').runState ∧
      buffer'.awaiting = buffer.awaiting - 1 ∧ buffer'.settled = index :: buffer.settled := by
  obtain ⟨hopen, hnew⟩ := Buffer.admits_iff.1 hadmits
  obtain ⟨answer, counted, buffer', hmoves, -, hrun⟩ := deliver_spec h.found h.branch hb hopen
  rw [Buffer.Delivery.moves_of_new hopen hnew] at hmoves
  obtain ⟨-, rfl⟩ := Prod.mk.inj hmoves
  refine ⟨_, hrun, ?_, ?_⟩
  · rw [Buffer.awaiting_perform_of_settles Buffer.Delivery.settles_operation]
  · exact Buffer.Delivery.perform_operation_of_admits (Buffer.admits_iff.2 ⟨hopen, hnew⟩)

end Scatter

/-! ## Diaries -/

namespace Traffic

variable {past : List RunEvent} {notes : List Note} {t t' : Traffic} {e : Option RunEvent}
  {note : Option Note}

/-- One step, with the note that it leaves. -/
inductive Noted : Traffic → Option RunEvent → Option Note → Traffic → Prop where
  /-- A flow goes on. -/
  | move {b b' : Bus} {f f' : Flow} (before after : List Flow) (h : f.step b = some (f', b')) :
      Noted ⟨b, before ++ f :: after⟩ (f.event? b) f.note? ⟨b', before ++ f' :: after⟩
  /-- A reply arrives for a branch. -/
  | reply {b : Bus} (flows : List Flow) (s : Scatter) (m : Message) :
      Noted ⟨b, flows⟩ none (s.note? m b) ⟨(s.deliver m b).2, flows⟩
  /-- Anything else happens: no flow goes on, and no reply arrives. -/
  | aside {t t' : Traffic} (h : Step t none t') (hbuffers : t'.bus.buffers = t.bus.buffers)
      (hflows : t'.flows.Sublist t.flows ∨ ∃ m task k, t'.flows = .busy m task k :: t.flows) :
      Noted t none none t'

/-- What may come about, with the events and, the last one first, the notes on the way. -/
inductive Diary : List RunEvent → List Note → Traffic → Prop where
  | fresh {b : Bus} (hbuffers : b.buffers = []) (haggregators : b.aggregators = ∅)
      (hrung : b.rung ≤ b.now) : Diary [] [] ⟨b, []⟩
  | step {past : List RunEvent} {notes : List Note} {t t' : Traffic} {e : Option RunEvent}
      {note : Option Note} (h : Diary past notes t) (hs : Noted t e note t') :
      Diary (past ++ e.toList) (note.toList ++ notes) t'

theorem Noted.step (h : Noted t e note t') : Step t e t' := by
  cases h with
  | move before after h => exact .move before after h
  | reply flows s m => exact .reply flows s m
  | aside h hbuffers hflows => exact h

theorem Step.noted (h : Step t e t') : ∃ note, Noted t e note t' := by
  cases h with
  | move before after h => exact ⟨_, .move before after h⟩
  | start flows m task k =>
    exact ⟨none, .aside (.start flows m task k) rfl (.inr ⟨m, task, k, rfl⟩)⟩
  | drop before after f =>
    exact ⟨none, .aside (.drop before after f) rfl
      (.inl ((List.sublist_cons_self f after).append_left before))⟩
  | reply flows s m => exact ⟨_, .reply flows s m⟩
  | elsewhere flows hbuffers haggregators hnow hrung =>
    exact ⟨none, .aside (.elsewhere flows hbuffers haggregators hnow hrung) hbuffers
      (.inl (.refl _))⟩

theorem Diary.history (h : Diary past notes t) : History past t := by
  induction h with
  | fresh hbuffers haggregators hrung => exact .fresh hbuffers haggregators hrung
  | step h hs ih => exact ih.step hs.step

/-- Every history has a diary. -/
theorem History.diary (h : History past t) : ∃ notes, Diary past notes t := by
  induction h with
  | fresh hbuffers haggregators hrung => exact ⟨[], .fresh hbuffers haggregators hrung⟩
  | step h hs ih =>
    obtain ⟨notes, hdiary⟩ := ih
    obtain ⟨note, hnoted⟩ := hs.noted
    exact ⟨note.toList ++ notes, hdiary.step hnoted⟩

/-- The notes on at most `limit` moves of a flow, the last one first. -/
def notesOf : Nat → Flow → Bus → List Note
  | 0, _, _ => []
  | limit + 1, f, b =>
    match f.step b with
    | some (f', b') => notesOf limit f' b' ++ f.note?.toList
    | none => []

theorem Diary.advance {b : Bus} {f : Flow} (before after : List Flow)
    (h : Diary past notes ⟨b, before ++ f :: after⟩) (limit : Nat) :
    Diary (past ++ (advance limit f b).2.2) (notesOf limit f b ++ notes)
      ⟨(advance limit f b).2.1, before ++ (advance limit f b).1 :: after⟩ := by
  induction limit generalizing past notes f b with
  | zero => simpa [Traffic.advance, notesOf] using h
  | succ limit ih =>
    unfold Traffic.advance notesOf
    cases hs : f.step b with
    | none => simpa using h
    | some next =>
      obtain ⟨f', b'⟩ := next
      have hlast := ih (h.step (.move before after hs))
      simpa using hlast

/-- What is noted is about a run that has begun. -/
theorem Noted.buffer_lt {note : Note} (h : Noted t e (some note) t') (hpast : History past t) :
    note.ref < t.bus.buffers.length := by
  generalize hnote : some note = noted at h
  cases h with
  | @move b b' f f' before after h =>
    obtain ⟨e, he, hstop⟩ := Option.bind_eq_some_iff.1 hnote.symm
    obtain ⟨-, rfl⟩ := BranchEnd.note?_eq_some.1 hstop
    refine hpast.buffer_lt_of_open (i := e.index) (List.mem_flatMap.2 ⟨f, by simp, ?_⟩)
    exact Flow.key_mem_openBranches he
  | reply flows s m =>
    obtain ⟨ref, index, buffer, rfl, -, hb, -⟩ := Scatter.note?_eq_some.1 hnote.symm
    exact lt_of_buffer? hb
  | aside h hbuffers hflows => simp at hnote

theorem Diary.buffer_lt (h : Diary past notes t) :
    ∀ note ∈ notes, note.ref < t.bus.buffers.length := by
  induction h with
  | fresh hbuffers haggregators hrung => simp
  | @step past notes t t' e note h hs ih =>
    have hgrows : t.bus.buffers.length ≤ t'.bus.buffers.length := by
      have hrange := congrArg List.length hs.step.range_buffers
      simp only [List.length_append, List.length_range] at hrange
      omega
    intro noted hmem
    rcases List.mem_append.1 hmem with hnow | hbefore
    · rw [Option.mem_toList] at hnow
      cases hnow
      exact Nat.lt_of_lt_of_le (hs.buffer_lt h.history) hgrows
    · exact Nat.lt_of_lt_of_le (ih noted hbefore) hgrows

end Traffic

end ServiceBus
