import ServiceBus.Proofs.Traffic.Answers
import ServiceBus.Proofs.Traffic.Diary

/-
ServiceBus.Proofs.Traffic.Waiting — how many branches wait, and how many are counted.

A buffer counts one reply more where a branch stops, and one less where a reply is taken, and
it does not look whether the branch of the reply was counted. `Tallies` says what a diary has
to do with this count, and every step preserves it (`Noted.tally`). So along every diary
(`Diary.tally`) the count never says more than there are branches that wait, and no more is
missing from it than replies have overtaken (`Diary.awaits`).

A reply overtakes if it is taken for a branch that has not stopped while another one waits.
It is then taken off the count of the other one, and the buffer awaits nothing though a
branch waits (`early_reply_miscounts`). All this takes a reply for one step. It is three moves
on the buffer, and a branch that stops between them stays counted for good
(`surrounded_stop_miscounts`).
-/
namespace ServiceBus

open Bus

/-- Those of some branches that are neither results nor excluded. -/
def Buffer.unsettled (b : Buffer) (branches : List Nat) : List Nat :=
  Note.without branches b.settled

/-- What the notes say of the buffer of a run, and of the branches that are `unfinished`: they
are yet to be taken into account. -/
structure Tallies (ref : Nat) (notes : List Note) (unfinished : Nat → Prop) (buffer : Buffer) :
    Prop where
  distinct : (Note.stopped ref notes).Nodup
  finished : ∀ i ∈ Note.stopped ref notes, ¬ unfinished i
  replied : ∀ i ∈ Note.replied ref notes, i ∈ buffer.settled
  /-- What no reply has settled was settled where the run took it into account. -/
  own : ∀ i ∈ buffer.settled, i ∉ Note.replied ref notes →
    i ∉ Note.stopped ref notes ∧ ¬ unfinished i
  least : buffer.awaiting ≤ (Note.waiting ref notes).length
  most : (Note.waiting ref notes).length ≤ buffer.awaiting + Note.overtakings ref notes

namespace Tallies

variable {ref index : Nat} {notes : List Note} {note : Note} {unfinished unfinished' : Nat → Prop}
  {buffer buffer' : Buffer}

/-- A run without notes, as it begins. -/
theorem begun (hstopped : Note.stopped ref notes = []) (hsettled : buffer.settled = [])
    (hreplied : Note.replied ref notes = []) (hawaiting : buffer.awaiting = 0) :
    Tallies ref notes unfinished buffer := by
  have hwaiting : Note.waiting ref notes = [] := by
    rw [Note.waiting, hstopped, Note.without, List.filter_nil]
  constructor <;> simp [hstopped, hsettled, hreplied, hawaiting, hwaiting]

/-- The branches that wait are those that have stopped and are not settled. -/
theorem waiting_eq (h : Tallies ref notes unfinished buffer) :
    Note.waiting ref notes = buffer.unsettled (Note.stopped ref notes) := by
  refine List.filter_congr fun i hi => decide_eq_decide.2 (not_congr ⟨h.replied i, ?_⟩)
  intro hsettled
  by_contra hnone
  exact (h.own i hsettled hnone).1 hi

theorem mono (h : Tallies ref notes unfinished buffer) (hless : ∀ i, unfinished' i → unfinished i)
    (hsettled : buffer'.settled = buffer.settled) (hawaiting : buffer'.awaiting = buffer.awaiting) :
    Tallies ref notes unfinished' buffer' where
  distinct := h.distinct
  finished i hi hopen := h.finished i hi (hless i hopen)
  replied i hi := hsettled ▸ h.replied i hi
  own i hi hnone := by
    obtain ⟨hstopped, hopen⟩ := h.own i (hsettled ▸ hi) hnone
    exact ⟨hstopped, fun hopen' => hopen (hless i hopen')⟩
  least := hawaiting ▸ h.least
  most := hawaiting ▸ h.most

/-- A note about another run. -/
theorem other (h : Tallies ref notes unfinished buffer) (hother : note.ref ≠ ref) :
    Tallies ref (note :: notes) unfinished buffer where
  distinct := by
    rw [Note.stopped_of_ne hother]
    exact h.distinct
  finished := by
    rw [Note.stopped_of_ne hother]
    exact h.finished
  replied := by
    rw [Note.replied_of_ne hother]
    exact h.replied
  own := by
    rw [Note.replied_of_ne hother, Note.stopped_of_ne hother]
    exact h.own
  least := by
    rw [Note.waiting_of_ne hother]
    exact h.least
  most := by
    rw [Note.waiting_of_ne hother, Note.overtakings_of_ne hother]
    exact h.most

/-- As long as a branch is unfinished, only a reply can have settled it. -/
theorem replied_iff (h : Tallies ref notes unfinished buffer) (hopen : unfinished index) :
    index ∈ Note.replied ref notes ↔ index ∈ buffer.settled := by
  refine ⟨h.replied index, fun hsettled => ?_⟩
  by_contra hnone
  exact (h.own index hsettled hnone).2 hopen

/-- An unfinished branch stops and waits for its reply. -/
theorem stop (h : Tallies ref notes unfinished buffer) (hopen : unfinished index)
    (hless : ∀ i, unfinished' i → unfinished i) (hover : ¬ unfinished' index) :
    Tallies ref (.stop ref index :: notes) unfinished'
      (buffer.perform (.markAwaiting index)) where
  distinct := by
    rw [Note.stopped_stop]
    exact h.distinct.cons fun hstopped => h.finished index hstopped hopen
  finished := by
    rw [Note.stopped_stop, List.forall_mem_cons]
    exact ⟨hover, fun i hi hopen' => h.finished i hi (hless i hopen')⟩
  replied := by
    rw [Note.replied_stop, Buffer.settled_perform]
    exact h.replied
  own := by
    rw [Note.replied_stop, Note.stopped_stop, Buffer.settled_perform]
    intro i hi hnone
    obtain ⟨hstopped, hopen'⟩ := h.own i hi hnone
    refine ⟨?_, fun hlater => hopen' (hless i hlater)⟩
    rw [List.mem_cons, not_or]
    exact ⟨fun hsame => hopen' (hsame ▸ hopen), hstopped⟩
  least := by
    have hleast := h.least
    rw [Note.waiting_stop, Buffer.awaiting_perform]
    by_cases hsettled : index ∈ buffer.settled
    · simpa [h.replied_iff hopen, hsettled] using hleast
    · simpa [h.replied_iff hopen, hsettled] using hleast
  most := by
    have hmost := h.most
    rw [Note.waiting_stop, Buffer.awaiting_perform, Note.overtakings]
    by_cases hsettled : index ∈ buffer.settled
    · simpa [h.replied_iff hopen, hsettled] using hmost
    · simp only [h.replied_iff hopen, hsettled, if_false, List.length_cons]
      omega

/-- An unfinished branch is brought in by its run. -/
theorem settle (h : Tallies ref notes unfinished buffer) (hopen : unfinished index)
    (hless : ∀ i, unfinished' i → unfinished i) (hover : ¬ unfinished' index)
    (hkept : ∀ i ∈ buffer.settled, i ∈ buffer'.settled)
    (hsettled : ∀ i ∈ buffer'.settled, i ∈ buffer.settled ∨ i = index)
    (hawaiting : buffer'.awaiting = buffer.awaiting) :
    Tallies ref notes unfinished' buffer' where
  distinct := h.distinct
  finished i hi hopen' := h.finished i hi (hless i hopen')
  replied i hi := hkept i (h.replied i hi)
  own i hi hnone := by
    rcases hsettled i hi with hbefore | rfl
    · obtain ⟨hstopped, hopen'⟩ := h.own i hbefore hnone
      exact ⟨hstopped, fun hlater => hopen' (hless i hlater)⟩
    · exact ⟨fun hmem => h.finished i hmem hopen, hover⟩
  least := hawaiting ▸ h.least
  most := hawaiting ▸ h.most

/-- A reply is taken. -/
theorem reply (h : Tallies ref notes unfinished buffer)
    (hsettled : buffer'.settled = index :: buffer.settled)
    (hawaiting : buffer'.awaiting = buffer.awaiting - 1) :
    Tallies ref (.reply ref index :: notes) unfinished buffer' where
  distinct := by
    rw [Note.stopped_reply]
    exact h.distinct
  finished := by
    rw [Note.stopped_reply]
    exact h.finished
  replied := by
    rw [Note.replied_reply, hsettled]
    exact List.forall_mem_cons.2
      ⟨List.mem_cons_self, fun i hi => List.mem_cons_of_mem _ (h.replied i hi)⟩
  own := by
    rw [Note.replied_reply, Note.stopped_reply, hsettled]
    intro i hi hnone
    rw [List.mem_cons, not_or] at hnone
    exact h.own i ((List.mem_cons.1 hi).resolve_left hnone.1) hnone.2
  least := by
    have hleast := h.least
    rw [Note.waiting_reply h.distinct, List.length_erase, hawaiting]
    split <;> omega
  most := by
    have hmost := h.most
    rw [Note.waiting_reply h.distinct, List.length_erase, hawaiting, Note.overtakings]
    by_cases hwaits : index ∈ Note.waiting ref notes
    · have hpos := List.length_pos_of_mem hwaits
      simp only [hwaits, if_true, not_true_eq_false, false_and, and_false, if_false]
      omega
    · by_cases hnone : Note.waiting ref notes = []
      · simp [hnone]
      · -- this reply overtakes
        simp only [hwaits, hnone, if_false, not_false_eq_true, ne_eq, and_self, if_true]
        omega

end Tallies

/-! ## The count along a diary -/

/-- The outcome of a branch that does not wait for a reply leaves the count as it is. -/
theorem BranchEnd.awaiting_of_acceptance {e : BranchEnd} (h : ¬ e.Awaits) (ev : Evaluator)
    (b : Buffer) : (b.performAll (e.gathering.scatter.acceptance e.index e.message e.reply.verdict
      ev).toList).awaiting = b.awaiting := by
  obtain ⟨cause, hbroken⟩ | hawaits | ⟨op, hop, hsettles⟩ :=
    e.gathering.scatter.acceptance_cases e.index e.message e.reply.verdict ev
  · rw [hbroken]
    rfl
  · exact absurd hawaits h
  · rw [hop]
    exact Buffer.awaiting_perform_of_settles hsettles

namespace Traffic

variable {past : List RunEvent} {notes : List Note} {t t' : Traffic} {e : Option RunEvent}
  {note : Option Note} {ref : Nat} {buffer : Buffer}

/-- What the notes say of the run with the buffer `ref`. -/
def Tally (t : Traffic) (ref : Nat) (notes : List Note) (buffer : Buffer) : Prop :=
  Tallies ref notes (fun i => (ref, i) ∈ t.openBranches) buffer

/-- A step leaves the count as the notes say. -/
theorem Noted.tally (hs : Noted t e note t') (hpast : History past t)
    (hb : t.bus.buffer? ref = some buffer) (h : t.Tally ref notes buffer) :
    ∃ buffer', t'.bus.buffer? ref = some buffer' ∧ t'.Tally ref (note.toList ++ notes) buffer' := by
  have hless (i : Nat) (hopen : (ref, i) ∈ t'.openBranches) : (ref, i) ∈ t.openBranches := by
    have hcount := hs.step.count_openBranches_of_lt (i := i) (lt_of_buffer? hb)
    exact List.count_pos_iff.1 (Nat.lt_of_lt_of_le (List.count_pos_iff.2 hopen) hcount)
  cases hs with
  | @move b b' f f' before after hstep =>
    cases hend : f.branchEnd? with
    | none =>
      obtain ⟨ops, hops, hb'⟩ := Flow.buffer?_of_step hb hend hstep
      obtain ⟨hsettled, hawaiting⟩ := Buffer.performAll_of_not_contributes (b := buffer) hops
      have hnote : f.note? = none := by rw [Flow.note?, hend]; rfl
      rw [hnote]
      exact ⟨_, hb', h.mono hless hsettled hawaiting⟩
    | some finish =>
      have hbuffers := Flow.buffers_of_branchEnd hend hstep
      have hnote : f.note? = finish.note? := by rw [Flow.note?, hend]; rfl
      rw [hnote, Bus.buffer?, hbuffers, ← Bus.buffer?, buffer?_updateBuffer, hb]
      by_cases hrun : finish.gathering.buffer = ref
      · subst hrun
        rw [if_pos rfl]
        refine ⟨_, rfl, ?_⟩
        -- the branch was open, and is not any more
        have hopen : finish.key ∈ (⟨b, before ++ f :: after⟩ : Traffic).openBranches :=
          List.mem_flatMap.2 ⟨f, by simp, Flow.key_mem_openBranches hend⟩
        have hover : finish.key ∉ (⟨b', before ++ f' :: after⟩ : Traffic).openBranches := by
          have hone := hpast.count_openBranches finish.gathering.buffer finish.index
          have hgone := count_of_branchEnd before after hend hstep
          exact List.count_eq_zero.1 (Nat.lt_one_iff.1 (Nat.lt_of_lt_of_le hgone hone))
        by_cases hawaits : finish.Awaits
        · rw [BranchEnd.note?_eq_some.2 ⟨hawaits, rfl⟩]
          have hoperation : finish.gathering.scatter.acceptance finish.index finish.message
              finish.reply.verdict b.evaluator = some (.markAwaiting finish.index) := by
            simp [Scatter.acceptance, hawaits.1, hawaits.2]
          rw [hoperation]
          exact h.stop hopen hless hover
        · have hnone : finish.note? = none := by
            rw [Option.eq_none_iff_forall_ne_some]
            exact fun note hnote => hawaits (BranchEnd.note?_eq_some.1 hnote).1
          rw [hnone]
          exact h.settle hopen hless hover (fun i hi => Buffer.mem_settled_performAll hi _)
            (fun i hi => Scatter.settles_of_acceptance hi)
            (BranchEnd.awaiting_of_acceptance hawaits b.evaluator buffer)
      · rw [if_neg hrun]
        refine ⟨buffer, rfl, ?_⟩
        cases hstop : finish.note? with
        | none => exact h.mono hless rfl rfl
        | some note =>
          obtain ⟨-, rfl⟩ := BranchEnd.note?_eq_some.1 hstop
          exact (h.mono hless rfl rfl).other hrun
  | @reply b flows s m =>
    cases hnote : s.note? m b with
    | none =>
      rw [Scatter.deliver_of_note? hnote]
      exact ⟨buffer, hb, h⟩
    | some note =>
      obtain ⟨ref', index, taken, rfl, hanswers, htaken, hadmits⟩ := Scatter.note?_eq_some.1 hnote
      obtain ⟨buffer', hrun, hawaiting, hsettled⟩ :=
        Scatter.deliver_of_answersFor hanswers htaken hadmits
      rw [buffer?_of_runState hrun, buffer?_updateBuffer, hb]
      by_cases href : ref' = ref
      · subst href
        obtain rfl : buffer = taken := Option.some.inj (hb.symm.trans htaken)
        rw [if_pos rfl]
        exact ⟨buffer', rfl, h.reply hsettled hawaiting⟩
      · rw [if_neg href]
        exact ⟨buffer, rfl, h.other href⟩
  | aside hstep hbuffers hflows =>
    refine ⟨buffer, ?_, h.mono hless rfl rfl⟩
    rw [Bus.buffer?, hbuffers]
    exact hb

/-- The count of a run is as the notes say. -/
theorem Diary.tally (h : Diary past notes t) {s : Scatter} {targets : List Mediator} {m : Message}
    {b : Bus} {g : Gathering} (hbegan : .began s targets m b g ∈ past) :
    ∃ buffer, t.bus.buffer? g.buffer = some buffer ∧ t.Tally g.buffer notes buffer := by
  induction h with
  | fresh hbuffers haggregators hrung => simp at hbegan
  | @step past notes t t' e note h hs ih =>
    rcases List.mem_append.1 hbegan with hbegan | hnow
    · obtain ⟨buffer, hb, htally⟩ := ih hbegan
      exact hs.tally h.history hb htally
    · -- the run begins, and no note before was about it
      rw [Option.mem_toList] at hnow
      cases hnow
      have hother : ∀ noted ∈ note.toList ++ notes, noted.ref ≠ g.buffer := by
        rw [hs.step.buffer_of_began]
        intro noted hmem
        rcases List.mem_append.1 hmem with hmem | hmem
        · rw [Option.mem_toList] at hmem
          cases hmem
          exact Nat.ne_of_lt (hs.buffer_lt h.history)
        · exact Nat.ne_of_lt (h.buffer_lt noted hmem)
      exact ⟨_, hs.step.opened,
        .begun (Note.stopped_eq_nil hother) rfl (Note.replied_eq_nil hother) rfl⟩

variable {s : Scatter} {targets : List Mediator} {m : Message} {b : Bus} {g : Gathering}

/-- The branches of a run that wait for their replies: they have stopped, and are neither
results nor excluded. The buffer counts them all unless a reply has overtaken, and never more.
Where the count is right, the next reply keeps it so exactly if it is taken for a branch that
waits, or if none does. -/
theorem Diary.awaits (h : Diary past notes t) (hbegan : .began s targets m b g ∈ past) :
    ∃ buffer, t.bus.buffer? g.buffer = some buffer ∧
      (1 ≤ targets.length → (∀ r ∈ past.filterMap RunEvent.ended, r.buffer ≠ g.buffer) →
        ∃ excluded, buffer.Accounts excluded) ∧
      (buffer.unsettled (Note.stopped g.buffer notes)).Nodup ∧
      buffer.awaiting ≤ (buffer.unsettled (Note.stopped g.buffer notes)).length ∧
      (buffer.unsettled (Note.stopped g.buffer notes)).length ≤
        buffer.awaiting + Note.overtakings g.buffer notes ∧
      ∀ (s' : Scatter) (reply : Message) (index : Nat),
        s'.note? reply t.bus = some (.reply g.buffer index) →
        ∃ buffer', (s'.deliver reply t.bus).2.buffer? g.buffer = some buffer' ∧
          index ∉ buffer.settled ∧ buffer'.settled = index :: buffer.settled ∧
          (buffer.awaiting = (buffer.unsettled (Note.stopped g.buffer notes)).length →
            (buffer'.awaiting = (buffer'.unsettled (Note.stopped g.buffer notes)).length ↔
              index ∈ buffer.unsettled (Note.stopped g.buffer notes) ∨
                buffer.unsettled (Note.stopped g.buffer notes) = [])) := by
  obtain ⟨buffer, hb, htally⟩ := h.tally hbegan
  refine ⟨buffer, hb, fun htargets hended => ?_, htally.distinct.filter _,
    htally.waiting_eq ▸ htally.least,
    htally.waiting_eq ▸ htally.most, fun s' reply index hnote => ?_⟩
  · obtain ⟨ops, hops, hcontributes⟩ := h.history.buffer? hbegan
    obtain rfl := Option.some.inj (hops.symm.trans hb)
    exact ⟨_, (Buffer.Accounts.opened g.correlation htargets).performAll
      (Buffer.not_empties (hcontributes hended))⟩
  · obtain ⟨ref, index', taken, hsame, hanswers, htaken, hadmits⟩ := Scatter.note?_eq_some.1 hnote
    obtain ⟨rfl, rfl⟩ := Note.reply.inj hsame
    obtain rfl : buffer = taken := Option.some.inj (hb.symm.trans htaken)
    obtain ⟨buffer', hrun, hawaiting, hsettled⟩ :=
      Scatter.deliver_of_answersFor hanswers hb hadmits
    refine ⟨buffer', ?_, (Buffer.admits_iff.1 hadmits).2, hsettled, fun hexact => ?_⟩
    · rw [buffer?_of_runState hrun, buffer?_updateBuffer, if_pos rfl, hb, Option.map_some]
    · have hafter : buffer'.unsettled (Note.stopped g.buffer notes) =
          (buffer.unsettled (Note.stopped g.buffer notes)).erase index := by
        rw [Buffer.unsettled, hsettled, Note.without_cons htally.distinct, Buffer.unsettled]
      rw [hafter, hawaiting, hexact, List.length_erase]
      by_cases hmem : index ∈ buffer.unsettled (Note.stopped g.buffer notes)
      · simp [hmem]
      · simp only [hmem, if_false, false_or, ← List.length_eq_zero_iff]
        omega

/-! ## Replies in order and out of order

Two offers are asked for, and both calls are handed off. The reply for the second one comes
after its branch has stopped, or before. -/

namespace Priced

def entry : Flow := .busy request (.mediate (.scatter offers [(none, ask), (none, ask)])) []

/-- The first branch waits, and the second one has handed its call off. -/
def asked : Flow × Bus × List RunEvent := advance 16 entry start

/-- Both branches wait. -/
def stopped : Flow × Bus × List RunEvent := advance 17 entry start

/-- A reply for the second branch. -/
def second : Message := priced.setProperty Property.branchIndex (.int 1)

theorem diary_entry : Diary [] [] ⟨start, [entry]⟩ := by
  have h₀ : Diary [] [] ⟨start, []⟩ := .fresh rfl rfl (Nat.le_refl _)
  exact h₀.step (.aside (.start [] request _ []) rfl (.inr ⟨_, _, _, rfl⟩))

theorem diary_stopped : Diary [.began offers [ask, ask] request start run]
    [.stop 0 1, .stop 0 0] ⟨stopped.2.1, [stopped.1]⟩ :=
  diary_entry.advance [] [] 17

theorem diary_asked : Diary [.began offers [ask, ask] request start run]
    [.stop 0 0] ⟨asked.2.1, [asked.1]⟩ :=
  diary_entry.advance [] [] 16

/-- The second branch stops after its reply has come. -/
def overtaken : Flow × Bus × List RunEvent := advance 1 asked.1 (offers.deliver second asked.2.1).2

theorem diary_overtaken : Diary [.began offers [ask, ask] request start run]
    [.stop 0 1, .reply 0 1, .stop 0 0] ⟨overtaken.2.1, [overtaken.1]⟩ := by
  have hreply := diary_asked.step (.reply [asked.1] offers second)
  exact Diary.advance [] [] hreply 1

/-- Both branches have stopped before the reply for the second one comes. -/
theorem awaits_in_order : (stopped.2.1.buffer? 0).map Buffer.awaiting = some 2 ∧
    ((offers.deliver second stopped.2.1).2.buffer? 0).map Buffer.awaiting = some 1 := by
  obtain ⟨buffer, hb, -, -, hleast, hmost, hnext⟩ :=
    Diary.awaits diary_stopped List.mem_cons_self
  have hfresh : (stopped.2.1.buffer? 0).map Buffer.settled = some [] := rfl
  have hsettled : buffer.settled = [] :=
    Option.some.inj ((congrArg (Option.map Buffer.settled) hb).symm.trans hfresh)
  have hwaiting : buffer.unsettled (Note.stopped run.buffer [.stop 0 1, .stop 0 0]) = [1, 0] := by
    rw [Buffer.unsettled, hsettled]
    rfl
  rw [hwaiting] at hleast hmost
  have hcount : buffer.awaiting = 2 := Nat.le_antisymm hleast hmost
  obtain ⟨buffer', hb', -, hsettled', hexact⟩ := hnext offers second 1 rfl
  have hlater : buffer'.unsettled (Note.stopped run.buffer [.stop 0 1, .stop 0 0]) = [0] := by
    rw [Buffer.unsettled, hsettled', hsettled]
    rfl
  rw [hwaiting, hlater] at hexact
  have hcount' : buffer'.awaiting = 1 := (hexact hcount).2 (.inl List.mem_cons_self)
  exact ⟨(congrArg (Option.map Buffer.awaiting) hb).trans (congrArg some hcount),
    (congrArg (Option.map Buffer.awaiting) hb').trans (congrArg some hcount')⟩

end Priced

open Priced in
/-- A buffer may await nothing while a branch waits: the reply for another branch was taken
before that one had stopped. -/
theorem early_reply_miscounts : ∃ (past : List RunEvent) (notes : List Note) (t : Traffic)
      (s : Scatter) (targets : List Mediator) (m : Message) (b : Bus) (g : Gathering)
      (buffer : Buffer),
    Diary past notes t ∧ .began s targets m b g ∈ past ∧ targets.length = 2 ∧
    notes = [.stop g.buffer 1, .reply g.buffer 1, .stop g.buffer 0] ∧
    t.bus.buffer? g.buffer = some buffer ∧ buffer.isClosed = false ∧ buffer.settled = [1] ∧
    buffer.unsettled (Note.stopped g.buffer notes) = [0] ∧ buffer.awaiting = 0 := by
  obtain ⟨buffer, hb⟩ : ∃ buffer, overtaken.2.1.buffer? 0 = some buffer := ⟨_, rfl⟩
  have hstate : (overtaken.2.1.buffer? 0).map (fun b => (b.isClosed, b.settled, b.awaiting)) =
      some (false, [1], 0) := rfl
  obtain ⟨hopen, hsettled, hawaiting⟩ :
      buffer.isClosed = false ∧ buffer.settled = [1] ∧ buffer.awaiting = 0 := by
    simpa [hb] using hstate
  refine ⟨_, _, _, offers, [ask, ask], request, start, run, buffer, diary_overtaken,
    List.mem_cons_self, rfl, rfl, hb, hopen, hsettled, ?_, hawaiting⟩
  rw [Buffer.unsettled, hsettled]
  rfl

/-- The only branch stops while its reply is on the way into the buffer: the reply found nothing
to count off, and the branch was not settled yet. In the end it is, and is counted. -/
theorem surrounded_stop_miscounts : ∃ (correlation : String) (limits : BufferLimits)
      (desk : Buffer.Desk) (d : Buffer.Delivery),
    Buffer.Desk.Reached (· ≠ .take) (Buffer.opened correlation limits) desk ∧
    desk.deliveries = [(d, .answered .accepted true)] ∧ d.branch = 0 ∧
    desk.buffer.unsettled [0] = [] ∧ desk.buffer.awaiting = 1 := by
  let d : Buffer.Delivery := ⟨0, .fault⟩
  have taken : Buffer.Desk.Reached (· ≠ .take) (Buffer.opened "x" ⟨1, none, none⟩)
      ⟨Buffer.opened "x" ⟨1, none, none⟩, [(d, .taken)]⟩ :=
    ((Buffer.Desk.Reached.fresh.step (.arrive d)).step (.proceed [] [] d .arrived)).step
      (.proceed [] [] d .admitted)
  have stopped := taken.step (.perform (.markAwaiting 0) Buffer.Operation.noConfusion)
  exact ⟨"x", ⟨1, none, none⟩, _, d, stopped.step (.proceed [] [] d .taken), rfl, rfl, rfl, rfl⟩

end Traffic

end ServiceBus
