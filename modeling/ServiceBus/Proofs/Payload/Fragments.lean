import ServiceBus.Aggregation.Run

/-
ServiceBus.Proofs.Payload.Fragments — texts inside an XML aggregate.

A body that is no XML enters an aggregate as character data: `Payload.escape` writes the
five characters with a meaning in markup as entities. `Payload.unescape` is the way back.
It reads from left to right and takes every entity for its character once, so what an
entity stands for is not read again, and a text that looks like an entity itself comes
back as it was (`unescape_escape`).

`Payload.Inert` says of a fragment that it neither opens nor closes anything. It is kept
when fragments are put behind each other (`Inert.append`), and every character of a text
has such a fragment, so every text has one (`inert_escape`). `Scatter.merge_harmless`
says what follows for the aggregate of a run.
-/
namespace ServiceBus

namespace Payload

variable {c : Char} {cs rest : List Char}

/-! ## Entities -/

/-- The characters with a meaning in markup, each with its entity. -/
def entities : List (Char × List Char) :=
  [('<', "&lt;".toList), ('>', "&gt;".toList), ('&', "&amp;".toList), ('"', "&quot;".toList),
    ('\'', "&apos;".toList)]

/-- The text that character data stands for: every entity is taken for its character. -/
def unescape : List Char → List Char
  | '&' :: 'l' :: 't' :: ';' :: rest => '<' :: unescape rest
  | '&' :: 'g' :: 't' :: ';' :: rest => '>' :: unescape rest
  | '&' :: 'a' :: 'm' :: 'p' :: ';' :: rest => '&' :: unescape rest
  | '&' :: 'q' :: 'u' :: 'o' :: 't' :: ';' :: rest => '"' :: unescape rest
  | '&' :: 'a' :: 'p' :: 'o' :: 's' :: ';' :: rest => '\'' :: unescape rest
  | c :: rest => c :: unescape rest
  | [] => []

/-- A character is written as its entity, or it has none and stands for itself. -/
theorem escapeChar_cases (c : Char) :
    (c, escapeChar c) ∈ entities ∨ ((∀ e ∈ entities, e.1 ≠ c) ∧ escapeChar c = [c]) := by
  unfold escapeChar
  split
  · exact .inl (by decide)
  · exact .inl (by decide)
  · exact .inl (by decide)
  · exact .inl (by decide)
  · exact .inl (by decide)
  · next hlt hgt hamp hquot hapos =>
    refine .inr ⟨?_, rfl⟩
    simp only [entities, List.forall_mem_cons]
    exact ⟨Ne.symm hlt, Ne.symm hgt, Ne.symm hamp, Ne.symm hquot, Ne.symm hapos, by simp⟩

/-- Behind its first character an entity has no character with a meaning in markup. -/
theorem entity_spec {e : Char × List Char} (he : e ∈ entities) :
    ∃ name, e.2 = '&' :: name ∧ ∀ c ∈ name, ∀ e ∈ entities, e.1 ≠ c := by
  simp only [entities, List.mem_cons, List.not_mem_nil, or_false] at he
  obtain rfl | rfl | rfl | rfl | rfl := he
  · exact ⟨['l', 't', ';'], rfl, by simp [entities]⟩
  · exact ⟨['g', 't', ';'], rfl, by simp [entities]⟩
  · exact ⟨['a', 'm', 'p', ';'], rfl, by simp [entities]⟩
  · exact ⟨['q', 'u', 'o', 't', ';'], rfl, by simp [entities]⟩
  · exact ⟨['a', 'p', 'o', 's', ';'], rfl, by simp [entities]⟩

/-! ## The way back -/

theorem unescape_entity {e : Char × List Char} (he : e ∈ entities) (rest : List Char) :
    unescape (e.2 ++ rest) = e.1 :: unescape rest := by
  simp only [entities, List.mem_cons, List.not_mem_nil, or_false] at he
  obtain rfl | rfl | rfl | rfl | rfl := he <;> rfl

theorem unescape_cons (hc : c ≠ '&') (rest : List Char) :
    unescape (c :: rest) = c :: unescape rest := by
  rw [unescape.eq_def]
  split <;> simp_all

theorem unescape_escape (cs : List Char) : unescape (escape cs) = cs := by
  induction cs with
  | nil => rfl
  | cons c cs ih =>
    rw [escape, List.flatMap_cons, ← escape]
    obtain hentity | ⟨hplain, hc⟩ := escapeChar_cases c
    · rw [unescape_entity hentity, ih]
    · have hamp : c ≠ '&' := Ne.symm (hplain ('&', "&amp;".toList) (by decide))
      rw [hc, List.singleton_append, unescape_cons hamp, ih]

/-! ## Fragments without markup -/

/-- A fragment that neither opens nor closes anything: it has neither brackets nor quotation
marks, and `&` only where an entity begins. -/
structure Inert (cs : List Char) : Prop where
  unmarked : ∀ c ∈ cs, c ≠ '<' ∧ c ≠ '>' ∧ c ≠ '"' ∧ c ≠ '\''
  entity : ∀ before after, cs = before ++ '&' :: after → ∃ e ∈ entities, e.2 <+: '&' :: after

theorem inert_nil : Inert [] where
  unmarked := by simp
  entity := by simp

theorem Inert.append {cs' : List Char} (h : Inert cs) (h' : Inert cs') : Inert (cs ++ cs') where
  unmarked c hc := (List.mem_append.1 hc).elim (h.unmarked c) (h'.unmarked c)
  entity before after heq := by
    obtain ⟨behind, rfl, hbehind⟩ | ⟨behind, rfl, hbehind⟩ := List.append_eq_append_iff.1 heq
    · exact h'.entity behind after hbehind
    · cases behind with
      | nil => exact h'.entity [] after hbehind.symm
      | cons d behind =>
        obtain ⟨rfl, rfl⟩ := List.cons.inj hbehind
        obtain ⟨e, he, hprefix⟩ := h.entity before behind rfl
        exact ⟨e, he, hprefix.trans (List.prefix_append ('&' :: behind) cs')⟩

/-- What a character is written as is inert. -/
theorem inert_escapeChar (c : Char) : Inert (escapeChar c) := by
  -- a character without an entity is none of the five
  have plain {c : Char} (hc : ∀ e ∈ entities, e.1 ≠ c) :
      (c ≠ '<' ∧ c ≠ '>' ∧ c ≠ '"' ∧ c ≠ '\'') ∧ c ≠ '&' := by
    simp only [entities, List.forall_mem_cons] at hc
    exact ⟨⟨hc.1.symm, hc.2.1.symm, hc.2.2.2.1.symm, hc.2.2.2.2.1.symm⟩, hc.2.2.1.symm⟩
  obtain hentity | ⟨hc, hself⟩ := escapeChar_cases c
  · obtain ⟨name, hname, hbehind⟩ := entity_spec hentity
    have hname : escapeChar c = '&' :: name := hname
    constructor
    · intro d hd
      rw [hname] at hd
      obtain rfl | hd := List.mem_cons.1 hd
      · decide
      · exact (plain (hbehind d hd)).1
    · intro before after heq
      cases before with
      | nil => exact ⟨_, hentity, by rw [heq]; exact List.prefix_rfl⟩
      | cons d before =>
        -- behind the first one there is no other `&`
        obtain ⟨-, htail⟩ := List.cons.inj (hname.symm.trans heq)
        exact absurd rfl (plain (hbehind '&' (by simp [htail]))).2
  · rw [hself]
    constructor
    · simpa using (plain hc).1
    · intro before after heq
      cases before with
      | nil => exact absurd (List.cons.inj heq).1 (plain hc).2
      | cons d before => simp at heq

theorem inert_escape (cs : List Char) : Inert (escape cs) := by
  induction cs with
  | nil => exact inert_nil
  | cons c cs ih => exact (inert_escapeChar c).append ih

/-! ## Bodies -/

/-- What a body says that is no XML: a text itself, data in compact form. -/
inductive Says : Payload → String → Prop where
  | text (s : String) : Says (.text s) s
  | json (v : Value) : Says (.json v) v.compact

theorem Says.xmlFragment {body : Payload} {said : String} (h : body.Says said) :
    body.xmlFragment.toList = escape said.toList := by
  cases h with
  | text s => exact String.toList_ofList
  | json v => exact String.toList_ofList

end Payload

namespace Scatter

open Payload

/-- The results of a run joined as XML are the fragments of their bodies in order between the
two tags of the root. The fragment of a body that is no XML is inert, whatever the body
says, and can be read back as exactly that; so bodies that say different things have
different fragments. -/
theorem merge_harmless (root : String) (results : List BranchResult) :
    (∃ joined, merge (.xml root) results = .xml joined ∧
      joined.toList = ('<' :: root.toList ++ ['>']) ++
        results.flatMap (fun r => r.payload.xmlFragment.toList) ++
          ('<' :: '/' :: root.toList ++ ['>'])) ∧
    (∀ (body : Payload) (said : String), body.Says said →
      Inert body.xmlFragment.toList ∧ unescape body.xmlFragment.toList = said.toList) ∧
    ∀ (body body' : Payload) (said said' : String), body.Says said → body'.Says said' →
      said ≠ said' → body.xmlFragment ≠ body'.xmlFragment := by
  have reads {body : Payload} {said : String} (h : body.Says said) :
      unescape body.xmlFragment.toList = said.toList := by
    rw [h.xmlFragment, unescape_escape]
  refine ⟨⟨_, rfl, ?_⟩, fun body said h => ⟨?_, reads h⟩, ?_⟩
  · simp [String.toList_join, List.flatMap_map]
  · rw [h.xmlFragment]
    exact inert_escape said.toList
  · intro body body' said said' h h' hne hsame
    refine hne (String.toList_inj.1 ?_)
    rw [← reads h, ← reads h', hsame]

/-- A text with a bracket, and one that spells its entity out. -/
theorem merge_harmless_spelt_out :
    Inert (Payload.text "a < b").xmlFragment.toList ∧
      (Payload.text "a < b").xmlFragment ≠ (Payload.text "a &lt; b").xmlFragment ∧
      unescape (Payload.text "a &lt; b").xmlFragment.toList = "a &lt; b".toList := by
  obtain ⟨-, hsaid, hdiffer⟩ := merge_harmless "quotes" []
  obtain ⟨hinert, -⟩ := hsaid _ _ (.text "a < b")
  obtain ⟨-, hback⟩ := hsaid _ _ (.text "a &lt; b")
  exact ⟨hinert, hdiffer _ _ _ _ (.text _) (.text _) (by decide), hback⟩

end Scatter

end ServiceBus
