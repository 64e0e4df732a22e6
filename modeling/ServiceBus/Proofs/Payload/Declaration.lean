import ServiceBus.Aggregation.Run
import ServiceBus.Proofs.Text.Cutting

/-
ServiceBus.Proofs.Payload.Declaration — what an XML body loses on its way into an aggregate.

A declaration would have no place in the middle of the aggregate, so the fragment of a body
goes without it. `Declares` is the declaration: the name `xml` ends with a blank. Recognition
stops before that and looks for `<?xml` only, so an instruction that has a longer name is
taken for a declaration as well (`Resembles`), and its content is lost
(`stylesheet_dropped`). `Scatter.merge_drops` says exactly what a body loses; a body that
begins with neither is kept whole.
-/
namespace ServiceBus

open Text

namespace Payload

variable {cs body inside rest : List Char}

/-- The body begins with `<?xml` and goes on with `rest` behind the first `?>`. -/
def Opens (body inside rest : List Char) : Prop :=
  FirstAt "?>".toList body ("<?xml".toList ++ inside) rest

/-- The body begins with an XML declaration, behind which it goes on with `rest`. -/
def Declares (body rest : List Char) : Prop :=
  ∃ c inside, isBlank c = true ∧ Opens body (c :: inside) rest

/-- The body begins with an instruction that is no declaration, but whose name begins like
one, and goes on with `rest` behind it. -/
def Resembles (body rest : List Char) : Prop :=
  ∃ inside, (∀ c ∈ inside.head?, isBlank c = false) ∧ Opens body inside rest

theorem declares_or_resembles :
    Declares body rest ∨ Resembles body rest ↔ ∃ inside, Opens body inside rest := by
  constructor
  · rintro (⟨c, inside, -, h⟩ | ⟨inside, -, h⟩)
    · exact ⟨c :: inside, h⟩
    · exact ⟨inside, h⟩
  · rintro ⟨inside, h⟩
    cases inside with
    | nil => exact .inr ⟨[], by simp, h⟩
    | cons c inside =>
      cases hc : isBlank c with
      | true => exact .inl ⟨c, inside, hc, h⟩
      | false => exact .inr ⟨c :: inside, by simpa using hc, h⟩

/-- The end is not found inside of `<?xml`, as the two have no text in common. -/
theorem opens_of_firstAt {front : List Char} (hbegins : "<?xml".toList <+: body)
    (h : FirstAt "?>".toList body front rest) : ∃ inside, Opens body inside rest := by
  obtain ⟨behind, rfl⟩ := hbegins
  -- it does not stand at any of the five characters
  have hpast : ∃ inside, front = '<' :: '?' :: 'x' :: 'm' :: 'l' :: inside ∧
      FirstAt "?>".toList behind inside rest := by
    simpa [firstAt_cons] using h
  obtain ⟨inside, rfl, -⟩ := hpast
  exact ⟨inside, h⟩

theorem Opens.length_lt (h : Opens body inside rest) : rest.length < body.length := by
  have hlength := congrArg List.length h.whole
  simp only [String.reduceToList, List.length_append, List.length_cons] at hlength
  omega

theorem dropDeclaration_of_opens (hbody : body = trim cs) (h : Opens body inside rest) :
    dropDeclaration cs = trimStart rest := by
  have hbegins : after? "<?xml".toList body = some (inside ++ ("?>".toList ++ rest)) := by
    rw [after?_eq_some, h.whole, List.append_assoc]
  simp only [dropDeclaration, ← hbody, hbegins, splitAtPattern_eq_some.2 h]

theorem dropDeclaration_eq_trim (hbody : body = trim cs)
    (h : ∀ inside rest, ¬ Opens body inside rest) : dropDeclaration cs = body := by
  simp only [dropDeclaration, ← hbody]
  cases hbegins : after? "<?xml".toList body with
  | none => rfl
  | some behind =>
    cases hsplit : splitAtPattern "?>".toList body with
    | none => rfl
    | some sides =>
      have hprefix : "<?xml".toList <+: body := ⟨behind, (after?_eq_some.1 hbegins).symm⟩
      obtain ⟨inside, hopens⟩ := opens_of_firstAt hprefix (splitAtPattern_eq_some.1 hsplit)
      exact absurd hopens (h inside sides.2)

/-- Behind its beginning a body without blanks around it has blanks in front at most. -/
theorem bare_trimStart (hlast : ∀ c ∈ body.getLast?, isBlank c = false) (h : rest <:+ body) :
    Bare rest (trimStart rest) := by
  have hend : ∀ c ∈ (trimStart rest).getLast?, isBlank c = false := by
    intro c hc
    obtain ⟨front, hfront⟩ := (List.dropWhile_suffix isBlank).trans h
    refine hlast c ?_
    rw [← hfront, List.getLast?_append, ← trimStart, hc, Option.some_or, Option.mem_some]
  rw [bare_iff, trim, trimEnd_eq_self hend]

end Payload

namespace Scatter

open Payload

/-- In an aggregate an XML body stands without the blanks around it. If it begins with a
declaration, what stands there is only what follows, without the blanks in front; and so it is if
the body begins with an instruction that has a name beginning like that of a declaration. Any
other body is there as a whole, and no body that begins so is. -/
theorem merge_drops (text : String) :
    (∃ body, Bare text.toList body) ∧ ∀ body, Bare text.toList body →
      (∀ rest, Declares body rest ∨ Resembles body rest →
        Bare rest (Payload.xml text).xmlFragment.toList) ∧
      ((Payload.xml text).xmlFragment.toList = body ↔
        ∀ rest, ¬ Declares body rest ∧ ¬ Resembles body rest) ∧
      ∀ (root : String) (before after : List BranchResult) (branch : Nat),
        ∃ joined, merge (.xml root) (before ++ ⟨branch, .xml text⟩ :: after) = .xml joined ∧
          joined.toList = ('<' :: root.toList ++ ['>']) ++
            before.flatMap (fun r => r.payload.xmlFragment.toList) ++
            (Payload.xml text).xmlFragment.toList ++
            after.flatMap (fun r => r.payload.xmlFragment.toList) ++
            ('<' :: '/' :: root.toList ++ ['>']) := by
  have hfragment : (Payload.xml text).xmlFragment.toList = dropDeclaration text.toList :=
    String.toList_ofList
  refine ⟨⟨_, bare_iff.2 rfl⟩, fun body hbare => ⟨fun rest h => ?_, ?_, ?_⟩⟩
  · obtain ⟨inside, hopens⟩ := declares_or_resembles.1 h
    have hbehind : rest <:+ body := by
      rw [hopens.whole]
      exact (List.suffix_append _ rest).trans (List.suffix_append _ _)
    rw [hfragment, dropDeclaration_of_opens (bare_iff.1 hbare) hopens]
    exact bare_trimStart hbare.last hbehind
  · have hnone : (∀ rest, ¬ Declares body rest ∧ ¬ Resembles body rest) ↔
        ∀ inside rest, ¬ Opens body inside rest := by
      simp only [← not_or, declares_or_resembles, not_exists]
      exact forall_comm
    rw [hnone, hfragment]
    constructor
    · intro hsame inside rest hopens
      -- what follows the end is shorter than the body
      rw [dropDeclaration_of_opens (bare_iff.1 hbare) hopens] at hsame
      have hshorter : (trimStart rest).length ≤ rest.length :=
        (List.dropWhile_suffix isBlank).length_le
      rw [hsame] at hshorter
      exact absurd hopens.length_lt (Nat.not_lt.2 hshorter)
    · exact dropDeclaration_eq_trim (bare_iff.1 hbare)
  · intro root before after branch
    refine ⟨_, rfl, ?_⟩
    simp [String.toList_join, List.flatMap_map]

/-- A declaration goes, and a body without one stays as it is. -/
theorem merge_drops_declaration :
    (Payload.xml "<?xml version='1.0'?>\n<quote>42</quote> ").xmlFragment = "<quote>42</quote>" ∧
      (Payload.xml "<?php echo 42 ?>").xmlFragment = "<?php echo 42 ?>" := by
  constructor
  · obtain ⟨-, h⟩ := merge_drops "<?xml version='1.0'?>\n<quote>42</quote> "
    obtain ⟨hdropped, -⟩ := h "<?xml version='1.0'?>\n<quote>42</quote>".toList
      (bare_iff.2 (by decide))
    have hdeclares : Declares "<?xml version='1.0'?>\n<quote>42</quote>".toList
        "\n<quote>42</quote>".toList :=
      ⟨' ', "version='1.0'".toList, by decide, splitAtPattern_eq_some.1 (by decide)⟩
    rw [← String.toList_inj, bare_iff.1 (hdropped _ (.inl hdeclares))]
    decide
  · obtain ⟨-, h⟩ := merge_drops "<?php echo 42 ?>"
    obtain ⟨-, hkept, -⟩ := h "<?php echo 42 ?>".toList (bare_iff.2 (by decide))
    rw [← String.toList_inj, hkept]
    intro rest
    rw [← not_or, declares_or_resembles]
    rintro ⟨inside, hopens⟩
    have hwhole := hopens.whole
    simp at hwhole

/-- The instruction that names the style sheet of a quote is no declaration, and is dropped. -/
theorem stylesheet_dropped :
    Bare "<?xml-stylesheet href='quote.xsl'?><quote>42</quote>".toList
        "<?xml-stylesheet href='quote.xsl'?><quote>42</quote>".toList ∧
      (∀ rest, ¬ Declares "<?xml-stylesheet href='quote.xsl'?><quote>42</quote>".toList rest) ∧
      (Payload.xml "<?xml-stylesheet href='quote.xsl'?><quote>42</quote>").xmlFragment =
        "<quote>42</quote>" := by
  refine ⟨bare_iff.2 (by decide), ?_, by decide⟩
  rintro rest ⟨c, inside, hc, hopens⟩
  have hname : c = '-' := by
    have hwhole := hopens.whole
    simp only [String.reduceToList, List.cons_append, List.nil_append, List.cons.injEq] at hwhole
    exact hwhole.2.2.2.2.2.1.symm
  rw [hname] at hc
  exact absurd hc (by decide)

end Scatter

end ServiceBus
