import ServiceBus.Proofs.Definition.Fields

/-
ServiceBus.Proofs.Definition.Keys — which policy keys survive being written.

The key of a security policy is a text, so its literals and its expressions are both
written as texts, and nothing in a written literal says that it is one. What is read back
is decided by the text alone (`Policy.ofKey`): braces make it an expression, and blanks
around a literal are lost.

`Policy.Clear` is the condition under which a literal is spared. It is necessary and
sufficient (`read_write_iff_clear`), and it also tells when two fields are written alike:
only a literal in braces and the expression between them are (`write_eq_write`).
-/
namespace ServiceBus.Policy

variable {p q : Policy String} {s t e : String}

/-- A literal text that can be told from an expression, with nothing around it to lose. -/
structure Clear (s : String) : Prop where
  trimmed : Text.trimmed s = s
  unbraced : ∀ e, s ≠ brace e

/-- A literal that is written as an expression is. -/
def Masks (p q : Policy String) : Prop := ∃ e, p = .literal (brace e) ∧ q = .expression e

/-! ## What a text stands for -/

theorem brace_inj {e e' : String} (h : brace e = brace e') : e = e' := by
  have hlist := congrArg String.toList h
  rw [toList_brace, toList_brace] at hlist
  exact String.toList_inj.1 (List.append_cancel_right (List.cons.inj hlist).2)

/-- A text stands in braces if it is an expression's text once the blanks are off. -/
theorem unbrace_eq_some_iff {cs : List Char} :
    unbrace s.toList = some cs ↔ Text.trimmed s = brace (String.ofList cs) := by
  rw [unbrace_eq_some, ← String.toList_inj, toList_brace, Text.trimmed, String.toList_ofList,
    String.toList_ofList]

/-- A text is an expression or a literal, by whether it stands in braces. -/
theorem ofKey_cases (s : String) :
    (∃ e, Text.trimmed s = brace e ∧ ofKey s = .expression e) ∨
      ((∀ e, Text.trimmed s ≠ brace e) ∧ ofKey s = .literal (Text.trimmed s)) := by
  unfold ofKey
  cases h : unbrace s.toList with
  | some cs => exact .inl ⟨_, unbrace_eq_some_iff.1 h, rfl⟩
  | none =>
    refine .inr ⟨fun e hbrace => ?_, rfl⟩
    have hsome : unbrace s.toList = some e.toList := by
      rw [unbrace_eq_some_iff, String.ofList_toList, hbrace]
    simp [h] at hsome

theorem ofKey_eq_expression : ofKey s = .expression e ↔ Text.trimmed s = brace e := by
  obtain ⟨e', hbrace, hkey⟩ | ⟨hbrace, hkey⟩ := ofKey_cases s
  · rw [hkey, hbrace, expression.injEq]
    exact ⟨congrArg brace, brace_inj⟩
  · rw [hkey]
    exact iff_of_false (by simp) (hbrace e)

theorem ofKey_eq_literal :
    ofKey s = .literal t ↔ (∀ e, Text.trimmed s ≠ brace e) ∧ t = Text.trimmed s := by
  obtain ⟨e, hbrace, hkey⟩ | ⟨hbrace, hkey⟩ := ofKey_cases s
  · rw [hkey]
    exact iff_of_false (by simp) fun h => h.1 e hbrace
  · rw [hkey, literal.injEq, eq_comm]
    exact ⟨fun h => ⟨hbrace, h⟩, fun h => h.2⟩

theorem ofKey_eq_self : ofKey s = .literal s ↔ Clear s := by
  rw [ofKey_eq_literal]
  constructor
  · rintro ⟨hbrace, hs⟩
    exact ⟨hs.symm, hs.symm ▸ hbrace⟩
  · intro h
    exact ⟨h.trimmed.symm ▸ h.unbraced, h.trimmed.symm⟩

/-! ## What is read back -/

theorem read_write_literal_text (s : String) :
    Policy.read (Policy.write (.literal s)) = .ok (ofKey s) :=
  read_write_text (.literal s)

theorem read_write_iff_clear : Policy.read p.write = .ok p ↔ ∀ s, p = .literal s → Clear s := by
  cases p with
  | literal s =>
    rw [read_write_literal_text, Except.ok.injEq, ofKey_eq_self]
    exact ⟨fun h _ hs => literal.inj hs ▸ h, fun h => h s rfl⟩
  | expression e => exact iff_of_true (read_write_expression e) (by simp)

theorem write_eq_write : p.write = q.write ↔ p = q ∨ Masks p q ∨ Masks q p := by
  constructor
  · intro h
    match p, q, h with
    | .literal s, .literal t, h => exact .inl (congrArg literal (Value.text.inj h))
    | .literal s, .expression e, h =>
      exact .inr (.inl ⟨e, congrArg literal (Value.text.inj h), rfl⟩)
    | .expression e, .literal s, h =>
      exact .inr (.inr ⟨e, congrArg literal (Value.text.inj h).symm, rfl⟩)
    | .expression e, .expression e', h =>
      exact .inl (congrArg expression (brace_inj (Value.text.inj h)))
  · rintro (rfl | ⟨e, rfl, rfl⟩ | ⟨e, rfl, rfl⟩) <;> rfl

theorem read_write_eq_expression :
    Policy.read p.write = .ok (.expression e : Policy String) ↔
      p = .expression e ∨ ∃ s, p = .literal s ∧ Text.trimmed s = brace e := by
  cases p with
  | literal s => simp [read_write_literal_text, ofKey_eq_expression]
  | expression e' => simp [read_write_expression]

theorem read_write_eq_literal :
    Policy.read p.write = .ok (.literal t) ↔
      ∃ s, p = .literal s ∧ (∀ e, Text.trimmed s ≠ brace e) ∧ t = Text.trimmed s := by
  cases p with
  | literal s => simp [read_write_literal_text, ofKey_eq_literal]
  | expression e => simp [read_write_expression]

/-- A policy key can be read once it is written, and what was read does not change again. It comes
back as it was if it is an expression or a clear literal, and only then. Any other literal comes
back without the blanks around it, and as an expression if it then stands in braces. Another key
is written alike only if one of the two is an expression, and the other is the literal that spells
it out. -/
theorem key_read_back (p : Policy String) :
    (∃ q : Policy String, Policy.read p.write = .ok q ∧ Policy.read q.write = .ok q) ∧
    (Policy.read p.write = .ok p ↔ ∀ s, p = .literal s → Clear s) ∧
    (∀ e, Policy.read p.write = .ok (.expression e : Policy String) ↔
      p = .expression e ∨ ∃ s, p = .literal s ∧ Text.trimmed s = brace e) ∧
    (∀ t, Policy.read p.write = .ok (.literal t) ↔
      ∃ s, p = .literal s ∧ (∀ e, Text.trimmed s ≠ brace e) ∧ t = Text.trimmed s) ∧
    ∀ q : Policy String, p.write = q.write ↔ p = q ∨ Masks p q ∨ Masks q p := by
  have hread : Policy.read p.write = .ok p.reread := read_write_text p
  have hagain : Policy.read p.reread.write = .ok p.reread := by
    rw [read_write_text, reread_of_read hread]
  exact ⟨⟨p.reread, hread, hagain⟩, read_write_iff_clear, fun _ => read_write_eq_expression,
    fun _ => read_write_eq_literal, fun _ => write_eq_write⟩

/-- A literal loses the blanks around it, and one in braces comes back as an expression, which is
written like it. -/
theorem key_not_read_back :
    Policy.read (Policy.write (.literal " conf:/key.xml ")) = .ok (.literal "conf:/key.xml") ∧
    Policy.read (Policy.write (.literal "\x7b$\x7bprops.key\x7d\x7d")) =
      .ok (.expression "$\x7bprops.key\x7d" : Policy String) ∧
    Policy.write (.literal "\x7b$\x7bprops.key\x7d\x7d") =
      Policy.write (.expression "$\x7bprops.key\x7d" : Policy String) ∧
    ¬ ∀ p : Policy String, Policy.read p.write = .ok p := by
  have hblanks :
      Policy.read (Policy.write (.literal " conf:/key.xml ")) = .ok (.literal "conf:/key.xml") := by
    decide
  refine ⟨hblanks, by decide, rfl, fun hall => ?_⟩
  have hsame := (hall (.literal " conf:/key.xml ")).symm.trans hblanks
  exact absurd hsame (by decide)

end ServiceBus.Policy
