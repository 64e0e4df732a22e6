import Mathlib.Data.List.Forall2
import ServiceBus.ErrorCodes
import ServiceBus.Proofs.Decimal.Numerals
import ServiceBus.Proofs.Text.Cutting

/-
ServiceBus.Proofs.Definition.Codes — lists of error codes as texts.

A text is cut into words at commas and blanks, and each word has to be a code
(`ofText_eq_ok`). Neither a comma nor a blank occurs in a numeral, so the words of a written
list are its codes (`splits_toChars`) and the list can be read back.
`ofText_lists` puts this together, and says of any other text that it is refused as a whole.
-/
namespace ServiceBus.ErrorCodes

variable {w : List Char} {ws : List (List Char)} {code : Int32} {l : ErrorCodes} {s : String}

/-- A word is the numeral of a code. -/
def Spells (w : List Char) (code : Int32) : Prop := Decimal.Numeral w code.toInt

/-! ## One code -/

theorem holds_toInt (code : Int32) : Width.int32.holds code.toInt = true :=
  Width.holds_iff.2 ⟨code.le_toInt, Int.le_of_lt_add_one code.toInt_lt⟩

theorem readCode?_eq_some : readCode? w = some code ↔ Spells w code := by
  rw [readCode?, Option.map_eq_some_iff, Spells]
  constructor
  · rintro ⟨i, hread, rfl⟩
    obtain ⟨hnumeral, hholds⟩ := Decimal.readInteger?_eq_some.1 hread
    obtain ⟨hlow, hhigh⟩ := Width.holds_iff.1 hholds
    rwa [Int32.toInt_ofInt_of_le hlow (Int.lt_add_one_of_le hhigh)]
  · intro h
    exact ⟨code.toInt, Decimal.readInteger?_eq_some.2 ⟨h, holds_toInt code⟩, code.ofInt_toInt⟩

theorem spells_codeText (code : Int32) : Spells (codeText code) code :=
  Decimal.numeral_integerText code.toInt

/-- Nothing separates the characters of a code. -/
theorem Spells.free (h : Spells w code) : ∀ c ∈ w, isSeparator c = false := by
  have digit : ∀ d : Fin 10, isSeparator (Decimal.digitChar d) = false := by decide
  intro c hc
  obtain rfl | rfl | ⟨d, hd, rfl⟩ := Decimal.Numeral.mem h hc
  · decide
  · decide
  · exact digit ⟨d, hd⟩

/-! ## Lists -/

theorem mapM_readCode?_eq_some {codes : List Int32} :
    ws.mapM readCode? = some codes ↔ List.Forall₂ Spells ws codes := by
  induction ws generalizing codes with
  | nil => simp [eq_comm]
  | cons w ws ih =>
    simp only [List.mapM_cons, Option.bind_eq_bind, Option.bind_eq_some_iff, readCode?_eq_some, ih,
      Option.pure_def, Option.some.injEq]
    constructor
    · rintro ⟨code, hw, codes, hws, rfl⟩
      exact .cons hw hws
    · rintro (_ | ⟨hw, hws⟩)
      exact ⟨_, hw, _, hws, rfl⟩

theorem ofChars?_eq_some {cs : List Char} :
    ofChars? cs = some l ↔ List.Forall₂ Spells (Text.words isSeparator cs) l.codes := by
  rw [ofChars?, Option.map_eq_some_iff, ← mapM_readCode?_eq_some]
  constructor
  · rintro ⟨codes, hcodes, rfl⟩
    exact hcodes
  · intro h
    exact ⟨l.codes, h, rfl⟩

theorem ofText_eq_ok : ofText s = .ok l ↔ ofChars? s.toList = some l := by
  unfold ofText
  cases ofChars? s.toList <;> simp

/-- The words of a written list are its codes. -/
theorem splits_toChars : ∀ codes : List Int32,
    Text.Splits isSeparator (toChars codes) (codes.map codeText)
  | [] => .nil
  | [code] => by
      have h := spells_codeText code
      simpa [toChars] using Text.Splits.word h.ne_nil h.free (by simp) .nil
  | code :: next :: codes => by
      have h := spells_codeText code
      exact .word h.ne_nil h.free (by simp [isSeparator])
        (.separator (by decide) (splits_toChars (next :: codes)))

/-- A list of words can be read exactly if each of them can. -/
theorem exists_spells :
    (∃ codes, List.Forall₂ Spells ws codes) ↔ ∀ w ∈ ws, ∃ code, Spells w code := by
  induction ws with
  | nil => simp
  | cons w ws ih =>
    rw [List.forall_mem_cons, ← ih]
    constructor
    · rintro ⟨_, _ | ⟨hw, hws⟩⟩
      exact ⟨⟨_, hw⟩, _, hws⟩
    · rintro ⟨⟨code, hw⟩, codes, hws⟩
      exact ⟨code :: codes, .cons hw hws⟩

/-- A written list of codes is read back as it was. Every text consists of words between commas
and blanks, whatever mixture of these stands between them, and reads as the codes that the words
spell, in this order. It can be read exactly if each longest run without a comma or a blank spells
a code; otherwise it is refused as a whole. -/
theorem ofText_lists (l : ErrorCodes) (s : String) :
    ofText l.text = .ok l ∧
    ∃ ws, Text.Splits isSeparator s.toList ws ∧
      (∀ l', ofText s = .ok l' ↔ List.Forall₂ Spells ws l'.codes) ∧
      ((∃ l', ofText s = .ok l') ↔ ∀ before w after, s.toList = before ++ (w ++ after) →
        Text.IsWord isSeparator before w after → ∃ code, Spells w code) ∧
      ((∀ l', ofText s ≠ .ok l') → ofText s = .error (.refused
        ("The error codes should be specified as valid numbers separated by commas : " ++ s))) ∧
      ∀ s', Text.Splits isSeparator s'.toList ws →
        ∀ l', ofText s' = .ok l' ↔ ofText s = .ok l' := by
  have reads {s : String} {ws : List (List Char)} (h : Text.Splits isSeparator s.toList ws)
      (l : ErrorCodes) : ofText s = .ok l ↔ List.Forall₂ Spells ws l.codes := by
    rw [ofText_eq_ok, ofChars?_eq_some, h.eq_words]
  obtain ⟨ws, hws⟩ := Text.exists_splits isSeparator s.toList
  refine ⟨?_, ws, hws, reads hws, ?_, fun hnone => ?_, fun s' hs' l' => ?_⟩
  · have hwritten : Text.Splits isSeparator l.text.toList (l.codes.map codeText) := by
      rw [text, String.toList_ofList]
      exact splits_toChars l.codes
    rw [reads hwritten, List.forall₂_map_left_iff, List.forall₂_same]
    exact fun code _ => spells_codeText code
  · have hall : (∃ l', ofText s = .ok l') ↔ ∀ w ∈ ws, ∃ code, Spells w code := by
      rw [← exists_spells]
      constructor
      · rintro ⟨l', h⟩
        exact ⟨l'.codes, (reads hws l').1 h⟩
      · rintro ⟨codes, h⟩
        exact ⟨⟨codes⟩, (reads hws ⟨codes⟩).2 h⟩
    rw [hall]
    constructor
    · intro h before w after hs hword
      exact h w (hws.mem_iff.2 ⟨before, after, hs, hword⟩)
    · intro h w hw
      obtain ⟨before, after, hs, hword⟩ := hws.mem_iff.1 hw
      exact h before w after hs hword
  · unfold ofText at hnone ⊢
    cases hread : ofChars? s.toList with
    | none => rfl
    | some l' => simp [hread] at hnone
  · rw [reads hs', reads hws]

/-- Both limits, and one past the upper one. -/
theorem ofText_lists_limits :
    ofText (ErrorCodes.mk [2147483647, -2147483648]).text = .ok ⟨[2147483647, -2147483648]⟩ ∧
      ofText " +7,,\t-2147483648 " = .ok ⟨[7, -2147483648]⟩ ∧
      ofText "7, 2147483648" = .error (.refused
        "The error codes should be specified as valid numbers separated by commas : 7, 2147483648") := by
  refine ⟨(ofText_lists _ "").1, ?_, ?_⟩
  · obtain ⟨-, ws, hws, hreads, -⟩ := ofText_lists none " +7,,\t-2147483648 "
    have hwords : ws = ["+7".toList, "-2147483648".toList] := hws.eq_words.trans (by decide)
    subst hwords
    exact (hreads _).2 (.cons (readCode?_eq_some.1 (by decide))
      (.cons (readCode?_eq_some.1 (by decide)) .nil))
  · obtain ⟨-, ws, hws, hreads, -, hrefused, -⟩ := ofText_lists none "7, 2147483648"
    have hwords : ws = ["7".toList, "2147483648".toList] := hws.eq_words.trans (by decide)
    subst hwords
    refine hrefused fun l h => ?_
    have hspells := (hreads l).1 h
    rw [← mapM_readCode?_eq_some] at hspells
    have hnone : ["7".toList, "2147483648".toList].mapM readCode? = Option.none := by decide
    rw [hnone] at hspells
    cases hspells

end ServiceBus.ErrorCodes
