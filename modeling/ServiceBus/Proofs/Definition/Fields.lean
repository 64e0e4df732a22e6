import ServiceBus.Config.Check
import ServiceBus.Policy
import ServiceBus.Proofs.Text.Trimming

/-
ServiceBus.Proofs.Definition.Fields — policy fields, written and read again.

An expression is written in braces, and whatever its text is, it is read back as that
text (`Policy.read_write_expression`). A literal is written as its own value. Numbers,
actions and lists of codes are read back as they were; so are floating-point numbers
that may be factors, since only these are sure to have a value of their own.

A literal text is the exception: it is written bare, and what is read is what the text
stands for as a policy field (`Policy.ofKey`) — an expression if it stands in braces,
else the text without the blanks around it. `Policy.reread` says so of a whole field,
and a field that was read once does not change again (`Policy.reread_of_read`).
-/
namespace ServiceBus

/-! ## Numbers and codes -/

namespace Schema

theorem integer_of_holds {w : Width} {i : Int} (h : w.holds i = true) :
    integer w (.int i) = .ok i := by
  simp [integer, h]

theorem word64_toNat (n : UInt64) : word64 (.int n.toNat) = .ok n := by
  have hn : n.toNat < 2 ^ 64 := n.toNat_lt
  have hholds : Width.word64.holds (n.toNat : Int) = true := by
    rw [Width.holds_iff]
    constructor
    · exact Int.natCast_nonneg _
    · simp only [Width.word64]
      omega
  simp [word64, integer_of_holds hholds, Except.map]

theorem word32_toNat (n : UInt32) : word32 (.int n.toNat) = .ok n := by
  have hn : n.toNat < 2 ^ 32 := n.toNat_lt
  have hholds : Width.word32.holds (n.toNat : Int) = true := by
    rw [Width.holds_iff]
    constructor
    · exact Int.natCast_nonneg _
    · simp only [Width.word32]
      omega
  simp [word32, integer_of_holds hholds, Except.map]

theorem int32_toInt (n : Int32) : int32 (.int n.toInt) = .ok n := by
  have hlow : -2 ^ 31 ≤ n.toInt := n.le_toInt
  have hhigh : n.toInt < 2 ^ 31 := n.toInt_lt
  have hholds : Width.int32.holds n.toInt = true := by
    rw [Width.holds_iff]
    simp only [Width.int32]
    omega
  simp [int32, integer_of_holds hholds, Except.map]

/-- A list is read item by item. -/
theorem list_map {α : Type} {read : Value → Except SchemaError α} {write : α → Value}
    (h : ∀ a, read (write a) = .ok a) (items : List α) :
    list read (.list (items.map write)) = .ok items := by
  rw [list]
  induction items with
  | nil => rfl
  | cons a items ih =>
    rw [List.map_cons, List.mapM_cons, h a, ih]
    rfl

/-- A value that is not null is read as present. -/
theorem optional_of_read {α : Type} {read : Value → Except SchemaError α} {v : Value} {a : α}
    (hv : v.isNull = false) (h : read v = .ok a) : optional read v = .ok (some a) := by
  cases v with
  | null => simp [Value.isNull] at hv
  | _ => simp [optional, h, Except.map]

end Schema

theorem ErrorCodes.read_write (l : ErrorCodes) : read l.write = .ok l := by
  have hcodes := Schema.list_map Schema.int32_toInt l.codes
  simp only [read, write, hcodes]
  rfl

theorem Value.ofFloat_of_isFactor {x : Float} (h : Config.isFactor x = true) :
    ofFloat x = .real x := by
  simp only [Config.isFactor, Bool.and_eq_true] at h
  rw [ofFloat, if_pos h.1]

namespace Policy

/-! ## Braces -/

/-- A text stands in braces if, without the blanks around it, it begins with the one and ends with
the other. -/
theorem unbrace_eq_some {cs e : List Char} :
    unbrace cs = some e ↔ Text.trim cs = '\x7b' :: (e ++ ['\x7d']) := by
  unfold unbrace
  split
  · next rest hrest => rw [Text.before?_eq_some, hrest, List.cons.injEq]; simp
  · next hother =>
    constructor
    · intro h
      simp at h
    · intro h
      exact absurd h (hother _)

theorem unbrace_trim (cs : List Char) : unbrace (Text.trim cs) = unbrace cs := by
  rw [unbrace, unbrace, Text.trim_trim]

theorem toList_brace (e : String) : (brace e).toList = '\x7b' :: (e.toList ++ ['\x7d']) := by
  simp [brace]

/-- Braces around a text are taken off again, whatever the text is. -/
theorem unbrace_brace (e : String) : unbrace (brace e).toList = some e.toList := by
  rw [unbrace_eq_some, toList_brace]
  exact Text.trim_cons_concat (by decide) (by decide) _

section

variable {α : Type} [Field α]

theorem read_write_expression (e : String) :
    Policy.read (Policy.write (expression e : Policy α)) = .ok (expression e : Policy α) := by
  simp only [Policy.write, Policy.read, Policy.ofText, unbrace_brace, String.ofList_toList]

/-- A literal that is not written as a text is read by the rule of its type. -/
theorem read_write_literal {a : α} (hread : Field.read (Field.write a) = .ok a)
    (htext : ∀ s, Field.write a ≠ .text s) :
    Policy.read (Policy.write (.literal a)) = .ok (.literal a) := by
  rw [Policy.write]
  cases hv : Field.write a with
  | text s => exact absurd hv (htext s)
  | _ =>
    rw [hv] at hread
    simp [Policy.read, hread]

/-- A field is never written as null, if no literal is. -/
theorem isNull_write {p : Policy α} (h : ∀ a, p = .literal a → (Field.write a).isNull = false) :
    p.write.isNull = false := by
  cases p with
  | literal a => exact h a rfl
  | expression e => rfl

end

/-! ## Fields of each type -/

theorem read_write_word64 (p : Policy UInt64) : Policy.read p.write = .ok p := by
  cases p with
  | literal n => exact read_write_literal (Schema.word64_toNat n) (by simp [Field.write])
  | expression e => exact read_write_expression e

theorem read_write_word32 (p : Policy UInt32) : Policy.read p.write = .ok p := by
  cases p with
  | literal n => exact read_write_literal (Schema.word32_toNat n) (by simp [Field.write])
  | expression e => exact read_write_expression e

theorem read_write_codes (p : Policy ErrorCodes) : Policy.read p.write = .ok p := by
  cases p with
  | literal l => exact read_write_literal l.read_write (by simp [Field.write, ErrorCodes.write])
  | expression e => exact read_write_expression e

theorem read_write_factor {p : Policy Float}
    (h : ∀ x, p = .literal x → Config.isFactor x = true) : Policy.read p.write = .ok p := by
  cases p with
  | literal x =>
    have hx : Value.ofFloat x = .real x := Value.ofFloat_of_isFactor (h x rfl)
    refine read_write_literal ?_ ?_
    · simp only [Field.write, hx]
      rfl
    · simp [Field.write, hx]
  | expression e => exact read_write_expression e

theorem read_write_action (p : Policy TimeoutAction) : Policy.read p.write = .ok p := by
  cases p with
  | literal a => cases a <;> rfl
  | expression e => exact read_write_expression e

/-! ## Texts -/

/-- The policy field that a text stands for, where literals are texts themselves. -/
def ofKey (s : String) : Policy String :=
  match unbrace s.toList with
  | some e => .expression (String.ofList e)
  | none => .literal (Text.trimmed s)

/-- What a field is read as once it is written. -/
def reread : Policy String → Policy String
  | .literal s => ofKey s
  | .expression e => .expression e

theorem ofText_eq (s : String) : Policy.ofText s = .ok (ofKey s) := by
  rw [Policy.ofText, ofKey]
  cases unbrace s.toList with
  | some e => rfl
  | none => rfl

theorem read_write_text (p : Policy String) : Policy.read p.write = .ok p.reread := by
  cases p with
  | literal s => exact ofText_eq s
  | expression e => exact read_write_expression e

/-- The literal that a text stands for is no other one once it is written. -/
theorem reread_ofKey (s : String) : (ofKey s).reread = ofKey s := by
  unfold ofKey
  cases h : unbrace s.toList with
  | some e => rfl
  | none =>
    have htrimmed : unbrace (Text.trimmed s).toList = none := by
      rw [Text.trimmed, String.toList_ofList, unbrace_trim, h]
    simp only [reread, ofKey, htrimmed, Text.trimmed_trimmed]

theorem reread_of_read {v : Value} {p : Policy String} (h : Policy.read v = .ok p) :
    p.reread = p := by
  cases v with
  | text s =>
    rw [show Policy.read (.text s) = Policy.ofText s from rfl, ofText_eq] at h
    rw [← Except.ok.inj h]
    exact reread_ofKey s
  | _ => simp [Policy.read, Field.read, Schema.text] at h

end Policy

end ServiceBus
