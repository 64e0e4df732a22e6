import Mathlib.Data.Nat.Digits.Defs
import ServiceBus.Decimal.Integer

/-
ServiceBus.Proofs.Decimal.Numerals — which texts are whole numbers.

`IsDigits` says what a row of digits stands for by the place values of its digits, and
`Numeral` adds the sign. Reading takes exactly these texts, and of the numbers exactly those
that fit into the width (`readInteger?_eq_some`). A written number is one of them
(`numeral_integerText`); with zeros in front or a plus sign there are others for the same
number.
-/
namespace ServiceBus.Decimal

variable {cs : List Char} {c : Char} {acc d n : Nat} {i : Int}

/-- One digit or more, the last of them for the ones. -/
def IsDigits (cs : List Char) (n : Nat) : Prop :=
  ∃ ds : List Nat, ds ≠ [] ∧ (∀ d ∈ ds, d < 10) ∧ cs = ds.map digitChar ∧
    n = Nat.ofDigits 10 ds.reverse

/-- Digits with or without a sign. -/
inductive Numeral : List Char → Int → Prop where
  | plain {cs : List Char} {n : Nat} (h : IsDigits cs n) : Numeral cs n
  | plus {cs : List Char} {n : Nat} (h : IsDigits cs n) : Numeral ('+' :: cs) n
  | minus {cs : List Char} {n : Nat} (h : IsDigits cs n) : Numeral ('-' :: cs) (-n)

/-! ## Digits -/

theorem digitValue?_eq_some : digitValue? c = some d ↔ d < 10 ∧ c = digitChar d := by
  constructor
  · intro h
    simp only [digitValue?, Option.ite_none_right_eq_some, Option.some.injEq] at h
    obtain ⟨⟨hlow, hhigh⟩, rfl⟩ := h
    refine ⟨by omega, ?_⟩
    rw [digitChar, Nat.add_sub_cancel' hlow, Char.ofNat_toNat]
  · rintro ⟨hd, rfl⟩
    exact digitValue?_digitChar hd

/-- Digits that follow others move these to higher places. -/
theorem readDigitsFrom_eq_some : readDigitsFrom acc cs = some n ↔
    ∃ ds : List Nat, (∀ d ∈ ds, d < 10) ∧ cs = ds.map digitChar ∧
      n = Nat.ofDigits 10 (ds.reverse ++ [acc]) := by
  induction cs generalizing acc with
  | nil =>
    simp only [readDigitsFrom, Option.some.injEq]
    constructor
    · rintro rfl
      exact ⟨[], by simp, rfl, by simp⟩
    · rintro ⟨ds, -, hds, rfl⟩
      simp [List.map_eq_nil_iff.1 hds.symm]
  | cons c cs ih =>
    -- the value of a row is that of the row without its first digit, after this digit
    have first (ds : List Nat) (d : Nat) : Nat.ofDigits 10 ((d :: ds).reverse ++ [acc]) =
        Nat.ofDigits 10 (ds.reverse ++ [10 * acc + d]) := by
      simp only [List.reverse_cons, Nat.ofDigits_append, Nat.ofDigits_singleton,
        List.length_append, List.length_singleton, pow_succ]
      ring
    constructor
    · intro h
      simp only [readDigitsFrom] at h
      split at h
      · next d hd =>
        obtain ⟨hlt, rfl⟩ := digitValue?_eq_some.1 hd
        obtain ⟨ds, hds, rfl, rfl⟩ := ih.1 h
        exact ⟨d :: ds, List.forall_mem_cons.2 ⟨hlt, hds⟩, rfl, (first ds d).symm⟩
      · simp at h
    · rintro ⟨ds, hds, hcs, rfl⟩
      cases ds with
      | nil => simp at hcs
      | cons d ds =>
        obtain ⟨rfl, rfl⟩ := List.cons.inj hcs
        rw [List.forall_mem_cons] at hds
        simp only [readDigitsFrom, digitValue?_digitChar hds.1]
        exact ih.2 ⟨ds, hds.2, rfl, first ds d⟩

theorem readDigits?_eq_some : readDigits? cs = some n ↔ IsDigits cs n := by
  cases cs with
  | nil => simp [readDigits?, IsDigits, eq_comm]
  | cons c cs =>
    rw [readDigits?, readDigitsFrom_eq_some]
    · constructor
      · rintro ⟨ds, hds, hcs, rfl⟩
        refine ⟨ds, fun hnil => by simp [hnil] at hcs, hds, hcs, ?_⟩
        simp [Nat.ofDigits_append]
      · rintro ⟨ds, -, hds, hcs, rfl⟩
        exact ⟨ds, hds, hcs, by simp [Nat.ofDigits_append]⟩
    · simp

/-- Digits are no signs. -/
theorem IsDigits.exists_cons (h : IsDigits cs n) : ∃ d < 10, ∃ rest, cs = digitChar d :: rest := by
  obtain ⟨ds, hne, hds, rfl, -⟩ := h
  obtain ⟨d, rest, rfl⟩ := List.exists_cons_of_ne_nil hne
  exact ⟨d, hds d List.mem_cons_self, _, rfl⟩

theorem digitChar_ne_sign (h : d < 10) : digitChar d ≠ '+' ∧ digitChar d ≠ '-' := by
  have hall : ∀ d : Fin 10, digitChar d ≠ '+' ∧ digitChar d ≠ '-' := by decide
  exact hall ⟨d, h⟩

/-! ## Numbers with a sign -/

theorem readInteger?_eq_some {w : Width} :
    readInteger? w cs = some i ↔ Numeral cs i ∧ w.holds i = true := by
  constructor
  · intro h
    simp only [readInteger?] at h
    split at h
    · next value hvalue =>
      rw [Option.ite_none_right_eq_some, Option.some.injEq] at h
      obtain ⟨hholds, rfl⟩ := h
      refine ⟨?_, hholds⟩
      split at hvalue
      · obtain ⟨n, hn, rfl⟩ := Option.map_eq_some_iff.1 hvalue
        exact .plus (readDigits?_eq_some.1 hn)
      · obtain ⟨n, hn, rfl⟩ := Option.map_eq_some_iff.1 hvalue
        exact .minus (readDigits?_eq_some.1 hn)
      · obtain ⟨n, hn, rfl⟩ := Option.map_eq_some_iff.1 hvalue
        exact .plain (readDigits?_eq_some.1 hn)
    · simp at h
  · rintro ⟨hnumeral, hholds⟩
    cases hnumeral with
    | plus h => simp [readInteger?, readDigits?_eq_some.2 h, hholds]
    | minus h => simp [readInteger?, readDigits?_eq_some.2 h, hholds]
    | plain h =>
      have hread := readDigits?_eq_some.2 h
      obtain ⟨d, hd, rest, rfl⟩ := h.exists_cons
      obtain ⟨hplus, hminus⟩ := digitChar_ne_sign hd
      simp [readInteger?, hread, hplus, hminus, hholds]

theorem numeral_integerText (i : Int) : Numeral (integerText i) i := by
  cases i with
  | ofNat n => exact .plain (readDigits?_eq_some.1 (readDigits?_digits n))
  | negSucc n => exact .minus (readDigits?_eq_some.1 (readDigits?_digits (n + 1)))

/-- A numeral has nothing but signs and digits. -/
theorem Numeral.mem (h : Numeral cs i) (hc : c ∈ cs) :
    c = '+' ∨ c = '-' ∨ ∃ d < 10, c = digitChar d := by
  have digit {cs : List Char} {n : Nat} (h : IsDigits cs n) (hc : c ∈ cs) :
      ∃ d < 10, c = digitChar d := by
    obtain ⟨ds, -, hds, rfl, -⟩ := h
    obtain ⟨d, hd, rfl⟩ := List.mem_map.1 hc
    exact ⟨d, hds d hd, rfl⟩
  cases h with
  | plain h => exact .inr (.inr (digit h hc))
  | plus h =>
    exact (List.mem_cons.1 hc).imp_right fun hc => .inr (digit h hc)
  | minus h =>
    exact .inr ((List.mem_cons.1 hc).imp_right (digit h))

theorem Numeral.ne_nil (h : Numeral cs i) : cs ≠ [] := by
  cases h with
  | plain h =>
    obtain ⟨d, -, rest, rfl⟩ := h.exists_cons
    exact List.cons_ne_nil _ _
  | plus h => exact List.cons_ne_nil _ _
  | minus h => exact List.cons_ne_nil _ _

end ServiceBus.Decimal
