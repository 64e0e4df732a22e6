import ServiceBus.Width

/-
ServiceBus.Decimal.Integer — whole numbers in decimal text.

`digits` writes a natural number and `readDigits?` reads one back
(`readDigits?_digits`); `readNatural?` and `readInteger?` add the sign and the
range that a field of fixed width allows.
-/
namespace ServiceBus.Decimal

/-- The character of a digit below ten. -/
def digitChar (d : Nat) : Char := Char.ofNat (48 + d)

/-- The value of a decimal digit. -/
def digitValue? (c : Char) : Option Nat :=
  if 48 ≤ c.toNat ∧ c.toNat ≤ 57 then some (c.toNat - 48) else none

/-- The decimal digits of a number, without leading zeros. -/
def digits (n : Nat) : List Char :=
  if n < 10 then [digitChar n] else digits (n / 10) ++ [digitChar (n % 10)]
termination_by n
decreasing_by omega

/-- The decimal text of a whole number; a minus sign stands in front of a
negative one. -/
def integerText (i : Int) : List Char :=
  match i with
  | .ofNat n => digits n
  | .negSucc n => '-' :: digits (n + 1)

/-- Continues reading digits after the value `acc`. -/
def readDigitsFrom (acc : Nat) : List Char → Option Nat
  | [] => some acc
  | c :: rest =>
    match digitValue? c with
    | some d => readDigitsFrom (10 * acc + d) rest
    | none => none

/-- The value of a text of one or more decimal digits. -/
def readDigits? : List Char → Option Nat
  | [] => none
  | cs => readDigitsFrom 0 cs

/-- Reads a natural number of at most `limit`, with an optional plus sign. -/
def readNatural? (limit : Nat) (cs : List Char) : Option Nat :=
  let body := match cs with
    | '+' :: rest => rest
    | _ => cs
  match readDigits? body with
  | some n => if n ≤ limit then some n else none
  | none => none

/-- Reads a whole number that fits into a width, with an optional sign. -/
def readInteger? (w : Width) (cs : List Char) : Option Int :=
  let value := match cs with
    | '+' :: rest => (readDigits? rest).map Int.ofNat
    | '-' :: rest => (readDigits? rest).map fun n => -Int.ofNat n
    | _ => (readDigits? cs).map Int.ofNat
  match value with
  | some i => if w.holds i then some i else none
  | none => none

theorem digitValue?_digitChar {d : Nat} (h : d < 10) : digitValue? (digitChar d) = some d := by
  have : ∀ d : Fin 10, digitValue? (digitChar d) = some d.val := by decide
  exact this ⟨d, h⟩

theorem readDigitsFrom_append (acc : Nat) (cs : List Char) (c : Char) (d : Nat)
    (hd : digitValue? c = some d) (n : Nat) (h : readDigitsFrom acc cs = some n) :
    readDigitsFrom acc (cs ++ [c]) = some (10 * n + d) := by
  induction cs generalizing acc with
  | nil => simp [readDigitsFrom] at h; subst h; simp [readDigitsFrom, hd]
  | cons c' rest ih =>
    simp only [readDigitsFrom, List.cons_append] at h ⊢
    split at h
    · exact ih _ h
    · cases h

theorem readDigitsFrom_digits (n : Nat) : readDigitsFrom 0 (digits n) = some n := by
  induction n using Nat.strongRecOn with
  | ind n ih =>
    unfold digits
    split
    · rename_i h; simp [readDigitsFrom, digitValue?_digitChar h]
    · rename_i h
      have hd : digitValue? (digitChar (n % 10)) = some (n % 10) :=
        digitValue?_digitChar (Nat.mod_lt _ (by decide))
      rw [readDigitsFrom_append 0 _ _ _ hd _ (ih (n / 10) (by omega))]
      congr 1; omega

theorem digits_ne_nil (n : Nat) : digits n ≠ [] := by
  unfold digits; split <;> simp

theorem readDigits?_digits (n : Nat) : readDigits? (digits n) = some n := by
  cases h : digits n with
  | nil => exact absurd h (digits_ne_nil n)
  | cons c cs => rw [readDigits?, ← h, readDigitsFrom_digits]; simp

end ServiceBus.Decimal
