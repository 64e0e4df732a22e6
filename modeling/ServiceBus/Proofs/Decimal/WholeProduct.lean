import Mathlib

/-
ServiceBus.Proofs.Decimal.WholeProduct — products of whole numbers taken in
floating point, cut and then capped.

A floating-point number keeps 53 bits, so a product of two whole numbers is
exact below 2^53 and may be off above. Under a cap of at most 2^53 that makes
no difference, and neither does an overflow (`min_mul`).

`StandsFor n u` says what a number has to do with `n` for that: it is `n` if
`n` is below 2^53, and else it is at least 2^53. Rounding keeps this
(`standsFor_round`), hence so do products (`standsFor_mul`) and conversions
(`standsFor_ofNat`).
-/
namespace ServiceBus.Whole

open Float.Model Float.Model.UnpackedFloat

/-! ## Shifting -/

theorem mantissa_shiftRight (x : ExtendedMantissa) (k : Nat) :
    (x >>> k).mantissa = x.mantissa / 2 ^ k := by
  induction k with
  | zero => simp [HShiftRight.hShiftRight, Nat.repeat]
  | succ k ih =>
    show (x >>> k).mantissa / 2 = x.mantissa / 2 ^ (k + 1)
    rw [ih, Nat.div_div_eq_div_mul, Nat.pow_succ]

/-- Zeros are shifted out without a trace. -/
theorem shiftRight_mul_two_pow (r k : Nat) :
    (ExtendedMantissa.mk (r * 2 ^ k) false false) >>> k = ExtendedMantissa.mk r false false := by
  induction k generalizing r with
  | zero => simp [HShiftRight.hShiftRight, Nat.repeat]
  | succ k ih =>
    have hstep : (ExtendedMantissa.mk (r * 2 ^ (k + 1)) false false) >>> k =
        ExtendedMantissa.mk (r * 2) false false := by
      rw [← ih (r * 2), Nat.pow_succ, Nat.mul_assoc, Nat.mul_comm 2]
    show ((ExtendedMantissa.mk (r * 2 ^ (k + 1)) false false) >>> k).shiftRightOne = _
    rw [hstep]
    simp [ExtendedMantissa.shiftRightOne]

theorem roundedMantissa_bounds (x : ExtendedMantissa) :
    x.mantissa ≤ x.roundedMantissa ∧ x.roundedMantissa ≤ x.mantissa + 1 := by
  rcases x with ⟨m, round, sticky⟩
  cases round <;> cases sticky <;>
    simp [ExtendedMantissa.roundedMantissa, ExtendedMantissa.accuracy, Accuracy.roundToNearestEven]
  omega

/-- A mantissa of 53 + `k` bits loses `k` of them, if its value is not below one. -/
theorem shiftToTargetExponent_eq {m k : Nat} {e : Int} (hm : m.log2 = 52 + k)
    (he : 0 ≤ m.log2 + e) :
    shiftToTargetExponent Format.binary64 m e .exact =
      (ExtendedMantissa.mk m false false >>> k, e + k) := by
  have hamount : (Format.binary64.targetExponent (totalExponent m e) - e).toNat = k := by
    simp only [Format.targetExponent, totalExponent, Format.mantissaBits, Format.minExponent]
    norm_num
    omega
  simp only [shiftToTargetExponent, shiftToExponent, hamount,
    ExtendedMantissa.ofMantissaAndAccuracy]

/-! ## Rounding -/

/-- A mantissa of at least 53 bits is rounded to 53 bits; its exponent grows by the bits
lost, or by one more, and nothing is lost where only zeros go. -/
theorem roundWithAccuracy_eq {m k : Nat} {e : Int} (hm : m.log2 = 52 + k)
    (he : 0 ≤ m.log2 + e) :
    ∃ (r : Nat) (hr : 0 < r) (e' : Int),
      roundWithAccuracy Format.binary64 .positive m e .exact = .finite .positive r e' hr ∧
      r.log2 = 52 ∧ e + k ≤ e' ∧ ∀ n, m = n * 2 ^ k → r = n ∧ e' = e + k := by
  have hm0 : m ≠ 0 := by
    rintro rfl
    simp at hm
    omega
  obtain ⟨hlow, hhigh⟩ := (Nat.log2_eq_iff hm0).1 hm
  set x := ExtendedMantissa.mk m false false >>> k with hx
  obtain ⟨hle, hge⟩ := roundedMantissa_bounds x
  have hmantissa : x.mantissa = m / 2 ^ k := mantissa_shiftRight _ k
  have hfloor : 2 ^ 52 ≤ x.mantissa := by
    rw [hmantissa, Nat.le_div_iff_mul_le (Nat.two_pow_pos k), ← Nat.pow_add]
    exact hlow
  have hceil : x.mantissa < 2 ^ 53 := by
    rw [hmantissa, Nat.div_lt_iff_lt_mul (Nat.two_pow_pos k), ← Nat.pow_add,
      show 53 + k = 52 + k + 1 by omega]
    exact hhigh
  have hexact (n : Nat) (hn : m = n * 2 ^ k) : x.roundedMantissa = n := by
    rw [hx, hn, shiftRight_mul_two_pow]
    rfl
  have hround : roundWithAccuracy Format.binary64 .positive m e .exact =
      if h : (shiftToTargetExponent Format.binary64 x.roundedMantissa (e + k)
          .exact).1.mantissa = 0 then .zero .positive
      else .finite .positive _ (shiftToTargetExponent Format.binary64 x.roundedMantissa (e + k)
          .exact).2 (Nat.pos_of_ne_zero h) := by
    unfold roundWithAccuracy
    rw [shiftToTargetExponent_eq hm he]
  by_cases hsmall : x.roundedMantissa < 2 ^ 53
  · have hlog : x.roundedMantissa.log2 = 52 := (Nat.log2_eq_iff (by omega)).2 ⟨by omega, hsmall⟩
    have hshift := shiftToTargetExponent_eq (k := 0) (e := e + k) hlog (by omega)
    have hne : x.roundedMantissa ≠ 0 := by omega
    refine ⟨x.roundedMantissa, by omega, e + k, ?_, hlog, Int.le_refl _,
      fun n hn => ⟨hexact n hn, rfl⟩⟩
    rw [hround]
    simp only [hshift]
    simp [HShiftRight.hShiftRight, Nat.repeat, hne]
  · -- rounding up has carried into a bit of its own
    have hmax : x.roundedMantissa = 2 ^ 53 := by omega
    have hshift := shiftToTargetExponent_eq (m := 2 ^ 53) (k := 1) (e := e + k) Nat.log2_two_pow
      (by rw [Nat.log2_two_pow]; omega)
    refine ⟨2 ^ 52, Nat.two_pow_pos 52, e + k + 1, ?_, Nat.log2_two_pow, by omega, ?_⟩
    · rw [hround, hmax]
      simp only [hshift]
      rfl
    · intro n hn
      have hcarried : m = 2 ^ (53 + k) := by
        rw [Nat.pow_add, ← hmax, hexact n hn]
        exact hn
      rw [hcarried, Nat.log2_two_pow] at hm
      omega

/-! ## Packing -/

/-- A number in range is unpacked as it was packed. -/
theorem unpack_pack_finite {m : Nat} {e : Int} (hp : 0 < m) (hm : m.log2 = 52)
    (hlow : -1074 ≤ e) (hhigh : e ≤ 971) :
    (Float.Model.pack (.finite .positive m e hp)).unpack = .finite .positive m e hp := by
  obtain ⟨hl, hh⟩ := (Nat.log2_eq_iff (Nat.ne_of_gt hp)).1 hm
  have hexponent : (BitVec.ofNat 11 (e + 1075).toNat).toNat = (e + 1075).toNat := by
    rw [BitVec.toNat_ofNat]
    exact Nat.mod_eq_of_lt (by omega)
  -- neither the pattern of infinity nor that of zero
  have hne : BitVec.ofNat 11 (e + 1075).toNat ≠ -1#11 := by
    intro h
    have hbits := congrArg BitVec.toNat h
    rw [hexponent] at hbits
    simp at hbits
    omega
  have hne0 : BitVec.ofNat 11 (e + 1075).toNat ≠ 0#11 := by
    intro h
    have hbits := congrArg BitVec.toNat h
    rw [hexponent] at hbits
    simp at hbits
    omega
  have hmantissa : (1#1 ++ BitVec.ofNat 52 m).toNat = m := by
    rw [BitVec.toNat_append, ← Nat.shiftLeft_add_eq_or_of_lt (BitVec.isLt _), BitVec.toNat_ofNat]
    simp only [BitVec.toNat_ofNat, Nat.shiftLeft_eq]
    omega
  unfold Float.Model.unpack Float.Model.pack
  simp only [UnpackedFloat.pack, Format.exponentBias, Format.mantissaBits, hm]
  norm_num
  rw [show e + 1023 + 52 = e + 1075 by omega, if_neg (by omega)]
  unfold UnpackedFloat.unpack
  simp only [unpackExponent_packComponents, unpackMantissa_packComponents,
    unpackSign_packComponents, if_neg hne, if_neg hne0, Sign.ofBitVec_toBitVec, hmantissa,
    hexponent, Format.exponentBias]
  congr 1
  norm_num
  omega

/-- A number beyond the range is packed as infinity. -/
theorem unpack_pack_overflow {m : Nat} {e : Int} (hp : 0 < m) (hm : m.log2 = 52) (he : 971 < e) :
    (Float.Model.pack (.finite .positive m e hp)).unpack = .infinity .positive := by
  have hinfinity : UnpackedFloat.pack Format.binary64 (.finite .positive m e hp) =
      UnpackedFloat.pack Format.binary64 (.infinity .positive) := by
    simp only [UnpackedFloat.pack, Format.exponentBias, Format.mantissaBits, hm]
    norm_num
    omega
  show UnpackedFloat.unpack Format.binary64 (UnpackedFloat.pack Format.binary64 _) = _
  rw [hinfinity]
  rfl

/-! ## Numbers that stand for whole numbers -/

/-- What a floating-point number has to do with a whole number `n`: below 2^53 it is
equal to it, above it is no smaller than 2^53. What is no number stands for zero, as
it does where it is cut to a whole number. -/
def StandsFor (n : Nat) : UnpackedFloat → Prop
  | .zero _ => n = 0
  | .notANumber => n = 0
  | .infinity s => s = .positive ∧ 2 ^ 53 ≤ n
  | .finite s m e _ => s = .positive ∧ m.log2 = 52 ∧
      (e ≤ 0 ∧ m = n * 2 ^ (-e).toNat ∨ 1 ≤ e ∧ 2 ^ 53 ≤ n)

theorem standsFor_zero (s : Sign) : StandsFor 0 (Float.Model.pack (.zero s)).unpack := by
  cases s <;> rfl

theorem standsFor_notANumber : StandsFor 0 (Float.Model.pack .notANumber).unpack := rfl

theorem standsFor_infinity {n : Nat} (hn : 2 ^ 53 ≤ n) :
    StandsFor n (Float.Model.pack (.infinity .positive)).unpack := ⟨rfl, hn⟩

theorem StandsFor.pos {n m : Nat} {s : Sign} {e : Int} {hp : 0 < m}
    (h : StandsFor n (.finite s m e hp)) : 0 < n := by
  obtain ⟨-, -, ⟨-, rfl⟩ | ⟨-, hn⟩⟩ := h
  · exact Nat.pos_of_mul_pos_right hp
  · omega

/-- The mantissa has the bits behind the point. -/
theorem StandsFor.two_pow_le {n m : Nat} {s : Sign} {e : Int} {hp : 0 < m}
    (h : StandsFor n (.finite s m e hp)) : 2 ^ (-e).toNat ≤ m := by
  have hn := h.pos
  obtain ⟨-, -, ⟨-, rfl⟩ | ⟨he, -⟩⟩ := h
  · exact Nat.le_mul_of_pos_left _ hn
  · rw [show (-e).toNat = 0 by omega]
    exact hp

theorem StandsFor.pack {n m : Nat} {e : Int} {hp : 0 < m}
    (h : StandsFor n (.finite .positive m e hp)) (hlow : -1074 ≤ e) :
    StandsFor n (Float.Model.pack (.finite .positive m e hp)).unpack := by
  obtain ⟨-, hm, hvalue⟩ := h
  by_cases hhigh : e ≤ 971
  · rw [unpack_pack_finite hp hm hlow hhigh]
    exact ⟨rfl, hm, hvalue⟩
  · rw [unpack_pack_overflow hp hm (by omega)]
    rcases hvalue with ⟨he, -⟩ | ⟨-, hn⟩
    · omega
    · exact ⟨rfl, hn⟩

/-- Rounding. A number below 2^53 has only zeros to lose; any other one does not fall
below 2^53. -/
theorem standsFor_round {n m : Nat} {e : Int} (hm : 52 ≤ m.log2)
    (h : n < 2 ^ 53 ∧ e ≤ 0 ∧ m = n * 2 ^ (-e).toNat ∨ 2 ^ 53 ≤ n ∧ 53 ≤ m.log2 + e) :
    StandsFor n
      (Float.Model.pack (roundWithAccuracy Format.binary64 .positive m e .exact)).unpack := by
  obtain ⟨k, hk⟩ := Nat.exists_eq_add_of_le hm
  have hm0 : m ≠ 0 := by
    rintro rfl
    simp at hm
  have he : 0 ≤ m.log2 + e := by
    rcases h with ⟨-, he, hvalue⟩ | ⟨-, he⟩
    · have hn : n ≠ 0 := by
        rintro rfl
        simp [hvalue] at hm0
      have hlow : (-e).toNat ≤ m.log2 := by
        rw [Nat.le_log2 hm0, hvalue]
        exact Nat.le_mul_of_pos_left _ (Nat.pos_of_ne_zero hn)
      omega
    · omega
  obtain ⟨r, hr, e', hround, hlog, hle, hexact⟩ := roundWithAccuracy_eq hk he
  rw [hround]
  refine StandsFor.pack ⟨rfl, hlog, ?_⟩ (by omega)
  rcases h with ⟨hn, he0, hvalue⟩ | ⟨hn, he53⟩
  · have hhigh : m.log2 < 53 + (-e).toNat := by
      rw [Nat.log2_lt hm0, hvalue, Nat.pow_add]
      exact Nat.mul_lt_mul_of_pos_right hn (Nat.two_pow_pos _)
    have hzeros : m = n * 2 ^ ((-e).toNat - k) * 2 ^ k := by
      rw [Nat.mul_assoc, ← Nat.pow_add, show (-e).toNat - k + k = (-e).toNat by omega]
      exact hvalue
    obtain ⟨hr', he'⟩ := hexact _ hzeros
    refine .inl ⟨by omega, ?_⟩
    rw [hr', show (-e').toNat = (-e).toNat - k by omega]
  · exact .inr ⟨by omega, hn⟩

/-! ## Products and conversions -/

theorem standsFor_mul_finite {n p m m' : Nat} {e e' : Int} {hm : 0 < m} {hm' : 0 < m'}
    (h : StandsFor n (.finite .positive m e hm))
    (h' : StandsFor p (.finite .positive m' e' hm')) :
    StandsFor (n * p) (Float.Model.pack
      (roundWithAccuracy Format.binary64 .positive (m * m') (e + e') .exact)).unpack := by
  have hn := h.pos
  have hp := h'.pos
  have hle : 2 ^ 52 ≤ m := ((Nat.log2_eq_iff (Nat.ne_of_gt hm)).1 h.2.1).1
  have hle' : 2 ^ 52 ≤ m' := ((Nat.log2_eq_iff (Nat.ne_of_gt hm')).1 h'.2.1).1
  have hmm : m * m' ≠ 0 := Nat.ne_of_gt (Nat.mul_pos hm hm')
  have hlow : 52 + (-e').toNat ≤ (m * m').log2 := by
    rw [Nat.le_log2 hmm, Nat.pow_add]
    exact Nat.mul_le_mul hle h'.two_pow_le
  have hlow' : (-e).toNat + 52 ≤ (m * m').log2 := by
    rw [Nat.le_log2 hmm, Nat.pow_add]
    exact Nat.mul_le_mul h.two_pow_le hle'
  refine standsFor_round (by omega) ?_
  rcases h.2.2 with ⟨he, hvalue⟩ | ⟨he, hbig⟩
  · rcases h'.2.2 with ⟨he', hvalue'⟩ | ⟨he', hbig'⟩
    · have hproduct : m * m' = n * p * 2 ^ (-(e + e')).toNat := by
        rw [hvalue, hvalue', Nat.mul_mul_mul_comm, ← Nat.pow_add,
          show (-e).toNat + (-e').toNat = (-(e + e')).toNat by omega]
      by_cases hsmall : n * p < 2 ^ 53
      · exact .inl ⟨hsmall, by omega, hproduct⟩
      · have hlog : 53 + (-(e + e')).toNat ≤ (m * m').log2 := by
          rw [Nat.le_log2 hmm, hproduct, Nat.pow_add]
          exact Nat.mul_le_mul_right _ (Nat.le_of_not_lt hsmall)
        exact .inr ⟨Nat.le_of_not_lt hsmall, by omega⟩
    · exact .inr ⟨Nat.le_trans hbig' (Nat.le_mul_of_pos_left _ hn), by omega⟩
  · exact .inr ⟨Nat.le_trans hbig (Nat.le_mul_of_pos_right _ hp), by omega⟩

theorem standsFor_mul {a b : Float.Model} {n p : Nat} (ha : StandsFor n a.unpack)
    (hb : StandsFor p b.unpack) : StandsFor (n * p) (a * b).unpack := by
  show StandsFor (n * p)
    (Float.Model.pack (UnpackedFloat.mul Format.binary64 a.unpack b.unpack)).unpack
  generalize a.unpack = x at ha
  generalize b.unpack = y at hb
  cases x with
  | notANumber =>
    obtain rfl : n = 0 := ha
    rw [Nat.zero_mul]
    exact standsFor_notANumber
  | zero s =>
    obtain rfl : n = 0 := ha
    rw [Nat.zero_mul]
    cases y with
    | infinity t => exact standsFor_notANumber
    | notANumber => exact standsFor_notANumber
    | zero t => exact standsFor_zero _
    | finite t m e hm => exact standsFor_zero _
  | infinity s =>
    obtain ⟨rfl, hn⟩ := ha
    cases y with
    | infinity t =>
      obtain ⟨rfl, hp⟩ := hb
      exact standsFor_infinity (Nat.le_trans hn (Nat.le_mul_of_pos_right _ (by omega)))
    | notANumber =>
      obtain rfl : p = 0 := hb
      exact standsFor_notANumber
    | zero t =>
      obtain rfl : p = 0 := hb
      exact standsFor_notANumber
    | finite t m e hm =>
      have hp := hb.pos
      obtain ⟨rfl, -⟩ := hb
      exact standsFor_infinity (Nat.le_trans hn (Nat.le_mul_of_pos_right _ hp))
  | finite s m e hm =>
    have hn := ha.pos
    cases y with
    | infinity t =>
      obtain ⟨rfl, -⟩ := ha
      obtain ⟨rfl, hp⟩ := hb
      exact standsFor_infinity (Nat.le_trans hp (Nat.le_mul_of_pos_left _ hn))
    | notANumber =>
      obtain rfl : p = 0 := hb
      exact standsFor_notANumber
    | zero t =>
      obtain rfl : p = 0 := hb
      exact standsFor_zero _
    | finite t m' e' hm' =>
      obtain rfl : s = .positive := ha.1
      obtain rfl : t = .positive := hb.1
      exact standsFor_mul_finite ha hb

/-- The number one, by its bits. -/
theorem standsFor_one : StandsFor 1 (Float.ofBits 4607182418800017408).toModel.unpack :=
  show StandsFor 1 (.finite .positive (2 ^ 52) (-52) (by decide)) from
    ⟨rfl, Nat.log2_two_pow, .inl ⟨by decide, by decide⟩⟩

theorem standsFor_toFloat {n : Nat} (hn : n < 2 ^ 53) :
    StandsFor n n.toUInt64.toFloat.toModel.unpack := by
  have hword : n.toUInt64.toNat = n := Nat.mod_eq_of_lt (by omega)
  show StandsFor n (Float.Model.pack
    (UnpackedFloat.normalize Format.binary64 (n.toUInt64.toNat : Int) 0 .positive)).unpack
  rw [hword]
  rcases Nat.eq_zero_or_pos n with rfl | hpos
  · exact standsFor_zero _
  · have hlog : n.log2 < 53 := (Nat.log2_lt (Nat.ne_of_gt hpos)).2 hn
    have htarget : Format.binary64.targetExponent (totalExponent n 0) = (n.log2 : Int) - 52 := by
      simp only [Format.targetExponent, totalExponent, Format.mantissaBits, Format.minExponent]
      norm_num
      omega
    have hcompare : compare (n : Int) 0 = .gt := by
      rw [Int.compare_eq_gt]
      omega
    -- the number is first filled up to 53 bits
    have hnormal : UnpackedFloat.normalize Format.binary64 (n : Int) 0 .positive =
        roundWithAccuracy Format.binary64 .positive (n * 2 ^ (52 - n.log2))
          ((n.log2 : Int) - 52) .exact := by
      simp only [UnpackedFloat.normalize, hcompare, UnpackedFloat.round, Int.toNat_natCast, htarget,
        decreaseExponent, Nat.shiftLeft_eq,
        show (0 - ((n.log2 : Int) - 52)).toNat = 52 - n.log2 by omega]
      congr 1
      omega
    have hfilled : 52 ≤ (n * 2 ^ (52 - n.log2)).log2 := by
      rw [Nat.le_log2 (Nat.ne_of_gt (Nat.mul_pos hpos (Nat.two_pow_pos _)))]
      calc 2 ^ 52 = 2 ^ n.log2 * 2 ^ (52 - n.log2) := by
            rw [← Nat.pow_add, show n.log2 + (52 - n.log2) = 52 by omega]
        _ ≤ n * 2 ^ (52 - n.log2) :=
          Nat.mul_le_mul_right _ (Nat.log2_self_le (Nat.ne_of_gt hpos))
    rw [hnormal]
    refine standsFor_round hfilled (.inl ⟨hn, by omega, ?_⟩)
    rw [show (-((n.log2 : Int) - 52)).toNat = 52 - n.log2 by omega]

theorem standsFor_ofNat (n : Nat) : StandsFor n (Float.ofNat n).toModel.unpack := by
  by_cases hn : n < 2 ^ 53
  · have hof : Float.ofNat n = n.toUInt64.toFloat * Float.ofBits 4607182418800017408 := by
      show Float.ofScientific n false 0 = _
      simp only [Float.ofScientific]
      rw [dif_pos ⟨hn, by omega⟩]
      rfl
    have hproduct := standsFor_mul (standsFor_toFloat hn) standsFor_one
    rw [Nat.mul_one] at hproduct
    rw [hof]
    exact hproduct
  · have hn0 : n ≠ 0 := by omega
    have hof : (Float.ofNat n).toModel = Float.Model.pack
        (roundWithAccuracy Format.binary64 .positive (n <<< 53 * 1) (-53) .exact) := by
      show (Float.ofScientific n false 0).toModel = _
      simp only [Float.ofScientific]
      rw [dif_neg (fun h => hn h.1)]
      show Float.Model.pack (UnpackedFloat.ofScientific Format.binary64 n 0) = _
      unfold UnpackedFloat.ofScientific
      rw [dif_neg hn0, if_neg (by decide), if_neg (by simp only; omega), if_pos (Int.le_refl _)]
      rfl
    have hlog : 53 ≤ n.log2 := (Nat.le_log2 hn0).2 (by omega)
    have hshifted : n.log2 + 53 ≤ (n <<< 53 * 1).log2 := by
      rw [Nat.mul_one, Nat.shiftLeft_eq,
        Nat.le_log2 (Nat.ne_of_gt (Nat.mul_pos (Nat.pos_of_ne_zero hn0) (Nat.two_pow_pos _))),
        Nat.pow_add]
      exact Nat.mul_le_mul_right _ (Nat.log2_self_le hn0)
    rw [hof]
    exact standsFor_round (by omega) (.inr ⟨by omega, by omega⟩)

/-! ## Cutting and capping -/

theorem toNat_ofNatClamp (i : Nat) : (UInt64.ofNatClamp i).toNat = min i (2 ^ 64 - 1) := by
  unfold UInt64.ofNatClamp
  split
  · rename_i hi
    have hlt : i < 2 ^ 64 := hi
    rw [UInt64.toNat_ofNatLT]
    omega
  · rename_i hi
    have hle : ¬ i < 2 ^ 64 := hi
    rw [UInt64.toNat_ofNatLT]
    show 2 ^ 64 - 1 = _
    omega

/-- Under a cap of at most 2^53, a number cut to 64 bits is the one that it stands
for. -/
theorem StandsFor.min_toUInt64 {n cap : Nat} {u : UnpackedFloat} (h : StandsFor n u)
    (hcap : cap ≤ 2 ^ 53) : min u.toUInt64.toNat cap = min n cap := by
  unfold UnpackedFloat.toUInt64
  rw [toNat_ofNatClamp]
  cases u with
  | zero s =>
    obtain rfl : n = 0 := h
    rfl
  | notANumber =>
    obtain rfl : n = 0 := h
    rfl
  | infinity s =>
    obtain ⟨rfl, hn⟩ := h
    show min (min (2 ^ 64 - 1) (2 ^ 64 - 1)) cap = _
    omega
  | finite s m e hp =>
    obtain ⟨rfl, hm, hvalue⟩ := h
    have hcut : (UnpackedFloat.toInt 0 (UInt64.size - 1) (.finite .positive m e hp)).toNat =
        m <<< e.toNat / 2 ^ (-e).toNat := by
      simp only [UnpackedFloat.toInt, roundToInt, decreaseExponent, shiftToExponent, Sign.apply,
        mantissa_shiftRight, ExtendedMantissa.ofMantissaAndAccuracy, Int.toNat_natCast,
        Int.sub_zero]
      rw [show (0 - (e - (e.toNat : Int))).toNat = (-e).toNat by omega]
    rw [hcut]
    rcases hvalue with ⟨he, hvalue⟩ | ⟨he, hn⟩
    · have hexact : m <<< e.toNat / 2 ^ (-e).toNat = n := by
        rw [show e.toNat = 0 by omega, Nat.shiftLeft_zero, hvalue]
        exact Nat.mul_div_cancel _ (Nat.two_pow_pos _)
      rw [hexact]
      omega
    · have hlarge : 2 ^ 53 ≤ m <<< e.toNat / 2 ^ (-e).toNat := by
        rw [show (-e).toNat = 0 by omega, Nat.shiftLeft_eq, Nat.pow_zero, Nat.div_one]
        calc 2 ^ 53 = 2 ^ 52 * 2 ^ 1 := rfl
          _ ≤ m * 2 ^ e.toNat :=
            Nat.mul_le_mul ((Nat.log2_eq_iff (Nat.ne_of_gt hp)).1 hm).1
              (Nat.pow_le_pow_right (by omega) (by omega))
      omega

/-- The product of two whole numbers, taken in floating point, cut and capped. -/
theorem min_mul (d p : Nat) {cap : Nat} (hcap : cap ≤ 2 ^ 53) :
    min (Float.ofNat d * Float.ofNat p).toUInt64.toNat cap = min (d * p) cap :=
  (standsFor_mul (standsFor_ofNat d) (standsFor_ofNat p)).min_toUInt64 hcap

end ServiceBus.Whole
