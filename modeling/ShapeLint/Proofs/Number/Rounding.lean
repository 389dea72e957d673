import Mathlib.Algebra.Order.Field.Power
import Mathlib.Data.Rat.Lemmas
import Mathlib.Tactic.FieldSimp
import Mathlib.Tactic.Linarith
import Mathlib.Tactic.Positivity
import Mathlib.Tactic.Ring
import ShapeLint.Number.Binary64

/-!
Integers as numbers of the binary64 format. An integer becomes the nearest number of the format, of
two that are equally near the one with the even significand. Main statement: `nearest_ofInt`.
-/
namespace ShapeLint.Binary64

/-- The finite numbers of the format. -/
def Fits : Binary64 → Prop
  | finite _ significand exponent =>
    significand < 2 ^ 53 ∧ minExponent ≤ exponent ∧ exponent ≤ maxExponent
  | _ => False

def HasEvenSignificand : Binary64 → Prop
  | finite _ significand _ => significand % 2 = 0
  | _ => False

/-- A number of the format that is as near to an integer as any. If another one is equally near,
the significand is even. -/
structure Nearest (x : Binary64) (i : Int) : Prop where
  fits : x.Fits
  nearest : ∃ q, x.toRat? = some q ∧ ∀ y : Binary64, y.Fits → ∀ p, y.toRat? = some p →
    |q - i| ≤ |p - i| ∧ (|p - i| = |q - i| → p ≠ q → x.HasEvenSignificand)

/-! Quotients. -/

section Quotients

variable {num den : Nat}

/-- The quotient is rounded down or up, whichever is nearer, and to the even one from half-way. -/
theorem divideToEven_cases (num den : Nat) :
    (2 * (num % den) ≤ den ∧ divideToEven num den = num / den ∨
      den ≤ 2 * (num % den) ∧ divideToEven num den = num / den + 1) ∧
    (2 * (num % den) = den → divideToEven num den % 2 = 0) := by
  unfold divideToEven
  dsimp only
  split
  · omega
  · split <;> omega

/-- How far a multiple of the divisor is from the number, below the quotient or above it. -/
theorem abs_multiple_sub (hden : 0 < den) (k : Nat) :
    (∃ d : Nat, num / den = k + d ∧
      |(k * den : Int) - num| = ((d * den + num % den : Nat) : Int)) ∨
    ∃ d : Nat, k = num / den + 1 + d ∧
      |(k * den : Int) - num| = ((d * den + (den - num % den) : Nat) : Int) := by
  have hrem : num % den < den := Nat.mod_lt num hden
  have hnum : (num : Int) = den * (num / den : Nat) + (num % den : Nat) := by
    exact_mod_cast (Nat.div_add_mod num den).symm
  rcases Nat.lt_or_ge (num / den) k with hk | hk
  · obtain ⟨d, rfl⟩ := Nat.exists_eq_add_of_le hk
    refine .inr ⟨d, rfl, ?_⟩
    have hdiff : ((num / den + 1 + d : Nat) * den : Int) - num =
        ((d * den + (den - num % den) : Nat) : Int) := by
      rw [hnum]
      push_cast [Nat.cast_sub hrem.le]
      ring
    rw [← hdiff]
    exact abs_of_nonneg (hdiff ▸ Int.natCast_nonneg _)
  · obtain ⟨d, hd⟩ := Nat.exists_eq_add_of_le hk
    refine .inl ⟨d, hd, ?_⟩
    have hdiff : (k * den : Int) - num = -((d * den + num % den : Nat) : Int) := by
      rw [hnum, hd]
      push_cast
      ring
    rw [hdiff, abs_neg]
    exact abs_of_nonneg (Int.natCast_nonneg _)

/-- No multiple of the divisor is nearer than that of the rounded quotient, and another one is as
near only if the rounded quotient is even. -/
theorem divideToEven_nearest (hden : 0 < den) (k : Nat) :
    |(divideToEven num den * den : Int) - num| ≤ |(k * den : Int) - num| ∧
      (|(k * den : Int) - num| = |(divideToEven num den * den : Int) - num| →
        k = divideToEven num den ∨ divideToEven num den % 2 = 0) := by
  have hrem : num % den < den := Nat.mod_lt num hden
  obtain ⟨hcases, heven⟩ := divideToEven_cases num den
  have hmultiple : ∀ d : Nat, d = 0 ∧ d * den = 0 ∨ 0 < d ∧ den ≤ d * den := by
    intro d
    cases d with
    | zero => exact .inl ⟨rfl, Nat.zero_mul den⟩
    | succ d => exact .inr ⟨d.succ_pos, Nat.le_mul_of_pos_left den d.succ_pos⟩
  obtain ⟨d, hd, hdist⟩ | ⟨d, hd, hdist⟩ :=
    @abs_multiple_sub num den hden (divideToEven num den) <;>
  obtain ⟨e, he, hkdist⟩ | ⟨e, he, hkdist⟩ := @abs_multiple_sub num den hden k <;>
  · rw [hdist, hkdist]
    have hd' := hmultiple d
    have he' := hmultiple e
    constructor <;> omega

end Quotients

/-! Integers as quotients by a power of two. -/

section Scaling

variable {num den n : Nat}

theorem scaleDown_of_nonneg {e : Int} (h : 0 ≤ e) (num den : Nat) :
    scaleDown num den e = (num, den * 2 ^ e.toNat) := by
  rw [scaleDown, if_pos h, Nat.pow_eq]

theorem scaleDown_of_neg {e : Int} (h : e < 0) (num den : Nat) :
    scaleDown num den e = (num * 2 ^ (-e).toNat, den) := by
  rw [scaleDown, if_neg h.not_ge, Nat.pow_eq]

/-- The significand of a natural number gets its 53 digits at once. -/
theorem exponentFor_natural (hn : n ≠ 0) : exponentFor n 1 = n.log2 - 52 := by
  have hlow : 2 ^ n.log2 ≤ n := Nat.log2_self_le hn
  have hlog : Nat.log2 1 = 0 := by decide
  have hdigits : ¬ (scaleDown n 1 (n.log2 - 52)).1 <
      (scaleDown n 1 (n.log2 - 52)).2 * 2 ^ 52 := by
    rcases lt_or_ge ((n.log2 : Int) - 52) 0 with h | h
    · rw [scaleDown_of_neg h]
      have hexp : (-((n.log2 : Int) - 52)).toNat = 52 - n.log2 := by omega
      have hsplit : 2 ^ 52 = 2 ^ n.log2 * 2 ^ (52 - n.log2) := by
        rw [← Nat.pow_add]
        congr 1
        omega
      rw [hexp, one_mul, hsplit]
      exact (Nat.mul_le_mul_right _ hlow).not_gt
    · rw [scaleDown_of_nonneg h]
      have hexp : ((n.log2 : Int) - 52).toNat = n.log2 - 52 := by omega
      have hsplit : 2 ^ n.log2 = 2 ^ (n.log2 - 52) * 2 ^ 52 := by
        rw [← Nat.pow_add]
        congr 1
        omega
      rw [hexp, one_mul, ← hsplit]
      exact hlow.not_gt
  unfold exponentFor
  simp only [hlog, Nat.pow_eq, Nat.cast_zero, sub_zero, if_neg hdigits]
  unfold minExponent
  omega

theorem divideToEven_one (n : Nat) : divideToEven n 1 = n := by
  simp [divideToEven, Nat.mod_one]

/-- A rounded quotient of 54 digits is a power of two and gets along with one digit. -/
theorem ofRatio_natural {a d k : Nat} {e : Int} (negative : Bool) (hn : n ≠ 0)
    (he : (n.log2 : Int) - 52 = e) (hscale : scaleDown n 1 e = (a, d))
    (hk : divideToEven a d = k) :
    ofRatio negative n 1 =
      let (significand, exponent) := if k = 2 ^ 53 then (2 ^ 52, e + 1) else (k, e)
      if maxExponent < exponent then infinite negative
      else finite negative significand exponent := by
  unfold ofRatio
  rw [if_neg hn, exponentFor_natural hn, he]
  dsimp only
  rw [hscale]
  dsimp only
  rw [hk]
  rfl

/-- The significand of a number of fewer than 53 digits is filled up with zeros. -/
theorem ofRatio_of_short (negative : Bool) (hn : n ≠ 0) (short : n.log2 < 52) :
    n * 2 ^ (52 - n.log2) < 2 ^ 53 ∧
      ofRatio negative n 1 = finite negative (n * 2 ^ (52 - n.log2)) (n.log2 - 52) := by
  have hexp : (-((n.log2 : Int) - 52)).toNat = 52 - n.log2 := by omega
  have hscale : scaleDown n 1 (n.log2 - 52) = (n * 2 ^ (52 - n.log2), 1) := by
    rw [scaleDown_of_neg (by omega), hexp]
  have hhigh : n * 2 ^ (52 - n.log2) < 2 ^ 53 := by
    have hsplit : 2 ^ (n.log2 + 1) * 2 ^ (52 - n.log2) = 2 ^ 53 := by
      rw [← Nat.pow_add]
      congr 1
      omega
    exact hsplit ▸ Nat.mul_lt_mul_of_pos_right Nat.lt_log2_self (Nat.two_pow_pos _)
  have hrange : ¬ maxExponent < (n.log2 : Int) - 52 := by
    unfold maxExponent
    omega
  refine ⟨hhigh, ?_⟩
  rw [ofRatio_natural negative hn rfl hscale (divideToEven_one _), if_neg hhigh.ne]
  dsimp only
  rw [if_neg hrange]

/-- The significand of a longer number is its rounded quotient by the power of two that leaves 53
digits, unless this needs one digit more. -/
theorem ofRatio_of_long (negative : Bool) (hn : n ≠ 0) (long : 52 ≤ n.log2) {k s : Nat}
    (hs : s = n.log2 - 52) (hk : divideToEven n (2 ^ s) = k)
    (isFinite : (ofRatio negative n 1).isFinite) :
    ∃ significand exponent,
      ofRatio negative n 1 = finite negative significand exponent ∧ exponent ≤ maxExponent ∧
      (significand = k ∧ k < 2 ^ 53 ∧ exponent = s ∨
        significand = 2 ^ 52 ∧ k = 2 ^ 53 ∧ exponent = s + 1) := by
  have hexp : (n.log2 : Int) - 52 = s := by omega
  have hscale : scaleDown n 1 s = (n, 2 ^ s) := by
    rw [scaleDown_of_nonneg (Int.natCast_nonneg s), Int.toNat_natCast, one_mul]
  have hbound : k ≤ 2 ^ 53 := by
    have hsplit : 2 ^ 53 * 2 ^ s = 2 ^ (n.log2 + 1) := by
      rw [← Nat.pow_add]
      congr 1
      omega
    have hquotient : n / 2 ^ s < 2 ^ 53 :=
      (Nat.div_lt_iff_lt_mul (Nat.two_pow_pos s)).mpr (hsplit ▸ Nat.lt_log2_self)
    rcases (divideToEven_cases n (2 ^ s)).1 with ⟨-, h⟩ | ⟨-, h⟩
    · rw [← hk, h]
      exact hquotient.le
    · rw [← hk, h]
      exact hquotient
  rw [ofRatio_natural negative hn hexp hscale hk] at isFinite ⊢
  by_cases hfull : k = 2 ^ 53
  · rw [if_pos hfull] at isFinite ⊢
    dsimp only at isFinite ⊢
    split at isFinite
    · contradiction
    · rename_i hrange
      rw [if_neg hrange]
      exact ⟨_, _, rfl, not_lt.mp hrange, .inr ⟨rfl, hfull, rfl⟩⟩
  · rw [if_neg hfull] at isFinite ⊢
    dsimp only at isFinite ⊢
    split at isFinite
    · contradiction
    · rename_i hrange
      rw [if_neg hrange]
      exact ⟨_, _, rfl, not_lt.mp hrange, .inl ⟨rfl, lt_of_le_of_ne hbound hfull, rfl⟩⟩

end Scaling

/-! Distances. -/

section Distances

variable {n k s m : Nat} {e : Int}

theorem exists_magnitude {y : Binary64} (fits : y.Fits) {p : ℚ} (hp : y.toRat? = some p) :
    ∃ (m : Nat) (e : Int), m < 2 ^ 53 ∧ |p| = m * 2 ^ e := by
  cases y with
  | finite negative significand exponent =>
    obtain rfl := Option.some.inj hp
    refine ⟨significand, exponent, fits.1, ?_⟩
    have hpos : (0 : ℚ) ≤ significand * 2 ^ exponent := by positivity
    split
    · rw [abs_neg, abs_of_nonneg hpos]
    · exact abs_of_nonneg hpos
  | _ => contradiction

theorem pow_le_of_long (hn : n ≠ 0) (long : 52 ≤ n.log2) (hs : s = n.log2 - 52) :
    2 ^ 52 * 2 ^ s ≤ n := by
  have hsplit : 2 ^ 52 * 2 ^ s = 2 ^ n.log2 := by
    rw [← Nat.pow_add]
    congr 1
    omega
  exact hsplit ▸ Nat.log2_self_le hn

/-- Among the multiples of the last digit, the rounded quotient's is nearest. -/
theorem abs_rounded_le_multiple (hk : divideToEven n (2 ^ s) = k) (j : Nat) :
    |(k * 2 ^ s : ℚ) - n| ≤ |(j * 2 ^ s : ℚ) - n| ∧
      (|(j * 2 ^ s : ℚ) - n| = |(k * 2 ^ s : ℚ) - n| → j = k ∨ k % 2 = 0) := by
  have h := @divideToEven_nearest n (2 ^ s) (Nat.two_pow_pos s) j
  rw [hk] at h
  exact_mod_cast h

/-- Numbers with a smaller last digit are further away: they are below the least significand. -/
theorem abs_rounded_lt_of_finer (hn : n ≠ 0) (long : 52 ≤ n.log2) (hs : s = n.log2 - 52)
    (hk : divideToEven n (2 ^ s) = k) (hm : m < 2 ^ 53) (finer : e < s) :
    |(k * 2 ^ s : ℚ) - n| < |(m * 2 ^ e : ℚ) - n| := by
  have hleast : (2 ^ 52 * 2 ^ s : ℚ) ≤ n := by exact_mod_cast pow_le_of_long hn long hs
  have hbelow : (m * 2 ^ e : ℚ) < 2 ^ 52 * 2 ^ s := by
    have hdigits : (m : ℚ) < 2 ^ 53 := by exact_mod_cast hm
    have hpow : (2 : ℚ) ^ e ≤ 2 ^ ((s : Int) - 1) := zpow_le_zpow_right₀ one_le_two (by omega)
    calc (m * 2 ^ e : ℚ) < 2 ^ 53 * 2 ^ e := by gcongr
      _ ≤ 2 ^ 53 * 2 ^ ((s : Int) - 1) := by gcongr
      _ = 2 ^ 52 * 2 ^ s := by
        rw [zpow_sub₀ two_ne_zero, zpow_natCast]
        ring
  have hmultiple := (abs_rounded_le_multiple hk (2 ^ 52)).1
  rw [Nat.cast_pow, Nat.cast_ofNat, abs_of_nonpos (sub_nonpos.mpr hleast)] at hmultiple
  rw [abs_of_nonpos (sub_nonpos.mpr (hbelow.le.trans hleast))]
  linarith

/-- No magnitude of the format is nearer than the rounded one, and another one is as near only if
the rounded quotient is even. -/
theorem abs_rounded_le (hn : n ≠ 0) (long : 52 ≤ n.log2) (hs : s = n.log2 - 52)
    (hk : divideToEven n (2 ^ s) = k) (hm : m < 2 ^ 53) (e : Int) :
    |(k * 2 ^ s : ℚ) - n| ≤ |(m * 2 ^ e : ℚ) - n| ∧
      (|(m * 2 ^ e : ℚ) - n| = |(k * 2 ^ s : ℚ) - n| →
        (m * 2 ^ e : ℚ) = k * 2 ^ s ∨ k % 2 = 0) := by
  rcases lt_or_ge e s with finer | hse
  · have hlt := abs_rounded_lt_of_finer hn long hs hk hm finer
    exact ⟨hlt.le, fun h => absurd h hlt.ne'⟩
  · obtain ⟨j, rfl⟩ := Int.exists_add_of_le hse
    have hvalue : (m * 2 ^ ((s : Int) + j) : ℚ) = (m * 2 ^ j : Nat) * 2 ^ s := by
      rw [zpow_add₀ two_ne_zero, zpow_natCast, zpow_natCast]
      push_cast
      ring
    obtain ⟨hle, htie⟩ := abs_rounded_le_multiple hk (m * 2 ^ j)
    rw [hvalue]
    exact ⟨hle, fun h => (htie h).imp (fun h => by rw [h]) id⟩

theorem Nearest.of_exact {x : Binary64} {i : Int} (fits : x.Fits) (h : x.toRat? = some (i : ℚ)) :
    Nearest x i where
  fits := fits
  nearest := by
    refine ⟨i, h, fun y _ p _ => ⟨by simp, fun htie hne => ?_⟩⟩
    rw [sub_self, abs_zero, abs_eq_zero, sub_eq_zero] at htie
    exact absurd htie hne

end Distances

/-! Signs. -/

section Signs

variable {i : Int}

/-- The value of a number with the sign of an integer. -/
theorem toRat?_signed (hi : i ≠ 0) (significand : Nat) (exponent : Int) :
    (finite (i < 0) significand exponent).toRat? =
      some ((i.sign : ℚ) * ((significand : ℚ) * (2 : ℚ) ^ exponent)) := by
  unfold toRat?
  rcases lt_or_gt_of_ne hi with h | h
  · simp [h, Int.sign_eq_neg_one_of_neg]
  · simp [h.not_gt, Int.sign_eq_one_of_pos h]

theorem cast_eq_sign_mul (i : Int) : (i : ℚ) = i.sign * i.natAbs := by
  have h := congrArg (Int.cast : Int → ℚ) (Int.sign_mul_natAbs i)
  rw [Int.cast_mul, Int.cast_natCast] at h
  exact h.symm

theorem abs_cast_sign (hi : i ≠ 0) : |(i.sign : ℚ)| = 1 := by
  rcases lt_or_gt_of_ne hi with h | h
  · simp [Int.sign_eq_neg_one_of_neg h]
  · simp [Int.sign_eq_one_of_pos h]

/-- A number with the sign of an integer is as far from it as their magnitudes are. -/
theorem abs_signed_sub (hi : i ≠ 0) (a : ℚ) : |i.sign * a - i| = |a - i.natAbs| := by
  have hfactor : i.sign * a - i = i.sign * (a - i.natAbs) := by
    rw [mul_sub, ← cast_eq_sign_mul]
  rw [hfactor, abs_mul, abs_cast_sign hi, one_mul]

/-- Other numbers are further away than their magnitudes are. -/
theorem abs_magnitude_sub_le (hi : i ≠ 0) (p : ℚ) : |(|p|) - (i.natAbs : ℚ)| ≤ |p - i| := by
  have hmagnitude : (i.natAbs : ℚ) = |(i : ℚ)| := by
    rw [cast_eq_sign_mul i, abs_mul, abs_cast_sign hi, one_mul, abs_of_nonneg (Nat.cast_nonneg _)]
  rw [hmagnitude]
  exact abs_abs_sub_abs_le p i

/-- A number of the same magnitude and the other sign is further away. -/
theorem abs_signed_sub_lt_neg (hi : i ≠ 0) {a : ℚ} (ha : 0 < a) :
    |a - i.natAbs| < |-(i.sign * a) - i| := by
  have hn : (0 : ℚ) < i.natAbs := by exact_mod_cast Int.natAbs_pos.mpr hi
  have hsum : |-(i.sign * a) - i| = a + i.natAbs := by
    have hfactor : -(i.sign * a) - i = -(i.sign * (a + i.natAbs)) := by
      rw [mul_add, ← cast_eq_sign_mul]
      ring
    rw [hfactor, abs_neg, abs_mul, abs_cast_sign hi, one_mul, abs_of_pos (add_pos ha hn)]
  rw [hsum, abs_lt]
  constructor <;> linarith

end Signs

/-- What is nearest in magnitude, with the sign of the integer, is nearest. -/
theorem Nearest.of_magnitude {x : Binary64} {i : Int} {a : ℚ} (hi : i ≠ 0) (fits : x.Fits)
    (ha : 0 ≤ a) (value : x.toRat? = some (i.sign * a))
    (h : ∀ (m : Nat) (e : Int), m < 2 ^ 53 →
      |a - i.natAbs| ≤ |(m * 2 ^ e : ℚ) - i.natAbs| ∧
      (|(m * 2 ^ e : ℚ) - i.natAbs| = |a - i.natAbs| →
        (m * 2 ^ e : ℚ) = a ∨ x.HasEvenSignificand)) : Nearest x i where
  fits := fits
  nearest := by
    refine ⟨_, value, fun y hy p hp => ?_⟩
    obtain ⟨m, e, hm, hmagnitude⟩ := exists_magnitude hy hp
    obtain ⟨hle, htie⟩ := h m e hm
    have hfurther := abs_magnitude_sub_le hi p
    rw [← hmagnitude] at hle htie
    rw [abs_signed_sub hi]
    refine ⟨hle.trans hfurther, fun hsame hne => ?_⟩
    rcases htie (le_antisymm (hfurther.trans hsame.le) hle) with hequal | heven
    · -- of the two numbers with this magnitude the other one has the wrong sign
      have hneg : p = -(i.sign * a) := by
        have habs : |p| = |i.sign * a| := by
          rw [hequal, abs_mul, abs_cast_sign hi, one_mul, abs_of_nonneg ha]
        exact (abs_eq_abs.mp habs).resolve_left hne
      have hpos : 0 < a := by
        refine lt_of_le_of_ne ha fun hzero => hne ?_
        rw [hneg, ← hzero, mul_zero, neg_zero]
      rw [hneg] at hsame
      exact absurd hsame (abs_signed_sub_lt_neg hi hpos).ne'
    · exact heven

theorem nearest_of_short {i : Int} (hi : i ≠ 0) (short : i.natAbs.log2 < 52) :
    Nearest (ofInt i) i := by
  obtain ⟨hhigh, hratio⟩ := ofRatio_of_short (i < 0) (Int.natAbs_ne_zero.mpr hi) short
  rw [ofInt, hratio]
  refine .of_exact ⟨hhigh, ?_, ?_⟩ ?_
  · unfold minExponent
    omega
  · unfold maxExponent
    omega
  · have hexp : (i.natAbs.log2 : Int) - 52 = -((52 - i.natAbs.log2 : Nat) : Int) := by omega
    have hpow : (2 : ℚ) ^ (52 - i.natAbs.log2) ≠ 0 := by positivity
    rw [toRat?_signed hi, cast_eq_sign_mul i, hexp, zpow_neg, zpow_natCast, Nat.cast_mul,
      Nat.cast_pow, Nat.cast_ofNat, mul_inv_cancel_right₀ hpow]

theorem nearest_of_long {i : Int} (hi : i ≠ 0) (long : 52 ≤ i.natAbs.log2)
    (isFinite : (ofInt i).isFinite) : Nearest (ofInt i) i := by
  have hn : i.natAbs ≠ 0 := Int.natAbs_ne_zero.mpr hi
  generalize hs : i.natAbs.log2 - 52 = s
  generalize hk : divideToEven i.natAbs (2 ^ s) = k
  obtain ⟨significand, exponent, hratio, hrange, hcases⟩ :=
    ofRatio_of_long (i < 0) hn long hs.symm hk isFinite
  have hvalue : (significand : ℚ) * 2 ^ exponent = k * 2 ^ s ∧ significand < 2 ^ 53 ∧
      0 ≤ exponent ∧ (k % 2 = 0 → significand % 2 = 0) := by
    rcases hcases with ⟨rfl, hk, rfl⟩ | ⟨rfl, rfl, rfl⟩
    · exact ⟨by rw [zpow_natCast], hk, Int.natCast_nonneg s, id⟩
    · refine ⟨?_, by norm_num, by omega, fun _ => by norm_num⟩
      rw [zpow_add₀ two_ne_zero, zpow_natCast, zpow_one]
      push_cast
      ring
  obtain ⟨hvalue, hdigits, hexponent, heven⟩ := hvalue
  rw [ofInt, hratio]
  refine .of_magnitude (a := k * 2 ^ s) hi ⟨hdigits, ?_, hrange⟩ (by positivity) ?_ fun m e hm => ?_
  · unfold minExponent
    omega
  · rw [toRat?_signed hi, hvalue]
  · obtain ⟨hle, htie⟩ := abs_rounded_le hn long hs.symm hk hm e
    exact ⟨hle, fun h => (htie h).imp id heven⟩

/-- An integer becomes the nearest number of the format, if that is finite. -/
theorem nearest_ofInt {i : Int} (isFinite : (ofInt i).isFinite) : Nearest (ofInt i) i := by
  by_cases hi : i = 0
  · subst hi
    exact .of_exact (by simp [ofInt, ofRatio, Fits, minExponent, maxExponent])
      (by simp [ofInt, ofRatio, toRat?])
  · rcases Nat.lt_or_ge i.natAbs.log2 52 with short | long
    · exact nearest_of_short hi short
    · exact nearest_of_long hi long isFinite

end ShapeLint.Binary64
