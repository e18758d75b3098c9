import Mathlib.Tactic.Common
import Mathlib.Tactic.Ring
import Mathlib.Data.Nat.Notation
import Mathlib.Algebra.Order.Ring.Nat

/-! Non-negative decimals in a context of bounded precision: a coefficient with a number of
places, rounded to the nearest decimal that the context holds, ties to even. What a decimal is
rounded to depends on its value only, and what was rounded once is not changed again. -/
namespace Decimals

/-- The number of digits of a coefficient. -/
def digits (n : ℕ) : ℕ := (Nat.toDigits 10 n).length

/-- Round to a multiple of a unit: to the nearest one, and between two to the even one. -/
def roundTo (unit n : ℕ) : ℕ :=
  let low := n/unit
  let rest := 2*(n%unit)
  if rest<unit || (rest=unit && low%2=0) then low*unit else (low+1)*unit

/-- The digits that a context keeps, the places of its smallest decimals and the digits in front
of the point of its greatest ones. -/
structure Context where
  precision : ℕ
  places : ℕ
  whole : ℕ
  precision_pos : 0<precision

/-- The number of digits that are dropped from a coefficient with some places. -/
def Context.dropped (c : Context) (n places : ℕ) : ℕ :=
  max (digits n-c.precision) (places-c.places)

/-- The coefficient after rounding, with the same places. -/
def Context.rounded (c : Context) (n places : ℕ) : ℕ := roundTo (10^c.dropped n places) n

/-- Whether a decimal has too many digits in front of its point. -/
def Context.overflows (c : Context) (n places : ℕ) : Bool := c.whole+places<digits n

section Rounding
variable {unit n : ℕ}

lemma roundTo_dvd (unit n : ℕ) : unit ∣ roundTo unit n := by
  unfold roundTo
  dsimp only
  split_ifs <;> exact Dvd.intro_left _ rfl

lemma roundTo_of_dvd (h : unit ∣ n) : roundTo unit n=n := by
  obtain ⟨c,rfl⟩ := h
  rcases Nat.eq_zero_or_pos unit with rfl | hpos
  · simp [roundTo]
  · simp [roundTo,Nat.mul_div_cancel_left c hpos,hpos,Nat.mul_comm]

lemma roundTo_eq_iff : roundTo unit n=n ↔ unit ∣ n :=
  ⟨fun h => h ▸ roundTo_dvd unit n,roundTo_of_dvd⟩

/-- Rounding keeps the order of magnitude. -/
lemma roundTo_le (unit n : ℕ) : roundTo unit n ≤ (n/unit+1)*unit := by
  unfold roundTo
  dsimp only
  split_ifs
  · exact Nat.mul_le_mul_right unit (Nat.le_succ _)
  · exact le_rfl

lemma roundTo_scale {scale : ℕ} (hscale : 0<scale) (unit n : ℕ) :
    roundTo (scale*unit) (scale*n)=scale*roundTo unit n := by
  have hrest : 2*(scale*n%(scale*unit))=scale*(2*(n%unit)) := by
    rw [Nat.mul_mod_mul_left]
    ring
  unfold roundTo
  simp only [Nat.mul_div_mul_left _ _ hscale,hrest,Nat.mul_lt_mul_left hscale,
    Nat.mul_right_inj (Nat.ne_of_gt hscale)]
  split_ifs <;> ring

end Rounding

section Digits
variable {n m : ℕ}

lemma digits_le_iff (hm : 0 < m) : digits n ≤ m ↔ n<10^m :=
  Nat.length_toDigits_le_iff (by decide) hm

lemma digits_pos (n : ℕ) : 0<digits n := Nat.length_toDigits_pos

lemma lt_pow_digits (n : ℕ) : n<10^digits n := (digits_le_iff (digits_pos n)).mp le_rfl

/-- A coefficient with as many zeros behind it has as many more digits. -/
lemma digits_scale (hn : 0<n) (j : ℕ) : digits (10^j*n)=digits n+j := by
  refine eq_of_forall_ge_iff fun m => ?_
  rcases Nat.eq_zero_or_pos m with rfl | hm
  · have := digits_pos (10^j*n)
    have := digits_pos n
    omega
  · rw [digits_le_iff hm]
    rcases Nat.lt_or_ge j m with hj | hj
    · obtain ⟨d,rfl⟩ := Nat.exists_eq_add_of_lt hj
      have hsucc : digits n ≤ d+1 ↔ n<10^(d+1) := digits_le_iff d.succ_pos
      rw [show j+d+1=j+(d+1) from rfl,Nat.pow_add,Nat.mul_lt_mul_left (Nat.pow_pos (by decide)),
        ← hsucc]
      omega
    · have hpow : 10^m ≤ 10^j := Nat.pow_le_pow_right (by decide) hj
      have hle : 10^j ≤ 10^j*n := Nat.le_mul_of_pos_right _ hn
      have := digits_pos n
      exact iff_of_false (by omega) (by omega)

end Digits

section Contexts
variable (c : Context) {n : ℕ}

/-- Zeros behind the coefficient do not change what it is rounded to. -/
lemma rounded_scale (hn : 0<n) (places j : ℕ) :
    c.rounded (10^j*n) (places+j)=10^j*c.rounded n places := by
  have hpos : 0<10^j := Nat.pow_pos (by decide)
  have hdigits := digits_scale hn j
  unfold Context.rounded
  rcases Nat.eq_zero_or_pos (c.dropped n places) with hnone | hsome
  · have hle : c.dropped (10^j*n) (places+j) ≤ j := by
      unfold Context.dropped at hnone ⊢
      omega
    rw [hnone,Nat.pow_zero,roundTo_of_dvd (Nat.one_dvd n),roundTo_of_dvd]
    exact Dvd.dvd.mul_right (Nat.pow_dvd_pow 10 hle) n
  · have hadd : c.dropped (10^j*n) (places+j)=j+c.dropped n places := by
      unfold Context.dropped at hsome ⊢
      omega
    rw [hadd,Nat.pow_add,roundTo_scale hpos]

/-- Decimals of the same value are rounded to the same value. -/
theorem rounded_eq {n m : ℕ} (hn : 0<n) (hm : 0 < m) {j k : ℕ} (h : n*10^k=m*10^j) :
    c.rounded n j*10^k=c.rounded m k*10^j := by
  rw [Nat.mul_comm,← rounded_scale c hn j k,Nat.mul_comm (c.rounded m k),
    ← rounded_scale c hm k j,Nat.mul_comm (10^k) n,h,Nat.mul_comm m,Nat.add_comm]

/-- Only a coefficient with a digit other than zero among those dropped is changed. -/
lemma rounded_eq_self_iff (n places : ℕ) :
    c.rounded n places=n ↔ 10^c.dropped n places ∣ n := roundTo_eq_iff

/-- A number whose digits behind the precision are zeros. -/
def Fits (precision m : ℕ) : Prop := ∃ coefficient j, m=coefficient*10^j ∧ coefficient<10^precision

variable {c}

/-- A whole number that fits is not changed. -/
lemma rounded_of_fits {m : ℕ} (h : Fits c.precision m) : c.rounded m 0=m := by
  rw [rounded_eq_self_iff]
  have hdropped : c.dropped m 0=digits m-c.precision := by
    unfold Context.dropped
    omega
  rw [hdropped]
  obtain ⟨coefficient,j,rfl,hlt⟩ := h
  rcases Nat.eq_zero_or_pos coefficient with rfl | hpos
  · simp
  have hdigits := digits_scale hpos j
  rw [Nat.mul_comm] at hdigits
  have hle : digits coefficient ≤ c.precision := (digits_le_iff c.precision_pos).mpr hlt
  exact Dvd.dvd.mul_left (Nat.pow_dvd_pow 10 (by omega)) coefficient

/-- What a decimal is rounded to fits, where it is a whole number. -/
theorem fits_of_rounded {n places m : ℕ} (h : c.rounded n places=m*10^places) :
    Fits c.precision m := by
  have hdropped : digits n ≤ c.precision+c.dropped n places := by
    unfold Context.dropped
    omega
  have hquotient : n/10^c.dropped n places<10^c.precision := by
    rw [Nat.div_lt_iff_lt_mul (Nat.pow_pos (by decide)),← Nat.pow_add]
    exact (lt_pow_digits n).trans_le (Nat.pow_le_pow_right (by decide) hdropped)
  obtain ⟨coefficient,hcoefficient⟩ := roundTo_dvd (10^c.dropped n places) n
  have hle : coefficient ≤ 10^c.precision := by
    have hround := roundTo_le (10^c.dropped n places) n
    rw [hcoefficient,Nat.mul_comm] at hround
    have := Nat.le_of_mul_le_mul_right hround (Nat.pow_pos (by decide))
    omega
  have hvalue : m*10^places=coefficient*10^c.dropped n places := by
    rw [← h,Context.rounded,hcoefficient,Nat.mul_comm]
  -- a coefficient that was carried to one more digit is a power of ten
  have hfits : ∀ j, m=coefficient*10^j → Fits c.precision m := by
    intro j hm
    rcases Nat.lt_or_eq_of_le hle with hlt | heq
    · exact ⟨coefficient,j,hm,hlt⟩
    · obtain ⟨p,hp⟩ := Nat.exists_eq_succ_of_ne_zero (Nat.ne_of_gt c.precision_pos)
      refine ⟨10^p,j+1,?_,?_⟩
      · rw [hm,heq,hp,Nat.pow_succ]
        ring
      · rw [hp]
        exact Nat.pow_lt_pow_right (by decide) p.lt_succ_self
  rcases Nat.le_total places (c.dropped n places) with hplaces | hplaces
  · obtain ⟨j,hj⟩ := Nat.exists_eq_add_of_le hplaces
    refine hfits j (Nat.eq_of_mul_eq_mul_right (Nat.pow_pos (by decide) : 0<10^places) ?_)
    rw [hvalue,hj]
    ring
  · obtain ⟨j,hj⟩ := Nat.exists_eq_add_of_le hplaces
    have hcancel : m*10^j=coefficient := by
      refine Nat.eq_of_mul_eq_mul_right (Nat.pow_pos (by decide) : 0<10^c.dropped n places) ?_
      rw [← hvalue,Nat.mul_assoc,← Nat.pow_add,Nat.add_comm j,← hj]
    rcases Nat.eq_zero_or_pos j with rfl | hpos
    · exact hfits 0 (by simpa using hcancel)
    · refine ⟨m,0,by simp,?_⟩
      have hmul : m*10 ≤ m*10^j := Nat.mul_le_mul_left m (Nat.le_self_pow (Nat.ne_of_gt hpos) 10)
      have := Nat.pow_pos (n:=c.precision) (by decide : 0<10)
      omega

end Contexts
end Decimals
