import Mathlib.Algebra.Order.Field.Power
import Mathlib.Algebra.Order.Round
import Mathlib.Data.Rat.Floor
import Mathlib.Tactic.Linarith
import Mathlib.Tactic.Positivity
import Mathlib.Tactic.Ring

/-!
# Rounding to a binary format

The positive numbers of a binary format with `p` significant bits, and no bit
below `2^least`, are the rationals `m * 2^e` with `m ≤ 2^p` and `least ≤ e`
(`Representable`).  `roundBinary` gives the nearest one, ties to even.

A rounded number passes no number of the format (`roundBinary_le`,
`le_roundBinary`), and it is off by at most half a unit of the last bit
(`abs_roundBinary_sub_le`).  It stays below `2^n` exactly when the number itself
stays below the middle between `2^n` and the number of the format before it
(`roundBinary_lt_iff`).  So a format whose numbers end at `2^n` overflows from
that middle on, and a point between two numbers of the format, computed with a
fraction that has `p` bits, does not overflow (`add_roundBinary_mul_lt`).
-/

namespace StorePulse

/-! ## Powers and exponents -/

/-- A power with an `int` exponent. -/
def powInt (b : Nat) (e : Int) : Rat :=
  if 0 ≤ e then ((b ^ e.toNat : Nat) : Rat) else mkRat 1 (b ^ (-e).toNat)

/-- The exponent of the largest power of two that is at most a positive number. -/
def floorLog2 (q : Rat) : Int :=
  let guess := (Nat.log2 q.num.toNat : Int) - (Nat.log2 q.den : Int)
  if powInt 2 guess ≤ q then guess else guess - 1

theorem powInt_two (e : Int) : powInt 2 e = (2 : Rat) ^ e := by
  rw [powInt]
  split
  · next he =>
    lift e to Nat using he
    simp
  · next he =>
    obtain ⟨n, rfl⟩ : ∃ n : Nat, e = -n := ⟨(-e).toNat, by omega⟩
    rw [Rat.mkRat_eq_div]
    simp

section

variable {q : Rat}

/-- A positive number as a quotient of naturals. -/
theorem eq_num_div_den (hq : 0 < q) : q = (q.num.toNat : Rat) / q.den := by
  have hnum : (0 : Int) ≤ q.num := (Rat.num_pos.mpr hq).le
  conv_lhs => rw [← Rat.num_div_den q]
  congr 1
  exact_mod_cast (Int.toNat_of_nonneg hnum).symm

theorem two_zpow_pos (e : Int) : (0 : Rat) < 2 ^ e := zpow_pos two_pos e

theorem two_zpow_le {d e : Int} (h : d ≤ e) : (2 : Rat) ^ d ≤ 2 ^ e :=
  zpow_le_zpow_right₀ one_le_two h

theorem two_zpow_lt {d e : Int} (h : d < e) : (2 : Rat) ^ d < 2 ^ e :=
  zpow_lt_zpow_right₀ one_lt_two h

theorem lt_of_two_zpow_lt {d e : Int} (h : (2 : Rat) ^ d < 2 ^ e) : d < e :=
  (zpow_lt_zpow_iff_right₀ one_lt_two).mp h

theorem floorLog2_spec (hq : 0 < q) : (2 : Rat) ^ floorLog2 q ≤ q ∧ q < 2 ^ (floorLog2 q + 1) := by
  have hnum : q.num.toNat ≠ 0 := by
    have := Rat.num_pos.mpr hq
    omega
  have hden : (0 : Rat) < q.den := by exact_mod_cast q.den_pos
  set a := Nat.log2 q.num.toNat with ha
  set b := Nat.log2 q.den with hb
  have hnum₁ : (2 : Rat) ^ (a : Int) ≤ q.num.toNat := by
    exact_mod_cast Nat.log2_self_le hnum
  have hnum₂ : (q.num.toNat : Rat) < 2 ^ ((a : Int) + 1) := by
    exact_mod_cast Nat.lt_log2_self
  have hden₁ : (2 : Rat) ^ (b : Int) ≤ q.den := by
    exact_mod_cast Nat.log2_self_le q.den_nz
  have hden₂ : (q.den : Rat) < 2 ^ ((b : Int) + 1) := by
    exact_mod_cast Nat.lt_log2_self
  have hupper : q < 2 ^ ((a : Int) - b + 1) := by
    rw [eq_num_div_den hq, div_lt_iff₀ hden]
    calc (q.num.toNat : Rat) < 2 ^ ((a : Int) + 1) := hnum₂
      _ = 2 ^ ((a : Int) - b + 1) * 2 ^ (b : Int) := by
        rw [← zpow_add₀ two_ne_zero]
        congr 1
        ring
      _ ≤ 2 ^ ((a : Int) - b + 1) * q.den :=
        mul_le_mul_of_nonneg_left hden₁ (two_zpow_pos _).le
  have hlower : (2 : Rat) ^ ((a : Int) - b - 1) ≤ q := by
    rw [eq_num_div_den hq, le_div_iff₀ hden]
    calc (2 : Rat) ^ ((a : Int) - b - 1) * q.den
        ≤ 2 ^ ((a : Int) - b - 1) * 2 ^ ((b : Int) + 1) :=
        mul_le_mul_of_nonneg_left hden₂.le (two_zpow_pos _).le
      _ = 2 ^ (a : Int) := by
        rw [← zpow_add₀ two_ne_zero]
        congr 1
        ring
      _ ≤ q.num.toNat := hnum₁
  simp only [floorLog2, powInt_two]
  split
  · next hguess => exact ⟨hguess, hupper⟩
  · next hguess =>
    refine ⟨hlower, ?_⟩
    rw [sub_add_cancel]
    exact not_le.mp hguess

theorem floorLog2_lt (hq : 0 < q) {n : Int} (h : q < 2 ^ n) : floorLog2 q < n :=
  lt_of_two_zpow_lt ((floorLog2_spec hq).1.trans_lt h)

end

/-! ## The nearest integer -/

/-- The nearest integer, ties to even. -/
def roundHalfEven (q : Rat) : Int :=
  let below := q.floor
  let rest := q - below
  if rest < 1 / 2 then below
  else if 1 / 2 < rest then below + 1
  else if below % 2 = 0 then below else below + 1

section

variable {x : Rat} {n : Int}

theorem floor_bounds (x : Rat) : (x.floor : Rat) ≤ x ∧ x < x.floor + 1 :=
  ⟨Rat.floor_le x, by exact_mod_cast Rat.lt_floor_add_one x⟩

theorem abs_roundHalfEven_sub_le (x : Rat) : |(roundHalfEven x : Rat) - x| ≤ 1 / 2 := by
  obtain ⟨h₀, h₁⟩ := floor_bounds x
  rw [abs_le]
  simp only [roundHalfEven]
  split
  · constructor <;> linarith
  · split
    · push_cast
      constructor <;> linarith
    · split
      · constructor <;> linarith
      · push_cast
        constructor <;> linarith

theorem roundHalfEven_le (h : x ≤ n) : roundHalfEven x ≤ n := by
  have hhalf := (abs_le.mp (abs_roundHalfEven_sub_le x)).2
  have hlt : (roundHalfEven x : Rat) < n + 1 := by linarith
  exact Int.lt_add_one_iff.mp (by exact_mod_cast hlt)

theorem le_roundHalfEven (h : (n : Rat) ≤ x) : n ≤ roundHalfEven x := by
  have hhalf := (abs_le.mp (abs_roundHalfEven_sub_le x)).1
  have hlt : (n : Rat) < roundHalfEven x + 1 := by linarith
  exact Int.lt_add_one_iff.mp (by exact_mod_cast hlt)

/-- An even number is reached from half below it on. -/
theorem roundHalfEven_lt_iff (hn : n % 2 = 0) : roundHalfEven x < n ↔ x < n - 1 / 2 := by
  have hhalf := abs_le.mp (abs_roundHalfEven_sub_le x)
  constructor
  · intro h
    by_contra hge
    have hge : (n : Rat) - 1 / 2 ≤ x := not_lt.mp hge
    have hround : roundHalfEven x = n - 1 := by
      have hlow : (n : Rat) - 1 ≤ roundHalfEven x := by linarith
      have hlow : n - 1 ≤ roundHalfEven x := by exact_mod_cast hlow
      omega
    have hx : x = n - 1 / 2 := by
      rw [hround] at hhalf
      push_cast at hhalf
      linarith
    have hfloor : x.floor = n - 1 := by
      obtain ⟨hbelow, habove⟩ := floor_bounds x
      have h₁ : (x.floor : Rat) < n := by linarith
      have h₁ : x.floor < n := by exact_mod_cast h₁
      have h₂ : (n : Rat) - 1 < x.floor + 1 := by linarith
      have h₂ : n - 1 < x.floor + 1 := by exact_mod_cast h₂
      omega
    -- a tie, and the number below is odd
    have hrest : x - ((n - 1 : Int) : Rat) = 1 / 2 := by
      rw [hx]
      push_cast
      ring
    have hodd : ¬ (n - 1) % 2 = 0 := by omega
    simp only [roundHalfEven, hfloor, hrest, lt_irrefl, if_false, if_neg hodd] at hround
    omega
  · intro h
    have hlt : (roundHalfEven x : Rat) < n := by linarith
    exact_mod_cast hlt

end

/-! ## Numbers of the format -/

/-- The exponent of the last bit near a number. -/
def lastBit (p : Nat) (least : Int) (q : Rat) : Int := max (floorLog2 q + 1 - p) least

/-- The nearest number of the format. -/
def roundBinary (p : Nat) (least : Int) (q : Rat) : Rat :=
  let unit := powInt 2 (lastBit p least q)
  roundHalfEven (q / unit) * unit

/-- The numbers of the format that are not negative. -/
def Representable (p : Nat) (least : Int) (r : Rat) : Prop :=
  ∃ (m : Nat) (e : Int), m ≤ 2 ^ p ∧ least ≤ e ∧ r = m * 2 ^ e

variable {p : Nat} {least n : Int} {q r : Rat}

theorem roundBinary_eq (p : Nat) (least : Int) (q : Rat) : roundBinary p least q =
    roundHalfEven (q / 2 ^ lastBit p least q) * 2 ^ lastBit p least q := by
  rw [roundBinary, powInt_two]

theorem Representable.nonneg (h : Representable p least r) : 0 ≤ r := by
  obtain ⟨m, e, _, _, rfl⟩ := h
  positivity

theorem representable_zero : Representable p least 0 :=
  ⟨0, least, Nat.zero_le _, le_rfl, by simp⟩

theorem representable_two_zpow (h : least ≤ n) : Representable p least (2 ^ n) :=
  ⟨1, n, Nat.one_le_two_pow, h, by simp⟩

/-- A number of the format times a power of two. -/
theorem Representable.mul_two_pow (h : Representable p least r) (k : Nat) :
    Representable p least (r * 2 ^ k) := by
  obtain ⟨m, e, hm, he, rfl⟩ := h
  refine ⟨m, e + k, hm, by omega, ?_⟩
  rw [zpow_add₀ two_ne_zero, zpow_natCast, mul_assoc]

theorem roundBinary_zero : roundBinary p least 0 = 0 := by
  have h : roundHalfEven 0 = 0 :=
    le_antisymm (roundHalfEven_le (by simp)) (le_roundHalfEven (by simp))
  rw [roundBinary_eq, zero_div, h]
  simp

theorem roundBinary_nonneg (h : 0 ≤ q) : 0 ≤ roundBinary p least q := by
  have hround : 0 ≤ roundHalfEven (q / 2 ^ lastBit p least q) :=
    le_roundHalfEven (by simpa using div_nonneg h (two_zpow_pos _).le)
  rw [roundBinary_eq]
  exact mul_nonneg (by exact_mod_cast hround) (two_zpow_pos _).le

/-- Rounding to a multiple of the last unit. -/
theorem roundBinary_le_mul {m : Int} (h : q ≤ m * 2 ^ lastBit p least q) :
    roundBinary p least q ≤ m * 2 ^ lastBit p least q := by
  rw [roundBinary_eq]
  refine mul_le_mul_of_nonneg_right ?_ (two_zpow_pos _).le
  exact_mod_cast roundHalfEven_le ((div_le_iff₀ (two_zpow_pos _)).mpr h)

theorem mul_le_roundBinary {m : Int} (h : m * 2 ^ lastBit p least q ≤ q) :
    m * 2 ^ lastBit p least q ≤ roundBinary p least q := by
  rw [roundBinary_eq]
  refine mul_le_mul_of_nonneg_right ?_ (two_zpow_pos _).le
  exact_mod_cast le_roundHalfEven ((le_div_iff₀ (two_zpow_pos _)).mpr h)

/-- The largest power of two below a number is a multiple of its last unit, when the format has
the last bit. -/
theorem two_zpow_floorLog2 (hp : 0 < p) (h : lastBit p least q = floorLog2 q + 1 - p) :
    (2 : Rat) ^ floorLog2 q = ((2 ^ (p - 1) : Nat) : Int) * 2 ^ lastBit p least q := by
  have he : floorLog2 q = ((p - 1 : Nat) : Int) + lastBit p least q := by omega
  conv_lhs => rw [he]
  rw [zpow_add₀ two_ne_zero, zpow_natCast]
  push_cast
  rfl

/-- A number of the format is a multiple of the last unit near `q`, or has less bits. -/
theorem Representable.cases (hr : Representable p least r) (q : Rat) :
    (∃ m : Int, r = m * 2 ^ lastBit p least q) ∨
      lastBit p least q = floorLog2 q + 1 - p ∧ r ≤ 2 ^ floorLog2 q := by
  obtain ⟨m, e, hm, he, rfl⟩ := hr
  rcases le_or_gt (lastBit p least q) e with h | h
  · obtain ⟨k, rfl⟩ : ∃ k : Nat, e = lastBit p least q + k :=
      ⟨(e - lastBit p least q).toNat, by omega⟩
    refine .inl ⟨m * 2 ^ k, ?_⟩
    rw [zpow_add₀ two_ne_zero, zpow_natCast]
    push_cast
    ring
  · have hlast : lastBit p least q = floorLog2 q + 1 - p := by
      rw [lastBit] at h ⊢
      omega
    refine .inr ⟨hlast, ?_⟩
    calc (m : Rat) * 2 ^ e ≤ 2 ^ p * 2 ^ e :=
          mul_le_mul_of_nonneg_right (by exact_mod_cast hm) (two_zpow_pos e).le
      _ = 2 ^ ((p : Int) + e) := by rw [zpow_add₀ two_ne_zero, zpow_natCast]
      _ ≤ 2 ^ floorLog2 q := two_zpow_le (by omega)

/-! ## What rounding does not pass -/

/-- Rounding up does not pass a number of the format. -/
theorem roundBinary_le (hp : 0 < p) (hr : Representable p least r) (hq : 0 ≤ q) (h : q ≤ r) :
    roundBinary p least q ≤ r := by
  rcases hq.eq_or_lt with rfl | hq
  · rw [roundBinary_zero]
    exact h
  rcases hr.cases q with ⟨m, rfl⟩ | ⟨hlast, hle⟩
  · exact roundBinary_le_mul h
  · -- `q` is the power of two itself
    have hpow := (floorLog2_spec hq).1
    have hqr : q = r := le_antisymm h (hle.trans hpow)
    have hr : r = 2 ^ floorLog2 q := le_antisymm hle (hpow.trans h)
    have hmul := two_zpow_floorLog2 hp hlast
    rw [hr, hmul]
    exact roundBinary_le_mul (hmul ▸ (hqr.trans hr).le)

/-- Rounding down does not pass a number of the format. -/
theorem le_roundBinary (hp : 0 < p) (hr : Representable p least r) (hq : 0 < q) (h : r ≤ q) :
    r ≤ roundBinary p least q := by
  rcases hr.cases q with ⟨m, rfl⟩ | ⟨hlast, hle⟩
  · exact mul_le_roundBinary h
  · have hmul := two_zpow_floorLog2 hp hlast
    refine hle.trans (hmul.trans_le (mul_le_roundBinary ?_))
    rw [← hmul]
    exact (floorLog2_spec hq).1

/-- A number of the format is its own rounding. -/
theorem Representable.round_eq (hp : 0 < p) (hr : Representable p least r) :
    roundBinary p least r = r := by
  rcases hr.nonneg.eq_or_lt with rfl | hpos
  · exact roundBinary_zero
  · exact le_antisymm (roundBinary_le hp hr hpos.le le_rfl) (le_roundBinary hp hr hpos le_rfl)

theorem lastBit_le (hq : 0 < q) (h : q < 2 ^ n) (hn : least + p ≤ n) :
    lastBit p least q ≤ n - p := by
  have := floorLog2_lt hq h
  rw [lastBit]
  omega

/-- The rounding is a number of the format. -/
theorem representable_roundBinary (hq : 0 ≤ q) :
    Representable p least (roundBinary p least q) := by
  rcases hq.eq_or_lt with rfl | hq
  · rw [roundBinary_zero]
    exact representable_zero
  have hlog : floorLog2 q + 1 ≤ p + lastBit p least q := by
    rw [lastBit]
    omega
  have hle : roundHalfEven (q / 2 ^ lastBit p least q) ≤ 2 ^ p := by
    refine roundHalfEven_le ((div_le_iff₀ (two_zpow_pos _)).mpr ?_)
    calc q ≤ 2 ^ (floorLog2 q + 1) := (floorLog2_spec hq).2.le
      _ ≤ 2 ^ ((p : Int) + lastBit p least q) := two_zpow_le hlog
      _ = ((2 ^ p : Int) : Rat) * 2 ^ lastBit p least q := by
        rw [zpow_add₀ two_ne_zero, zpow_natCast]
        push_cast
        rfl
  have hnonneg : 0 ≤ roundHalfEven (q / 2 ^ lastBit p least q) :=
    le_roundHalfEven (by simpa using div_nonneg hq.le (two_zpow_pos _).le)
  refine ⟨(roundHalfEven (q / 2 ^ lastBit p least q)).toNat, lastBit p least q, ?_,
    le_max_right _ _, ?_⟩
  · rw [Int.toNat_le]
    exact_mod_cast hle
  · rw [roundBinary_eq]
    congr 1
    exact_mod_cast (Int.toNat_of_nonneg hnonneg).symm

/-! ## How far off rounding is -/

theorem abs_roundBinary_sub_le (hq : 0 ≤ q) (h : q < 2 ^ n) (hn : least + p ≤ n) :
    |roundBinary p least q - q| ≤ 2 ^ (n - p - 1) := by
  rcases hq.eq_or_lt with rfl | hq
  · rw [roundBinary_zero, sub_zero, abs_zero]
    exact (two_zpow_pos _).le
  have hunit := two_zpow_pos (lastBit p least q)
  have hscale : roundBinary p least q - q =
      (roundHalfEven (q / 2 ^ lastBit p least q) - q / 2 ^ lastBit p least q) *
        2 ^ lastBit p least q := by
    rw [roundBinary_eq, sub_mul, div_mul_cancel₀ _ hunit.ne']
  calc |roundBinary p least q - q| ≤ 1 / 2 * 2 ^ lastBit p least q := by
        rw [hscale, abs_mul, abs_of_pos hunit]
        exact mul_le_mul_of_nonneg_right (abs_roundHalfEven_sub_le _) hunit.le
    _ ≤ 1 / 2 * 2 ^ (n - p) :=
        mul_le_mul_of_nonneg_left (two_zpow_le (lastBit_le hq h hn)) (by norm_num)
    _ = 2 ^ (n - p - 1) := by
        rw [zpow_sub_one₀ two_ne_zero]
        ring

/-! ## Overflow -/

/-- The middle between `2^n` and the number before it in a format with `p` bits. -/
def overflowBound (p : Nat) (n : Int) : Rat := 2 ^ n - 2 ^ (n - p - 1)

theorem overflowBound_eq (p : Nat) (n : Int) :
    overflowBound p n = (((2 ^ p : Int) : Rat) - 1 / 2) * 2 ^ (n - p) := by
  have hn : (2 : Rat) ^ n = 2 ^ p * 2 ^ (n - p) := by
    rw [← zpow_natCast, ← zpow_add₀ two_ne_zero, add_sub_cancel]
  have hhalf : (2 : Rat) ^ (n - p - 1) = 1 / 2 * 2 ^ (n - p) := by
    rw [zpow_sub_one₀ two_ne_zero]
    ring
  rw [overflowBound, hn, hhalf]
  push_cast
  ring

theorem two_zpow_le_overflowBound (hp : 0 < p) : (2 : Rat) ^ (n - 1) ≤ overflowBound p n := by
  have hn : (2 : Rat) ^ n = 2 * 2 ^ (n - 1) := by
    rw [zpow_sub_one₀ two_ne_zero]
    ring
  have hle : (2 : Rat) ^ (n - p - 1) ≤ 2 ^ (n - 1) := two_zpow_le (by omega)
  rw [overflowBound, hn]
  linarith

/-- The last unit in the last binade below a power of two. -/
theorem lastBit_eq (hn : least + p ≤ n) (h₁ : 2 ^ (n - 1) ≤ q) (h₂ : q < 2 ^ n) :
    lastBit p least q = n - p := by
  have hq : 0 < q := (two_zpow_pos _).trans_le h₁
  have hlow : n - 1 < floorLog2 q + 1 :=
    lt_of_two_zpow_lt (h₁.trans_lt (floorLog2_spec hq).2)
  have hhigh := floorLog2_lt hq h₂
  rw [lastBit]
  omega

/-- Where the format ends at `2^n`, exactly the numbers from the middle on overflow. -/
theorem roundBinary_lt_iff (hp : 0 < p) (hn : least + p ≤ n) (hq : 0 ≤ q) :
    roundBinary p least q < 2 ^ n ↔ q < overflowBound p n := by
  rcases lt_or_ge q (2 ^ (n - 1)) with hsmall | hlarge
  · have hround : roundBinary p least q ≤ 2 ^ (n - 1) :=
      roundBinary_le hp (representable_two_zpow (by omega)) hq hsmall.le
    exact iff_of_true (hround.trans_lt (two_zpow_lt (by omega)))
      (hsmall.trans_le (two_zpow_le_overflowBound hp))
  rcases lt_or_ge q (2 ^ n) with hbelow | habove
  · have hunit := two_zpow_pos (n - p)
    have hpow : (2 : Rat) ^ n = ((2 ^ p : Int) : Rat) * 2 ^ (n - p) := by
      push_cast
      rw [← zpow_natCast, ← zpow_add₀ two_ne_zero, add_sub_cancel]
    have heven : (2 ^ p : Int) % 2 = 0 :=
      Int.emod_eq_zero_of_dvd (dvd_pow_self 2 hp.ne')
    rw [roundBinary_eq, lastBit_eq hn hlarge hbelow, hpow, mul_lt_mul_iff_left₀ hunit,
      Int.cast_lt, roundHalfEven_lt_iff heven, div_lt_iff₀ hunit, overflowBound_eq]
  · have hround : 2 ^ n ≤ roundBinary p least q :=
      le_roundBinary hp (representable_two_zpow (by omega)) ((two_zpow_pos n).trans_le habove)
        habove
    have hbound : overflowBound p n < 2 ^ n := sub_lt_self _ (two_zpow_pos _)
    exact iff_of_false (not_lt.mpr hround) (not_lt.mpr (hbound.le.trans habove))

/-- The number of the format before a power of two. -/
theorem Representable.le_of_lt (hp : 0 < p) (hr : Representable p least r) (h : r < 2 ^ n) :
    r ≤ 2 ^ n - 2 ^ (n - p) := by
  obtain ⟨m, e, hm, _, rfl⟩ := hr
  rcases le_or_gt (n - p) e with he | he
  · obtain ⟨k, rfl⟩ : ∃ k : Nat, e = n - p + k := ⟨(e - (n - p)).toNat, by omega⟩
    have hunit := two_zpow_pos (n - p)
    have hpow : (2 : Rat) ^ n = ((2 ^ p : Nat) : Rat) * 2 ^ (n - p) := by
      push_cast
      rw [← zpow_natCast, ← zpow_add₀ two_ne_zero, add_sub_cancel]
    have hmul : (m : Rat) * 2 ^ (n - p + k) = ((m * 2 ^ k : Nat) : Rat) * 2 ^ (n - p) := by
      rw [zpow_add₀ two_ne_zero, zpow_natCast]
      push_cast
      ring
    rw [hpow, hmul, mul_lt_mul_iff_left₀ hunit, Nat.cast_lt] at h
    rw [hpow, hmul, ← sub_one_mul]
    refine mul_le_mul_of_nonneg_right ?_ hunit.le
    rw [le_sub_iff_add_le]
    exact_mod_cast h
  · have hle : (m : Rat) * 2 ^ e ≤ 2 ^ (n - 1) := by
      calc (m : Rat) * 2 ^ e ≤ 2 ^ p * 2 ^ e :=
            mul_le_mul_of_nonneg_right (by exact_mod_cast hm) (two_zpow_pos e).le
        _ = 2 ^ ((p : Int) + e) := by rw [zpow_add₀ two_ne_zero, zpow_natCast]
        _ ≤ 2 ^ (n - 1) := two_zpow_le (by omega)
    have hn : (2 : Rat) ^ n = 2 * 2 ^ (n - 1) := by
      rw [zpow_sub_one₀ two_ne_zero]
      ring
    have hunit : (2 : Rat) ^ (n - p) ≤ 2 ^ (n - 1) := two_zpow_le (by omega)
    rw [hn]
    linarith

/-- A point between two numbers of the format, by a fraction with `p` bits, does not overflow: the
rounding of the distance is made good by the fraction, which is less than one. -/
theorem add_roundBinary_mul_lt {a b u : Rat} (hp : 0 < p) (hn : least + p < n)
    (hb : Representable p least b) (ha : 0 ≤ a) (hab : a ≤ b) (hbn : b < 2 ^ n) (hu₀ : 0 ≤ u)
    (hu : u ≤ 1 - 2 ^ (-p : Int)) :
    a + roundBinary p least (roundBinary p least (b - a) * u) < overflowBound p n := by
  set d := roundBinary p least (b - a) with hd
  have hd₀ : 0 ≤ d := roundBinary_nonneg (sub_nonneg.mpr hab)
  have hdb : d ≤ b := roundBinary_le hp hb (sub_nonneg.mpr hab) (sub_le_self b ha)
  have hend := hb.le_of_lt hp hbn
  -- `w` is half the last unit below `2^n`
  obtain ⟨w, hw⟩ : ∃ w : Rat, w = 2 ^ (n - p - 1) := ⟨_, rfl⟩
  have hw₀ : 0 < w := hw ▸ two_zpow_pos _
  have hunit : (2 : Rat) ^ (n - p) = 2 * w := by
    rw [hw, zpow_sub_one₀ two_ne_zero]
    ring
  have hhalf : (2 : Rat) ^ (n - 1 - p - 1) = w / 2 := by
    rw [hw, show n - 1 - p - 1 = n - p - 1 - 1 by ring, zpow_sub_one₀ two_ne_zero _]
    ring
  have htop : (2 : Rat) ^ (n - 1) * 2 ^ (-p : Int) = w := by
    rw [hw, ← zpow_add₀ two_ne_zero]
    congr 1
    ring
  have hfraction := two_zpow_pos (-p : Int)
  rw [overflowBound, ← hw]
  rw [hunit] at hend
  rcases hd₀.eq_or_lt with hzero | hpos
  · rw [← hzero, zero_mul, roundBinary_zero]
    linarith
  have hdu₀ : 0 ≤ d * u := mul_nonneg hd₀ hu₀
  have hdu : d * u ≤ d - d * 2 ^ (-p : Int) := by
    calc d * u ≤ d * (1 - 2 ^ (-p : Int)) := mul_le_mul_of_nonneg_left hu hd₀
      _ = d - d * 2 ^ (-p : Int) := by ring
  have hdu' : d * u < d := hdu.trans_lt (sub_lt_self d (mul_pos hpos hfraction))
  -- how far off the two roundings are, at most and below half the end
  have herror : ∀ {x : Rat}, 0 ≤ x → x < 2 ^ n → roundBinary p least x ≤ x + w := by
    intro x hx₀ hx
    have := (abs_le.mp (@abs_roundBinary_sub_le p least n x hx₀ hx hn.le)).2
    rw [← hw] at this
    linarith
  have herror' : ∀ {x : Rat}, 0 ≤ x → x < 2 ^ (n - 1) → roundBinary p least x ≤ x + w / 2 := by
    intro x hx₀ hx
    have := (abs_le.mp (@abs_roundBinary_sub_le p least (n - 1) x hx₀ hx (by omega))).2
    rw [hhalf] at this
    linarith
  have hdistance : b - a < 2 ^ n := (sub_le_self b ha).trans_lt hbn
  rcases le_or_gt d (2 ^ (n - 1)) with hlow | hhigh
  · have h₂ := herror' hdu₀ (hdu'.trans_le hlow)
    rcases lt_or_ge (b - a) (2 ^ (n - 1)) with hnear | hfar
    · have h₁ := herror' (sub_nonneg.mpr hab) hnear
      have := mul_pos hpos hfraction
      linarith
    · have h₁ := herror (sub_nonneg.mpr hab) hdistance
      have hd' : 2 ^ (n - 1) ≤ d := le_roundBinary hp (representable_two_zpow (by omega))
        ((two_zpow_pos _).trans_le hfar) hfar
      have := mul_le_mul_of_nonneg_right hd' hfraction.le
      linarith
  · have h₁ := herror (sub_nonneg.mpr hab) hdistance
    have h₂ := herror hdu₀ (hdu'.trans (hdb.trans_lt hbn))
    have := mul_lt_mul_of_pos_right hhigh hfraction
    linarith

end StorePulse
