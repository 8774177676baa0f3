import GameClient.Number.Binary64
import Mathlib.Tactic.SplitIfs

/-! # Rounding keeps the order

The double nearest to a quotient depends on the value of the quotient only, and a greater quotient
never has a smaller double. Sizes are compared in grains of `2 ^ (-1074)`, the least positive
double: every finite double is a whole number of them, so no fractions are needed. -/

namespace GameClient

/-! ## Whole numbers -/

theorem divNearest_mul_mul (num den : Nat) {k : Nat} (pos : 0 < k) :
    divNearest (num * k) (den * k) = divNearest num den := by
  have twice : 2 * (num % den * k) = 2 * (num % den) * k := (Nat.mul_assoc ..).symm
  simp only [divNearest, Nat.mul_div_mul_right _ _ pos, Nat.mul_mod_mul_right, twice,
    Nat.mul_lt_mul_right pos]

/-- The nearest whole number is the quotient without remainder, or the next one. -/
theorem divNearest_bounds (num den : Nat) :
    num / den ≤ divNearest num den ∧ divNearest num den ≤ num / den + 1 := by
  simp only [divNearest]
  split
  · omega
  · split <;> omega

theorem divNearest_le_divNearest_left {num num' : Nat} (den : Nat) (h : num ≤ num') :
    divNearest num den ≤ divNearest num' den := by
  have here := divNearest_bounds num den
  have there := divNearest_bounds num' den
  rcases Nat.lt_or_eq_of_le (Nat.div_le_div_right (c := den) h) with less | same
  · omega
  · -- With equal quotients the remainders decide, and they are in the same order.
    have split := Nat.div_add_mod num den
    have split' := Nat.div_add_mod num' den
    rw [← same] at split'
    have rest : num % den ≤ num' % den := by omega
    simp only [divNearest, ← same]
    split_ifs <;> omega

theorem divNearest_le_divNearest {num den num' den' : Nat} (pos : 0 < den) (pos' : 0 < den')
    (h : num * den' ≤ num' * den) : divNearest num den ≤ divNearest num' den' := by
  calc divNearest num den = divNearest (num * den') (den * den') :=
        (divNearest_mul_mul num den pos').symm
    _ ≤ divNearest (num' * den) (den * den') := divNearest_le_divNearest_left _ h
    _ = divNearest (num' * den) (den' * den) := by rw [Nat.mul_comm den den']
    _ = divNearest num' den' := divNearest_mul_mul num' den' pos

theorem divNearest_mul_self (n : Nat) {den : Nat} (pos : 0 < den) :
    divNearest (n * den) den = n := by
  simp [divNearest, Nat.mul_div_cancel n pos, pos]

namespace Binary64

/-- One, in grains. -/
def grains : Nat := 2 ^ 1074

theorem grains_pos : 0 < grains := by decide +kernel

theorem two_pow_add_grains (n : Nat) : 2 ^ (n + 1074) = 2 ^ n * grains := by
  have split (k : Nat) : 2 ^ (n + k) = 2 ^ n * 2 ^ k := Nat.pow_add 2 n k
  exact split 1074

/-! ## The last place -/

/-- The last place of the doubles near `num / den`, counted from the last place of the least ones:
there is room for at most fifty-three binary digits, and these are used if the place is not the
least. -/
structure LastPlace (num den place : Nat) : Prop where
  room : num * grains < 2 ^ 53 * (den * 2 ^ place)
  used : place = 0 ∨ 2 ^ 52 * (den * 2 ^ place) ≤ num * grains

theorem two_mul_place (den place : Nat) :
    2 ^ 52 * (den * 2 ^ (place + 1)) = 2 ^ 53 * (den * 2 ^ place) := by
  have twice : (2 ^ 53 : Nat) = 2 ^ 52 * 2 := rfl
  have next : 2 ^ (place + 1) = 2 ^ place * 2 := Nat.pow_succ 2 place
  rw [twice, next]
  generalize (2 ^ 52 : Nat) = half
  ac_rfl

theorem LastPlace.le {num den place num' den' place' : Nat} (here : LastPlace num den place)
    (there : LastPlace num' den' place') (pos : 0 < den)
    (h : num * den' ≤ num' * den) : place ≤ place' := by
  apply Nat.le_of_not_lt
  intro beyond
  have used : 2 ^ 52 * (den * 2 ^ place) ≤ num * grains :=
    here.used.resolve_left (Nat.ne_of_gt (Nat.zero_lt_of_lt beyond))
  have room : num' * grains < 2 ^ 52 * (den' * 2 ^ place) := by
    refine Nat.lt_of_lt_of_le there.room ?_
    have next : 2 ^ (place' + 1) ≤ 2 ^ place := Nat.pow_le_pow_right (by decide) beyond
    rw [← two_mul_place]
    exact Nat.mul_le_mul_left _ (Nat.mul_le_mul_left _ next)
  have low : 2 ^ 52 * (den * 2 ^ place) * den' ≤ num * grains * den' :=
    Nat.mul_le_mul_right den' used
  have high : num' * grains * den < 2 ^ 52 * (den' * 2 ^ place) * den :=
    Nat.mul_lt_mul_of_pos_right room pos
  have order : num * den' * grains ≤ num' * den * grains := Nat.mul_le_mul_right _ h
  have same : 2 ^ 52 * (den * 2 ^ place) * den' = 2 ^ 52 * (den' * 2 ^ place) * den := by
    ac_rfl
  rw [Nat.mul_right_comm num, Nat.mul_right_comm num'] at order
  omega

/-- A quotient at a place is scaled to grains by a power of two. -/
theorem exists_scaled (num den : Nat) {place : Int} (least : -1074 ≤ place) :
    ∃ k, 0 < k ∧ num * 2 ^ (-place).toNat * k = num * grains ∧
      den * 2 ^ place.toNat * k = den * 2 ^ (place + 1074).toNat := by
  refine ⟨2 ^ (1074 - (-place).toNat), Nat.two_pow_pos _, ?_, ?_⟩
  · rw [Nat.mul_assoc, ← Nat.pow_add, grains]
    congr 2
    omega
  · rw [Nat.mul_assoc, ← Nat.pow_add]
    congr 2
    omega

/-- The exponent of the last place, counted from the least one. -/
def placeOf (num den : Nat) : Nat := (lastPlace num den + 1074).toNat

theorem neg_le_lastPlace (num den : Nat) : -1074 ≤ lastPlace num den := by
  simp only [lastPlace]
  split <;> omega

/-- The last place as the binary digits of both numbers have it: it is this one or the next. -/
def coarsePlace (num den : Nat) : Nat :=
  (max (-1074) ((num.log2 : Int) - den.log2 - 53) + 1074).toNat

theorem reaches_iff (num den : Nat) {place : Int} (least : -1074 ≤ place) :
    2 ^ 53 * (den * 2 ^ place.toNat) ≤ num * 2 ^ (-place).toNat ↔
      2 ^ 53 * (den * 2 ^ (place + 1074).toNat) ≤ num * grains := by
  obtain ⟨k, pos, num_eq, den_eq⟩ := exists_scaled num den least
  rw [← num_eq, ← den_eq, ← Nat.mul_assoc _ _ k, Nat.mul_le_mul_right_iff pos]

theorem placeOf_eq (num den : Nat) :
    placeOf num den =
      if 2 ^ 53 * (den * 2 ^ coarsePlace num den) ≤ num * grains then coarsePlace num den + 1
      else coarsePlace num den := by
  have least : -1074 ≤ max (-1074) ((num.log2 : Int) - den.log2 - 53) := Int.le_max_left _ _
  have reaches := reaches_iff num den least
  rw [placeOf, lastPlace, coarsePlace]
  by_cases beyond : 2 ^ 53 * (den * 2 ^ (max (-1074) ((num.log2 : Int) - den.log2 - 53)).toNat) ≤
      num * 2 ^ (-max (-1074) ((num.log2 : Int) - den.log2 - 53)).toNat
  · rw [if_pos beyond, if_pos (reaches.mp beyond)]
    omega
  · rw [if_neg beyond, if_neg (mt reaches.mpr beyond)]

theorem lastPlace_placeOf {num den : Nat} (pos : 0 < num) (pos' : 0 < den) :
    LastPlace num den (placeOf num den) := by
  have low : 2 ^ (num.log2 + 1074) ≤ num * grains := by
    rw [two_pow_add_grains]
    exact Nat.mul_le_mul_right _ (Nat.log2_self_le (Nat.ne_of_gt pos))
  have high : num * grains < 2 ^ (num.log2 + 1 + 1074) := by
    rw [two_pow_add_grains]
    exact Nat.mul_lt_mul_of_pos_right Nat.lt_log2_self grains_pos
  have room (place : Nat) : 2 ^ (53 + (den.log2 + place)) ≤ 2 ^ 53 * (den * 2 ^ place) := by
    rw [Nat.pow_add, Nat.pow_add]
    exact Nat.mul_le_mul_left _ (Nat.mul_le_mul_right _ (Nat.log2_self_le (Nat.ne_of_gt pos')))
  have used (place : Nat) : 2 ^ 52 * (den * 2 ^ place) ≤ 2 ^ (52 + (den.log2 + 1 + place)) := by
    rw [Nat.pow_add, Nat.pow_add]
    exact Nat.mul_le_mul_left _ (Nat.mul_le_mul_right _ (Nat.le_of_lt Nat.lt_log2_self))
  have reach : (num.log2 : Int) - den.log2 - 53 + 1074 ≤ coarsePlace num den := by
    rw [coarsePlace]
    omega
  rw [placeOf_eq]
  split
  · next beyond =>
    refine ⟨?_, .inr ?_⟩
    · have wide := room (coarsePlace num den + 1)
      have digits : 2 ^ (num.log2 + 1 + 1074) ≤ 2 ^ (53 + (den.log2 + (coarsePlace num den + 1))) :=
        Nat.pow_le_pow_right (by decide) (by omega)
      omega
    · rw [two_mul_place]
      exact beyond
  · next fits =>
    refine ⟨Nat.lt_of_not_le fits, ?_⟩
    rcases Nat.eq_zero_or_pos (coarsePlace num den) with least | above
    · exact .inl least
    · have exact_reach : (coarsePlace num den : Int) = (num.log2 : Int) - den.log2 - 53 + 1074 := by
        rw [coarsePlace] at above ⊢
        omega
      have digits : 2 ^ (52 + (den.log2 + 1 + coarsePlace num den)) ≤ 2 ^ (num.log2 + 1074) :=
        Nat.pow_le_pow_right (by decide) (by omega)
      exact .inr (Nat.le_trans (used _) (Nat.le_trans digits low))

/-- The magnitude of the nearest double: its place and its significand. Beyond the greatest double it
grows on. -/
def nearest (num den : Nat) : Nat :=
  if num = 0 ∨ den = 0 then 0
  else placeOf num den * 2 ^ 52 + divNearest (num * grains) (den * 2 ^ placeOf num den)

theorem ofRatio_eq (negative : Bool) (num den : Nat) :
    ofRatio negative num den =
      ofSignMagnitude negative (min infinityMagnitude (nearest num den)) := by
  unfold ofRatio nearest
  split
  · rfl
  · obtain ⟨k, pos, num_eq, den_eq⟩ := exists_scaled num den (neg_le_lastPlace num den)
    rw [placeOf, ← num_eq, ← den_eq, divNearest_mul_mul _ _ pos]

/-- The significand fits its place. -/
theorem LastPlace.significand_bounds {num den place : Nat} (h : LastPlace num den place)
    (pos : 0 < den) :
    divNearest (num * grains) (den * 2 ^ place) ≤ 2 ^ 53 ∧
      (place = 0 ∨ 2 ^ 52 ≤ divNearest (num * grains) (den * 2 ^ place)) := by
  have unit : 0 < den * 2 ^ place := Nat.mul_pos pos (Nat.two_pow_pos place)
  constructor
  · rw [← divNearest_mul_self (2 ^ 53) unit]
    exact divNearest_le_divNearest_left _ (Nat.le_of_lt h.room)
  · refine h.used.imp_right fun used => ?_
    rw [← divNearest_mul_self (2 ^ 52) unit]
    exact divNearest_le_divNearest_left _ used

theorem nearest_le_nearest {num den num' den' : Nat} (pos : 0 < den) (pos' : 0 < den')
    (h : num * den' ≤ num' * den) : nearest num den ≤ nearest num' den' := by
  rcases Nat.eq_zero_or_pos num with rfl | some
  · rw [nearest, if_pos (.inl rfl)]
    exact Nat.zero_le _
  have some' : 0 < num' := by
    apply Nat.pos_of_mul_pos_right
    exact Nat.lt_of_lt_of_le (Nat.mul_pos some pos') h
  have here := lastPlace_placeOf some pos
  have there := lastPlace_placeOf some' pos'
  rw [nearest, nearest, if_neg (by omega), if_neg (by omega)]
  generalize placeOf num den = place at *
  generalize placeOf num' den' = place' at *
  rcases Nat.lt_or_eq_of_le (here.le there pos h) with less | rfl
  · -- A lower place is left for good: its greatest significand is the least one of the next place.
    have most := (here.significand_bounds pos).1
    have least := (there.significand_bounds pos').2.resolve_left (by omega)
    omega
  · refine Nat.add_le_add_left (divNearest_le_divNearest ?_ ?_ ?_) _
    · exact Nat.mul_pos pos (Nat.two_pow_pos place)
    · exact Nat.mul_pos pos' (Nat.two_pow_pos place)
    · rw [Nat.mul_mul_mul_comm, Nat.mul_mul_mul_comm num']
      exact Nat.mul_le_mul_right _ h

end Binary64

end GameClient
