import Metrology.Proofs.Power.Range

/-!
# Products in which nothing cancels

The products of leading powers are what makes the magnitude of a list depend on the order of its
powers: their components can be larger than those of the whole, when a numerator cancels against a
denominator further on. In an `Uncancelled` list of powers that have a size nothing does, and then the
whole product decides whether its calculation returns (`magnitudesInRange_iff_of_uncancelled`). Of two
powers, each is a leading product or the rest of one, so that their order makes no difference either
(`magnitudesInRange_iff_of_length_le_two`).
-/

namespace Metrology

/-! ## Two numbers -/

namespace Ratio

variable {x y z : ℚ}

/-- Whether no component of one number has a factor in common with the other component of another. -/
structure Uncancelled (x y : ℚ) : Prop where
  num_den : x.num.natAbs.Coprime y.den
  den_num : x.den.Coprime y.num.natAbs

namespace Uncancelled

theorem symm (h : Uncancelled x y) : Uncancelled y x :=
  ⟨h.den_num.symm, h.num_den.symm⟩

theorem one_right (x : ℚ) : Uncancelled x 1 :=
  ⟨Nat.coprime_one_right _, Nat.coprime_one_right _⟩

/-- The components of the product are the products of the components. -/
theorem gcd_eq_one (h : Uncancelled x y) :
    (x.num * y.num).natAbs.gcd (x.den * y.den) = 1 := by
  rw [Int.natAbs_mul]
  refine Nat.Coprime.mul_left ?_ ?_
  · exact Nat.Coprime.mul_right x.reduced h.num_den
  · exact Nat.Coprime.mul_right h.den_num.symm y.reduced

theorem num_mul (h : Uncancelled x y) : (x * y).num = x.num * y.num := by
  rw [Rat.mul_num, h.gcd_eq_one, Nat.cast_one, Int.ediv_one]

theorem den_mul (h : Uncancelled x y) : (x * y).den = x.den * y.den := by
  rw [Rat.mul_den, h.gcd_eq_one, Nat.div_one]

theorem mul_right (hy : Uncancelled x y) (hz : Uncancelled x z) (hyz : Uncancelled y z) :
    Uncancelled x (y * z) := by
  refine ⟨?_, ?_⟩
  · rw [hyz.den_mul]
    exact Nat.Coprime.mul_right hy.num_den hz.num_den
  · rw [hyz.num_mul, Int.natAbs_mul]
    exact Nat.Coprime.mul_right hy.den_num hz.den_num

end Uncancelled

/-- What cancels between two ratios is seen from the components that they hold. -/
theorem uncancelled_value_iff {a b : Ratio} :
    Uncancelled a.value b.value ↔
      a.num.toInt.natAbs.Coprime b.den.toInt.natAbs ∧
        a.den.toInt.natAbs.Coprime b.num.toInt.natAbs := by
  obtain ⟨han, had⟩ := components_value a
  obtain ⟨hbn, hbd⟩ := components_value b
  rw [← han, ← had, ← hbn, ← hbd, Int.natAbs_natCast, Int.natAbs_natCast]
  exact ⟨fun h => ⟨h.num_den, h.den_num⟩, fun h => ⟨h.1, h.2⟩⟩

/-- The components of a number are not larger than those of its product with another one, when nothing
cancels. -/
theorem Representable.left_of_mul (hxy : Uncancelled x y) (hy : y ≠ 0)
    (h : Representable (x * y)) : Representable x := by
  obtain ⟨hnum, hden⟩ := h
  rw [hxy.num_mul, Int.natAbs_mul] at hnum
  rw [hxy.den_mul] at hden
  have hpos : 0 < y.num.natAbs := Int.natAbs_pos.2 (Rat.num_ne_zero.2 hy)
  exact ⟨(Nat.le_mul_of_pos_right _ hpos).trans_lt hnum,
    (Nat.le_mul_of_pos_right _ y.den_pos).trans_lt hden⟩

end Ratio

/-! ## Lists of powers -/

namespace Power

variable {s t part rest : List Power} {p : Power} {x : ℚ}

/-- The magnitude of a power as a number. -/
def size (t : Power) : ℚ := t.base.magnitude.value ^ t.exponent.toInt

/-- A base to the first power has its own magnitude. -/
theorem size_one (b : NamedUnit) : (Power.mk b 1).size = b.magnitude.value := zpow_one _

/-- The product of the magnitudes of a list as a number. -/
def totalSize (terms : List Power) : ℚ := weigh (fun b => b.magnitude.value) terms

@[simp] theorem totalSize_nil : totalSize [] = 1 := rfl

@[simp] theorem totalSize_cons (t : Power) (s : List Power) :
    totalSize (t :: s) = t.size * totalSize s := weigh_cons t s

theorem totalSize_append (s t : List Power) : totalSize (s ++ t) = totalSize s * totalSize t :=
  weigh_append s t

theorem totalSize_perm (h : s.Perm t) : totalSize s = totalSize t := weigh_perm h

/-- Whether nothing cancels between the magnitudes of two powers of a list. -/
def Uncancelled (terms : List Power) : Prop :=
  terms.Pairwise fun s t => Ratio.Uncancelled s.size t.size

theorem Uncancelled.perm (hs : Uncancelled s) (h : s.Perm t) : Uncancelled t :=
  (h.pairwise_iff fun h => h.symm).1 hs

/-- Between first powers, the components of the magnitudes show what cancels. -/
theorem uncancelled_map_iff {units : List NamedUnit} :
    Uncancelled (units.map (mk · 1)) ↔
      units.Pairwise fun b c =>
        b.magnitude.num.toInt.natAbs.Coprime c.magnitude.den.toInt.natAbs ∧
          b.magnitude.den.toInt.natAbs.Coprime c.magnitude.num.toInt.natAbs := by
  simp only [Uncancelled, List.pairwise_map, size_one, Ratio.uncancelled_value_iff]

/-- A number with which no power of a list cancels does not cancel with their product. -/
theorem Uncancelled.totalSize_right (hs : Uncancelled s)
    (hx : ∀ t ∈ s, Ratio.Uncancelled x t.size) : Ratio.Uncancelled x (totalSize s) := by
  induction s generalizing x with
  | nil => exact .one_right x
  | cons t s ih =>
    obtain ⟨ht, hs⟩ := List.pairwise_cons.1 hs
    obtain ⟨hxt, hx⟩ := List.forall_mem_cons.1 hx
    rw [totalSize_cons]
    exact hxt.mul_right (ih hs hx) (ih hs ht)

/-- Leading powers of which nothing cancels with what follows are in range when the whole product
is. -/
theorem Uncancelled.representable_leading (h : Uncancelled (part ++ rest))
    (hrest : ∀ b ∈ bases rest, b.magnitude.value ≠ 0)
    (hall : Ratio.Representable (totalSize (part ++ rest))) :
    Ratio.Representable (totalSize part) := by
  obtain ⟨hp, hr, hcross⟩ := List.pairwise_append.1 h
  have hboth : Ratio.Uncancelled (totalSize part) (totalSize rest) := by
    refine Uncancelled.totalSize_right hr fun t ht => Ratio.Uncancelled.symm ?_
    exact Uncancelled.totalSize_right hp fun p hp => (hcross p hp t ht).symm
  rw [totalSize_append] at hall
  exact hall.left_of_mul hboth (weigh_ne_zero hrest)

theorem Uncancelled.representable_size (h : Uncancelled s)
    (hs : ∀ b ∈ bases s, b.magnitude.value ≠ 0) (hall : Ratio.Representable (totalSize s))
    (hp : p ∈ s) : Ratio.Representable p.size := by
  -- Any power can be put in front, and then it is a leading product.
  have hperm : s.Perm ([p] ++ s.erase p) := List.perm_cons_erase hp
  have hlead := (h.perm hperm).representable_leading
    (fun b hb => hs b ((List.erase_sublist.map base).subset hb)) (totalSize_perm hperm ▸ hall)
  rwa [totalSize_cons, totalSize_nil, mul_one] at hlead

theorem magnitudesInRange_iff_of_uncancelled (h : Uncancelled s)
    (hs : ∀ b ∈ bases s, b.magnitude.value ≠ 0) :
    MagnitudesInRange s ↔ Ratio.Representable (totalSize s) := by
  refine ⟨fun hrange => hrange.weigh, fun hall => ⟨fun p => h.representable_size hs hall, ?_⟩⟩
  rintro part ⟨rest, rfl⟩
  refine h.representable_leading (fun b hb => hs b ?_) hall
  exact ((List.sublist_append_right part rest).map base).subset hb

theorem magnitudesInRange_iff_of_length_le_two (h : s.length ≤ 2) :
    MagnitudesInRange s ↔
      (∀ t ∈ s, Ratio.Representable t.size) ∧ Ratio.Representable (totalSize s) := by
  refine ⟨fun hrange => ⟨hrange.power, hrange.weigh⟩, fun ⟨hpower, hall⟩ => ⟨hpower, ?_⟩⟩
  intro part hpart
  rcases part with _ | ⟨p, _ | ⟨q, rest⟩⟩
  · exact Ratio.representable_one
  · have hp := hpower p (hpart.subset List.mem_cons_self)
    rwa [weigh_cons, weigh_nil, mul_one]
  · have hwhole := hpart.eq_of_length_le (h.trans (Nat.le_add_left 2 rest.length))
    exact hwhole ▸ hall

/-- The order of the powers makes no difference when there are two of them at most or nothing
cancels. -/
theorem magnitudesInRange_perm (hst : s.Perm t) (hs : ∀ b ∈ bases s, b.magnitude.value ≠ 0)
    (h : s.length ≤ 2 ∨ Uncancelled s) : MagnitudesInRange s ↔ MagnitudesInRange t := by
  rcases h with h | h
  · rw [magnitudesInRange_iff_of_length_le_two h,
      magnitudesInRange_iff_of_length_le_two (hst.length_eq ▸ h), totalSize_perm hst]
    exact and_congr_left fun _ => forall_congr' fun p => by rw [hst.mem_iff]
  · have ht : ∀ b ∈ bases t, b.magnitude.value ≠ 0 := fun b hb =>
      hs b ((hst.map base).mem_iff.2 hb)
    rw [magnitudesInRange_iff_of_uncancelled h hs,
      magnitudesInRange_iff_of_uncancelled (h.perm hst) ht, totalSize_perm hst]

end Power

end Metrology
