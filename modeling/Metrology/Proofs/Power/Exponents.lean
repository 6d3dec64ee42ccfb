import Mathlib.Algebra.BigOperators.Group.Finset.Basic
import Mathlib.Algebra.Group.TypeTags.Basic
import Mathlib.Algebra.Group.Int.Defs
import Metrology.Product
import Metrology.Proofs.Power.Weight

/-!
# Lists with the same exponents

`exponentAt` is the exponent of a base, and lists of factors with the same exponents are permutations
of each other (`Simplified.perm_of_exponentAt`). Two lists of powers are `Alike` when they weigh the
same however units are weighed by integers. They then weigh the same in any group
(`Alike.weigh_eq`). Lists of factors that are alike have the same exponents (`Alike.exponentAt_eq`),
so they are permutations of each other (`Alike.perm`) and have one origin.
-/

namespace Metrology.Power

variable {s t : List Power} {p : Power} {u : NamedUnit}

/-! ## Weights that see few bases -/

section Weigh

variable {M : Type} [DivisionCommMonoid M] {f : NamedUnit → M}

theorem weigh_eq_one (h : ∀ u ∈ bases s, f u = 1) : weigh f s = 1 := by
  induction s with
  | nil => rfl
  | cons t s ih =>
    rw [weigh_cons, h t.base List.mem_cons_self, one_zpow, one_mul]
    exact ih fun u hu => h u (List.mem_cons_of_mem _ hu)

theorem weigh_congr {g : NamedUnit → M} (h : ∀ u ∈ bases s, f u = g u) :
    weigh f s = weigh g s := by
  induction s with
  | nil => rfl
  | cons t s ih =>
    rw [weigh_cons, weigh_cons, h t.base List.mem_cons_self,
      ih fun u hu => h u (List.mem_cons_of_mem _ hu)]

/-- A weight that sees one base only is that of its power. -/
theorem weigh_of_mem (hs : (bases s).Nodup) (hp : p ∈ s) (hf : ∀ u, u ≠ p.base → f u = 1) :
    weigh f s = f p.base ^ p.exponent.toInt := by
  induction s with
  | nil => cases hp
  | cons t s ih =>
    obtain ⟨hnot, hs⟩ := List.nodup_cons.1 hs
    rw [weigh_cons]
    rcases List.mem_cons.1 hp with rfl | hp
    · rw [weigh_eq_one fun u hu => hf u fun h => hnot (h ▸ hu), mul_one]
    · have hne : t.base ≠ p.base := fun h => hnot (mem_bases.2 ⟨p, hp, h.symm⟩)
      rw [hf t.base hne, one_zpow, one_mul, ih hs hp]

end Weigh

/-- The weight that counts the exponents of the units with a property. -/
def mark (P : NamedUnit → Prop) [DecidablePred P] (u : NamedUnit) : Multiplicative ℤ :=
  if P u then .ofAdd 1 else 1

theorem mark_of {P : NamedUnit → Prop} [DecidablePred P] (h : P u) : mark P u = .ofAdd 1 :=
  if_pos h

theorem mark_of_not {P : NamedUnit → Prop} [DecidablePred P] (h : ¬P u) : mark P u = 1 :=
  if_neg h

theorem mark_eq_iff {P : NamedUnit → Prop} [DecidablePred P] {v : NamedUnit} :
    mark P u = mark P v ↔ (P u ↔ P v) := by
  have hne : (Multiplicative.ofAdd (1 : ℤ)) ≠ 1 := by decide
  by_cases hu : P u <;> by_cases hv : P v <;> simp [mark, hu, hv, hne, hne.symm]

theorem ofAdd_one_zpow (n : ℤ) : (Multiplicative.ofAdd (1 : ℤ)) ^ n = .ofAdd n := by
  rw [← ofAdd_zsmul, smul_eq_mul, mul_one]

/-! ## The exponent of a base -/

/-- The exponent that a base has, zero where it does not occur. -/
def exponentAt (u : NamedUnit) : List Power → Int32
  | [] => 0
  | t :: terms => if t.base = u then t.exponent else exponentAt u terms

theorem exponentAt_cons_of_eq (h : p.base = u) (s : List Power) :
    exponentAt u (p :: s) = p.exponent := if_pos h

theorem exponentAt_cons_of_ne (h : p.base ≠ u) (s : List Power) :
    exponentAt u (p :: s) = exponentAt u s := if_neg h

theorem exponentAt_of_notMem (h : u ∉ bases s) : exponentAt u s = 0 := by
  induction s with
  | nil => rfl
  | cons t s ih =>
    obtain ⟨ht, hs⟩ := not_or.1 (mt List.mem_cons.2 h)
    rw [exponentAt_cons_of_ne (Ne.symm ht), ih hs]

theorem exponentAt_of_mem (hs : (bases s).Nodup) (hp : p ∈ s) :
    exponentAt p.base s = p.exponent := by
  induction s with
  | nil => cases hp
  | cons t s ih =>
    obtain ⟨hnot, hs⟩ := List.nodup_cons.1 hs
    rcases List.mem_cons.1 hp with rfl | hp
    · exact exponentAt_cons_of_eq rfl s
    · have hne : t.base ≠ p.base := fun h => hnot (mem_bases.2 ⟨p, hp, h.symm⟩)
      rw [exponentAt_cons_of_ne hne, ih hs hp]

/-- A base whose exponent is not zero occurs with that exponent. -/
theorem mem_of_exponentAt (h : exponentAt u s ≠ 0) : ⟨u, exponentAt u s⟩ ∈ s := by
  induction s with
  | nil => exact absurd rfl h
  | cons t s ih =>
    by_cases ht : t.base = u
    · rw [exponentAt_cons_of_eq ht, ← ht]
      exact List.mem_cons_self
    · rw [exponentAt_cons_of_ne ht] at h ⊢
      exact List.mem_cons_of_mem _ (ih h)

/-- What holds of all powers holds of the exponents of all bases, also of those that do not
occur. -/
theorem forall_exponentAt_iff {Q : NamedUnit → Int32 → Prop} (hs : (bases s).Nodup)
    (h0 : ∀ u, Q u 0) : (∀ t ∈ s, Q t.base t.exponent) ↔ ∀ u, Q u (exponentAt u s) := by
  constructor
  · intro h u
    by_cases hzero : exponentAt u s = 0
    · rw [hzero]
      exact h0 u
    · exact h _ (mem_of_exponentAt hzero)
  · intro h t ht
    exact exponentAt_of_mem hs ht ▸ h t.base

/-- Factors that have the same exponents are the same factors. -/
theorem Simplified.perm_of_exponentAt (hs : Simplified s) (ht : Simplified t)
    (h : ∀ u, exponentAt u s = exponentAt u t) : s.Perm t := by
  have hsub : ∀ {a b : List Power}, Simplified a → (∀ u, exponentAt u a = exponentAt u b) →
      ∀ p ∈ a, p ∈ b := by
    intro a b ha h p hp
    have hexp : exponentAt p.base b = p.exponent := (h p.base).symm.trans
      (exponentAt_of_mem ha.nodup hp)
    have hmem := mem_of_exponentAt (u := p.base) (s := b)
      (by rw [hexp]; exact (isLive_iff.1 (ha.live p hp)).1)
    rwa [hexp] at hmem
  exact (List.perm_ext_iff_of_nodup hs.nodup.of_map ht.nodup.of_map).2 fun p =>
    ⟨hsub hs h p, hsub ht (fun u => (h u).symm) p⟩

theorem exponentAt_of_perm (hs : (bases s).Nodup) (ht : (bases t).Nodup) (h : s.Perm t)
    (u : NamedUnit) : exponentAt u s = exponentAt u t := by
  by_cases hu : u ∈ bases s
  · obtain ⟨p, hp, rfl⟩ := mem_bases.1 hu
    rw [exponentAt_of_mem hs hp, exponentAt_of_mem ht (h.subset hp)]
  · have hu' : u ∉ bases t := fun h' => hu ((h.map base).mem_iff.2 h')
    rw [exponentAt_of_notMem hu, exponentAt_of_notMem hu']

/-- The mark of a base sees the exponent that the base has. -/
theorem weigh_mark (hs : (bases s).Nodup) (u : NamedUnit) :
    weigh (mark (· = u)) s = .ofAdd (exponentAt u s).toInt := by
  by_cases hu : u ∈ bases s
  · obtain ⟨p, hp, rfl⟩ := mem_bases.1 hu
    have hsee : ∀ v, v ≠ p.base → mark (· = p.base) v = 1 := fun _ hv => mark_of_not hv
    rw [weigh_of_mem hs hp hsee, mark_of (P := (· = p.base)) rfl, ofAdd_one_zpow,
      exponentAt_of_mem hs hp]
  · rw [exponentAt_of_notMem hu]
    exact weigh_eq_one fun v hv => mark_of_not fun h => hu (h ▸ hv)

/-! ## Same exponents -/

/-- Whether two lists have the same exponents at all bases; the unit of pure numbers does not
count. -/
def Alike (s t : List Power) : Prop :=
  ∀ f : NamedUnit → Multiplicative ℤ, f .unitless = 1 → weigh f s = weigh f t

theorem Alike.exponentAt_eq (h : Alike s t) (hs : Merged s) (ht : Merged t) (u : NamedUnit) :
    exponentAt u s = exponentAt u t := by
  by_cases hu : u = .unitless
  · rw [hu, exponentAt_of_notMem hs.proper, exponentAt_of_notMem ht.proper]
  · have hweigh := h (mark (· = u)) (mark_of_not (Ne.symm hu))
    rw [weigh_mark hs.nodup, weigh_mark ht.nodup] at hweigh
    exact Int32.toInt_inj.1 (Multiplicative.ofAdd.injective hweigh)

/-- The weight is the product over any set that has the bases in it, each base to all of its
exponents at once. -/
theorem weigh_eq_prod {M : Type} [DivisionCommMonoid M] {f : NamedUnit → M} {bs : Finset NamedUnit}
    (hs : ∀ u ∈ bases s, u ∈ bs) (hf : ∀ u ∈ bs, Splits f u) :
    weigh f s = ∏ u ∈ bs, f u ^ (weigh (mark (· = u)) s).toAdd := by
  induction s with
  | nil => exact (Finset.prod_eq_one fun u _ => zpow_zero (f u)).symm
  | cons t s ih =>
    obtain ⟨ht, hs⟩ := List.forall_mem_cons.1 hs
    have hhead : ∏ u ∈ bs, f u ^ (mark (· = u) t.base ^ t.exponent.toInt).toAdd =
        f t.base ^ t.exponent.toInt := by
      rw [Finset.prod_eq_single t.base, mark_of (P := (· = t.base)) rfl, ofAdd_one_zpow]
      · rfl
      · intro u _ hu
        rw [mark_of_not (P := (· = u)) hu.symm, one_zpow]
        exact zpow_zero (f u)
      · exact fun h => absurd ht h
    rw [weigh_cons, ih hs, ← hhead, ← Finset.prod_mul_distrib]
    refine Finset.prod_congr rfl fun u hu => ?_
    rw [weigh_cons, toAdd_mul, hf u hu]

/-- Alike lists weigh the same wherever the powers of the images of their bases add up. -/
theorem Alike.weigh_eq {M : Type} [DivisionCommMonoid M] {f : NamedUnit → M} (h : Alike s t)
    (hf : f .unitless = 1) (hs : ∀ u ∈ bases s, Splits f u) (ht : ∀ u ∈ bases t, Splits f u) :
    weigh f s = weigh f t := by
  have hsplits : ∀ u ∈ (bases s ++ bases t).toFinset, Splits f u := by
    intro u hu
    exact (List.mem_append.1 (List.mem_toFinset.1 hu)).elim (hs u) (ht u)
  rw [weigh_eq_prod (fun u hu => List.mem_toFinset.2 (List.mem_append_left _ hu)) hsplits,
    weigh_eq_prod (fun u hu => List.mem_toFinset.2 (List.mem_append_right _ hu)) hsplits]
  refine Finset.prod_congr rfl fun u _ => ?_
  by_cases hu : u = .unitless
  · rw [hu, hf, one_zpow, one_zpow]
  · rw [h (mark (· = u)) (mark_of_not (Ne.symm hu))]

theorem Alike.perm (h : Alike s t) (hs : Simplified s) (ht : Simplified t) : s.Perm t :=
  hs.perm_of_exponentAt ht (h.exponentAt_eq hs.merged ht.merged)

/-- The origin of a product does not depend on the order of its terms. -/
theorem origin_of_perm (h : s.Perm t) : (Product.mk s).origin = (Product.mk t).origin := by
  unfold Product.origin
  have h := h.filter isLive
  rcases hs : s.filter isLive with _ | ⟨x, _ | ⟨y, rest⟩⟩
  · rw [hs] at h
    rw [h.nil_eq]
  · rw [hs] at h
    rw [List.singleton_perm.1 h]
  · rw [hs] at h
    rcases ht : t.filter isLive with _ | ⟨x', _ | ⟨y', rest'⟩⟩
    · exact absurd (ht ▸ h).length_eq (by simp)
    · exact absurd (ht ▸ h).length_eq (by simp)
    · rfl

end Metrology.Power
