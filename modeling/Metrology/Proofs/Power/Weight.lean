import Mathlib.Algebra.BigOperators.Group.List.Basic
import Mathlib.Data.List.Forall2
import Metrology.Power
import Metrology.Proofs.Dimension.Value
import Metrology.Proofs.Fault.Results
import Metrology.Proofs.Ratio.Value

/-!
# What a list of powers weighs

A function from named units to a commutative group with division extends to lists of powers:
`weigh f` multiplies the images of the bases, each raised to its exponent. The dimension and the
magnitude of a list are two such weights (`value_totalDimension`, `value_totalMagnitude`). Exponents
of one base add up to exponents of its image where they are `Sided`: in a group all are, whereas zero
has positive powers only.

`Merged` says of a list what a product keeps true of its terms, `Simplified` what is true of it once
the terms that are no factors have been dropped.
-/

namespace Metrology.Power

/-! ## Rows of powers -/

/-- The bases of a list of powers, in order. -/
def bases (terms : List Power) : List NamedUnit := terms.map base

/-- No base occurs twice, and the unit of pure numbers does not occur. -/
structure Merged (terms : List Power) : Prop where
  nodup : (bases terms).Nodup
  proper : .unitless ∉ bases terms

/-- No base occurs twice, and every term is a factor. -/
structure Simplified (terms : List Power) : Prop where
  nodup : (bases terms).Nodup
  live : ∀ t ∈ terms, t.isLive = true

theorem mem_bases {terms : List Power} {u : NamedUnit} :
    u ∈ bases terms ↔ ∃ t ∈ terms, t.base = u := List.mem_map

theorem Simplified.merged {terms : List Power} (h : Simplified terms) : Merged terms := by
  refine ⟨h.nodup, fun hu => ?_⟩
  obtain ⟨t, ht, hbase⟩ := mem_bases.1 hu
  exact (isLive_iff.1 (h.live t ht)).2 hbase

theorem simplified_nil : Simplified [] := ⟨List.nodup_nil, by simp⟩

/-- Dropping the terms that are no factors leaves factors of the same bases. -/
theorem Merged.simplified_filter {terms : List Power} (h : Merged terms) :
    Simplified (terms.filter isLive) where
  nodup := h.nodup.sublist (List.filter_sublist.map base)
  live := fun _ ht => (List.mem_filter.1 ht).2

theorem Simplified.filter_eq {terms : List Power} (h : Simplified terms) :
    terms.filter isLive = terms :=
  List.filter_eq_self.2 h.live

/-! ## Powers of powers -/

/-- Whether the second power is the first to the exponent `n`. -/
structure Raised (n : ℤ) (p q : Power) : Prop where
  base_eq : q.base = p.base
  exponent_eq : q.exponent.toInt = p.exponent.toInt * n

theorem bases_of_raised {n : ℤ} {s t : List Power} (h : List.Forall₂ (Raised n) s t) :
    bases t = bases s := by
  induction h with
  | nil => rfl
  | cons hxy _ ih => exact congrArg₂ List.cons hxy.base_eq ih

/-- A list of powers is raised from another one when each power is raised from one. -/
theorem exists_raised_iff {n : ℤ} {t : List Power} :
    (∃ s, List.Forall₂ (Raised n) s t) ↔ ∀ q ∈ t, ∃ p, Raised n p q := by
  induction t with
  | nil => exact iff_of_true ⟨[], .nil⟩ nofun
  | cons q t ih =>
    rw [List.forall_mem_cons, ← ih]
    simp only [List.forall₂_cons_right_iff]
    constructor
    · rintro ⟨_, p, s, hp, hs, rfl⟩
      exact ⟨⟨p, hp⟩, s, hs⟩
    · rintro ⟨⟨p, hp⟩, s, hs⟩
      exact ⟨_, p, s, hp, hs, rfl⟩

/-- What a relation carries over from one element to the other, it carries over between lists. -/
theorem forall_mem_of_forall₂ {α β : Type} {R : α → β → Prop} {P : α → Prop} {Q : β → Prop}
    (hR : ∀ a b, R a b → P a → Q b) {s : List α} {t : List β} (h : List.Forall₂ R s t)
    (hs : ∀ a ∈ s, P a) : ∀ b ∈ t, Q b := by
  induction h with
  | nil => exact List.forall_mem_nil _
  | cons hab _ ih =>
    rw [List.forall_mem_cons] at hs ⊢
    exact ⟨hR _ _ hab hs.1, ih hs.2⟩

/-- What a factor is a power of is a factor. -/
theorem isLive_of_raised {n : ℤ} {p q : Power} (h : Raised n p q) (hq : q.isLive = true) :
    p.isLive = true := by
  obtain ⟨he, hb⟩ := isLive_iff.1 hq
  refine isLive_iff.2 ⟨fun h0 => he (Int32.toInt_inj.1 ?_), h.base_eq ▸ hb⟩
  rw [h.exponent_eq, h0]
  exact zero_mul n

theorem Simplified.of_raised {n : ℤ} {s t : List Power} (ht : Simplified t)
    (h : List.Forall₂ (Raised n) s t) : Simplified s where
  nodup := bases_of_raised h ▸ ht.nodup
  live := forall_mem_of_forall₂ (fun _ _ hqp => isLive_of_raised hqp) (List.Forall₂.flip h) ht.live

/-- A power of a factor is a factor, unless the exponent is zero. -/
theorem Raised.isLive {n : ℤ} (hn : n ≠ 0) {p q : Power} (h : Raised n p q)
    (hp : p.isLive = true) : q.isLive = true := by
  obtain ⟨he, hb⟩ := isLive_iff.1 hp
  refine isLive_iff.2 ⟨fun h0 => ?_, h.base_eq ▸ hb⟩
  have hzero := h.exponent_eq
  rw [h0] at hzero
  exact he (Int32.toInt_inj.1 ((mul_eq_zero.1 hzero.symm).resolve_right hn))

theorem Simplified.raised {n : ℤ} (hn : n ≠ 0) {s t : List Power} (hs : Simplified s)
    (h : List.Forall₂ (Raised n) s t) : Simplified t where
  nodup := (bases_of_raised h).symm ▸ hs.nodup
  live := forall_mem_of_forall₂ (fun _ _ hpq => hpq.isLive hn) h hs.live

theorem Merged.of_bases_eq {s t : List Power} (h : Merged s) (hb : bases t = bases s) :
    Merged t :=
  ⟨hb ▸ h.nodup, hb ▸ h.proper⟩

/-! ## Weights -/

section Weigh

variable {M : Type} [DivisionCommMonoid M] {f : NamedUnit → M}

/-- The product of the images of the bases, each raised to its exponent. -/
def weigh (f : NamedUnit → M) (terms : List Power) : M :=
  (terms.map fun t => f t.base ^ t.exponent.toInt).prod

/-- Whether the powers of the image of a unit add up; in a group all do, among numbers those other
than zero. -/
def Splits (f : NamedUnit → M) (u : NamedUnit) : Prop :=
  ∀ m n : ℤ, f u ^ (m + n) = f u ^ m * f u ^ n

@[simp] theorem weigh_nil : weigh f [] = 1 := rfl

@[simp] theorem weigh_cons (t : Power) (terms : List Power) :
    weigh f (t :: terms) = f t.base ^ t.exponent.toInt * weigh f terms := List.prod_cons

theorem weigh_append (s t : List Power) : weigh f (s ++ t) = weigh f s * weigh f t := by
  unfold weigh
  rw [List.map_append, List.prod_append]

theorem weigh_perm {s t : List Power} (h : s.Perm t) : weigh f s = weigh f t :=
  (h.map _).prod_eq

/-- A term that is no factor weighs nothing. -/
theorem zpow_of_not_isLive (hf : f .unitless = 1) {t : Power} (ht : ¬ t.isLive = true) :
    f t.base ^ t.exponent.toInt = 1 := by
  have ht : ¬ (t.exponent ≠ 0 ∧ t.base ≠ .unitless) := fun h => ht (isLive_iff.2 h)
  by_cases he : t.exponent = 0
  · rw [he]
    exact zpow_zero _
  · have hu : t.base = .unitless := by
      by_contra hu
      exact ht ⟨he, hu⟩
    rw [hu, hf, one_zpow]

theorem weigh_filter_isLive (hf : f .unitless = 1) (terms : List Power) :
    weigh f (terms.filter isLive) = weigh f terms := by
  induction terms with
  | nil => rfl
  | cons t terms ih =>
    rw [List.filter_cons, weigh_cons]
    split
    · rw [weigh_cons, ih]
    · rename_i ht
      rw [ih, zpow_of_not_isLive hf ht, one_mul]

/-- Whether the exponent of a power can be added to others on its side of `k`: the powers of its base
add up in any case, or its exponent has the sign of `k`. -/
def Sided (f : NamedUnit → M) (k : ℤ) (t : Power) : Prop :=
  Splits f t.base ∨ 0 ≤ t.exponent.toInt * k

theorem zpow_add_of_nonneg (x : M) {m n : ℤ} (hm : 0 ≤ m) (hn : 0 ≤ n) :
    x ^ (m + n) = x ^ m * x ^ n := by
  obtain ⟨i, rfl⟩ := Int.eq_ofNat_of_zero_le hm
  obtain ⟨j, rfl⟩ := Int.eq_ofNat_of_zero_le hn
  rw [← Int.natCast_add, zpow_natCast, zpow_natCast, zpow_natCast, pow_add]

/-- Exponents of one sign add up, also those of a number without a reciprocal. -/
theorem zpow_add_of_sided (x : M) {k m n : ℤ} (hk : k ≠ 0) (hm : 0 ≤ m * k) (hn : 0 ≤ n * k) :
    x ^ (m + n) = x ^ m * x ^ n := by
  rcases lt_or_gt_of_ne hk with hneg | hpos
  · have h := zpow_add_of_nonneg x⁻¹ (neg_nonneg.2 (nonpos_of_mul_nonneg_left hm hneg))
      (neg_nonneg.2 (nonpos_of_mul_nonneg_left hn hneg))
    simpa only [← neg_add, inv_zpow', neg_neg] using h
  · exact zpow_add_of_nonneg x (nonneg_of_mul_nonneg_left hm hpos)
      (nonneg_of_mul_nonneg_left hn hpos)

/-- Exponents of one base that are on one side add up, and their sum is on that side. -/
theorem Sided.add {k : ℤ} (hk : k ≠ 0) {u : NamedUnit} {a b c : Int32}
    (hc : c.toInt = a.toInt + b.toInt) (ha : Sided f k ⟨u, a⟩) (hb : Sided f k ⟨u, b⟩) :
    f u ^ c.toInt = f u ^ a.toInt * f u ^ b.toInt ∧ Sided f k ⟨u, c⟩ := by
  rw [hc]
  rcases ha with hs | ha
  · exact ⟨hs _ _, .inl hs⟩
  rcases hb with hs | hb
  · exact ⟨hs _ _, .inl hs⟩
  · refine ⟨zpow_add_of_sided _ hk ha hb, .inr ?_⟩
    show 0 ≤ c.toInt * k
    rw [hc, add_mul]
    exact add_nonneg ha hb

theorem Sided.of_raised {k n : ℤ} {p q : Power} (h : Raised n p q) (hq : Sided f k q) :
    Sided f (n * k) p := by
  rcases hq with hs | hq
  · exact .inl (h.base_eq ▸ hs)
  · refine .inr ?_
    rwa [h.exponent_eq, mul_assoc] at hq

theorem forall_sided_of_raised {k n : ℤ} {s t : List Power} (h : List.Forall₂ (Raised n) s t)
    (ht : ∀ q ∈ t, Sided f k q) : ∀ p ∈ s, Sided f (n * k) p :=
  forall_mem_of_forall₂ (fun _ _ hqp => Sided.of_raised hqp) (List.Forall₂.flip h) ht

theorem Raised.sided {k n : ℤ} {p q : Power} (h : Raised n p q) (hp : Sided f (n * k) p) :
    Sided f k q := by
  rcases hp with hs | hp
  · exact .inl (h.base_eq.symm ▸ hs)
  · refine .inr ?_
    rwa [h.exponent_eq, mul_assoc]

/-- Multiplying every exponent raises the weight. -/
theorem weigh_of_raised {s t : List Power} {n : ℤ} (h : List.Forall₂ (Raised n) s t) :
    weigh f t = weigh f s ^ n := by
  induction h with
  | nil => exact (one_zpow n).symm
  | cons hxy _ ih =>
    rw [weigh_cons, weigh_cons, ih, hxy.base_eq, hxy.exponent_eq, zpow_mul, mul_zpow]

theorem splits_of_group {G : Type} [CommGroup G] (f : NamedUnit → G) (u : NamedUnit) :
    Splits f u := zpow_add _

theorem splits_of_ne_zero {f : NamedUnit → ℚ} {u : NamedUnit} (h : f u ≠ 0) : Splits f u :=
  zpow_add₀ h

theorem weigh_ne_zero {f : NamedUnit → ℚ} {terms : List Power}
    (h : ∀ u ∈ bases terms, f u ≠ 0) : weigh f terms ≠ 0 := by
  induction terms with
  | nil => exact one_ne_zero
  | cons t terms ih =>
    rw [weigh_cons]
    exact mul_ne_zero (zpow_ne_zero _ (h _ List.mem_cons_self))
      (ih fun u hu => h u (List.mem_cons_of_mem _ hu))

end Weigh

/-! ## Dimension and magnitude -/

/-- A product that is built from the left weighs what its factors weigh. -/
theorem value_foldlM {M β : Type} [DivisionCommMonoid M] {f : NamedUnit → M} {value : β → M}
    {mul : β → β → Calc β} {measure : Power → Calc β}
    (hmul : ∀ {x y z}, mul x y = .ok z → value z = value x * value y)
    (hmeasure : ∀ {t y}, measure t = .ok y → value y = f t.base ^ t.exponent.toInt)
    {terms : List Power} {s r : β}
    (h : terms.foldlM (fun total p => do mul total (← measure p)) s = .ok r) :
    value r = value s * weigh f terms := by
  induction terms generalizing s with
  | nil =>
    obtain rfl := Except.ok.inj h
    rw [weigh_nil, mul_one]
  | cons t terms ih =>
    simp only [List.foldlM_cons, bind_eq_ok_iff] at h
    obtain ⟨x, ⟨y, hy, hx⟩, hr⟩ := h
    rw [ih hr, hmul hx, hmeasure hy, weigh_cons, mul_assoc]

theorem value_totalDimension {terms : List Power} {d : Dimension}
    (h : totalDimension terms = .ok d) :
    d.value = weigh (fun u => u.dimension.value) terms := by
  rw [value_foldlM (f := fun u => u.dimension.value) Dimension.value_mul Dimension.value_pow h,
    Dimension.value_dimensionless, one_mul]

theorem value_totalMagnitude {terms : List Power} {r : Ratio}
    (h : totalMagnitude terms = .ok r) :
    r.value = weigh (fun u => u.magnitude.value) terms := by
  rw [value_foldlM (f := fun u => u.magnitude.value) Ratio.value_mul Ratio.value_pow h,
    Ratio.value_one, one_mul]

end Metrology.Power
