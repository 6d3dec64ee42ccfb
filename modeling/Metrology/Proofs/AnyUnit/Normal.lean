import Mathlib.Algebra.Group.Int.Units
import Metrology.Proofs.Canonical.Merge

/-!
# Units in simplest form

`factors` reads a unit as a list of powers, and `Product.simplify` is the way back: on units in
simplest form (`Normal`) each undoes the other (`simplify_factors`, `factors_simplify`). Every
operation leaves a unit in this form and is an operation on the factors: a product or a quotient
gathers the factors of both sides (`multiply_eq_ok_iff`, `divide_eq_ok_iff`), a power or a root maps
them (`checkedPow_eq_ok_iff`, `root_eq_ok_iff`). A canonical product is read as the simplest unit
with its terms (`Canonical.ofCanonical_eq`).
-/

namespace Metrology

open Power

namespace Power

/-! ## Powers and roots of one power -/

theorem raised_eq_ok_iff {n : Int32} {p q : Power} :
    p.raised n = .ok q ↔ Raised n.toInt p q := by
  obtain ⟨u, e⟩ := q
  have hmul : Bounded.mul? p.exponent n = some e ↔ e.toInt = p.exponent.toInt * n.toInt :=
    Bounded.mul?_eq_some_iff
  unfold raised
  constructor
  · intro h
    split at h
    · rename_i x hx
      obtain ⟨rfl, rfl⟩ := Power.mk.inj (Except.ok.inj h)
      exact ⟨rfl, hmul.1 hx⟩
    · cases h
  · rintro ⟨rfl, he⟩
    rw [hmul.2 he]

theorem root_eq_ok_iff {n : Int32} (hn : n ≠ 0) {p q : Power} :
    p.root n = .ok q ↔ Raised n.toInt q p := by
  have hn0 : Bounded.toInt n ≠ 0 := fun h => hn (Int32.toInt_inj.1 h)
  obtain ⟨u, e⟩ := q
  have hexact := Bounded.exactQuotient_iff (a := p.exponent) (c := e) (z := 0) rfl hn0
  unfold root
  constructor
  · intro h
    split at h
    · rename_i rest x hrest hx
      split at h
      · rename_i hzero
        rw [hzero] at hrest
        obtain ⟨rfl, rfl⟩ := Power.mk.inj (Except.ok.inj h)
        exact ⟨rfl, hexact.1 ⟨hrest, hx⟩⟩
      · cases h
    · cases h
  · rintro ⟨rfl, he⟩
    obtain ⟨hrest, hquotient⟩ := hexact.2 he
    rw [hrest, hquotient]
    rfl

end Power

namespace AnyUnit

variable {u v w : AnyUnit} {terms : List Power} {prepare : Power → Calc Power} {p : Product}

/-! ## Factors -/

/-- The powers of a unit that are factors. -/
def factors (u : AnyUnit) : List Power := u.powers.filter isLive

/-- Whether a unit is in simplest form, with no base repeated. -/
def Normal : AnyUnit → Prop
  | .named _ => True
  | .power p => p.isLive = true ∧ p.exponent ≠ 1
  | .product p => Simplified p.terms ∧ 2 ≤ p.terms.length

theorem isLive_one {b : NamedUnit} : (Power.mk b 1).isLive = true ↔ b ≠ .unitless := by
  rw [isLive_iff, and_iff_right (show (1 : Int32) ≠ 0 by decide)]

theorem factors_unitless : (AnyUnit.named .unitless).factors = [] := rfl

theorem factors_named {b : NamedUnit} (hb : b ≠ .unitless) :
    (AnyUnit.named b).factors = [⟨b, 1⟩] :=
  List.filter_eq_self.2 fun _ ht => List.mem_singleton.1 ht ▸ isLive_one.2 hb

theorem factors_power {t : Power} (ht : t.isLive = true) : (AnyUnit.power t).factors = [t] :=
  List.filter_eq_self.2 fun _ hs => List.mem_singleton.1 hs ▸ ht

theorem simplified_singleton {t : Power} (ht : t.isLive = true) : Simplified [t] :=
  ⟨List.nodup_singleton _, fun _ hs => List.mem_singleton.1 hs ▸ ht⟩

theorem Normal.simplified (hu : u.Normal) : Simplified u.factors := by
  cases u with
  | named b =>
    by_cases hb : b = .unitless
    · rw [hb, factors_unitless]
      exact simplified_nil
    · rw [factors_named hb]
      exact simplified_singleton (isLive_one.2 hb)
  | power t =>
    rw [factors_power hu.1]
    exact simplified_singleton hu.1
  | product q =>
    show Simplified (q.terms.filter isLive)
    rw [hu.1.filter_eq]
    exact hu.1

/-! ## The simplest unit of a list of factors -/

theorem simplify_nil : (Product.mk []).simplify = .named .unitless := rfl

/-- The simplest unit equal to a power is that of the product of the power alone. -/
theorem simplify_one (t : Power) : (Product.mk [t]).simplify = t.simplify := by
  unfold Product.simplify
  by_cases ht : t.isLive = true
  · rw [(simplified_singleton ht).filter_eq]
  · have hfilter : [t].filter isLive = [] := List.filter_eq_nil_iff.2 fun _ hs =>
      List.mem_singleton.1 hs ▸ ht
    rw [hfilter]
    unfold Power.simplify
    by_cases hb : t.base.isUnitless = true
    · rw [if_pos hb]
    · have he : t.exponent = 0 := by
        by_contra he
        exact ht (isLive_iff.2 ⟨he, mt NamedUnit.isUnitless_iff.2 hb⟩)
      rw [if_neg hb, if_pos he]

theorem simplify_singleton {t : Power} (ht : t.isLive = true) :
    (Product.mk [t]).simplify = if t.exponent = 1 then .named t.base else .power t := by
  obtain ⟨he, hb⟩ := isLive_iff.1 ht
  rw [simplify_one]
  unfold Power.simplify
  rw [if_neg (mt NamedUnit.isUnitless_iff.1 hb), if_neg he]

theorem simplify_of_two_le (h : Simplified terms) (hlen : 2 ≤ terms.length) :
    (Product.mk terms).simplify = .product ⟨terms⟩ := by
  unfold Product.simplify
  rw [h.filter_eq]
  rcases terms with _ | ⟨s, _ | ⟨t, rest⟩⟩
  · cases hlen
  · simp at hlen
  · rfl

/-- Terms that are no factors make no difference. -/
theorem simplify_filter (terms : List Power) :
    (Product.mk (terms.filter isLive)).simplify = (Product.mk terms).simplify := by
  unfold Product.simplify
  rw [List.filter_filter]
  simp only [Bool.and_self]

/-- A list of factors has none, one or more. -/
theorem factors_cases (h : Simplified terms) :
    terms = [] ∨ (∃ t, terms = [t] ∧ t.isLive = true) ∨ 2 ≤ terms.length := by
  rcases terms with _ | ⟨s, _ | ⟨t, rest⟩⟩
  · exact .inl rfl
  · exact .inr (.inl ⟨s, rfl, h.live s List.mem_cons_self⟩)
  · exact .inr (.inr (by simp))

theorem normal_of_simplified (h : Simplified terms) : (Product.mk terms).simplify.Normal := by
  rcases factors_cases h with rfl | ⟨t, rfl, ht⟩ | hlen
  · trivial
  · rw [simplify_singleton ht]
    split
    · trivial
    · rename_i he
      exact ⟨ht, he⟩
  · rw [simplify_of_two_le h hlen]
    exact ⟨h, hlen⟩

theorem normal_simplify (h : Merged terms) : (Product.mk terms).simplify.Normal :=
  simplify_filter terms ▸ normal_of_simplified h.simplified_filter

/-- The factors of the simplest unit equal to a product are those of the product. -/
theorem factors_simplify (terms : List Power) :
    (Product.mk terms).simplify.factors = terms.filter isLive := by
  unfold Product.simplify
  split
  · rename_i h
    rw [h]
    rfl
  · rename_i t h
    have ht : t.isLive = true := (List.mem_filter.1 (h ▸ List.mem_singleton_self t)).2
    rw [h, ← simplify_one, simplify_singleton ht]
    split
    · rename_i he
      rw [factors_named (isLive_iff.1 ht).2, ← he]
    · exact factors_power ht
  · show (terms.filter isLive).filter isLive = _
    rw [List.filter_filter]
    simp only [Bool.and_self]

theorem factors_of_simplified (h : Simplified terms) :
    (Product.mk terms).simplify.factors = terms :=
  (factors_simplify terms).trans h.filter_eq

theorem simplify_factors (hu : u.Normal) : (Product.mk u.factors).simplify = u := by
  cases u with
  | named b =>
    by_cases hb : b = .unitless
    · rw [hb]
      rfl
    · rw [factors_named hb, simplify_singleton (isLive_one.2 hb)]
      rfl
  | power t => rw [factors_power hu.1, simplify_singleton hu.1, if_neg hu.2]
  | product q =>
    show (Product.mk (q.terms.filter isLive)).simplify = _
    rw [simplify_filter, simplify_of_two_le hu.1 hu.2]

/-- The name of the simplest unit is the text of its factors. -/
theorem name_of_simplified (h : Simplified terms) :
    (Product.mk terms).simplify.name = listText terms := by
  rcases factors_cases h with rfl | ⟨t, rfl, ht⟩ | hlen
  · rfl
  · rw [simplify_singleton ht]
    have htext : listText [t] = t.text := rfl
    rw [htext]
    split
    · rename_i he
      show t.base.text = t.text
      rw [Power.text, if_pos he]
    · rfl
  · rw [simplify_of_two_le h hlen]
    rfl

/-! ## Algebra -/

/-- Absorbing a unit is absorbing its factors; the unit of pure numbers leaves no trace. -/
theorem gather_powers (hu : u.Normal) {k : ℤ} (hk : Product.Scales prepare k)
    (hone : ∃ q, prepare ⟨.unitless, 1⟩ = .ok q) :
    Product.gather prepare p u.powers = Product.gather prepare p u.factors := by
  cases u with
  | named b =>
    by_cases hb : b = .unitless
    · obtain ⟨q, hq⟩ := hone
      have hbase : q.base = .unitless := (hk hq).base_eq
      rw [hb, factors_unitless, Product.gather_nil]
      exact Product.gather_cons_eq_ok_iff.2
        ⟨q, hq, p, Product.merge_eq_ok_iff.2 (.inl ⟨hbase, rfl⟩), rfl⟩
    · rw [factors_named hb]
      rfl
  | power t =>
    rw [factors_power hu.1]
    rfl
  | product q =>
    show _ = Product.gather prepare p (q.terms.filter isLive)
    rw [hu.1.filter_eq]
    rfl

theorem gather_pure_powers (hu : u.Normal) :
    Product.gather pure p u.powers = Product.gather pure p u.factors :=
  gather_powers hu Product.scales_pure ⟨_, rfl⟩

theorem gather_negated_powers (hu : u.Normal) :
    Product.gather Power.negated p u.powers = Product.gather Power.negated p u.factors :=
  gather_powers hu Product.scales_negated ⟨_, rfl⟩

/-- The empty product times a unit is the product of its factors. -/
theorem empty_multiplyWith (hu : u.Normal) :
    Product.empty.multiplyWith u = .ok ⟨u.factors⟩ := by
  rw [Product.multiplyWith_eq, gather_pure_powers hu]
  exact Product.gather_pure hu.simplified.merged

theorem multiply_eq_ok_iff (hu : u.Normal) (hv : v.Normal) :
    u.multiply v = .ok w ↔
      ∃ q, Product.gather pure ⟨u.factors⟩ v.factors = .ok q ∧ q.simplify = w := by
  unfold multiply
  rw [empty_multiplyWith hu]
  simp only [bind_eq_ok_iff, pure_eq_ok_iff, Except.ok.injEq, exists_eq_left',
    Product.multiplyWith_eq, gather_pure_powers hv]

theorem divide_eq_ok_iff (hu : u.Normal) (hv : v.Normal) :
    u.divide v = .ok w ↔
      ∃ q, Product.gather Power.negated ⟨u.factors⟩ v.factors = .ok q ∧ q.simplify = w := by
  unfold divide
  rw [empty_multiplyWith hu]
  simp only [bind_eq_ok_iff, pure_eq_ok_iff, Except.ok.injEq, exists_eq_left',
    Product.divideBy_eq, gather_negated_powers hv]

theorem checkedPow_eq_ok_iff (hu : u.Normal) {n : Int32} :
    u.checkedPow n = .ok w ↔
      ∃ terms, List.Forall₂ (Raised n.toInt) u.factors terms ∧
        (Product.mk terms).simplify = w := by
  unfold checkedPow
  rw [empty_multiplyWith hu]
  simp only [bind_eq_ok_iff, pure_eq_ok_iff, liftCalc_eq_ok_iff, liftRefusal_eq_ok_iff,
    Except.ok.injEq, exists_eq_left', mapM_eq_ok_iff, raised_eq_ok_iff]
  refine exists_congr fun terms => and_congr_right fun h => ?_
  have hmerged : Merged terms := hu.simplified.merged.of_bases_eq (bases_of_raised h)
  rw [Product.ofPowers_of_merged hmerged]
  simp only [Except.ok.injEq, exists_eq_left']

/-- A named unit is a power of nothing but itself and its inverse. -/
theorem raised_named_iff {t : Power} {b : NamedUnit} {n : Int32} :
    Raised n.toInt t ⟨b, 1⟩ ↔ t = ⟨b, n⟩ ∧ (n = 1 ∨ n = -1) := by
  obtain ⟨u, e⟩ := t
  constructor
  · rintro ⟨rfl, he⟩
    have he : n.toInt * e.toInt = 1 := (mul_comm ..).trans he.symm
    have heq : n.toInt = e.toInt := Int.eq_of_mul_eq_one he
    obtain rfl := Int32.toInt_inj.1 heq
    refine ⟨rfl, ?_⟩
    rcases Int.eq_one_or_neg_one_of_mul_eq_one he with h | h
    · exact .inl (Int32.toInt_inj.1 h)
    · exact .inr (Int32.toInt_inj.1 h)
  · rintro ⟨h, rfl | rfl⟩ <;> obtain ⟨rfl, rfl⟩ := Power.mk.inj h <;> exact ⟨rfl, rfl⟩

theorem root_named_eq_ok_iff {b : NamedUnit} {n : Int32} (hn : n ≠ 0) :
    (AnyUnit.named b).root n = .ok w ↔
      ∃ terms, List.Forall₂ (Raised n.toInt) terms (AnyUnit.named b).factors ∧
        (Product.mk terms).simplify = w := by
  unfold root
  rw [if_neg hn]
  by_cases hb : b = .unitless
  · rw [hb, factors_unitless]
    simp [NamedUnit.isUnitless_iff, List.forall₂_nil_right_iff, simplify_nil]
  rw [factors_named hb]
  simp only [List.forall₂_cons_right_iff, List.forall₂_nil_right_iff, raised_named_iff]
  rw [if_neg (mt NamedUnit.isUnitless_iff.1 hb)]
  split
  · rename_i hsign
    constructor
    · intro h
      exact ⟨_, ⟨_, [], ⟨rfl, hsign⟩, rfl, rfl⟩, (simplify_one _).trans
        (Except.ok.inj h)⟩
    · rintro ⟨_, ⟨_, _, ⟨rfl, -⟩, rfl, rfl⟩, rfl⟩
      rw [simplify_one]
  · rename_i hsign
    constructor
    · nofun
    · rintro ⟨_, ⟨_, _, ⟨-, h⟩, -⟩, -⟩
      exact absurd h hsign

theorem root_power_eq_ok_iff {t : Power} {n : Int32} (hn : n ≠ 0) :
    (AnyUnit.power t).root n = .ok w ↔
      ∃ terms, List.Forall₂ (Raised n.toInt) terms [t] ∧ (Product.mk terms).simplify = w := by
  unfold root
  rw [if_neg hn]
  simp only [bind_eq_ok_iff, pure_eq_ok_iff, liftRefusal_eq_ok_iff, Power.root_eq_ok_iff hn,
    List.forall₂_cons_right_iff, List.forall₂_nil_right_iff]
  constructor
  · rintro ⟨q, hq, rfl⟩
    exact ⟨_, ⟨q, [], hq, rfl, rfl⟩, simplify_one q⟩
  · rintro ⟨_, ⟨q, _, hq, rfl, rfl⟩, rfl⟩
    exact ⟨q, hq, (simplify_one q).symm⟩

/-- The roots of merged terms are merged already, so that putting them together changes nothing. -/
theorem root_product_eq_ok_iff (hp : Merged p.terms) {n : Int32} (hn : n ≠ 0) :
    (AnyUnit.product p).root n = .ok w ↔
      ∃ terms, List.Forall₂ (Raised n.toInt) terms p.terms ∧ (Product.mk terms).simplify = w := by
  have hroots : ∀ {terms}, List.Forall₂ (Raised n.toInt) terms p.terms →
      Product.ofPowers terms = .ok ⟨terms⟩ := fun h =>
    Product.ofPowers_of_merged (hp.of_bases_eq (bases_of_raised h).symm)
  unfold root
  rw [if_neg hn]
  simp only [bind_eq_ok_iff, pure_eq_ok_iff, liftCalc_eq_ok_iff, liftRefusal_eq_ok_iff,
    mapM_eq_ok_iff, Power.root_eq_ok_iff hn]
  constructor
  · rintro ⟨terms, h, q, hq, rfl⟩
    rw [hroots h.flip] at hq
    obtain rfl := Except.ok.inj hq
    exact ⟨terms, h.flip, rfl⟩
  · rintro ⟨terms, h, rfl⟩
    exact ⟨terms, h.flip, _, hroots h, rfl⟩

theorem root_eq_ok_iff (hu : u.Normal) {n : Int32} (hn : n ≠ 0) :
    u.root n = .ok w ↔
      ∃ terms, List.Forall₂ (Raised n.toInt) terms u.factors ∧
        (Product.mk terms).simplify = w := by
  cases u with
  | named b => exact root_named_eq_ok_iff hn
  | power t =>
    rw [factors_power hu.1]
    exact root_power_eq_ok_iff hn
  | product q =>
    have hfactors : (AnyUnit.product q).factors = q.terms := hu.1.filter_eq
    rw [hfactors]
    exact root_product_eq_ok_iff hu.1.merged hn

end AnyUnit

namespace Canonical

variable {c : Canonical}

/-! ## Reading canonical products -/

theorem asNamed_eq_some_iff {u : NamedUnit} : c.asNamed = some u ↔ c.terms = [⟨u, 1⟩] := by
  unfold asNamed
  constructor
  · intro h
    split at h
    · rename_i t ht
      split at h
      · rename_i he
        obtain ⟨v, e⟩ := t
        obtain rfl : e = 1 := he
        rw [ht, ← Option.some.inj h]
      · cases h
    · cases h
  · intro h
    rw [h]
    rfl

/-- A product is read as the simplest unit with its terms. -/
theorem ofCanonical_eq (h : Merged c.terms) :
    AnyUnit.ofCanonical c = .ok (Product.mk c.terms).simplify := by
  unfold AnyUnit.ofCanonical
  split
  · rename_i u hu
    have hterms := asNamed_eq_some_iff.1 hu
    have hu' : u ≠ .unitless := by
      rintro rfl
      exact h.proper (hterms ▸ List.mem_cons_self)
    rw [hterms, AnyUnit.simplify_singleton (AnyUnit.isLive_one.2 hu')]
    rfl
  · rw [Product.ofPowers_of_merged h]
    rfl

theorem origin_eq (h : Simplified c.terms) : c.origin = (Product.mk c.terms).origin := by
  unfold Canonical.origin Canonical.asNamed Product.origin
  rw [h.filter_eq]
  rcases c.terms with _ | ⟨t, _ | ⟨s, rest⟩⟩
  · rfl
  · by_cases he : t.exponent = 1
    · simp only [if_pos he]
      rfl
    · simp only [if_neg he]
      rfl
  · rfl

end Canonical

end Metrology
