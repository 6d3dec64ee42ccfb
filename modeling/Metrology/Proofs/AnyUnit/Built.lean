import Metrology.Catalog
import Metrology.Proofs.AnyUnit.Measure
import Metrology.Proofs.Canonical.Weight

/-!
# What every run of operations keeps

A canonical product, a product or a unit is `Built` when a run of operations arrives at it. Units are
also written by hand, in simplest form or not. It is `Settled` when the last operation of the run is
one that simplifies. Each operation keeps the terms merged, whatever it is given; the last one leaves
factors only, and a unit in simplest form. So these invariants hold over every run
(`invariants_of_built`).
-/

namespace Metrology

open Power

/-! ## Runs -/

mutual

/-- The canonical products that a run of operations arrives at. -/
inductive Canonical.Built : Canonical → Prop
  | empty : Canonical.Built .empty
  | ofNamed {u : NamedUnit} {c : Canonical} (h : Canonical.ofNamed u = .ok c) : Canonical.Built c
  | multiplyWith {c d : Canonical} {u : NamedUnit} {e : Int32} (hc : Canonical.Built c)
      (h : c.multiplyWith u e = .ok d) : Canonical.Built d
  | divideBy {c d : Canonical} {u : NamedUnit} {e : Int32} (hc : Canonical.Built c)
      (h : c.divideBy u e = .ok d) : Canonical.Built d
  | settled {c : Canonical} (hc : Canonical.Settled c) : Canonical.Built c

/-- The canonical products that a run arrives at by an operation that simplifies. -/
inductive Canonical.Settled : Canonical → Prop
  | simplify {c d : Canonical} (hc : Canonical.Built c) (h : c.simplify = d) : Canonical.Settled d
  | multiply {a b c : Canonical} (ha : Canonical.Built a) (hb : Canonical.Built b)
      (h : a.multiply b = .ok c) : Canonical.Settled c
  | divide {a b c : Canonical} (ha : Canonical.Built a) (hb : Canonical.Built b)
      (h : a.divide b = .ok c) : Canonical.Settled c
  | pow {a c : Canonical} {n : Int32} (ha : Canonical.Built a) (h : a.pow n = .ok c) :
      Canonical.Settled c
  | root {a c : Canonical} {n : Int32} (ha : Canonical.Built a) (h : a.root n = .ok c) :
      Canonical.Settled c

end

mutual

/-- The products that a run of operations arrives at. -/
inductive Product.Built : Product → Prop
  | empty : Product.Built .empty
  | ofPowers {powers : List Power} {p : Product} (h : Product.ofPowers powers = .ok p) :
      Product.Built p
  | merge {p q : Product} {u : NamedUnit} {e : Int32} (hp : Product.Built p)
      (h : p.merge u e = .ok q) : Product.Built q
  | multiplyWith {p q : Product} {u : AnyUnit} (hp : Product.Built p) (hu : AnyUnit.Built u)
      (h : p.multiplyWith u = .ok q) : Product.Built q
  | divideBy {p q : Product} {u : AnyUnit} (hp : Product.Built p) (hu : AnyUnit.Built u)
      (h : p.divideBy u = .ok q) : Product.Built q
  | ofUnit {p : Product} (h : AnyUnit.Built (.product p)) : Product.Built p

/-- The units that a run of operations arrives at, those written by hand included. -/
inductive AnyUnit.Built : AnyUnit → Prop
  | named (u : NamedUnit) : AnyUnit.Built (.named u)
  | power (p : Power) : AnyUnit.Built (.power p)
  | product {p : Product} (hp : Product.Built p) : AnyUnit.Built (.product p)
  | relative {u v : AnyUnit} (hu : AnyUnit.Built u) (h : u.relative = v) : AnyUnit.Built v
  | settled {u : AnyUnit} (hu : AnyUnit.Settled u) : AnyUnit.Built u

/-- The units that a run arrives at by an operation that simplifies, or by reading a named unit, a
power, a product or a canonical product as a unit. -/
inductive AnyUnit.Settled : AnyUnit → Prop
  | ofNamed (u : NamedUnit) : AnyUnit.Settled (.named u)
  | ofPower {p : Power} {u : AnyUnit} (h : p.simplify = u) : AnyUnit.Settled u
  | ofProduct {p : Product} {u : AnyUnit} (hp : Product.Built p) (h : p.simplify = u) :
      AnyUnit.Settled u
  | ofCanonical {c : Canonical} {u : AnyUnit} (hc : Canonical.Built c)
      (h : AnyUnit.ofCanonical c = .ok u) : AnyUnit.Settled u
  | simplify {u v : AnyUnit} (hu : AnyUnit.Built u) (h : u.simplify = v) : AnyUnit.Settled v
  | multiply {u v w : AnyUnit} (hu : AnyUnit.Built u) (hv : AnyUnit.Built v)
      (h : u.multiply v = .ok w) : AnyUnit.Settled w
  | divide {u v w : AnyUnit} (hu : AnyUnit.Built u) (hv : AnyUnit.Built v)
      (h : u.divide v = .ok w) : AnyUnit.Settled w
  | checkedPow {u w : AnyUnit} {n : Int32} (hu : AnyUnit.Built u) (h : u.checkedPow n = .ok w) :
      AnyUnit.Settled w
  | pow {u w : AnyUnit} {n : Int32} (hu : AnyUnit.Built u) (h : u.pow n = .ok w) :
      AnyUnit.Settled w
  | root {u w : AnyUnit} {n : Int32} (hu : AnyUnit.Built u) (h : u.root n = .ok w) :
      AnyUnit.Settled w

end

/-! ## Canonical products -/

namespace Canonical

variable {c d : Canonical} {u : NamedUnit} {e : Int32}

theorem merged_empty : Merged Canonical.empty.terms := simplified_nil.merged

theorem merged_multiplyWith (hc : Merged c.terms) (h : c.multiplyWith u e = .ok d) :
    Merged d.terms :=
  Product.merged_merge (p := ⟨c.terms⟩) hc (merge_of_multiplyWith h)

theorem merged_divideBy (hc : Merged c.terms) (h : c.divideBy u e = .ok d) : Merged d.terms := by
  obtain ⟨negative, -, h⟩ := bind_eq_ok_iff.1 h
  exact merged_multiplyWith hc h

mutual

theorem Built.merged {c : Canonical} : c.Built → Merged c.terms
  | .empty => merged_empty
  | .ofNamed h => merged_multiplyWith merged_empty h
  | .multiplyWith hc h => merged_multiplyWith hc.merged h
  | .divideBy hc h => merged_divideBy hc.merged h
  | .settled hc => hc.simplified.merged

theorem Settled.simplified {c : Canonical} : c.Settled → Simplified c.terms
  | .simplify hc h => h ▸ simplified_simplify hc.merged
  | .multiply ha _ h => simplified_multiply ha.merged h
  | .divide ha _ h => simplified_divide ha.merged h
  | .pow ha h => simplified_pow ha.merged h
  | .root ha h => simplified_root ha.merged h

end

end Canonical

/-! ## Products -/

namespace AnyUnit

variable {u : AnyUnit} {c : Canonical}

/-- Whether a unit is no product, or one whose terms are merged. -/
def Formed (u : AnyUnit) : Prop := ∀ p, u = .product p → Merged p.terms

theorem Normal.formed (hu : u.Normal) : u.Formed := by
  rintro p rfl
  exact hu.1.merged

theorem Formed.relative (hu : u.Formed) : u.relative.Formed := by
  cases u with
  | named _ => nofun
  | power _ => nofun
  | product p => exact hu

/-! ## Simplest forms -/

theorem normal_simplify_of_formed (hu : u.Formed) : u.simplify.Normal := by
  cases u with
  | named _ => trivial
  | power p => exact normal_simplify_power p
  | product p => exact normal_simplify (hu p rfl)

theorem normal_pow {n : Int32} {w : AnyUnit} (h : u.pow n = .ok w) : w.Normal :=
  normal_checkedPow (mapError_eq_ok_iff.1 h)

theorem normal_ofCanonical (h : AnyUnit.ofCanonical c = .ok u) : u.Normal := by
  unfold AnyUnit.ofCanonical at h
  split at h
  · obtain rfl := Except.ok.inj h
    trivial
  · obtain ⟨p, hp, h⟩ := bind_eq_ok_iff.1 h
    obtain rfl := Except.ok.inj h
    rw [Product.ofPowers_eq] at hp
    exact normal_simplify (Product.merged_gather merged_empty hp)

end AnyUnit

/-! ## Runs keep the invariants -/

-- A product takes in units, and units can be products, so the three invariants go together.
mutual

theorem Product.Built.merged {p : Product} : p.Built → Merged p.terms
  | .empty => AnyUnit.merged_empty
  | .ofPowers h => Product.merged_gather AnyUnit.merged_empty (Product.ofPowers_eq.symm.trans h)
  | .merge hp h => Product.merged_merge hp.merged h
  | .multiplyWith hp _ h => Product.merged_gather hp.merged h
  | .divideBy hp _ h => Product.merged_gather hp.merged h
  | .ofUnit h => AnyUnit.Built.formed h _ rfl

theorem AnyUnit.Built.formed {u : AnyUnit} : u.Built → u.Formed
  | .named _ => nofun
  | .power _ => nofun
  | .product hp => fun _ h => AnyUnit.product.inj h ▸ hp.merged
  | .relative hu h => h ▸ hu.formed.relative
  | .settled hu => hu.normal.formed

theorem AnyUnit.Settled.normal {u : AnyUnit} : u.Settled → u.Normal
  | .ofNamed _ => trivial
  | .ofPower h => h ▸ AnyUnit.normal_simplify_power _
  | .ofProduct hp h => h ▸ AnyUnit.normal_simplify hp.merged
  | .ofCanonical _ h => AnyUnit.normal_ofCanonical h
  | .simplify hu h => h ▸ AnyUnit.normal_simplify_of_formed hu.formed
  | .multiply _ _ h => AnyUnit.normal_multiply h
  | .divide _ _ h => AnyUnit.normal_divide h
  | .checkedPow _ h => AnyUnit.normal_checkedPow h
  | .pow _ h => AnyUnit.normal_pow h
  | .root _ h => AnyUnit.normal_root h

end

/-- Merged powers are those of a product that a run arrives at. -/
theorem Product.built_of_merged {terms : List Power} (h : Merged terms) :
    Product.Built ⟨terms⟩ :=
  .ofPowers (Product.ofPowers_of_merged h)

/-- Over every run, canonical products fit the slots and both kinds of product have merged terms;
simplified, the terms are factors, and units are in simplest form. -/
theorem invariants_of_built :
    (∀ {c : Canonical}, c.Built → c.terms.length ≤ slotCount ∧ Merged c.terms) ∧
    (∀ {c : Canonical}, c.Settled → Simplified c.terms) ∧
    (∀ {p : Product}, p.Built → Merged p.terms) ∧
    ∀ {u : AnyUnit}, u.Settled → u.Normal := by
  refine ⟨fun {c} h => ⟨c.length_terms_le, h.merged⟩, ?_, ?_, ?_⟩
  · exact Canonical.Settled.simplified
  · exact Product.Built.merged
  · exact AnyUnit.Settled.normal

/-- An area with a second of exponent zero in it: by the root of the canonical product, and by the
quotient of the unit as it is written. -/
theorem invariants_of_built_area :
    ∃ (meter second : NamedUnit) (c d : Canonical) (p : Product) (u : AnyUnit),
      meter = .plain "m" .ofLength .one none ∧ second = .plain "s" .ofTime .one none ∧
      c.Built ∧ c.terms = [⟨meter, 2⟩, ⟨second, 0⟩] ∧ Merged c.terms ∧
      c.root 2 = .ok d ∧ d.terms = [⟨meter, 1⟩] ∧ Simplified d.terms ∧
      p = ⟨[⟨meter, 2⟩, ⟨second, 0⟩]⟩ ∧ Merged p.terms ∧
      (AnyUnit.product p).divide (.named second) = .ok u ∧
      u = .product ⟨[⟨meter, 2⟩, ⟨second, -1⟩]⟩ ∧ u.Normal := by
  obtain ⟨hbuilt, hsettled, hproduct, hunit⟩ := invariants_of_built
  obtain ⟨a, c, d, ha, hc, hd⟩ : ∃ a c d,
      Canonical.empty.multiplyWith (.plain "m" .ofLength .one none) 2 = .ok a ∧
      a.multiplyWith (.plain "s" .ofTime .one none) 0 = .ok c ∧ c.root 2 = .ok d :=
    ⟨_, _, _, rfl, rfl, rfl⟩
  have hterms : c.terms = [⟨.plain "m" .ofLength .one none, 2⟩,
      ⟨.plain "s" .ofTime .one none, 0⟩] := by
    obtain rfl := Except.ok.inj ha
    obtain rfl := Except.ok.inj hc
    rfl
  have hroot : d.terms = [⟨.plain "m" .ofLength .one none, 1⟩] := by
    obtain rfl := Except.ok.inj ha
    obtain rfl := Except.ok.inj hc
    obtain rfl := Except.ok.inj hd
    rfl
  have hca : c.Built := .multiplyWith (.multiplyWith .empty ha) hc
  have hp : Product.ofPowers [⟨.plain "m" .ofLength .one none, 2⟩,
      ⟨.plain "s" .ofTime .one none, 0⟩] = .ok ⟨_⟩ := rfl
  have hu : (AnyUnit.product ⟨[⟨.plain "m" .ofLength .one none, 2⟩,
      ⟨.plain "s" .ofTime .one none, 0⟩]⟩).divide (.named (.plain "s" .ofTime .one none)) =
      .ok (.product ⟨_⟩) := rfl
  refine ⟨_, _, c, d, _, _, rfl, rfl, hca, hterms, (hbuilt hca).2, hd, hroot,
    hsettled (.root hca hd), rfl, hproduct (.ofPowers hp), hu, rfl, ?_⟩
  exact hunit (.divide (.product (.ofPowers hp)) (.named _) hu)

end Metrology
