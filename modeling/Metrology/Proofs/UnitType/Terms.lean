import Metrology.Proofs.Canonical.Weight
import Metrology.UnitType

/-!
# The terms of a unit type

A unit type whose dimension and origin are known has terms (`returns_terms`). They are simplified
(`simplified_terms`), and every base among them is the unit of a named type
(`forall_mem_bases_terms`). What a unit type measures is computed operand by operand, whereas its
terms are merged: `Measures` says what the two computations have in common, and from that they give
the same value (`Measures.value_eq`).
-/

namespace Metrology

open Power

/-! ## Named units -/

namespace NamedType

variable {t : NamedType} {n : NamedUnit} {c : Canonical}

theorem terms_ofNamed (h : Canonical.ofNamed n = .ok c) :
    n = .unitless ∧ c.terms = [] ∨ n ≠ .unitless ∧ c.terms = [⟨n, 1⟩] := by
  rcases Product.merge_eq_ok_iff.1 (Canonical.merge_of_multiplyWith h) with ⟨hn, hc⟩ | ⟨hn, hc⟩
  · exact .inl ⟨hn, congrArg Product.terms hc⟩
  · exact .inr ⟨hn, (Except.ok.inj hc).symm⟩

/-- The terms of a named unit type are its unit, unless that is the unit of pure numbers. -/
theorem terms_eq_ok (h : t.terms = .ok c) :
    ∃ n, t.unit = .ok n ∧
      (n = .unitless ∧ c.terms = [] ∨ n ≠ .unitless ∧ c.terms = [⟨n, 1⟩]) := by
  unfold terms at h
  split at h
  · obtain rfl := Except.ok.inj h
    exact ⟨.unitless, rfl, .inl ⟨rfl, rfl⟩⟩
  · obtain ⟨n, hn, hc⟩ := bind_eq_ok_iff.1 h
    exact ⟨n, hn, terms_ofNamed hc⟩

theorem returns_ofNamed (n : NamedUnit) : Returns (Canonical.ofNamed n) := by
  unfold Canonical.ofNamed Canonical.multiplyWith
  split <;> exact ⟨_, rfl⟩

theorem returns_unit {d : Dimension} (h : t.dimension = .ok d) :
    Returns t.unit := by
  induction t generalizing d with
  | unitless => exact ⟨_, rfl⟩
  | declared => exact ⟨_, rfl⟩
  | multiple factor of _ =>
    obtain ⟨n, hn, -⟩ := bind_eq_ok_iff.1 h
    exact ⟨n, hn⟩
  | relative of ih =>
    have hof : of.dimension = .ok d := h
    obtain ⟨n, hn⟩ := ih hof
    exact ⟨n.relative, bind_eq_ok_iff.2 ⟨n, hn, rfl⟩⟩

/-- A unit that is declared, or derived from one that is, has a size. -/
theorem magnitude_unit_ne_zero (h : t.unit = .ok n) : n.magnitude.value ≠ 0 := by
  induction t generalizing n with
  | unitless =>
    obtain rfl := Except.ok.inj h
    exact Ratio.value_one ▸ one_ne_zero
  | declared symbol dimension magnitude origin hne =>
    obtain rfl := Except.ok.inj h
    exact mt Ratio.value_eq_zero_iff.1 hne
  | multiple factor of ih =>
    obtain ⟨m, hm, h⟩ := bind_eq_ok_iff.1 h
    unfold NamedUnit.withPrefix at h
    split at h
    · cases h
    · obtain ⟨r, hr, h⟩ := bind_eq_ok_iff.1 h
      obtain rfl := Except.ok.inj h
      show r.value ≠ 0
      rw [Ratio.value_mul hr]
      refine mul_ne_zero (mt Ratio.value_eq_zero_iff.1 ?_) (ih hm)
      cases factor <;> decide
  | relative of ih =>
    obtain ⟨m, hm, h⟩ := bind_eq_ok_iff.1 h
    obtain rfl := Except.ok.inj h
    have hne : m.magnitude.value ≠ 0 := ih hm
    exact hne

theorem origin_unit (h : t.unit = .ok n) : n.origin = t.origin := by
  cases t with
  | unitless => exact Except.ok.inj h ▸ rfl
  | declared => exact Except.ok.inj h ▸ rfl
  | multiple factor of =>
    obtain ⟨m, hm, h⟩ := bind_eq_ok_iff.1 h
    unfold NamedUnit.withPrefix at h
    split at h
    · cases h
    · obtain ⟨r, hr, h⟩ := bind_eq_ok_iff.1 h
      exact Except.ok.inj h ▸ rfl
  | relative of =>
    obtain ⟨m, hm, h⟩ := bind_eq_ok_iff.1 h
    exact Except.ok.inj h ▸ rfl

end NamedType

namespace UnitType

variable {u v : UnitType} {c : Canonical} {n : Int32}

/-! ## Terms -/

/-- A unit type whose dimension and origin are known has terms. -/
theorem returns_terms {d : Dimension} {o : Origin} (hd : u.dimension = .ok d)
    (ho : u.origin = .ok o) : Returns u.terms := by
  cases u with
  | named t =>
    obtain ⟨n, hn⟩ := NamedType.returns_unit hd
    obtain ⟨c, hc⟩ := NamedType.returns_ofNamed n
    cases t with
    | unitless => exact ⟨_, rfl⟩
    | declared => exact ⟨_, bind_eq_ok_iff.2 ⟨n, hn, hc⟩⟩
    | multiple => exact ⟨_, bind_eq_ok_iff.2 ⟨n, hn, hc⟩⟩
    | relative => exact ⟨_, bind_eq_ok_iff.2 ⟨n, hn, hc⟩⟩
  | product a b =>
    obtain ⟨c, hc, -⟩ := bind_eq_ok_iff.1 ho
    exact ⟨c, hc⟩
  | per a b =>
    obtain ⟨c, hc, -⟩ := bind_eq_ok_iff.1 ho
    exact ⟨c, hc⟩
  | power a n =>
    obtain ⟨c, hc, -⟩ := bind_eq_ok_iff.1 ho
    exact ⟨c, hc⟩
  | root a n =>
    obtain ⟨c, hc, -⟩ := bind_eq_ok_iff.1 ho
    exact ⟨c, hc⟩

theorem simplified_terms (h : u.terms = .ok c) : Simplified c.terms := by
  induction u generalizing c with
  | named t =>
    obtain ⟨n, -, ⟨-, hc⟩ | ⟨hn, hc⟩⟩ := NamedType.terms_eq_ok h
    · exact hc ▸ simplified_nil
    · rw [hc]
      exact ⟨List.nodup_singleton _, fun _ hs =>
        List.mem_singleton.1 hs ▸ isLive_iff.2 ⟨show (1 : Int32) ≠ 0 by decide, hn⟩⟩
  | product a b iha ihb =>
    obtain ⟨x, hx, h⟩ := bind_eq_ok_iff.1 h
    obtain ⟨y, hy, h⟩ := bind_eq_ok_iff.1 h
    exact Canonical.simplified_multiply (iha hx).merged h
  | per a b iha ihb =>
    obtain ⟨x, hx, h⟩ := bind_eq_ok_iff.1 h
    obtain ⟨y, hy, h⟩ := bind_eq_ok_iff.1 h
    exact Canonical.simplified_divide (iha hx).merged h
  | power a n ih =>
    obtain ⟨x, hx, h⟩ := bind_eq_ok_iff.1 h
    exact Canonical.simplified_pow (ih hx).merged h
  | root a n ih =>
    obtain ⟨x, hx, h⟩ := bind_eq_ok_iff.1 h
    exact Canonical.simplified_root (ih hx).merged h

/-- A property of all named units that types stand for holds of every base of the terms. -/
theorem forall_mem_bases_terms {P : NamedUnit → Prop}
    (hP : ∀ {t : NamedType} {m}, t.unit = .ok m → P m) (h : u.terms = .ok c) :
    ∀ m ∈ bases c.terms, P m := by
  induction u generalizing c with
  | named t =>
    obtain ⟨n, hn, ⟨-, hc⟩ | ⟨-, hc⟩⟩ := NamedType.terms_eq_ok h
    · rw [hc]
      nofun
    · rw [hc]
      exact fun m hm => List.mem_singleton.1 hm ▸ hP hn
  | product a b iha ihb =>
    obtain ⟨x, hx, h⟩ := bind_eq_ok_iff.1 h
    obtain ⟨y, hy, h⟩ := bind_eq_ok_iff.1 h
    exact fun m hm => (Canonical.mem_bases_multiply h hm).elim (iha hx m) (ihb hy m)
  | per a b iha ihb =>
    obtain ⟨x, hx, h⟩ := bind_eq_ok_iff.1 h
    obtain ⟨y, hy, h⟩ := bind_eq_ok_iff.1 h
    exact fun m hm => (Canonical.mem_bases_divide h hm).elim (iha hx m) (ihb hy m)
  | power a n ih =>
    obtain ⟨x, hx, h⟩ := bind_eq_ok_iff.1 h
    exact fun m hm => ih hx m (Canonical.mem_bases_pow h hm)
  | root a n ih =>
    obtain ⟨x, hx, h⟩ := bind_eq_ok_iff.1 h
    exact fun m hm => ih hx m (Canonical.mem_bases_root h hm)

/-! ## Measures -/

/-- Whether `measure` computes operand by operand what the terms of a unit type weigh under `f`. A
root may know that already of its operand. -/
structure Measures {M β : Type} [DivisionCommMonoid M] (f : NamedUnit → M) (value : β → M)
    (measure : UnitType → Calc β) : Prop where
  named : ∀ {t m x}, t.unit = .ok m → measure (.named t) = .ok x → value x = f m
  product : ∀ {a b x}, measure (.product a b) = .ok x →
    ∃ y z, measure a = .ok y ∧ measure b = .ok z ∧ value x = value y * value z
  per : ∀ {a b x}, measure (.per a b) = .ok x →
    ∃ y z, measure a = .ok y ∧ measure b = .ok z ∧ value x = value y / value z
  power : ∀ {a n x}, measure (.power a n) = .ok x →
    ∃ y, measure a = .ok y ∧ value x = value y ^ n.toInt
  root : ∀ {a n x c},
    (∀ {c y}, a.terms = .ok c → measure a = .ok y → value y = weigh f c.terms) →
    (UnitType.root a n).terms = .ok c → measure (.root a n) = .ok x → value x = weigh f c.terms

theorem Measures.value_eq {M β : Type} [DivisionCommMonoid M] {f : NamedUnit → M} {value : β → M}
    {measure : UnitType → Calc β} (hm : Measures f value measure) (hf : f .unitless = 1)
    (hs : ∀ {t : NamedType} {m}, t.unit = .ok m → Splits f m) {x : β} (h : u.terms = .ok c)
    (hx : measure u = .ok x) : value x = weigh f c.terms := by
  induction u generalizing c x with
  | named t =>
    obtain ⟨n, hn, ⟨rfl, hc⟩ | ⟨-, hc⟩⟩ := NamedType.terms_eq_ok h
    · rw [hm.named hn hx, hc, hf, weigh_nil]
    · rw [hm.named hn hx, hc, weigh_cons, weigh_nil, mul_one]
      exact (zpow_one _).symm
  | product a b iha ihb =>
    obtain ⟨p, hp, h⟩ := bind_eq_ok_iff.1 h
    obtain ⟨q, hq, h⟩ := bind_eq_ok_iff.1 h
    obtain ⟨y, z, hy, hz, hv⟩ := hm.product hx
    rw [hv, iha hp hy, ihb hq hz,
      Canonical.weigh_multiply hf (forall_mem_bases_terms hs hq) h]
  | per a b iha ihb =>
    obtain ⟨p, hp, h⟩ := bind_eq_ok_iff.1 h
    obtain ⟨q, hq, h⟩ := bind_eq_ok_iff.1 h
    obtain ⟨y, z, hy, hz, hv⟩ := hm.per hx
    rw [hv, iha hp hy, ihb hq hz, Canonical.weigh_divide hf (forall_mem_bases_terms hs hq) h]
  | power a n ih =>
    obtain ⟨p, hp, h⟩ := bind_eq_ok_iff.1 h
    obtain ⟨y, hy, hv⟩ := hm.power hx
    rw [hv, ih hp hy, Canonical.weigh_pow hf h]
  | root a n ih => exact hm.root ih h hx

end UnitType

end Metrology
