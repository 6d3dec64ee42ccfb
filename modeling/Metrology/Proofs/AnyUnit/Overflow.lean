import Metrology.Proofs.AnyUnit.Measure
import Metrology.Proofs.Ratio.Overflow

/-!
# What stops a calculation with units

The dimension of a unit is calculated unless an exponent leaves its range (`onlyOverflows_dimension`),
and the magnitude of a unit whose bases have a size unless a number does (`onlyOverflows_magnitude`).
What stops these stops a comparison of units, and nothing else does (`stopsOnly_isEquivalent`).
A product and a quotient of units are stopped by nothing but the exponent of a base
(`stopsOnly_multiply`, `stopsOnly_divide`).
-/

namespace Metrology

open Power

/-! ## Dimensions -/

namespace Dimension

theorem onlyOverflows_combine {f : Int32 → Int32 → Calc Int32} (hf : ∀ x y, OnlyOverflows (f x y))
    (a b : Dimension) : OnlyOverflows (combine f a b) := by
  refine (hf _ _).bind fun _ _ => (hf _ _).bind fun _ _ => (hf _ _).bind fun _ _ => ?_
  refine (hf _ _).bind fun _ _ => (hf _ _).bind fun _ _ => (hf _ _).bind fun _ _ => ?_
  exact (hf _ _).bind fun _ _ => stopsOnly_ok _

theorem onlyOverflows_mul (a b : Dimension) : OnlyOverflows (a.mul b) :=
  onlyOverflows_combine (fun _ _ => stopsOnly_orFault rfl) a b

theorem onlyOverflows_pow (d : Dimension) (n : Int32) : OnlyOverflows (d.pow n) :=
  onlyOverflows_combine (fun _ _ => stopsOnly_orFault rfl) d d

end Dimension

/-! ## What a unit measures -/

namespace AnyUnit

variable {u v : AnyUnit}

/-- Whether all bases of a unit have a size. -/
def Sized (u : AnyUnit) : Prop := ∀ b ∈ bases u.powers, b.magnitude.value ≠ 0

/-- Whether a fault stops the dimension or the magnitude of a unit. -/
def Faulty (u : AnyUnit) (fault : Fault) : Prop :=
  u.dimension = .error fault ∨ u.magnitude = .error fault

theorem onlyOverflows_dimension (u : AnyUnit) : OnlyOverflows u.dimension := by
  cases u with
  | named b => exact stopsOnly_ok _
  | power t => exact Dimension.onlyOverflows_pow _ _
  | product p =>
    refine stopsOnly_foldlM (fun d t _ => ?_) _
    exact (Dimension.onlyOverflows_pow _ _).bind fun e _ => Dimension.onlyOverflows_mul d e

/-- Nothing is divided by zero where all bases have a size. -/
theorem onlyOverflows_magnitude (hu : u.Sized) : OnlyOverflows u.magnitude := by
  cases u with
  | named b => exact stopsOnly_ok _
  | power t => exact Ratio.onlyOverflows_pow (hu t.base (List.mem_singleton_self _)) _
  | product p =>
    refine stopsOnly_foldlM (fun r t ht => ?_) _
    have hbase := hu t.base (mem_bases.2 ⟨t, ht, rfl⟩)
    exact (Ratio.onlyOverflows_pow hbase _).bind fun s _ => Ratio.onlyOverflows_mul r s

/-- Units are compared by their measures. -/
theorem stopsOnly_isEquivalent (u v : AnyUnit) :
    StopsOnly (fun fault => u.Faulty fault ∨ v.Faulty fault) (u.isEquivalent v) := by
  refine StopsOnly.bind (fun _ h => .inl (.inl h)) fun d _ => ?_
  refine StopsOnly.bind (fun _ h => .inr (.inl h)) fun e _ => ?_
  split
  · exact stopsOnly_ok false
  refine StopsOnly.bind (fun _ h => .inl (.inr h)) fun m _ => ?_
  refine StopsOnly.bind (fun _ h => .inr (.inr h)) fun n _ => ?_
  split
  · exact stopsOnly_ok false
  · exact stopsOnly_ok _

theorem Faulty.isOverflow (hu : OnlyOverflows u.magnitude) {fault : Fault}
    (h : u.Faulty fault) : fault.isOverflow = true :=
  h.elim (onlyOverflows_dimension u fault) (hu fault)

theorem onlyOverflows_isEquivalent (hu : OnlyOverflows u.magnitude)
    (hv : OnlyOverflows v.magnitude) : OnlyOverflows (u.isEquivalent v) :=
  (stopsOnly_isEquivalent u v).mono fun _ h => h.elim (Faulty.isOverflow hu) (Faulty.isOverflow hv)

end AnyUnit

/-! ## Composition -/

/-- Whether the exponent of a base has left its range. -/
def Fault.IsExponent (fault : Fault) : Prop := ∃ base, fault = .exponentOverflow base

namespace Product

variable {prepare : Power → Calc Power} {terms : List Power}

/-- The fault of a merge names the base that is merged. -/
theorem stopsOnly_mergeInto (b : NamedUnit) (e : Int32) (terms : List Power) :
    StopsOnly (· = .exponentOverflow b) (mergeInto b e terms) := by
  induction terms with
  | nil => exact stopsOnly_ok _
  | cons t terms ih =>
    unfold mergeInto
    split
    · exact StopsOnly.bind (stopsOnly_orFault rfl) fun _ _ => stopsOnly_ok _
    · exact ih.bind fun _ _ => stopsOnly_ok _

theorem stopsOnly_merge (p : Product) (b : NamedUnit) (e : Int32) :
    StopsOnly (· = .exponentOverflow b) (p.merge b e) := by
  unfold merge
  split
  · exact stopsOnly_ok p
  · exact (stopsOnly_mergeInto b e p.terms).bind fun _ _ => stopsOnly_ok _

theorem stopsOnly_gather (hprepare : ∀ t, StopsOnly Fault.IsExponent (prepare t)) (p : Product) :
    StopsOnly Fault.IsExponent (gather prepare p terms) := by
  induction terms generalizing p with
  | nil => exact stopsOnly_ok p
  | cons t terms ih =>
    rw [gather_cons]
    refine (hprepare t).bind fun s _ => StopsOnly.bind ?_ fun q _ => ih q
    exact (stopsOnly_merge p s.base s.exponent).mono fun _ h => ⟨s.base, h⟩

end Product

theorem Power.stopsOnly_negated (t : Power) : StopsOnly (· = .exponentOverflow t.base) t.negated :=
  StopsOnly.bind (stopsOnly_orFault rfl) fun _ _ => stopsOnly_ok _

namespace AnyUnit

theorem stopsOnly_multiply (u v : AnyUnit) : StopsOnly Fault.IsExponent (u.multiply v) := by
  refine (Product.stopsOnly_gather stopsOnly_ok _).bind fun p _ => ?_
  exact (Product.stopsOnly_gather stopsOnly_ok p).bind fun _ _ => stopsOnly_ok _

theorem stopsOnly_divide (u v : AnyUnit) : StopsOnly Fault.IsExponent (u.divide v) := by
  refine (Product.stopsOnly_gather stopsOnly_ok _).bind fun p _ => ?_
  refine (Product.stopsOnly_gather (fun t => ?_) p).bind fun _ _ => stopsOnly_ok _
  exact (Power.stopsOnly_negated t).mono fun _ h => ⟨t.base, h⟩

end AnyUnit

end Metrology
