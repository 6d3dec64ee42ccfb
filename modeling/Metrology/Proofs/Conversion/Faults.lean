import Metrology.Proofs.AnyUnit.Overflow
import Metrology.Proofs.AnyUnit.Range
import Metrology.Proofs.Conversion.Verdict

/-!
# Faults of operations on two units

To compare two units, to add and subtract quantities of them and to convert between them stops at no
fault but one of their measures or of the coefficients (`stopsOnly_isEquivalent`, `faultsOnly_add`,
`faultsOnly_sub`, `faultsOnly_between`). Where the dimensions of both units are in range, only the
magnitudes and the coefficients are left, and nothing but an overflow stops these
(`faults_of_composed`).
-/

namespace Metrology

open Power

/-! ## Faults of measures -/

namespace AnyUnit

variable {u v : AnyUnit} {fault : Fault}

/-- Whether a fault stops the magnitude of one of two units. -/
def MagnitudeFault (u v : AnyUnit) (fault : Fault) : Prop :=
  u.magnitude = .error fault ∨ v.magnitude = .error fault

theorem Faulty.magnitude_eq (h : u.Faulty fault) (hu : DimensionsInRange u.factors) :
    u.magnitude = .error fault := by
  refine h.resolve_left fun hfault => ?_
  obtain ⟨d, hd⟩ := (returns_dimension_iff u).2 hu
  cases hd.symm.trans hfault

end AnyUnit

namespace AnyQuantity

variable {α : Type}

theorem faultsOnly_expectSameUnit (a b : AnyQuantity α) :
    FaultsOnly (fun fault => a.unit.Faulty fault ∨ b.unit.Faulty fault) (a.expectSameUnit b) := by
  refine (AnyUnit.stopsOnly_isEquivalent a.unit b.unit).faultsOnly.bind fun same _ => ?_
  split
  · exact faultsOnly_refusal _
  · exact faultsOnly_ok _

variable [Scalar α]

theorem faultsOnly_add (a b : AnyQuantity α) :
    FaultsOnly (fun fault => a.unit.Faulty fault ∨ b.unit.Faulty fault) (a.add b) := by
  refine (faultsOnly_expectSameUnit a b).bind fun _ _ => ?_
  split
  · exact faultsOnly_refusal _
  · exact faultsOnly_ok _

theorem faultsOnly_sub (a b : AnyQuantity α) :
    FaultsOnly (fun fault => a.unit.Faulty fault ∨ b.unit.Faulty fault) (a.sub b) :=
  (faultsOnly_expectSameUnit a b).bind fun _ _ => faultsOnly_ok _

end AnyQuantity

namespace Conversion

variable {u v : AnyUnit} {fault : Fault}

/-- Whether a fault stops the coefficients of the conversion between two units. -/
def CoefficientFault (u v : AnyUnit) (fault : Fault) : Prop :=
  ∃ m n, u.magnitude = .ok m ∧ v.magnitude = .ok n ∧
    make m u.origin n v.origin = .error fault

theorem faultsOnly_between (u v : AnyUnit) :
    FaultsOnly (fun fault => (u.Faulty fault ∨ v.Faulty fault) ∨ CoefficientFault u v fault)
      (between u v) := by
  refine (StopsOnly.faultsOnly fun _ h => .inl (.inl (.inl h))).bind fun d _ => ?_
  refine (StopsOnly.faultsOnly fun _ h => .inl (.inr (.inl h))).bind fun e _ => ?_
  show FaultsOnly _ (if d != e then Except.error (.unit (.dimensionMismatch u.name v.name))
    else if u.isAbsolute != v.isAbsolute then Except.error (.unit (.affineMismatch u.name v.name))
    else _)
  split
  · exact faultsOnly_refusal _
  split
  · exact faultsOnly_refusal _
  refine (StopsOnly.faultsOnly fun _ h => .inl (.inl (.inr h))).bind fun m hm => ?_
  refine (StopsOnly.faultsOnly fun _ h => .inl (.inr (.inr h))).bind fun n hn => ?_
  rw [liftCalc_eq_ok_iff] at hm hn
  exact StopsOnly.faultsOnly fun _ h => .inr ⟨m, n, hm, hn, h⟩

theorem isOverflow_of_fault (hu : u.Sized) (hv : v.Sized)
    (h : u.MagnitudeFault v fault ∨ CoefficientFault u v fault) : fault.isOverflow = true := by
  rcases h with (h | h) | ⟨m, n, -, hn, h⟩
  · exact AnyUnit.onlyOverflows_magnitude hu fault h
  · exact AnyUnit.onlyOverflows_magnitude hv fault h
  · have hn0 : n.value ≠ 0 := by
      rw [AnyUnit.value_magnitude hn]
      exact weigh_ne_zero fun b hb => hv b ((List.filter_sublist.map base).subset hb)
    exact onlyOverflows_make hn0 fault h

/-- The dimension of a unit stops at nothing but an overflow, and it returns exactly when the
dimensions of the factors and of their leading products are in range. That is so for all units that
are composed over one base exactly when the dimension of the base has no exponents but zero and one.
Two units whose dimensions are in range are compared, added, subtracted and converted, or refused,
unless their magnitudes or the coefficients between them leave their range. -/
theorem faults_of_composed (u v : AnyUnit) :
    OnlyOverflows u.dimension ∧ (Returns u.dimension ↔ DimensionsInRange u.factors) ∧
    (∀ b : NamedUnit,
      (∀ {w : AnyUnit}, w.Composed → (∀ t ∈ w.factors, t.base = b) → Returns w.dimension) ↔
        ∀ i, b.dimension.exponent i = 0 ∨ b.dimension.exponent i = 1) ∧
    (DimensionsInRange u.factors → DimensionsInRange v.factors →
      StopsOnly (u.MagnitudeFault v) (u.isEquivalent v) ∧
      (∀ {α : Type} [Scalar α] (x y : α),
        FaultsOnly (u.MagnitudeFault v) ((AnyQuantity.mk x u).add ⟨y, v⟩) ∧
        FaultsOnly (u.MagnitudeFault v) ((AnyQuantity.mk x u).sub ⟨y, v⟩)) ∧
      FaultsOnly (fun fault => u.MagnitudeFault v fault ∨ CoefficientFault u v fault)
        (between u v)) ∧
    (u.Sized → v.Sized → ∀ fault, u.MagnitudeFault v fault ∨ CoefficientFault u v fault →
      fault.isOverflow = true) := by
  refine ⟨u.onlyOverflows_dimension, u.returns_dimension_iff,
    fun b => AnyUnit.returns_dimension_of_bases_iff, fun hu hv => ?_,
    fun hu hv fault => isOverflow_of_fault hu hv⟩
  have hfault : ∀ fault, u.Faulty fault ∨ v.Faulty fault → u.MagnitudeFault v fault :=
    fun fault h => h.imp (fun h => h.magnitude_eq hu) fun h => h.magnitude_eq hv
  refine ⟨(AnyUnit.stopsOnly_isEquivalent u v).mono hfault, fun x y => ⟨?_, ?_⟩, ?_⟩
  · exact (AnyQuantity.faultsOnly_add _ _).mono hfault
  · exact (AnyQuantity.faultsOnly_sub _ _).mono hfault
  · exact (faultsOnly_between u v).mono fun fault h => h.imp_left (hfault fault)

/-- Joules and newton metres. -/
theorem faults_of_composed_energy :
    ∃ (joule newton meter : NamedUnit) (u v : AnyUnit),
      joule = .plain "J" ⟨-2, 2, 1, 0, 0, 0, 0⟩ .one none ∧
      newton = .plain "N" ⟨-2, 1, 1, 0, 0, 0, 0⟩ .one none ∧
      meter = .plain "m" .ofLength .one none ∧
      u = .named joule ∧ (AnyUnit.named newton).multiply (.named meter) = .ok v ∧
      Returns u.dimension ∧ Returns v.dimension ∧ OnlyOverflows (u.isEquivalent v) ∧
      u.isEquivalent v = .ok true ∧
      ∀ {w : AnyUnit}, w.Composed → (∀ t ∈ w.factors, t.base = meter) → Returns w.dimension := by
  have hone : Ratio.one.value ≠ 0 := Ratio.value_one ▸ one_ne_zero
  have hu : (AnyUnit.named (.plain "J" ⟨-2, 2, 1, 0, 0, 0, 0⟩ .one none)).Sized := by
    intro b hb
    rw [List.mem_singleton.1 hb]
    exact hone
  have hv : (AnyUnit.product ⟨[⟨.plain "N" ⟨-2, 1, 1, 0, 0, 0, 0⟩ .one none, 1⟩,
      ⟨.plain "m" .ofLength .one none, 1⟩]⟩).Sized := by
    intro b hb
    rcases List.mem_pair.1 hb with rfl | rfl
    · exact hone
    · exact hone
  obtain ⟨-, hrange, hbases, hfaults, hoverflow⟩ := faults_of_composed
    (.named (.plain "J" ⟨-2, 2, 1, 0, 0, 0, 0⟩ .one none))
    (.product ⟨[⟨.plain "N" ⟨-2, 1, 1, 0, 0, 0, 0⟩ .one none, 1⟩,
      ⟨.plain "m" .ofLength .one none, 1⟩]⟩)
  have hproduct := (AnyUnit.returns_dimension_iff
    (.product ⟨[⟨.plain "N" ⟨-2, 1, 1, 0, 0, 0, 0⟩ .one none, 1⟩,
      ⟨.plain "m" .ofLength .one none, 1⟩]⟩)).1 ⟨_, rfl⟩
  refine ⟨_, _, _, _, _, rfl, rfl, rfl, rfl, rfl, ⟨_, rfl⟩, ⟨_, rfl⟩, ?_, rfl, ?_⟩
  · exact (hfaults (hrange.1 ⟨_, rfl⟩) hproduct).1.mono fun fault h => hoverflow hu hv fault (.inl h)
  · exact (hbases _).2 (by decide)

/-- A power of joules divided by the same power of newton metres is a pure number, but the length in
the power of joules has left its range before it is divided. -/
theorem dimension_overflows_energy :
    ∃ (joule newton meter : NamedUnit) (u v w x : AnyUnit),
      joule = .plain "J" ⟨-2, 2, 1, 0, 0, 0, 0⟩ .one none ∧
      newton = .plain "N" ⟨-2, 1, 1, 0, 0, 0, 0⟩ .one none ∧
      meter = .plain "m" .ofLength .one none ∧
      (AnyUnit.named joule).checkedPow 1073741824 = .ok u ∧
      (AnyUnit.named newton).multiply (.named meter) = .ok v ∧
      v.checkedPow 1073741824 = .ok w ∧ u.divide w = .ok x ∧ x.Composed ∧
      weigh (fun b => b.dimension.value) x.factors = 1 ∧
      x.dimension = .error (.overflow .multiplication) ∧
      x.isEquivalent .unitless = .error (.overflow .multiplication) ∧
      between x .unitless = .error (.fault (.overflow .multiplication)) := by
  have hu : (AnyUnit.named (.plain "J" ⟨-2, 2, 1, 0, 0, 0, 0⟩ .one none)).checkedPow 1073741824 =
      .ok (.power ⟨.plain "J" ⟨-2, 2, 1, 0, 0, 0, 0⟩ .one none, 1073741824⟩) := rfl
  have hv : (AnyUnit.named (.plain "N" ⟨-2, 1, 1, 0, 0, 0, 0⟩ .one none)).multiply
      (.named (.plain "m" .ofLength .one none)) =
      .ok (.product ⟨[⟨.plain "N" ⟨-2, 1, 1, 0, 0, 0, 0⟩ .one none, 1⟩,
        ⟨.plain "m" .ofLength .one none, 1⟩]⟩) := rfl
  have hw : (AnyUnit.product ⟨[⟨.plain "N" ⟨-2, 1, 1, 0, 0, 0, 0⟩ .one none, 1⟩,
      ⟨.plain "m" .ofLength .one none, 1⟩]⟩).checkedPow 1073741824 =
      .ok (.product ⟨[⟨.plain "N" ⟨-2, 1, 1, 0, 0, 0, 0⟩ .one none, 1073741824⟩,
        ⟨.plain "m" .ofLength .one none, 1073741824⟩]⟩) := rfl
  have hx : (AnyUnit.power ⟨.plain "J" ⟨-2, 2, 1, 0, 0, 0, 0⟩ .one none, 1073741824⟩).divide
      (.product ⟨[⟨.plain "N" ⟨-2, 1, 1, 0, 0, 0, 0⟩ .one none, 1073741824⟩,
        ⟨.plain "m" .ofLength .one none, 1073741824⟩]⟩) =
      .ok (.product ⟨[⟨.plain "J" ⟨-2, 2, 1, 0, 0, 0, 0⟩ .one none, 1073741824⟩,
        ⟨.plain "N" ⟨-2, 1, 1, 0, 0, 0, 0⟩ .one none, -1073741824⟩,
        ⟨.plain "m" .ofLength .one none, -1073741824⟩]⟩) := rfl
  have hcomposed := AnyUnit.Composed.divide (.checkedPow (.named _) hu)
    (.checkedPow (.multiply (.named _) (.named _) hv) hw) hx
  refine ⟨_, _, _, _, _, _, _, rfl, rfl, rfl, hu, hv, hw, hx, hcomposed, ?_, rfl, rfl, rfl⟩
  decide

end Conversion

end Metrology
