import Mathlib.Data.List.Forall2
import Metrology.Fault

/-!
# Calculations that return

A calculation `Returns` when it has a result. An operation that checks units can also be refused:
`NoFault` says that it is not stopped by a fault, whether it returns or not, and that holds of a
sequence of operations when it holds of each one that is reached (`noFault_bind_iff`). Two
calculations `Agree` when they have one result wherever both return. `StopsOnly` says that a
calculation returns unless it is stopped by a fault of a given kind, `OnlyOverflows` that it returns
unless a number leaves its range.
-/

namespace Metrology

variable {ε α β : Type}

/-- Whether a calculation has a result. -/
def Returns (x : Except ε α) : Prop := ∃ a, x = .ok a

theorem returns_bind_iff {x : Except ε α} {f : α → Except ε β} :
    Returns (x >>= f) ↔ ∃ a, x = .ok a ∧ Returns (f a) := by
  unfold Returns
  simp only [bind_eq_ok_iff]
  constructor
  · rintro ⟨b, a, ha, hb⟩
    exact ⟨a, ha, b, hb⟩
  · rintro ⟨a, ha, b, hb⟩
    exact ⟨b, a, ha, hb⟩

/-- A sequence of calculations is stopped where one of them is that is reached. -/
theorem bind_eq_error_iff {x : Except ε α} {f : α → Except ε β} {e : ε} :
    (x >>= f) = .error e ↔ x = .error e ∨ ∃ a, x = .ok a ∧ f a = .error e := by
  rcases x with cause | a
  · have hbind : (Except.error cause >>= f) = .error cause := rfl
    rw [hbind, Except.error.injEq, Except.error.injEq]
    exact ⟨.inl, fun h => h.resolve_right nofun⟩
  · have hbind : (Except.ok a >>= f) = f a := rfl
    rw [hbind]
    refine ⟨fun h => .inr ⟨a, rfl, h⟩, ?_⟩
    rintro (h | ⟨b, hb, h⟩)
    · cases h
    · exact Except.ok.inj hb ▸ h

theorem map_eq_error_iff {x : Except ε α} {f : α → β} {e : ε} :
    x.map f = .error e ↔ x = .error e := by
  cases x with
  | error cause => exact ⟨fun h => congrArg _ (Except.error.inj h), fun h => h ▸ rfl⟩
  | ok a => exact iff_of_false nofun nofun

/-- A calculation whose result is only rearranged returns when it does. -/
theorem returns_bind_pure_iff {x : Except ε α} {f : α → β} :
    Returns (x >>= fun a => pure (f a)) ↔ Returns x := by
  rw [returns_bind_iff]
  constructor
  · rintro ⟨a, ha, -⟩
    exact ⟨a, ha⟩
  · rintro ⟨a, ha⟩
    exact ⟨a, ha, f a, rfl⟩

theorem returns_orFault_iff {x : Option α} {fault : Fault} :
    Returns (orFault x fault) ↔ ∃ a, x = some a := by
  simp only [Returns, orFault_eq_ok_iff]

theorem returns_mapM_iff {f : α → Except ε β} {xs : List α} :
    Returns (xs.mapM f) ↔ ∀ x ∈ xs, Returns (f x) := by
  induction xs with
  | nil => exact iff_of_true ⟨[], rfl⟩ (List.forall_mem_nil _)
  | cons x xs ih =>
    rw [List.mapM_cons, List.forall_mem_cons, ← ih, returns_bind_iff]
    constructor
    · rintro ⟨y, hy, h⟩
      obtain ⟨ys, hys, -⟩ := returns_bind_iff.1 h
      exact ⟨⟨y, hy⟩, ys, hys⟩
    · rintro ⟨⟨y, hy⟩, ys, hys⟩
      exact ⟨y, hy, returns_bind_iff.2 ⟨ys, hys, _, rfl⟩⟩

/-- A list of calculations ends when each of them does. -/
theorem mapM_eq_ok_iff {f : α → Except ε β} {xs : List α} {ys : List β} :
    xs.mapM f = .ok ys ↔ List.Forall₂ (fun x y => f x = .ok y) xs ys := by
  induction xs generalizing ys with
  | nil => rw [List.mapM_nil, pure_eq_ok_iff, List.forall₂_nil_left_iff, eq_comm]
  | cons x xs ih =>
    rw [List.mapM_cons, List.forall₂_cons_left_iff]
    simp only [bind_eq_ok_iff, pure_eq_ok_iff, ih]
    constructor
    · rintro ⟨y, hy, zs, hzs, rfl⟩
      exact ⟨y, zs, hy, hzs, rfl⟩
    · rintro ⟨y, zs, hy, hzs, rfl⟩
      exact ⟨y, hy, zs, hzs, rfl⟩

/-! ## Calculations that agree -/

/-- Whether two calculations have one result, unless one of them has none. -/
def Agree {α : Type} (x y : Calc α) : Prop := ∀ {a b}, x = .ok a → y = .ok b → a = b

/-- Calculations whose results stand for one value agree. -/
theorem agree_of_value {α M : Type} {value : α → M} {w : M} {x y : Calc α}
    (hinj : ∀ {a b}, value a = value b → a = b) (hx : ∀ {a}, x = .ok a → value a = w)
    (hy : ∀ {b}, y = .ok b → value b = w) : Agree x y :=
  fun ha hb => hinj ((hx ha).trans (hy hb).symm)

theorem agree_refl {α : Type} (x : Calc α) : Agree x x :=
  fun ha hb => Except.ok.inj (ha.symm.trans hb)

/-- Calculations that agree have the same results when one returns where the other does. -/
theorem Agree.eq_ok_iff {x y : Calc α} (h : Agree x y) (hreturns : Returns x ↔ Returns y) {a : α} :
    x = .ok a ↔ y = .ok a := by
  constructor
  · intro ha
    obtain ⟨b, hb⟩ := hreturns.1 ⟨a, ha⟩
    rw [hb, h ha hb]
  · intro ha
    obtain ⟨b, hb⟩ := hreturns.2 ⟨a, ha⟩
    rw [hb, h hb ha]

/-- Calculations that go on from one result in ways that agree, agree. -/
theorem Agree.bind {x y : Calc α} {f g : α → Calc β} (hxy : Agree x y)
    (hfg : ∀ a, Agree (f a) (g a)) : Agree (x >>= f) (y >>= g) := by
  intro b c hb hc
  obtain ⟨a, ha, hb⟩ := bind_eq_ok_iff.1 hb
  obtain ⟨a', ha', hc⟩ := bind_eq_ok_iff.1 hc
  obtain rfl := hxy ha ha'
  exact hfg a hb hc

/-! ## Calculations that are stopped by one kind of fault -/

/-- Whether nothing but a fault of a given kind can stop a calculation. -/
def StopsOnly (P : Fault → Prop) (x : Calc α) : Prop := ∀ fault, x = .error fault → P fault

section StopsOnly

variable {P : Fault → Prop}

theorem stopsOnly_ok (a : α) : StopsOnly P (.ok a) := nofun

theorem stopsOnly_error {fault : Fault} (h : P fault) : StopsOnly P (.error fault : Calc α) := by
  intro cause hcause
  exact Except.error.inj hcause ▸ h

theorem stopsOnly_orFault {x : Option α} {fault : Fault} (h : P fault) :
    StopsOnly P (orFault x fault) := by
  cases x with
  | none => exact stopsOnly_error h
  | some a => exact stopsOnly_ok a

theorem StopsOnly.mono {Q : Fault → Prop} {x : Calc α} (hx : StopsOnly P x)
    (h : ∀ fault, P fault → Q fault) : StopsOnly Q x :=
  fun fault hfault => h fault (hx fault hfault)

/-- What only one fault can stop is stopped by it when it does not return. -/
theorem StopsOnly.eq_error_iff {fault cause : Fault} {x : Calc α} (hx : StopsOnly (· = fault) x) :
    x = .error cause ↔ ¬ Returns x ∧ cause = fault := by
  cases x with
  | error e =>
    obtain rfl : e = fault := hx e rfl
    rw [Except.error.injEq, eq_comm]
    exact (and_iff_right nofun).symm
  | ok a => exact iff_of_false nofun fun h => h.1 ⟨a, rfl⟩

theorem StopsOnly.bind {x : Calc α} {f : α → Calc β} (hx : StopsOnly P x)
    (hf : ∀ a, x = .ok a → StopsOnly P (f a)) : StopsOnly P (x >>= f) := by
  cases x with
  | error fault => exact stopsOnly_error (hx fault rfl)
  | ok a => exact hf a rfl

theorem stopsOnly_foldlM {f : β → α → Calc β} {xs : List α}
    (h : ∀ s, ∀ x ∈ xs, StopsOnly P (f s x)) (s : β) : StopsOnly P (xs.foldlM f s) := by
  induction xs generalizing s with
  | nil => exact stopsOnly_ok s
  | cons x xs ih =>
    rw [List.foldlM_cons]
    refine (h s x List.mem_cons_self).bind fun r _ => ih (fun s y hy => ?_) r
    exact h s y (List.mem_cons_of_mem x hy)

end StopsOnly

/-! ## Overflow -/

/-- Whether a number has left its range. -/
def Fault.isOverflow : Fault → Bool
  | .overflow _ | .ratioOverflow => true
  | _ => false

/-- Whether nothing but an overflow can stop a calculation. -/
abbrev OnlyOverflows (x : Calc α) : Prop := StopsOnly (fun fault => fault.isOverflow = true) x

/-- A calculation has no refusal to report. -/
theorem liftCalc_ne_refusal {x : Calc α} {e : UnitError} :
    (liftM x : Attempt α) ≠ .error (.unit e) := by
  cases x <;> nofun

/-- Whether an operation is stopped by an overflow. -/
def Overflows (x : Attempt α) : Prop :=
  ∃ fault : Fault, fault.isOverflow = true ∧ x = .error (.fault fault)

theorem OnlyOverflows.returns_or_overflows {x : Calc α} (hx : OnlyOverflows x) :
    Returns (liftM x : Attempt α) ∨ Overflows (liftM x : Attempt α) := by
  cases x with
  | error fault => exact .inr ⟨fault, hx fault rfl, rfl⟩
  | ok a => exact .inl ⟨a, rfl⟩

/-- Where nothing but an overflow can stop a calculation, an operation that ends in it returns what
the calculation does, or overflows. -/
theorem OnlyOverflows.eq_or_overflows {x : Calc α} {f : α → Attempt β} {y : Attempt β}
    (hx : OnlyOverflows x) (hf : ∀ {a}, x = .ok a → f a = y) :
    liftM x >>= f = y ∨ Overflows (liftM x >>= f) := by
  cases x with
  | error fault => exact .inr ⟨fault, hx fault rfl, rfl⟩
  | ok a => exact .inl (hf rfl)

/-! ## Operations with one kind of fault -/

/-- Whether nothing but a refusal or a fault of a given kind can stop an operation. -/
def FaultsOnly (P : Fault → Prop) (x : Attempt α) : Prop :=
  ∀ fault, x = .error (.fault fault) → P fault

section FaultsOnly

variable {P : Fault → Prop}

theorem faultsOnly_ok (a : α) : FaultsOnly P (.ok a) := nofun

theorem faultsOnly_refusal (e : UnitError) : FaultsOnly P (.error (.unit e) : Attempt α) := nofun

theorem StopsOnly.faultsOnly {x : Calc α} (hx : StopsOnly P x) :
    FaultsOnly P (liftM x : Attempt α) := by
  cases x with
  | error cause =>
    intro fault hfault
    exact hx fault (congrArg Except.error (Failure.fault.inj (Except.error.inj hfault)))
  | ok a => exact faultsOnly_ok a

theorem FaultsOnly.bind {x : Attempt α} {f : α → Attempt β} (hx : FaultsOnly P x)
    (hf : ∀ a, x = .ok a → FaultsOnly P (f a)) : FaultsOnly P (x >>= f) := by
  cases x with
  | error failure =>
    intro fault hfault
    exact hx fault (congrArg Except.error (Except.error.inj hfault))
  | ok a => exact hf a rfl

theorem FaultsOnly.mono {Q : Fault → Prop} {x : Attempt α} (hx : FaultsOnly P x)
    (h : ∀ fault, P fault → Q fault) : FaultsOnly Q x :=
  fun fault hfault => h fault (hx fault hfault)

end FaultsOnly

/-! ## Operations without a fault -/

/-- Whether an operation is not stopped by a fault. -/
def NoFault (x : Attempt α) : Prop := ∀ fault, x ≠ .error (.fault fault)

theorem noFault_ok (a : α) : NoFault (.ok a) := nofun

theorem noFault_bind_iff {x : Attempt α} {f : α → Attempt β} :
    NoFault (x >>= f) ↔ NoFault x ∧ ∀ a, x = .ok a → NoFault (f a) := by
  rcases x with failure | a
  · have hbind : (Except.error failure >>= f : Attempt β) = .error failure := rfl
    rw [hbind]
    refine ⟨fun h => ⟨fun fault hx => h fault ?_, nofun⟩, fun h fault hx => h.1 fault ?_⟩
    · rw [Except.error.inj hx]
    · rw [Except.error.inj hx]
  · have hbind : (Except.ok a >>= f : Attempt β) = f a := rfl
    rw [hbind]
    exact ⟨fun h => ⟨noFault_ok a, fun _ ha => Except.ok.inj ha ▸ h⟩, fun h => h.2 a rfl⟩

/-- A calculation that is part of an operation has to return. -/
theorem noFault_liftCalc_iff {x : Calc α} : NoFault (liftM x : Attempt α) ↔ Returns x := by
  rcases x with fault | a
  · exact iff_of_false (fun h => h fault rfl) nofun
  · exact iff_of_true (noFault_ok a) ⟨a, rfl⟩

theorem noFault_liftRefusal (x : Except UnitError α) : NoFault (liftM x : Attempt α) := by
  cases x <;> nofun

/-- An operation without a fault is refused when it does not return. -/
theorem NoFault.refused_iff {x : Attempt α} (h : NoFault x) :
    (∃ e, x = .error (.unit e)) ↔ ¬ Returns x := by
  rcases x with (fault | e) | a
  · exact absurd rfl (h fault)
  · exact iff_of_true ⟨e, rfl⟩ nofun
  · exact iff_of_false nofun (not_not.2 ⟨a, rfl⟩)

/-- Past a calculation that is part of an operation, there is its result. -/
theorem NoFault.of_liftCalc_bind {x : Calc α} {f : α → Attempt β} (h : NoFault (liftM x >>= f)) :
    ∃ a, x = .ok a ∧ NoFault (f a) := by
  obtain ⟨hx, hf⟩ := noFault_bind_iff.1 h
  obtain ⟨a, ha⟩ := noFault_liftCalc_iff.1 hx
  exact ⟨a, ha, hf a (liftCalc_eq_ok_iff.2 ha)⟩

/-- Past an operation that returns unless it is stopped by a fault, there is its result. -/
theorem NoFault.bind_eq {x : Attempt α} {f : α → Attempt β} {P : α → Prop}
    (h : NoFault (x >>= f)) (hx : NoFault x → ∃ a, x = .ok a ∧ P a) :
    ∃ a, P a ∧ NoFault (f a) ∧ x >>= f = f a := by
  obtain ⟨hfault, hf⟩ := noFault_bind_iff.1 h
  obtain ⟨a, ha, hp⟩ := hx hfault
  exact ⟨a, hp, hf a ha, by rw [ha]; rfl⟩

end Metrology
