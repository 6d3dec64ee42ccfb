import Metrology.Proofs.AnyUnit.Built
import Metrology.Proofs.AnyUnit.Group
import Metrology.Proofs.AnyUnit.Overflow

/-!
# Products that a fault leaves behind

A product is multiplied and divided in place: the factors of the unit are merged one after another,
and at the first that it has no room for (`Admits`) the run of merges ends. The factors before it
stay merged (`run_eq_fault_iff`), so a fault changes the product unless each of them has exponent
zero and a base that the product has already (`gather_eq_self_iff`). A unit with one factor changes
nothing when it cannot be merged. A product of two factors always meets a product that it changes
before it fails (`exists_changed`).
-/

namespace Metrology

open Power

/-! ## Where absorbing stops -/

namespace Product

variable {prepare : Power → Calc Power} {p q : Product} {terms : List Power} {fault : Fault}

/-- Merges a power into a product once it is prepared. -/
def take (prepare : Power → Calc Power) (p : Product) (t : Power) : Calc Product := do
  let s ← prepare t
  p.merge s.base s.exponent

theorem absorb_cons_of_ok {t : Power} {merged : Product} (h : take prepare p t = .ok merged) :
    p.absorb prepare (t :: terms) = merged.absorb prepare terms := by
  unfold take at h
  rw [absorb, h]

theorem absorb_cons_of_error {t : Power} (h : take prepare p t = .error fault) :
    p.absorb prepare (t :: terms) = (p, some fault) := by
  unfold take at h
  rw [absorb, h]

theorem gather_cons_of_ok {t : Power} {merged : Product} (h : take prepare p t = .ok merged) :
    gather prepare p (t :: terms) = gather prepare merged terms :=
  congrArg completed (absorb_cons_of_ok h)

theorem gather_cons_of_error {t : Power} (h : take prepare p t = .error fault) :
    gather prepare p (t :: terms) = .error fault :=
  congrArg completed (absorb_cons_of_error h)

/-- A run of merges ends in a fault at the first power that cannot be merged, with the powers before
it merged. -/
theorem absorb_eq_fault_iff :
    p.absorb prepare terms = (q, some fault) ↔
      ∃ before t after, terms = before ++ t :: after ∧ gather prepare p before = .ok q ∧
        take prepare q t = .error fault := by
  induction terms generalizing p with
  | nil =>
    constructor
    · intro h
      cases h
    · rintro ⟨before, t, after, h, -⟩
      simp at h
  | cons t terms ih =>
    rcases htake : take prepare p t with cause | merged
    · rw [absorb_cons_of_error htake]
      constructor
      · intro h
        obtain ⟨rfl, rfl⟩ := by simpa using h
        exact ⟨[], t, terms, rfl, rfl, htake⟩
      · rintro ⟨_ | ⟨x, before⟩, s, after, hterms, hq, hfault⟩
        · obtain ⟨rfl, rfl⟩ := by simpa using hterms
          obtain rfl := Except.ok.inj hq
          rw [Except.error.inj (htake.symm.trans hfault)]
        · obtain ⟨rfl, rfl⟩ := by simpa using hterms
          cases (gather_cons_of_error htake).symm.trans hq
    · rw [absorb_cons_of_ok htake, ih]
      constructor
      · rintro ⟨before, s, after, rfl, hq, hfault⟩
        exact ⟨t :: before, s, after, rfl, (gather_cons_of_ok htake).trans hq, hfault⟩
      · rintro ⟨_ | ⟨x, before⟩, s, after, hterms, hq, hfault⟩
        · obtain ⟨rfl, rfl⟩ := by simpa using hterms
          obtain rfl := Except.ok.inj hq
          cases htake.symm.trans hfault
        · obtain ⟨rfl, rfl⟩ := by simpa using hterms
          exact ⟨before, s, after, rfl, (gather_cons_of_ok htake).symm.trans hq, hfault⟩

/-! ## Merges that change nothing -/

theorem mergeInto_zero {u : NamedUnit} (h : u ∈ bases terms) : mergeInto u 0 terms = .ok terms := by
  induction terms with
  | nil => cases h
  | cons t terms ih =>
    unfold mergeInto
    split
    · rename_i ht
      have hsum : Bounded.add? t.exponent 0 = some t.exponent :=
        Bounded.add?_eq_some_iff.2 (add_zero t.exponent.toInt).symm
      rw [hsum, ← ht]
      rfl
    · rename_i ht
      rw [ih ((List.mem_cons.1 h).resolve_left (Ne.symm ht))]
      rfl

/-- Powers that are merged already leave a product as it is exactly when they have exponent zero and
bases of the product. -/
theorem gather_eq_self_iff {k : ℤ} (hk : Scales prepare k) (hk0 : k ≠ 0) (hterms : Merged terms)
    (h : gather prepare p terms = .ok q) :
    q = p ↔ ∀ t ∈ terms, t.exponent = 0 ∧ t.base ∈ bases p.terms := by
  constructor
  · rintro rfl t ht
    have hmem : t.base ∈ bases terms := mem_bases.2 ⟨t, ht, rfl⟩
    have hsum := exponentAt_gather hk hterms h t.base
    rw [exponentAt_of_mem hterms.nodup ht, left_eq_add] at hsum
    refine ⟨Int32.toInt_inj.1 ((mul_eq_zero.1 hsum).resolve_left hk0), ?_⟩
    exact (mem_bases_gather hk h).2 (.inr ⟨hmem, fun hu => hterms.proper (hu ▸ hmem)⟩)
  · intro hidle
    clear hterms
    induction terms with
    | nil => exact (Except.ok.inj h).symm
    | cons t terms ih =>
      obtain ⟨⟨hzero, hbase⟩, hidle⟩ := List.forall_mem_cons.1 hidle
      obtain ⟨s, hs, merged, hmerged, hq⟩ := gather_cons_eq_ok_iff.1 h
      have hexponent : s.exponent = 0 := by
        refine Int32.toInt_inj.1 ((hk hs).exponent_eq.trans ?_)
        rw [hzero]
        exact zero_mul k
      have hsame : merged = p := by
        rcases merge_eq_ok_iff.1 hmerged with ⟨-, rfl⟩ | ⟨-, hmerged⟩
        · rfl
        · rw [hexponent, (hk hs).base_eq, mergeInto_zero hbase] at hmerged
          exact congrArg Product.mk (Except.ok.inj hmerged).symm
      exact ih (hsame ▸ hq) hidle

end Product

/-! ## Updates in place -/

/-- The updates of a product in place. -/
inductive Update
  | multiply
  | divide

namespace Update

/-- The sign with which an update takes exponents. -/
def sign : Update → ℤ
  | multiply => 1
  | divide => -1

/-- What an update does to a factor before it is merged. -/
def prepare : Update → Power → Calc Power
  | multiply => pure
  | divide => Power.negated

/-- What an update leaves of a product, and the fault that ended it, if one did. -/
def run : Update → Product → AnyUnit → Product × Option Fault
  | multiply => Product.multiplyInPlace
  | divide => Product.divideInPlace

/-- Whether a product has room for a factor. -/
def Admits (o : Update) (p : Product) (t : Power) : Prop :=
  InRange (o.sign * t.exponent.toInt) ∧
    (t.base ≠ .unitless → InRange ((exponentAt t.base p.terms).toInt + o.sign * t.exponent.toInt))

variable {o : Update} {p q : Product} {u : AnyUnit} {t : Power} {before after : List Power}
  {fault : Fault}

theorem run_eq (o : Update) (p : Product) (u : AnyUnit) :
    o.run p u = p.absorb o.prepare u.powers := by
  cases o <;> rfl

theorem sign_ne_zero (o : Update) : o.sign ≠ 0 := by
  cases o <;> decide

theorem scales (o : Update) : Product.Scales o.prepare o.sign := by
  cases o with
  | multiply => exact Product.scales_pure
  | divide => exact Product.scales_negated

theorem returns_prepare_iff : Returns (o.prepare t) ↔ InRange (o.sign * t.exponent.toInt) := by
  cases o with
  | multiply =>
    rw [show Update.multiply.sign * t.exponent.toInt = t.exponent.toInt from one_mul _]
    exact iff_of_true ⟨t, rfl⟩ (inRange_toInt _)
  | divide =>
    rw [show Update.divide.sign * t.exponent.toInt = -t.exponent.toInt from neg_one_mul _]
    exact returns_negated_iff.trans inRange_neg_iff.symm

theorem exists_prepare_iff {x : ℤ} :
    (∃ s, o.prepare t = .ok s ∧ InRange (x + s.exponent.toInt)) ↔
      InRange (o.sign * t.exponent.toInt) ∧ InRange (x + o.sign * t.exponent.toInt) := by
  have hvalue : ∀ {s}, o.prepare t = .ok s → s.exponent.toInt = o.sign * t.exponent.toInt :=
    fun hs => (o.scales hs).exponent_eq.trans (mul_comm _ _)
  rw [← returns_prepare_iff]
  constructor
  · rintro ⟨s, hs, h⟩
    exact ⟨⟨s, hs⟩, hvalue hs ▸ h⟩
  · rintro ⟨⟨s, hs⟩, h⟩
    exact ⟨s, hs, (hvalue hs).symm ▸ h⟩

theorem stopsOnly_prepare (o : Update) (t : Power) :
    StopsOnly (· = .exponentOverflow t.base) (o.prepare t) := by
  cases o with
  | multiply => exact stopsOnly_ok t
  | divide => exact stopsOnly_negated t

/-! ## One factor -/

theorem returns_take_iff : Returns (Product.take o.prepare p t) ↔ o.Admits p t := by
  unfold Product.take Admits
  rw [returns_bind_iff]
  by_cases hu : t.base = .unitless
  · rw [and_iff_left (absurd hu), ← returns_prepare_iff]
    refine exists_congr fun s => and_iff_left_of_imp fun hs => ?_
    exact ⟨p, Product.merge_eq_ok_iff.2 (.inl ⟨(o.scales hs).base_eq.trans hu, rfl⟩)⟩
  · rw [imp_iff_right hu, ← exists_prepare_iff]
    refine exists_congr fun s => and_congr_right fun hs => ?_
    have hbase : s.base = t.base := (o.scales hs).base_eq
    rw [hbase, Product.returns_merge_iff hu]

/-- The fault is that of the base of the factor. It comes when there is no room for the factor. -/
theorem take_eq_error_iff :
    Product.take o.prepare p t = .error fault ↔
      ¬ o.Admits p t ∧ fault = .exponentOverflow t.base := by
  have hstops : StopsOnly (· = .exponentOverflow t.base) (Product.take o.prepare p t) := by
    refine (stopsOnly_prepare o t).bind fun s hs => ?_
    exact (o.scales hs).base_eq ▸ Product.stopsOnly_merge p s.base s.exponent
  rw [hstops.eq_error_iff, returns_take_iff]

theorem admits_congr (h : exponentAt t.base q.terms = exponentAt t.base p.terms) :
    o.Admits q t ↔ o.Admits p t := by
  unfold Admits
  rw [h]

/-! ## All factors -/

theorem returns_gather_iff {terms : List Power} (hterms : Merged terms) :
    Returns (Product.gather o.prepare p terms) ↔ ∀ t ∈ terms, o.Admits p t := by
  rw [Product.returns_gather_iff o.scales hterms]
  refine forall₂_congr fun t ht => ?_
  have hbase : t.base ≠ .unitless := fun hu => hterms.proper (mem_bases.2 ⟨t, ht, hu⟩)
  unfold Admits
  rw [exists_prepare_iff, imp_iff_right hbase]

/-- The factors before another one are merged, and do not have its base. -/
theorem merged_before (hu : u.Formed) (h : u.powers = before ++ t :: after) :
    Merged before ∧ t.base ∉ bases before := by
  have hsingle : ∀ {x}, [x] = before ++ t :: after → Merged before ∧ t.base ∉ bases before := by
    intro x hx
    cases before with
    | nil => exact ⟨⟨List.nodup_nil, List.not_mem_nil⟩, List.not_mem_nil⟩
    | cons y before => simp at hx
  cases u with
  | named b => exact hsingle h
  | power x => exact hsingle h
  | product p =>
    have hp := hu p rfl
    have hbases : bases p.terms = bases before ++ t.base :: bases after := by
      rw [show p.terms = before ++ t :: after from h]
      exact List.map_append
    have hnodup := hp.nodup
    rw [hbases] at hnodup
    obtain ⟨hbefore, -, hapart⟩ := List.nodup_append.1 hnodup
    refine ⟨⟨hbefore, fun hb => hp.proper ?_⟩, fun hb => hapart _ hb _ List.mem_cons_self rfl⟩
    rw [hbases]
    exact List.mem_append_left _ hb

/-- Whether an update ends at the factor `t`, the first that the product has no room for, with the
factors `before` it merged into `q`. -/
structure EndsAt (o : Update) (p : Product) (u : AnyUnit) (before : List Power) (t : Power)
    (q : Product) : Prop where
  splits : ∃ after, u.powers = before ++ t :: after
  admits : ∀ x ∈ before, o.Admits p x
  refuses : ¬ o.Admits p t
  merged : Product.gather o.prepare p before = .ok q

theorem run_eq_fault_iff (hu : u.Formed) :
    o.run p u = (q, some fault) ↔
      ∃ before t, o.EndsAt p u before t q ∧ fault = .exponentOverflow t.base := by
  rw [run_eq, Product.absorb_eq_fault_iff]
  -- The factors before have other bases, so there is room for a factor where there was.
  have hadmits : ∀ {before t after}, u.powers = before ++ t :: after →
      Product.gather o.prepare p before = .ok q → (o.Admits q t ↔ o.Admits p t) := by
    intro before t after h hq
    obtain ⟨hbefore, hnew⟩ := merged_before hu h
    have hsum := Product.exponentAt_gather o.scales hbefore hq t.base
    have hzero : o.sign * (0 : Int32).toInt = 0 := mul_zero o.sign
    rw [exponentAt_of_notMem hnew, hzero, add_zero] at hsum
    exact admits_congr (Int32.toInt_inj.1 hsum)
  constructor
  · rintro ⟨before, t, after, h, hq, hfault⟩
    obtain ⟨hrefuses, hcause⟩ := take_eq_error_iff.1 hfault
    have hbefore := (merged_before hu h).1
    exact ⟨before, t, ⟨⟨after, h⟩, (returns_gather_iff hbefore).1 ⟨q, hq⟩,
      mt (hadmits h hq).2 hrefuses, hq⟩, hcause⟩
  · rintro ⟨before, t, ⟨⟨after, h⟩, -, hrefuses, hq⟩, hcause⟩
    exact ⟨before, t, after, h, hq, take_eq_error_iff.2 ⟨mt (hadmits h hq).1 hrefuses, hcause⟩⟩

namespace EndsAt

theorem merged_before (h : o.EndsAt p u before t q) (hu : u.Formed) : Merged before := by
  obtain ⟨after, hsplits⟩ := h.splits
  exact (Update.merged_before hu hsplits).1

/-- Each base has its exponent and that of the factors before the end. -/
theorem exponentAt_eq (h : o.EndsAt p u before t q) (hu : u.Formed) (b : NamedUnit) :
    (exponentAt b q.terms).toInt =
      (exponentAt b p.terms).toInt + o.sign * (exponentAt b before).toInt :=
  Product.exponentAt_gather o.scales (h.merged_before hu) h.merged b

theorem eq_iff (h : o.EndsAt p u before t q) (hu : u.Formed) :
    q = p ↔ ∀ x ∈ before, x.exponent = 0 ∧ x.base ∈ bases p.terms :=
  Product.gather_eq_self_iff o.scales o.sign_ne_zero (h.merged_before hu) h.merged

end EndsAt

/-! ## Units that change no product before they fail -/

theorem exists_fault (hu : Merged u.powers) (ht : t ∈ u.powers) (h : ¬ o.Admits p t) :
    ∃ q fault, o.run p u = (q, some fault) := by
  rcases hrun : o.run p u with ⟨q, _ | fault⟩
  · have hgather : Product.gather o.prepare p u.powers = .ok q := by
      unfold Product.gather
      rw [← run_eq, hrun]
      rfl
    exact absurd ((returns_gather_iff hu).1 ⟨q, hgather⟩ t ht) h
  · exact ⟨q, fault, rfl⟩

/-- There is an exponent that leaves its range when another one than zero is added. -/
theorem exists_extreme (o : Update) (e : Int32) (he : e ≠ 0) :
    ∃ m : Int32, ¬ InRange (m.toInt + o.sign * e.toInt) := by
  have he : e.toInt ≠ 0 := fun h => he (Int32.toInt_inj.1 h)
  have hne : o.sign * e.toInt ≠ 0 := mul_ne_zero o.sign_ne_zero he
  have hmax : Int32.maxValue.toInt = 2 ^ 31 - 1 := rfl
  have hmin : Int32.minValue.toInt = -2 ^ 31 := rfl
  unfold InRange
  rcases lt_or_gt_of_ne hne with hneg | hpos
  · exact ⟨.minValue, by omega⟩
  · exact ⟨.maxValue, by omega⟩

/-- A unit of several factors is a product. -/
theorem merged_of_mem_tail {first : Power} {rest : List Power} (hu : u.Formed)
    (hpowers : u.powers = first :: rest) (ht : t ∈ rest) : Merged (first :: rest) := by
  cases u with
  | named b => exact absurd ((List.cons.inj hpowers).2 ▸ ht) List.not_mem_nil
  | power x => exact absurd ((List.cons.inj hpowers).2 ▸ ht) List.not_mem_nil
  | product p => exact hpowers ▸ hu p rfl

/-- A product that has room for the first factor and not for a later one is changed, if the base of
the first one is new. -/
theorem changed_of_admits {first : Power} {rest : List Power} (hu : u.Formed)
    (hpowers : u.powers = first :: rest) (ht : t ∈ rest) (hadmits : o.Admits p first)
    (hrefuses : ¬ o.Admits p t) (hnew : first.base ∉ bases p.terms) :
    ∃ q fault, o.run p u = (q, some fault) ∧ q ≠ p := by
  have hmerged : Merged u.powers := hpowers ▸ merged_of_mem_tail hu hpowers ht
  obtain ⟨q, fault, hrun⟩ :=
    exists_fault hmerged (hpowers ▸ List.mem_cons_of_mem first ht) hrefuses
  refine ⟨q, fault, hrun, fun hq => ?_⟩
  obtain ⟨before, s, hends, -⟩ := (run_eq_fault_iff hu).1 hrun
  obtain ⟨after, hsplits⟩ := hends.splits
  rw [hpowers] at hsplits
  cases before with
  | nil =>
    obtain rfl := (List.cons.inj hsplits).1
    exact hends.refuses hadmits
  | cons x before =>
    obtain rfl := (List.cons.inj hsplits).1
    exact hnew ((hends.eq_iff hu).1 hq first List.mem_cons_self).2

/-- A factor other than the first that is a factor at all stops the update of a product that has its
base to an extreme exponent. -/
theorem exists_changed {first : Power} {rest : List Power} (hu : u.Formed)
    (hpowers : u.powers = first :: rest) (hfirst : InRange (o.sign * first.exponent.toInt))
    (ht : t ∈ rest) (hexponent : t.exponent ≠ 0) :
    ∃ p q fault, p.Built ∧ o.run p u = (q, some fault) ∧ q ≠ p := by
  have hmerged := merged_of_mem_tail hu hpowers ht
  have hapart : t.base ≠ first.base := fun h =>
    (List.nodup_cons.1 hmerged.nodup).1 (mem_bases.2 ⟨t, ht, h⟩)
  have hbase : t.base ≠ .unitless := fun h =>
    hmerged.proper (mem_bases.2 ⟨t, List.mem_cons_of_mem _ ht, h⟩)
  obtain ⟨m, hm⟩ := exists_extreme o t.exponent hexponent
  have hfull : Merged [⟨t.base, m⟩] :=
    ⟨List.nodup_singleton _, fun h => hbase (List.mem_singleton.1 h).symm⟩
  have hat : exponentAt t.base [⟨t.base, m⟩] = m :=
    exponentAt_of_mem hfull.nodup (List.mem_singleton_self _)
  have hrefuses : ¬ o.Admits ⟨[⟨t.base, m⟩]⟩ t := fun h => hm (hat ▸ h.2 hbase)
  have hnew : first.base ∉ bases [⟨t.base, m⟩] := fun h => hapart (List.mem_singleton.1 h).symm
  have hadmits : o.Admits ⟨[⟨t.base, m⟩]⟩ first := by
    refine ⟨hfirst, fun _ => ?_⟩
    rw [exponentAt_of_notMem hnew]
    exact (zero_add (o.sign * first.exponent.toInt)).symm ▸ hfirst
  obtain ⟨q, fault, hrun, hne⟩ := changed_of_admits hu hpowers ht hadmits hrefuses hnew
  exact ⟨_, q, fault, Product.built_of_merged hfull, hrun, hne⟩

/-- There is always room for an exponent of zero. -/
theorem admits_of_zero (h : t.exponent = 0) : o.Admits p t := by
  have hnone : o.sign * t.exponent.toInt = 0 := by
    rw [h]
    exact mul_zero o.sign
  unfold Admits
  rw [hnone, add_zero]
  exact ⟨inRange_toInt 0, fun _ => inRange_toInt _⟩

/-- Where no factor after the first counts, the update ends at the first one or not at all. -/
theorem eq_of_fault (hu : u.Formed)
    (h : ∀ first rest, u.powers = first :: rest → InRange (o.sign * first.exponent.toInt) →
      ∀ t ∈ rest, t.exponent = 0)
    (hrun : o.run p u = (q, some fault)) : q = p := by
  obtain ⟨before, t, hends, -⟩ := (run_eq_fault_iff hu).1 hrun
  obtain ⟨after, hsplits⟩ := hends.splits
  cases before with
  | nil => exact (Except.ok.inj hends.merged).symm
  | cons first before =>
    have hfirst := (hends.admits first List.mem_cons_self).1
    have hlater : t ∈ before ++ t :: after := List.mem_append_right _ List.mem_cons_self
    exact absurd (admits_of_zero (h first _ hsplits hfirst t hlater)) hends.refuses

/-- An update in place ends in a fault at the first factor that the product has no room for, with
the factors before it merged. The product is as it was exactly when these have exponent zero and
bases of the product. A unit leaves every product as it was when it fails exactly if no factor after
the first has another exponent than zero, or division fails at the first one already. -/
theorem left_by_fault (o : Update) (u : AnyUnit) (hu : u.Built) :
    (∀ p q fault, o.run p u = (q, some fault) ↔
      ∃ before t, o.EndsAt p u before t q ∧ fault = .exponentOverflow t.base) ∧
    (∀ p before t q, o.EndsAt p u before t q →
      (∀ b, (exponentAt b q.terms).toInt =
        (exponentAt b p.terms).toInt + o.sign * (exponentAt b before).toInt) ∧
      (q = p ↔ ∀ x ∈ before, x.exponent = 0 ∧ x.base ∈ bases p.terms)) ∧
    ((∀ p q fault, p.Built → o.run p u = (q, some fault) → q = p) ↔
      ∀ first rest, u.powers = first :: rest → InRange (o.sign * first.exponent.toInt) →
        ∀ t ∈ rest, t.exponent = 0) := by
  refine ⟨fun _ _ _ => run_eq_fault_iff hu.formed,
    fun _ _ _ _ h => ⟨h.exponentAt_eq hu.formed, h.eq_iff hu.formed⟩, ?_, ?_⟩
  · intro h first rest hpowers hfirst t ht
    by_contra hexponent
    obtain ⟨p, q, fault, hp, hrun, hne⟩ := exists_changed hu.formed hpowers hfirst ht hexponent
    exact hne (h p q fault hp hrun)
  · exact fun h _ _ _ _ hrun => eq_of_fault hu.formed h hrun

/-- Division by a meter second fails at the second, with the meter divided out. -/
theorem left_by_fault_second :
    ∃ (meter second : NamedUnit) (p q : Product) (u : AnyUnit),
      meter = .plain "m" .ofLength .one none ∧ second = .plain "s" .ofTime .one none ∧
      p = ⟨[⟨meter, 1⟩, ⟨second, .minValue⟩]⟩ ∧ u = .product ⟨[⟨meter, 1⟩, ⟨second, 1⟩]⟩ ∧ u.Built ∧
      Update.divide.run p u = (q, some (.exponentOverflow second)) ∧
      Update.divide.EndsAt p u [⟨meter, 1⟩] ⟨second, 1⟩ q ∧
      (exponentAt meter q.terms).toInt = 0 ∧ q ≠ p := by
  obtain ⟨meter, hmeter⟩ : ∃ u, u = NamedUnit.plain "m" .ofLength .one none := ⟨_, rfl⟩
  obtain ⟨second, hsecond⟩ : ∃ u, u = NamedUnit.plain "s" .ofTime .one none := ⟨_, rfl⟩
  have hu : (AnyUnit.product ⟨[⟨meter, 1⟩, ⟨second, 1⟩]⟩).Built := by
    subst hmeter hsecond
    exact .product (Product.built_of_merged ⟨by decide, by decide⟩)
  have hends : Update.divide.EndsAt ⟨[⟨meter, 1⟩, ⟨second, .minValue⟩]⟩
      (.product ⟨[⟨meter, 1⟩, ⟨second, 1⟩]⟩) [⟨meter, 1⟩] ⟨second, 1⟩
      ⟨[⟨meter, 0⟩, ⟨second, .minValue⟩]⟩ := by
    subst hmeter hsecond
    refine ⟨⟨[], rfl⟩, List.forall_mem_singleton.2 ⟨⟨by decide, by decide⟩, fun _ => ?_⟩,
      fun h => ?_, rfl⟩
    · exact ⟨by decide, by decide⟩
    · exact absurd (h.2 (by decide)).1 (by decide)
  obtain ⟨hfaults, hleft, -⟩ := left_by_fault .divide _ hu
  obtain ⟨hexponents, hsame⟩ := hleft _ _ _ _ hends
  refine ⟨meter, second, _, _, _, hmeter, hsecond, rfl, rfl, hu,
    (hfaults _ _ _).2 ⟨_, _, hends, rfl⟩, hends, ?_, fun h => ?_⟩
  · rw [hexponents meter, exponentAt_cons_of_eq (p := ⟨meter, 1⟩) rfl,
      exponentAt_cons_of_eq (p := ⟨meter, 1⟩) rfl]
    rfl
  · have hone : (1 : Int32) ≠ 0 := by decide
    exact hone (hsame.1 h _ (List.mem_singleton_self _)).1

/-- A product that has the greatest exponent of the second is multiplied by a meter second: the
multiplication fails, and the exponent of the meter has changed. -/
theorem run_multiply_changes_meter :
    ∃ (meter second : NamedUnit) (p q : Product) (u : AnyUnit),
      meter = .plain "m" .ofLength .one none ∧ second = .plain "s" .ofTime .one none ∧
      p = ⟨[⟨meter, 1⟩, ⟨second, .maxValue⟩]⟩ ∧ u = .product ⟨[⟨meter, 1⟩, ⟨second, 1⟩]⟩ ∧
      q = ⟨[⟨meter, 2⟩, ⟨second, .maxValue⟩]⟩ ∧ p.Built ∧ u.Built ∧
      p.multiplyInPlace u = (q, some (.refused (.exponentOverflow "s"))) ∧ q ≠ p := by
  refine ⟨_, _, _, _, _, rfl, rfl, rfl, rfl, rfl, ?_, ?_, rfl, by decide⟩
  · exact Product.built_of_merged ⟨by decide, by decide⟩
  · exact .product (Product.built_of_merged ⟨by decide, by decide⟩)

end Update

end Metrology
