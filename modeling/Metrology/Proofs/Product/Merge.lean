import Metrology.AnyUnit
import Metrology.Proofs.Power.Weight

/-!
# Merging powers into a product

`gather` is what a product becomes when it absorbs a list of powers. A merge changes one exponent or
adds one base at the end (`bases_mergeInto`), so a run of merges keeps the terms `Merged`
(`merged_gather`), collects the bases of both sides (`mem_bases_gather`) and multiplies the weights
(`weigh_gather_of_sided`). Merging a list that is merged already into the empty product rebuilds it
(`gather_pure`).
-/

namespace Metrology

open Power

namespace Product

variable {M : Type} [DivisionCommMonoid M] {f : NamedUnit → M}

/-! ## One merge -/

section Merge

variable {u v : NamedUnit} {e : Int32} {terms merged : List Power} {p q : Product}

theorem bases_mergeInto (h : mergeInto u e terms = .ok merged) :
    bases merged = if u ∈ bases terms then bases terms else bases terms ++ [u] := by
  induction terms generalizing merged with
  | nil =>
    obtain rfl := Except.ok.inj h
    rfl
  | cons t terms ih =>
    unfold mergeInto at h
    split at h
    · rename_i ht
      obtain ⟨sum, -, rfl⟩ := by simpa using h
      rw [if_pos (mem_bases.2 ⟨t, List.mem_cons_self, ht⟩)]
      exact congrArg (· :: bases terms) ht.symm
    · rename_i ht
      obtain ⟨rest, hrest, rfl⟩ := by simpa using h
      have hmem : u ∈ bases (t :: terms) ↔ u ∈ bases terms :=
        List.mem_cons.trans (or_iff_right fun hu => ht hu.symm)
      show t.base :: bases rest = _
      rw [ih hrest]
      by_cases hu : u ∈ bases terms
      · rw [if_pos hu, if_pos (hmem.2 hu)]
        rfl
      · rw [if_neg hu, if_neg (mt hmem.1 hu)]
        rfl

theorem mergeInto_of_notMem (h : u ∉ bases terms) :
    mergeInto u e terms = .ok (terms ++ [⟨u, e⟩]) := by
  induction terms with
  | nil => rfl
  | cons t terms ih =>
    have ht : ¬ t.base = u := fun ht => h (mem_bases.2 ⟨t, List.mem_cons_self, ht⟩)
    unfold mergeInto
    rw [if_neg ht, ih fun hu => h (List.mem_cons_of_mem _ hu)]
    rfl

/-- A merge at a base that the property `P` singles out keeps the exponents of such bases on their
side, and multiplies the weight. -/
theorem weigh_mergeInto {P : NamedUnit → Prop} {j : ℤ} (hj : j ≠ 0) (hu : P u)
    (he : Sided f j ⟨u, e⟩) (hterms : ∀ t ∈ terms, P t.base → Sided f j t)
    (h : mergeInto u e terms = .ok merged) :
    weigh f merged = weigh f terms * f u ^ e.toInt ∧ ∀ t ∈ merged, P t.base → Sided f j t := by
  induction terms generalizing merged with
  | nil =>
    obtain rfl := Except.ok.inj h
    refine ⟨by rw [weigh_cons, weigh_nil, mul_comm], fun t ht _ => ?_⟩
    exact List.mem_singleton.1 ht ▸ he
  | cons t terms ih =>
    obtain ⟨ht, htail⟩ := List.forall_mem_cons.1 hterms
    unfold mergeInto at h
    split at h
    · rename_i hbase
      obtain ⟨sum, hsum, rfl⟩ := by simpa using h
      have hsum : sum.toInt = t.exponent.toInt + e.toInt := Bounded.add?_eq_some_iff.1 hsum
      obtain ⟨v, a⟩ := t
      obtain rfl : v = u := hbase
      obtain ⟨hadd, hsided⟩ := (ht hu).add hj hsum he
      refine ⟨?_, List.forall_mem_cons.2 ⟨fun _ => hsided, htail⟩⟩
      rw [weigh_cons, weigh_cons, hadd, mul_right_comm]
    · obtain ⟨rest, hrest, rfl⟩ := by simpa using h
      obtain ⟨hweigh, hsided⟩ := ih htail hrest
      refine ⟨?_, List.forall_mem_cons.2 ⟨ht, hsided⟩⟩
      rw [weigh_cons, weigh_cons, hweigh, mul_assoc]

theorem merge_eq_ok_iff :
    p.merge u e = .ok q ↔
      u = .unitless ∧ q = p ∨ u ≠ .unitless ∧ mergeInto u e p.terms = .ok q.terms := by
  unfold merge
  split
  · rename_i hu
    have hu := NamedUnit.isUnitless_iff.1 hu
    simp [hu, eq_comm]
  · rename_i hu
    have hu : u ≠ .unitless := fun h => hu (NamedUnit.isUnitless_iff.2 h)
    obtain ⟨terms⟩ := q
    simp [hu]

theorem mem_bases_merge (h : p.merge u e = .ok q) :
    v ∈ bases q.terms ↔ v ∈ bases p.terms ∨ v = u ∧ u ≠ .unitless := by
  rcases merge_eq_ok_iff.1 h with ⟨hu, rfl⟩ | ⟨hu, hq⟩
  · simp [hu]
  · rw [bases_mergeInto hq]
    split
    · rename_i hmem
      refine ⟨Or.inl, ?_⟩
      rintro (hv | ⟨rfl, -⟩)
      · exact hv
      · exact hmem
    · simp [hu]

theorem merged_merge (hp : Merged p.terms) (h : p.merge u e = .ok q) : Merged q.terms := by
  refine ⟨?_, fun hq => ?_⟩
  · rcases merge_eq_ok_iff.1 h with ⟨-, rfl⟩ | ⟨-, hq⟩
    · exact hp.nodup
    · rw [bases_mergeInto hq]
      split
      · exact hp.nodup
      · rename_i hmem
        exact List.nodup_append.2 ⟨hp.nodup, List.nodup_singleton u, fun a ha b hb => by
          rintro rfl
          exact hmem (List.mem_singleton.1 hb ▸ ha)⟩
  · rcases (mem_bases_merge h).1 hq with hmem | ⟨rfl, hne⟩
    · exact hp.proper hmem
    · exact hne rfl

theorem length_le_merge (h : p.merge u e = .ok q) : p.terms.length ≤ q.terms.length := by
  rcases merge_eq_ok_iff.1 h with ⟨-, rfl⟩ | ⟨-, hq⟩
  · exact le_rfl
  · have hb := congrArg List.length (bases_mergeInto hq)
    unfold bases at hb
    split at hb <;> simp only [List.length_append, List.length_map] at hb <;> omega

theorem weigh_merge (hf : f .unitless = 1) {P : NamedUnit → Prop} {j : ℤ} (hj : j ≠ 0) (hu : P u)
    (he : Sided f j ⟨u, e⟩) (hp : ∀ t ∈ p.terms, P t.base → Sided f j t)
    (h : p.merge u e = .ok q) :
    weigh f q.terms = weigh f p.terms * f u ^ e.toInt ∧
      ∀ t ∈ q.terms, P t.base → Sided f j t := by
  rcases merge_eq_ok_iff.1 h with ⟨rfl, rfl⟩ | ⟨-, hq⟩
  · exact ⟨by rw [hf, one_zpow, mul_one], hp⟩
  · exact weigh_mergeInto hj hu he hp hq

/-- A power whose base is new is added at the end. -/
theorem merge_of_merged {t : Power} (h : Merged (p.terms ++ [t])) :
    p.merge t.base t.exponent = .ok ⟨p.terms ++ [t]⟩ := by
  have hb : bases (p.terms ++ [t]) = bases p.terms ++ [t.base] := List.map_append
  have hnew : t.base ∉ bases p.terms := fun hmem => by
    have hnodup := h.nodup
    rw [hb] at hnodup
    exact (List.nodup_append.1 hnodup).2.2 _ hmem _ (List.mem_singleton_self _) rfl
  have hne : t.base ≠ .unitless := fun hu => h.proper (by rw [hb, hu]; simp)
  exact merge_eq_ok_iff.2 (.inr ⟨hne, mergeInto_of_notMem hnew⟩)

end Merge

/-! ## Runs of merges -/

/-- What a product becomes when it absorbs a list of powers. -/
def gather (prepare : Power → Calc Power) (p : Product) (terms : List Power) : Calc Product :=
  completed (p.absorb prepare terms)

/-- Whether a preparation raises powers to a fixed exponent. -/
def Scales (prepare : Power → Calc Power) (k : ℤ) : Prop :=
  ∀ {t q : Power}, prepare t = .ok q → Raised k t q

theorem scales_pure : Scales pure 1 := by
  rintro t q ⟨⟩
  exact ⟨rfl, (mul_one _).symm⟩

theorem scales_negated : Scales Power.negated (-1) := by
  intro t q h
  obtain ⟨e, he, rfl⟩ := by simpa [Power.negated] using h
  have he : e.toInt = -t.exponent.toInt := Bounded.neg?_eq_some_iff.1 he
  exact ⟨rfl, by rw [he, mul_neg_one]⟩

section Gather

variable {prepare : Power → Calc Power} {k : ℤ} {terms : List Power} {p q : Product}

@[simp] theorem gather_nil : gather prepare p [] = .ok p := rfl

theorem gather_cons (t : Power) :
    gather prepare p (t :: terms) = (do
      let s ← prepare t
      let merged ← p.merge s.base s.exponent
      gather prepare merged terms) := by
  unfold gather
  rw [absorb]
  rcases prepare t with fault | s
  · rfl
  · have hbind : (Except.ok s >>= fun q : Power => p.merge q.base q.exponent) =
        p.merge s.base s.exponent := rfl
    rw [hbind]
    show _ = p.merge s.base s.exponent >>= fun merged => completed (merged.absorb prepare terms)
    rcases p.merge s.base s.exponent with fault | merged <;> rfl

theorem multiplyWith_eq (u : AnyUnit) : p.multiplyWith u = gather pure p u.powers := rfl

theorem divideBy_eq (u : AnyUnit) : p.divideBy u = gather Power.negated p u.powers := rfl

theorem ofPowers_eq : ofPowers terms = gather pure empty terms := by
  unfold ofPowers gather completed
  rfl

theorem gather_cons_eq_ok_iff {t : Power} :
    gather prepare p (t :: terms) = .ok q ↔
      ∃ s, prepare t = .ok s ∧
        ∃ merged, p.merge s.base s.exponent = .ok merged ∧
          gather prepare merged terms = .ok q := by
  rw [gather_cons]
  simp only [bind_eq_ok_iff]

theorem merged_gather (hp : Merged p.terms) (h : gather prepare p terms = .ok q) :
    Merged q.terms := by
  induction terms generalizing p with
  | nil =>
    obtain rfl := Except.ok.inj h
    exact hp
  | cons t terms ih =>
    obtain ⟨s, -, merged, hm, hq⟩ := gather_cons_eq_ok_iff.1 h
    exact ih (merged_merge hp hm) hq

theorem length_le_gather (h : gather prepare p terms = .ok q) :
    p.terms.length ≤ q.terms.length := by
  induction terms generalizing p with
  | nil =>
    obtain rfl := Except.ok.inj h
    exact le_rfl
  | cons t terms ih =>
    obtain ⟨s, -, merged, hm, hq⟩ := gather_cons_eq_ok_iff.1 h
    exact (length_le_merge hm).trans (ih hq)

theorem mem_bases_gather (hk : Scales prepare k) (h : gather prepare p terms = .ok q)
    {v : NamedUnit} :
    v ∈ bases q.terms ↔ v ∈ bases p.terms ∨ v ∈ bases terms ∧ v ≠ .unitless := by
  induction terms generalizing p with
  | nil =>
    obtain rfl := Except.ok.inj h
    simp [bases]
  | cons t terms ih =>
    obtain ⟨s, hs, merged, hm, hq⟩ := gather_cons_eq_ok_iff.1 h
    rw [ih hq, mem_bases_merge hm, (hk hs).base_eq]
    show _ ↔ v ∈ bases p.terms ∨ v ∈ t.base :: bases terms ∧ v ≠ .unitless
    rw [List.mem_cons]
    constructor
    · rintro ((hp | ⟨rfl, hne⟩) | ⟨hmem, hne⟩)
      · exact .inl hp
      · exact .inr ⟨.inl rfl, hne⟩
      · exact .inr ⟨.inr hmem, hne⟩
    · rintro (hp | ⟨rfl | hmem, hne⟩)
      · exact .inl (.inl hp)
      · exact .inl (.inr ⟨rfl, hne⟩)
      · exact .inr ⟨hmem, hne⟩

/-- Where the exponents of the bases that are absorbed add up, absorbing powers multiplies weights. -/
theorem weigh_gather_of_sided (hf : f .unitless = 1) (hk : Scales prepare k) {j : ℤ} (hj : j ≠ 0)
    (hp : ∀ t ∈ p.terms, t.base ∈ bases terms → Sided f j t)
    (hterms : ∀ t ∈ terms, Sided f (k * j) t) (h : gather prepare p terms = .ok q) :
    weigh f q.terms = weigh f p.terms * weigh f terms ^ k := by
  induction terms generalizing p with
  | nil =>
    obtain rfl := Except.ok.inj h
    rw [weigh_nil, one_zpow, mul_one]
  | cons t terms ih =>
    obtain ⟨ht, hterms⟩ := List.forall_mem_cons.1 hterms
    obtain ⟨s, hs, merged, hm, hq⟩ := gather_cons_eq_ok_iff.1 h
    have hraised := hk hs
    have hmem : s.base ∈ bases (t :: terms) := hraised.base_eq ▸ List.mem_cons_self
    obtain ⟨hweigh, hmerged⟩ := weigh_merge hf hj hmem (hraised.sided ht) hp hm
    rw [ih (fun x hx hb => hmerged x hx (List.mem_cons_of_mem _ hb)) hterms hq, hweigh,
      hraised.base_eq, hraised.exponent_eq, weigh_cons, mul_zpow, zpow_mul, mul_assoc]

theorem weigh_gather (hf : f .unitless = 1) (hs : ∀ u ∈ bases terms, Splits f u)
    (hk : Scales prepare k) (h : gather prepare p terms = .ok q) :
    weigh f q.terms = weigh f p.terms * weigh f terms ^ k :=
  weigh_gather_of_sided hf hk one_ne_zero (fun t _ hb => .inl (hs t.base hb))
    (fun t ht => .inl (hs t.base (mem_bases.2 ⟨t, ht, rfl⟩))) h

/-- The product of powers weighs what they do. -/
theorem weigh_gather_empty (hf : f .unitless = 1) {j : ℤ} (hj : j ≠ 0)
    (hterms : ∀ t ∈ terms, Sided f j t) (h : gather pure empty terms = .ok q) :
    weigh f q.terms = weigh f terms := by
  have hsided : ∀ t ∈ terms, Sided f (1 * j) t := by rwa [one_mul]
  rw [weigh_gather_of_sided hf scales_pure hj (List.forall_mem_nil _) hsided h, zpow_one]
  exact one_mul _

/-- Exponents that are on one side stay there. -/
theorem sided_gather (hf : f .unitless = 1) (hk : Scales prepare k) {j : ℤ} (hj : j ≠ 0)
    (hp : ∀ t ∈ p.terms, Sided f j t) (hterms : ∀ t ∈ terms, Sided f (k * j) t)
    (h : gather prepare p terms = .ok q) : ∀ t ∈ q.terms, Sided f j t := by
  induction terms generalizing p with
  | nil =>
    obtain rfl := Except.ok.inj h
    exact hp
  | cons t terms ih =>
    obtain ⟨ht, hterms⟩ := List.forall_mem_cons.1 hterms
    obtain ⟨s, hs, merged, hm, hq⟩ := gather_cons_eq_ok_iff.1 h
    obtain ⟨-, hmerged⟩ := weigh_merge (P := fun _ => True) hf hj trivial ((hk hs).sided ht)
      (fun x hx _ => hp x hx) hm
    exact ih (fun x hx => hmerged x hx trivial) hterms hq

/-- Powers that are merged already are put one behind the other. -/
theorem gather_pure (h : Merged (p.terms ++ terms)) :
    gather pure p terms = .ok ⟨p.terms ++ terms⟩ := by
  induction terms generalizing p with
  | nil => rw [List.append_nil, gather_nil]
  | cons t terms ih =>
    have hsplit : p.terms ++ t :: terms = (p.terms ++ [t]) ++ terms := List.append_cons ..
    rw [hsplit] at h ⊢
    have hfirst : Merged (p.terms ++ [t]) := by
      refine ⟨h.nodup.sublist ((List.sublist_append_left _ _).map base), fun hu => h.proper ?_⟩
      unfold bases
      rw [List.map_append]
      exact List.mem_append_left _ hu
    refine gather_cons_eq_ok_iff.2 ⟨t, rfl, _, merge_of_merged hfirst, ih h⟩

theorem ofPowers_of_merged (h : Merged terms) : ofPowers terms = .ok ⟨terms⟩ := by
  rw [ofPowers_eq]
  exact gather_pure h

end Gather

end Product

end Metrology
