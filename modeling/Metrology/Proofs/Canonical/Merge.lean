import Mathlib.Data.List.Forall2
import Metrology.Proofs.Product.Merge

/-!
# Canonical products as lists of terms

A canonical product and a product of any length merge alike: on the slots in use, `multiplyWith` is
`Product.merge` with room for sixteen bases (`merge_of_multiplyWith`, `multiplyWith_of_merge`). The
algebra of canonical products is thereby a matter of lists: a product or a quotient gathers the
terms of both operands (`multiply_eq_ok_iff`, `divide_eq_ok_iff`), a power or a root maps them
(`pow_eq_ok_iff`, `root_eq_ok_iff`), and all four keep the terms that are factors.
-/

namespace Metrology

open Power

namespace Canonical

variable {c d : Canonical} {u : NamedUnit} {e : Int32}

/-! ## Slots -/

theorem length_terms_le (c : Canonical) : c.terms.length ≤ slotCount := by
  rw [length_terms]
  exact c.live_le

theorem terms_put (i : ℕ) (p : Power) :
    ({ c with slots := c.put i p } : Canonical).terms = c.terms.set i p := by
  show (c.slots.setIfInBounds i p).toList.take c.live = (c.slots.toList.take c.live).set i p
  rw [Vector.toList_setIfInBounds, List.take_set]

theorem terms_append (h : c.live + 1 ≤ slotCount) (p : Power) :
    (⟨c.put c.live p, c.live + 1, h⟩ : Canonical).terms = c.terms ++ [p] := by
  have hlen : c.live < c.slots.toList.length := by
    rw [Vector.length_toList]
    exact h
  show (c.slots.setIfInBounds c.live p).toList.take (c.live + 1) =
    c.slots.toList.take c.live ++ [p]
  rw [Vector.toList_setIfInBounds, List.take_add_one, List.take_set_of_le le_rfl,
    List.getElem?_set_self hlen]
  rfl

theorem simplify_ofTerms {terms : List Power} (h : terms.length ≤ slotCount) :
    (ofTerms terms).simplify = ofTerms (terms.filter isLive) := by
  rw [simplify, terms_ofTerms h]

/-! ## One merge -/

/-- Where a base stands in a list of terms, with the exponent it has there. -/
def locate (u : NamedUnit) (terms : List Power) : Option (ℕ × Int32) :=
  (terms.zipIdx.find? fun (term, _) => term.base.sameAs u).map fun (term, i) => (i, term.exponent)

theorem locate_cons (u : NamedUnit) (t : Power) (terms : List Power) :
    locate u (t :: terms) =
      if t.base = u then some (0, t.exponent)
      else (locate u terms).map fun (i, x) => (i + 1, x) := by
  unfold locate
  rw [List.zipIdx_cons, List.find?_cons]
  dsimp only
  by_cases ht : t.base = u
  · rw [if_pos ht, NamedUnit.sameAs_iff.2 ht]
    rfl
  · rw [if_neg ht, Bool.eq_false_iff.2 (mt NamedUnit.sameAs_iff.1 ht), List.zipIdx_succ,
      List.find?_map, Option.map_map, Option.map_map]
    rfl

/-- Merging into a list looks the base up and writes at its place. -/
theorem mergeInto_eq (u : NamedUnit) (e : Int32) (terms : List Power) :
    Product.mergeInto u e terms =
      match locate u terms with
      | some (i, present) => do
          let sum ← orFault (Bounded.add? present e) (.exponentOverflow u)
          return terms.set i ⟨u, sum⟩
      | none => .ok (terms ++ [⟨u, e⟩]) := by
  induction terms with
  | nil => rfl
  | cons t terms ih =>
    rw [locate_cons, Product.mergeInto]
    by_cases ht : t.base = u
    · rw [if_pos ht, if_pos ht]
      rfl
    · rw [if_neg ht, if_neg ht, ih]
      rcases locate u terms with _ | ⟨i, x⟩
      · rfl
      · dsimp only [Option.map]
        rcases Bounded.add? x e with _ | sum <;> rfl

/-- What a canonical product merges, a product of any length merges alike. -/
theorem merge_of_multiplyWith (h : c.multiplyWith u e = .ok d) :
    Product.merge ⟨c.terms⟩ u e = .ok ⟨d.terms⟩ := by
  unfold multiplyWith at h
  rw [Product.merge_eq_ok_iff]
  split at h
  · rename_i hu
    obtain rfl := Except.ok.inj h
    exact .inl ⟨NamedUnit.isUnitless_iff.1 hu, rfl⟩
  rename_i hu
  refine .inr ⟨fun h0 => hu (NamedUnit.isUnitless_iff.2 h0), ?_⟩
  rw [mergeInto_eq]
  split at h
  · rename_i i present hfind
    have hfind : locate u c.terms = some (i, present) := hfind
    obtain ⟨sum, hsum, rfl⟩ := by simpa using h
    rw [hfind, terms_put]
    show (do
      let sum ← orFault (Bounded.add? present e) (.exponentOverflow u)
      return c.terms.set i ⟨u, sum⟩) = _
    rw [hsum]
    rfl
  · rename_i hfind
    have hfind : locate u c.terms = none := hfind
    split at h
    · cases h
    · obtain rfl := Except.ok.inj h
      rw [hfind, terms_append]

/-- What a product of any length merges, a canonical product merges alike as long as there is a slot
for every base. -/
theorem multiplyWith_of_merge {q : Product} (h : Product.merge ⟨c.terms⟩ u e = .ok q)
    (hq : q.terms.length ≤ slotCount) :
    ∃ d, c.multiplyWith u e = .ok d ∧ d.terms = q.terms := by
  unfold multiplyWith
  rcases Product.merge_eq_ok_iff.1 h with ⟨rfl, rfl⟩ | ⟨hu, hm⟩
  · rw [if_pos (NamedUnit.isUnitless_iff.2 rfl)]
    exact ⟨c, rfl, rfl⟩
  rw [if_neg (mt NamedUnit.isUnitless_iff.1 hu)]
  rw [mergeInto_eq] at hm
  show ∃ d, (match locate u c.terms with
    | some (i, present) => _
    | none => _) = Except.ok d ∧ _
  rcases hfind : locate u c.terms with _ | ⟨i, present⟩
  · rw [hfind] at hm
    have hm : c.terms ++ [⟨u, e⟩] = q.terms := Except.ok.inj hm
    have hlen : c.live + 1 ≤ slotCount := by
      rw [← hm, List.length_append, length_terms] at hq
      exact hq
    rw [dif_neg (by omega)]
    exact ⟨_, rfl, (terms_append hlen _).trans hm⟩
  · rw [hfind] at hm
    obtain ⟨sum, hsum, hm⟩ := by simpa using hm
    refine ⟨{ c with slots := c.put i ⟨u, sum⟩ }, ?_, (terms_put ..).trans hm⟩
    show (do
      let sum ← orFault (Bounded.add? present e) (.overflow .addition)
      return { c with slots := c.put i ⟨u, sum⟩ }) = _
    rw [hsum]
    rfl

/-! ## Runs of merges -/

section Runs

variable {σ δ : Power → Calc Power} {terms : List Power} {q : Product}

/-- The product that absorbs powers one after another, each prepared by `σ`. -/
def gather (σ : Power → Calc Power) (c : Canonical) (terms : List Power) : Calc Canonical :=
  terms.foldlM (fun c t => do
    let s ← σ t
    c.multiplyWith s.base s.exponent) c

theorem gather_cons_eq_ok_iff {t : Power} :
    gather σ c (t :: terms) = .ok d ↔
      ∃ s, σ t = .ok s ∧
        ∃ m, c.multiplyWith s.base s.exponent = .ok m ∧ gather σ m terms = .ok d := by
  unfold gather
  rw [List.foldlM_cons]
  simp only [bind_eq_ok_iff]
  constructor
  · rintro ⟨m, ⟨s, hs, hm⟩, hd⟩
    exact ⟨s, hs, m, hm, hd⟩
  · rintro ⟨s, hs, m, hm, hd⟩
    exact ⟨m, ⟨s, hs, hm⟩, hd⟩

theorem product_gather_of_gather (hσδ : ∀ {t s}, σ t = .ok s ↔ δ t = .ok s)
    (h : gather σ c terms = .ok d) : Product.gather δ ⟨c.terms⟩ terms = .ok ⟨d.terms⟩ := by
  induction terms generalizing c with
  | nil =>
    obtain rfl := Except.ok.inj h
    rfl
  | cons t terms ih =>
    obtain ⟨s, hs, m, hm, hd⟩ := gather_cons_eq_ok_iff.1 h
    exact Product.gather_cons_eq_ok_iff.2 ⟨s, hσδ.1 hs, _, merge_of_multiplyWith hm, ih hd⟩

theorem gather_of_product_gather (hσδ : ∀ {t s}, σ t = .ok s ↔ δ t = .ok s)
    (h : Product.gather δ ⟨c.terms⟩ terms = .ok q) (hq : q.terms.length ≤ slotCount) :
    ∃ d, gather σ c terms = .ok d ∧ d.terms = q.terms := by
  induction terms generalizing c with
  | nil =>
    obtain rfl := Except.ok.inj h
    exact ⟨c, rfl, rfl⟩
  | cons t terms ih =>
    obtain ⟨s, hs, merged, hm, hd⟩ := Product.gather_cons_eq_ok_iff.1 h
    -- A run never loses a base, so there was a slot for every base all along.
    obtain ⟨m, hcm, hterms⟩ :=
      multiplyWith_of_merge hm ((Product.length_le_gather hd).trans hq)
    obtain ⟨d, hmd, hdq⟩ := ih (c := m) (by rw [hterms]; exact hd)
    exact ⟨d, gather_cons_eq_ok_iff.2 ⟨s, hσδ.2 hs, m, hcm, hmd⟩, hdq⟩

/-- A run that keeps the factors in the end is a run of merges that needs no more than the slots. -/
theorem gather_simplify_eq_ok_iff (hσδ : ∀ {t s}, σ t = .ok s ↔ δ t = .ok s) :
    (do return (← gather σ c terms).simplify) = Except.ok d ↔
      ∃ q, Product.gather δ ⟨c.terms⟩ terms = .ok q ∧ q.terms.length ≤ slotCount ∧
        d = ofTerms (q.terms.filter isLive) := by
  simp only [bind_eq_ok_iff, pure_eq_ok_iff]
  constructor
  · rintro ⟨m, hm, rfl⟩
    exact ⟨_, product_gather_of_gather hσδ hm, m.length_terms_le, rfl⟩
  · rintro ⟨q, hq, hlen, rfl⟩
    obtain ⟨m, hm, hmq⟩ := gather_of_product_gather hσδ hq hlen
    refine ⟨m, hm, ?_⟩
    rw [simplify, hmq]

end Runs

/-! ## Algebra -/

/-- A power with its exponent negated, as a canonical product negates it. -/
def negated (p : Power) : Calc Power := do
  let exponent ← orFault (Bounded.neg? p.exponent) (.overflow .negation)
  return { p with exponent }

theorem negated_eq_ok_iff {p q : Power} : negated p = .ok q ↔ p.negated = .ok q := by
  simp [negated, Power.negated]

theorem multiply_eq_ok_iff {a b : Canonical} :
    a.multiply b = .ok c ↔
      ∃ q, Product.gather pure ⟨a.terms⟩ b.terms = .ok q ∧ q.terms.length ≤ slotCount ∧
        c = ofTerms (q.terms.filter isLive) := by
  show (do return (← gather pure a b.terms).simplify) = Except.ok c ↔ _
  exact gather_simplify_eq_ok_iff Iff.rfl

theorem divide_eq_ok_iff {a b : Canonical} :
    a.divide b = .ok c ↔
      ∃ q, Product.gather Power.negated ⟨a.terms⟩ b.terms = .ok q ∧
        q.terms.length ≤ slotCount ∧ c = ofTerms (q.terms.filter isLive) := by
  have hstep : (fun (c : Canonical) (t : Power) => c.divideBy t.base t.exponent) =
      fun (c : Canonical) (t : Power) => (do
        let s ← negated t
        c.multiplyWith s.base s.exponent : Calc Canonical) := by
    funext c t
    unfold divideBy negated
    rcases Bounded.neg? t.exponent with _ | e <;> rfl
  unfold divide
  rw [hstep]
  exact gather_simplify_eq_ok_iff negated_eq_ok_iff

theorem raise_eq_ok_iff {n : Int32} {p q : Power} : raise n p = .ok q ↔ Raised n.toInt p q := by
  obtain ⟨u, e⟩ := q
  unfold raise
  simp only [bind_eq_ok_iff, orFault_eq_ok_iff, pure_eq_ok_iff, Bounded.mul?_eq_some_iff]
  constructor
  · rintro ⟨x, hx, h⟩
    obtain ⟨rfl, rfl⟩ := Power.mk.inj h
    exact ⟨rfl, hx⟩
  · rintro ⟨rfl, he⟩
    exact ⟨e, he, rfl⟩

theorem pow_eq_ok_iff {n : Int32} :
    c.pow n = .ok d ↔
      ∃ terms, List.Forall₂ (Raised n.toInt) c.terms terms ∧
        d = ofTerms (terms.filter isLive) := by
  unfold pow
  simp only [bind_eq_ok_iff, pure_eq_ok_iff, mapM_eq_ok_iff, raise_eq_ok_iff]
  exact exists_congr fun terms => and_congr_right fun h => by
    rw [simplify_ofTerms (h.length_eq ▸ c.length_terms_le), eq_comm]

theorem extract_eq_ok_iff {n : Int32} (hn : n ≠ 0) {p q : Power} :
    extract n p = .ok q ↔ Raised n.toInt q p := by
  have hn0 : Bounded.toInt n ≠ 0 := fun h => hn (Int32.toInt_inj.1 h)
  obtain ⟨u, e⟩ := q
  have hexact := Bounded.exactQuotient_iff (a := p.exponent) (c := e) (z := 0) rfl hn0
  constructor
  · intro h
    unfold extract at h
    obtain ⟨rest, hrest, h⟩ := bind_eq_ok_iff.1 h
    split at h
    · cases h
    rename_i hzero
    obtain rfl : rest = 0 := by simpa using hzero
    simp only [bind_eq_ok_iff, orFault_eq_ok_iff, pure_eq_ok_iff] at h hrest
    obtain ⟨x, hx, h⟩ := h
    obtain ⟨rfl, rfl⟩ := Power.mk.inj h
    exact ⟨rfl, hexact.1 ⟨hrest, hx⟩⟩
  · rintro ⟨rfl, he⟩
    obtain ⟨hrest, hquotient⟩ := hexact.2 he
    unfold extract
    rw [hrest, hquotient]
    rfl

theorem root_eq_ok_iff {n : Int32} (hn : n ≠ 0) :
    c.root n = .ok d ↔
      ∃ terms, List.Forall₂ (Raised n.toInt) terms c.terms ∧
        d = ofTerms (terms.filter isLive) := by
  unfold root
  rw [if_neg hn]
  simp only [bind_eq_ok_iff, pure_eq_ok_iff, mapM_eq_ok_iff, extract_eq_ok_iff hn]
  constructor
  · rintro ⟨terms, h, rfl⟩
    rw [simplify_ofTerms (h.length_eq ▸ c.length_terms_le)]
    exact ⟨terms, h.flip, rfl⟩
  · rintro ⟨terms, h, rfl⟩
    exact ⟨terms, h.flip, simplify_ofTerms (h.length_eq ▸ c.length_terms_le)⟩

end Canonical

end Metrology
