import Metrology.Proofs.Canonical.Merge

/-!
# Which bases and which products are the same

Two comparisons stand side by side: `sameAs` goes through bytes, exponents, components and slots one
after another, `==` compares whole values. They agree on named units and on canonical products
(`comparisons_agree`), and of a canonical product they see the slots in use only, whatever the
others hold (`sameAs_refill`). So a canonical product, which looks a base up with the one, finds the
term that a product of any length, which compares with the other, merges into.
-/

namespace Metrology

/-! ## Named units -/

theorem NamedUnit.beq_iff_fields {u v : NamedUnit} :
    (u == v) = true ↔ u.prefixSymbol = v.prefixSymbol ∧ u.symbol = v.symbol ∧
      u.dimension = v.dimension ∧ u.magnitude = v.magnitude ∧ u.origin = v.origin := by
  obtain ⟨_, _, _, _, _⟩ := u
  obtain ⟨_, _, _, _, _⟩ := v
  rw [beq_iff_eq, NamedUnit.mk.injEq]

theorem NamedUnit.sameAs_iff_beq {u v : NamedUnit} : u.sameAs v = true ↔ (u == v) = true := by
  rw [sameAs_iff, beq_iff_eq]

/-! ## Canonical products -/

namespace Canonical

variable {c d : Canonical}

theorem sameAs_iff_terms : c.sameAs d = true ↔ c.terms = d.terms := by
  have hterm : ∀ s t : Power,
      (s.exponent == t.exponent && s.base.sameAs t.base) = true ↔ s = t := by
    rintro ⟨u, e⟩ ⟨v, f⟩
    rw [Bool.and_eq_true, beq_iff_eq, NamedUnit.sameAs_iff, Power.mk.injEq, and_comm]
  unfold sameAs
  rw [Bool.and_eq_true, beq_iff_eq]
  constructor
  · rintro ⟨hlive, hall⟩
    rw [← length_terms c, ← length_terms d] at hlive
    exact (all_zip_iff hterm hlive).1 hall
  · intro h
    have hlive : c.live = d.live := by rw [← length_terms c, h, length_terms d]
    exact ⟨hlive, (all_zip_iff hterm (congrArg List.length h)).2 h⟩

theorem beq_iff_terms : (c == d) = true ↔ c.terms = d.terms := by
  show (c.terms == d.terms) = true ↔ _
  exact beq_iff_eq

/-- Equal terms are equal slots, as far as these are in use. -/
theorem terms_eq_iff :
    c.terms = d.terms ↔
      c.live = d.live ∧ ∀ i (h : i < slotCount), i < c.live → c.slots[i] = d.slots[i] := by
  have hterm : ∀ {c : Canonical} {i : ℕ} (hi : i < c.terms.length) (h : i < slotCount),
      c.terms[i] = c.slots[i] := by
    intro c i hi h
    simp [terms]
  constructor
  · intro h
    have hlive : c.live = d.live := by rw [← length_terms c, h, length_terms d]
    refine ⟨hlive, fun i hi hc => ?_⟩
    have hcterm : i < c.terms.length := by rwa [length_terms]
    rw [← hterm hcterm hi, ← hterm (h ▸ hcterm) hi]
    simp only [h]
  · rintro ⟨hlive, hslots⟩
    refine List.ext_getElem (by rw [length_terms, length_terms, hlive]) fun i hc hd => ?_
    have hlive : i < c.live := by rwa [length_terms] at hc
    have hi : i < slotCount := Nat.lt_of_lt_of_le hlive c.live_le
    rw [hterm hc hi, hterm hd hi, hslots i hi hlive]

/-- The product with other powers in the slots that are not in use. -/
def refill (c : Canonical) (filler : Vector Power slotCount) : Canonical :=
  { c with slots := Vector.ofFn fun i => if i < c.live then c.slots[i] else filler[i] }

theorem live_refill (c : Canonical) (filler : Vector Power slotCount) :
    (c.refill filler).live = c.live := by
  rw [refill]

theorem slots_refill (filler : Vector Power slotCount) {i : ℕ} (hi : i < slotCount)
    (h : i < c.live) : (c.refill filler).slots[i] = c.slots[i] := by
  rw [refill, Vector.getElem_ofFn]
  exact if_pos h

theorem terms_refill (c : Canonical) (filler : Vector Power slotCount) :
    (c.refill filler).terms = c.terms := by
  have hlive := live_refill c filler
  exact terms_eq_iff.2 ⟨hlive, fun i hi h => slots_refill filler hi (hlive ▸ h)⟩

theorem sameAs_refill (c d : Canonical) (filler other : Vector Power slotCount) :
    (c.refill filler).sameAs (d.refill other) = c.sameAs d := by
  rw [Bool.eq_iff_iff, sameAs_iff_terms, sameAs_iff_terms, terms_refill, terms_refill]

/-- A base is looked up at the first place where an equal base stands. -/
theorem map_find? (c : Canonical) (u : NamedUnit) :
    (c.find? u).map Prod.fst = c.terms.findIdx? fun term => term.base = u := by
  show (locate u c.terms).map Prod.fst = _
  generalize c.terms = terms
  induction terms with
  | nil => rfl
  | cons t terms ih =>
    rw [locate_cons, List.findIdx?_cons]
    by_cases ht : t.base = u
    · simp [ht]
    · simp [ht, ← ih, Function.comp_def]

end Canonical

/-- Comparing piece by piece is equality: of named units in all five fields, and of canonical
products in the slots in use. A canonical product that looks a base up finds the term into which a
product of any length merges it. -/
theorem comparisons_agree :
    (∀ u v : NamedUnit,
      (u.sameAs v = true ↔ (u == v) = true) ∧
      ((u == v) = true ↔ u.prefixSymbol = v.prefixSymbol ∧ u.symbol = v.symbol ∧
        u.dimension = v.dimension ∧ u.magnitude = v.magnitude ∧ u.origin = v.origin)) ∧
    (∀ c d : Canonical,
      (c.sameAs d = true ↔ (c == d) = true) ∧
      ((c == d) = true ↔ c.terms = d.terms) ∧
      (c.terms = d.terms ↔
        c.live = d.live ∧ ∀ i (h : i < slotCount), i < c.live → c.slots[i] = d.slots[i]) ∧
      ∀ filler other : Vector Power slotCount,
        (c.refill filler).sameAs (d.refill other) = c.sameAs d) ∧
    ∀ (c : Canonical) (u : NamedUnit),
      (c.find? u).map Prod.fst = c.terms.findIdx? fun term => term.base = u := by
  refine ⟨fun u v => ⟨NamedUnit.sameAs_iff_beq, NamedUnit.beq_iff_fields⟩, fun c d => ?_,
    Canonical.map_find?⟩
  refine ⟨?_, Canonical.beq_iff_terms, Canonical.terms_eq_iff, Canonical.sameAs_refill c d⟩
  rw [Canonical.sameAs_iff_terms, Canonical.beq_iff_terms]

end Metrology
