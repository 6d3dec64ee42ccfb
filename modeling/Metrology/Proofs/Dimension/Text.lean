import Metrology.Proofs.Text.Factor

/-!
# Reading the text of a dimension

A dimension is written as its factors of non-zero exponent. Their symbols are distinct and hold
neither a blank nor a caret, so the text tells which factors are written (`written_of_text_eq`), and
these tell the exponents of all seven base units, since a base unit that is not written has the
exponent zero (`eq_of_filter_eq`).
-/

namespace Metrology.Dimension

variable {a b d : Dimension}

/-! ## Factors that are written -/

/-- The symbols of the base units, in the order in which they are written. -/
def symbols : List String := ["kg", "m", "s", "A", "K", "mol", "cd"]

/-- The factors that are written. -/
def written (d : Dimension) : List (String × Int32) :=
  d.factors.filter fun factor => factor.2 != 0

theorem map_fst_factors (d : Dimension) : d.factors.map Prod.fst = symbols := rfl

theorem nodup_symbols : symbols.Nodup := by decide

theorem isSymbol_of_mem {symbol : String} (h : symbol ∈ symbols) : IsSymbol symbol := by
  have hall : ∀ s ∈ symbols, ' ' ∉ s.toList ∧ s ≠ "1" ∧ '^' ∉ s.toList := by decide
  obtain ⟨hblank, hone, hcaret⟩ := hall symbol h
  exact ⟨⟨hblank, hone⟩, hcaret⟩

theorem factors_inj (h : a.factors = b.factors) : a = b := by
  obtain ⟨_, _, _, _, _, _, _⟩ := a
  obtain ⟨_, _, _, _, _, _, _⟩ := b
  simp only [factors, List.cons.injEq, Prod.mk.injEq] at h
  grind

/-- Without factors to write there is no dimension. -/
theorem written_eq_nil_iff : d.written = [] ↔ d.isDimensionless = true := by
  rw [isDimensionless_iff]
  constructor
  · intro h
    have hzero : ∀ factor ∈ d.factors, factor.2 = 0 := by simpa [written] using h
    refine factors_inj ?_
    simp only [factors, List.forall_mem_cons] at hzero
    obtain ⟨hmass, hlength, htime, hcurrent, htemperature, hamount, hintensity, -⟩ := hzero
    simp only [factors, hmass, hlength, htime, hcurrent, htemperature, hamount, hintensity]
    rfl
  · rintro rfl
    rfl

theorem text_eq (d : Dimension) : d.text = partsText " " (d.written.map factorText) := by
  unfold text partsText
  by_cases h : d.isDimensionless = true
  · rw [if_pos h, if_pos (List.map_eq_nil_iff.2 (written_eq_nil_iff.2 h))]
  · rw [if_neg h, if_neg (mt List.map_eq_nil_iff.1 (mt written_eq_nil_iff.1 h))]
    rfl

/-! ## Reading -/

theorem isSymbol_of_written {factor : String × Int32} (h : factor ∈ d.written) :
    IsSymbol factor.1 := by
  have hmem := List.mem_map_of_mem (f := Prod.fst) (List.mem_filter.1 h).1
  rw [map_fst_factors] at hmem
  exact isSymbol_of_mem hmem

theorem map_factorText_inj {xs ys : List (String × Int32)} (hxs : ∀ x ∈ xs, IsSymbol x.1)
    (hys : ∀ y ∈ ys, IsSymbol y.1) (h : xs.map factorText = ys.map factorText) : xs = ys := by
  induction xs generalizing ys with
  | nil => exact (List.map_eq_nil_iff.1 h.symm).symm
  | cons x xs ih =>
    obtain ⟨y, ys, rfl, htext, hrest⟩ := List.map_eq_cons_iff.1 h.symm
    obtain ⟨hx, hxs⟩ := List.forall_mem_cons.1 hxs
    obtain ⟨hy, hys⟩ := List.forall_mem_cons.1 hys
    obtain ⟨hsymbol, hexponent⟩ := factorText_inj hx hy htext.symm
    rw [ih hxs hys hrest.symm, Prod.ext hsymbol hexponent]

/-- The text of a dimension tells the factors that are written. -/
theorem written_of_text_eq (h : a.text = b.text) : a.written = b.written := by
  rw [text_eq, text_eq] at h
  have hpart : ∀ {d : Dimension}, ∀ part ∈ d.written.map factorText, IsPart part := by
    intro d part hmem
    obtain ⟨factor, hfactor, rfl⟩ := List.mem_map.1 hmem
    exact isPart_factorText (isSymbol_of_written hfactor) factor.2
  have hsep : " ".toList = [' '] := by decide
  exact map_factorText_inj (fun _ => isSymbol_of_written) (fun _ => isSymbol_of_written)
    (partsText_inj hsep hpart hpart h)

/-- Exponents of the same distinct symbols are told by those that are not zero. -/
theorem eq_of_filter_eq {xs ys : List (String × Int32)} (hkeys : xs.map Prod.fst = ys.map Prod.fst)
    (hnodup : (xs.map Prod.fst).Nodup)
    (h : xs.filter (fun x => x.2 != 0) = ys.filter fun y => y.2 != 0) : xs = ys := by
  induction xs generalizing ys with
  | nil => exact (List.map_eq_nil_iff.1 hkeys.symm).symm
  | cons x xs ih =>
    obtain ⟨y, ys, rfl, hkey, hrest⟩ := List.map_eq_cons_iff.1 hkeys.symm
    obtain ⟨hnew, hnodup⟩ := List.nodup_cons.1 hnodup
    have hnew' : y.1 ∉ ys.map Prod.fst := hkey ▸ hrest ▸ hnew
    -- A symbol that one side writes and the other does not would stand further down as well.
    have hhead : ∀ {z : String × Int32} {zs : List (String × Int32)}, z.1 ∉ zs.map Prod.fst →
        z ∉ zs.filter fun z => z.2 != 0 :=
      fun hz hmem => hz (List.mem_map_of_mem (List.mem_filter.1 hmem).1)
    rw [List.filter_cons, List.filter_cons] at h
    by_cases hx : x.2 = 0 <;> by_cases hy : y.2 = 0
    · rw [if_neg (by simpa using hx), if_neg (by simpa using hy)] at h
      rw [ih hrest.symm hnodup h, Prod.ext hkey.symm (hx.trans hy.symm)]
    · rw [if_neg (by simpa using hx), if_pos (by simpa using hy)] at h
      exact absurd (h ▸ List.mem_cons_self) (hhead (hkey ▸ hnew : y.1 ∉ xs.map Prod.fst))
    · rw [if_pos (by simpa using hx), if_neg (by simpa using hy)] at h
      exact absurd (h ▸ List.mem_cons_self) (hhead (hkey ▸ hnew' : x.1 ∉ ys.map Prod.fst))
    · rw [if_pos (by simpa using hx), if_pos (by simpa using hy)] at h
      obtain ⟨rfl, hrest'⟩ := List.cons.inj h
      rw [ih hrest.symm hnodup hrest']

/-- Dimensions are written alike only when they are the same. -/
theorem text_eq_iff (a b : Dimension) : a.text = b.text ↔ a = b := by
  constructor
  · intro h
    have hkeys : a.factors.map Prod.fst = b.factors.map Prod.fst := rfl
    exact factors_inj (eq_of_filter_eq hkeys nodup_symbols (written_of_text_eq h))
  · rintro rfl
    rfl

end Metrology.Dimension
