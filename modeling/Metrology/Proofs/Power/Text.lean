import Metrology.Proofs.Power.Weight
import Metrology.Proofs.Text.Factor

/-!
# Reading the text of a product

The text of a product tells its terms apart as long as the texts of the bases leave room for it: a
base must not look like a pure number, hold the caret of an exponent or the blank between two terms
(`Legible`). Then equal texts stand for the same terms, up to what is not written of the bases
(`sameText_of_listText_eq`).
-/

namespace Metrology

/-! ## Terms -/

/-- Whether the text of a base is told apart from the signs around it. -/
structure NamedUnit.Legible (b : NamedUnit) : Prop where
  noBlank : ' ' ∉ b.text.toList
  noCaret : '^' ∉ b.text.toList
  ne_one : b.text ≠ "1"

instance (b : NamedUnit) : Decidable b.Legible :=
  decidable_of_iff (' ' ∉ b.text.toList ∧ '^' ∉ b.text.toList ∧ b.text ≠ "1")
    ⟨fun ⟨h, h', h''⟩ => ⟨h, h', h''⟩, fun ⟨h, h', h''⟩ => ⟨h, h', h''⟩⟩

theorem NamedUnit.Legible.isSymbol {b : NamedUnit} (h : b.Legible) : IsSymbol b.text :=
  ⟨⟨h.noBlank, h.ne_one⟩, h.noCaret⟩

namespace Power

variable {s t : Power} {terms others : List Power}

/-- A power is written as a factor with the text of its base. -/
theorem text_eq (t : Power) : t.text = Dimension.factorText (t.base.text, t.exponent) := rfl

/-- Whether two powers have one exponent, and bases of one text. -/
structure SameText (s t : Power) : Prop where
  base : s.base.text = t.base.text
  exponent : s.exponent = t.exponent

theorem sameText_of_text_eq (hs : s.base.Legible) (ht : t.base.Legible) (h : s.text = t.text) :
    SameText s t := by
  rw [text_eq, text_eq] at h
  obtain ⟨hbase, hexponent⟩ := Dimension.factorText_inj hs.isSymbol ht.isSymbol h
  exact ⟨hbase, hexponent⟩

theorem sameText_of_map_text_eq (hterms : ∀ b ∈ bases terms, b.Legible)
    (hothers : ∀ b ∈ bases others, b.Legible) (h : terms.map text = others.map text) :
    List.Forall₂ SameText terms others := by
  induction terms generalizing others with
  | nil =>
    rw [List.map_eq_nil_iff.1 h.symm]
    exact .nil
  | cons s terms ih =>
    obtain ⟨t, others, rfl, htext, hrest⟩ := List.map_eq_cons_iff.1 h.symm
    obtain ⟨hs, hterms⟩ := List.forall_mem_cons.1 hterms
    obtain ⟨ht, hothers⟩ := List.forall_mem_cons.1 hothers
    exact .cons (sameText_of_text_eq hs ht htext.symm) (ih hterms hothers hrest.symm)

/-! ## Lists of terms -/

theorem listText_eq (terms : List Power) : listText terms = partsText " * " (terms.map text) := by
  cases terms <;> rfl

theorem isPart_of_mem (hterms : ∀ b ∈ bases terms, b.Legible) :
    ∀ x ∈ terms.map text, IsPart x := by
  intro x hx
  obtain ⟨t, ht, rfl⟩ := List.mem_map.1 hx
  exact Dimension.isPart_factorText (hterms t.base (mem_bases.2 ⟨t, ht, rfl⟩)).isSymbol _

/-- Products of legible bases that have one text have terms of one text. -/
theorem sameText_of_listText_eq (hterms : ∀ b ∈ bases terms, b.Legible)
    (hothers : ∀ b ∈ bases others, b.Legible) (h : listText terms = listText others) :
    List.Forall₂ SameText terms others := by
  rw [listText_eq, listText_eq] at h
  have hsep : " * ".toList = [' ', '*', ' '] := by decide
  have hmap := partsText_inj hsep (isPart_of_mem hterms) (isPart_of_mem hothers) h
  exact sameText_of_map_text_eq hterms hothers hmap

end Power

end Metrology
