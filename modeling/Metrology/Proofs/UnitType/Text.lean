import Metrology.Proofs.Conversion.Difference
import Metrology.Proofs.Power.Text

/-!
# What the name of a unit type tells

Unit types of one name have terms of the same texts where their bases are legible. If bases of one
text measure the same in both (`Unambiguous`), the types have one dimension and one magnitude, and one
origin when both are absolute or both are relative (`isEqual_of_name_eq`).
-/

namespace Metrology

open Power

/-- Whether the bases of two lists of powers are legible, and bases of one text are the same up to
having an origin or not. -/
structure Power.Unambiguous (terms others : List Power) : Prop where
  legible : ∀ b ∈ bases terms, b.Legible
  legible_others : ∀ b ∈ bases others, b.Legible
  same : ∀ b ∈ bases terms, ∀ b' ∈ bases others, b.text = b'.text →
    b.dimension = b'.dimension ∧ b.magnitude = b'.magnitude ∧
      (b.origin ≠ none → b'.origin ≠ none → b.origin = b'.origin)

instance (terms others : List Power) : Decidable (Unambiguous terms others) :=
  decidable_of_iff ((∀ b ∈ bases terms, b.Legible) ∧ (∀ b ∈ bases others, b.Legible) ∧
      ∀ b ∈ bases terms, ∀ b' ∈ bases others, b.text = b'.text →
        b.dimension = b'.dimension ∧ b.magnitude = b'.magnitude ∧
          (b.origin ≠ none → b'.origin ≠ none → b.origin = b'.origin))
    ⟨fun ⟨h, h', hsame⟩ => ⟨h, h', hsame⟩, fun ⟨h, h', hsame⟩ => ⟨h, h', hsame⟩⟩

/-- Terms of the same texts weigh the same when bases of one text do. -/
theorem weigh_eq_of_sameText {M : Type} [DivisionCommMonoid M] {f : NamedUnit → M}
    {terms others : List Power} (h : List.Forall₂ SameText terms others)
    (hf : ∀ b ∈ bases terms, ∀ b' ∈ bases others, b.text = b'.text → f b = f b') :
    weigh f terms = weigh f others := by
  induction h with
  | nil => rfl
  | @cons s t terms others hst h ih =>
    have hhead : f s.base = f t.base :=
      hf s.base List.mem_cons_self t.base List.mem_cons_self hst.base
    rw [weigh_cons, weigh_cons, hhead, hst.exponent]
    rw [ih fun b hb b' hb' => hf b (List.mem_cons_of_mem _ hb) b' (List.mem_cons_of_mem _ hb')]

/-- Products of the same texts that are both absolute or both relative have one origin. -/
theorem Canonical.origin_eq_of_sameText {c d : Canonical}
    (h : List.Forall₂ SameText c.terms d.terms) (hcd : Unambiguous c.terms d.terms)
    (habs : c.origin.isSome = d.origin.isSome) : c.origin = d.origin := by
  rcases hc : c.origin with _ | o
  · rw [hc] at habs
    exact (Option.not_isSome_iff_eq_none.1 (by simp [← habs])).symm
  · obtain ⟨o', hd⟩ := Option.isSome_iff_exists.1 (habs.symm.trans (by rw [hc]; rfl))
    obtain ⟨b, hb, ho⟩ := Option.bind_eq_some_iff.1 hc
    obtain ⟨b', hb', ho'⟩ := Option.bind_eq_some_iff.1 hd
    rw [asNamed_eq_some_iff] at hb hb'
    rw [hb, hb'] at h hcd
    obtain ⟨htext, -⟩ := List.forall₂_cons.1 h
    obtain ⟨-, -, horigin⟩ := hcd.same b List.mem_cons_self b' List.mem_cons_self htext.base
    rw [hd, ← ho, ← ho', horigin (by simp [ho]) (by simp [ho'])]

namespace UnitType

variable {u v : UnitType} {c d : Canonical} {same : Bool}

/-- Unit types that agree in all measures are equal. -/
theorem isEqual_of_agree (hd : Agree u.dimension v.dimension) (hm : Agree u.magnitude v.magnitude)
    (ho : Agree u.origin v.origin) (h : u.isEqual v = .ok same) : same = true := by
  have hdimension : ∀ d : Dimension, d.sameAs d = true := fun _ => Dimension.sameAs_iff.2 rfl
  have hmagnitude : ∀ m : Ratio, m.sameAs m = true := fun _ => Ratio.sameAs_iff.2 rfl
  unfold isEqual at h
  obtain ⟨d, hud, h⟩ := bind_eq_ok_iff.1 h
  obtain ⟨e, hvd, h⟩ := bind_eq_ok_iff.1 h
  obtain rfl := hd hud hvd
  rw [hdimension] at h
  obtain ⟨m, hum, h⟩ := bind_eq_ok_iff.1 h
  obtain ⟨n, hvm, h⟩ := bind_eq_ok_iff.1 h
  obtain rfl := hm hum hvm
  rw [hmagnitude] at h
  obtain ⟨o, huo, h⟩ := bind_eq_ok_iff.1 h
  obtain ⟨o', hvo, h⟩ := bind_eq_ok_iff.1 h
  obtain rfl := ho huo hvo
  exact (Except.ok.inj h).symm.trans (Origin.sameAs_iff.2 rfl)

theorem name_eq (hc : u.terms = .ok c) : u.name = .ok c.text := by
  unfold name
  rw [hc]
  rfl

theorem isAbsolute_eq (hc : u.terms = .ok c) : u.isAbsolute = .ok c.origin.isSome := by
  unfold isAbsolute
  rw [origin_eq hc]
  rfl

/-- Unit types of one name are equal if both are absolute or both are relative, and the name is not
ambiguous. -/
theorem isEqual_of_name_eq (hc : u.terms = .ok c) (hd : v.terms = .ok d)
    (hcd : Unambiguous c.terms d.terms) (hname : u.name = v.name)
    (habs : u.isAbsolute = v.isAbsolute) (h : u.isEqual v = .ok same) : same = true := by
  rw [name_eq hc, name_eq hd] at hname
  rw [isAbsolute_eq hc, isAbsolute_eq hd] at habs
  have htext : List.Forall₂ SameText c.terms d.terms :=
    sameText_of_listText_eq hcd.legible hcd.legible_others (Except.ok.inj hname)
  refine isEqual_of_agree ?_ ?_ ?_ h
  · intro x y hx hy
    rw [← Dimension.value_inj, value_dimension hc hx, value_dimension hd hy]
    refine weigh_eq_of_sameText htext fun b hb b' hb' ht => ?_
    rw [(hcd.same b hb b' hb' ht).1]
  · intro x y hx hy
    rw [← Ratio.value_inj, value_magnitude hc hx, value_magnitude hd hy]
    refine weigh_eq_of_sameText htext fun b hb b' hb' ht => ?_
    rw [(hcd.same b hb b' hb' ht).2.1]
  · rw [origin_eq hc, origin_eq hd,
      Canonical.origin_eq_of_sameText htext hcd (Except.ok.inj habs)]
    exact agree_refl _

end UnitType

end Metrology
