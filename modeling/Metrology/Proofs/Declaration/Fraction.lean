import Metrology.Declaration.Fraction

/-!
# Fractions as they are written

`IsFraction written f` says that tokens are a fraction and which one it is: a numerator, and a
denominator behind a slash or none. An integer literal may carry a minus sign of its own, but a minus
sign in front of a fraction belongs to the fraction, so the integer behind it has to be in range
before it is negated.

Whatever follows it, a fraction is read whole, unless a slash follows (`take_append`), and nothing
else is read as a fraction (`take_sound`). So tokens are one fraction at most (`IsFraction.unique`).
-/

namespace Metrology.Declaration

/-! ## The parts of a fraction -/

/-- Whether tokens are an integer literal of a given value. -/
inductive IsInteger : List Token → Int → Prop
  | plain (spelling : String) (n : Nat) : IsInteger [.literal ⟨spelling, .whole n⟩] n
  | signed (spelling : String) (n : Nat) : IsInteger [.mark '-', .literal ⟨spelling, .whole n⟩] (-n)

/-- Whether tokens are a numerator. -/
inductive IsNumerator : List Token → Int64 → Prop
  | plain {spelling : String} {n : Nat} {a : Int64} (h : a.toInt = n) :
      IsNumerator [.literal ⟨spelling, .whole n⟩] a
  | negated {written : List Token} {a b : Int64} (h : IsInteger written a.toInt)
      (hb : b.toInt = -a.toInt) : IsNumerator (.mark '-' :: written) b

/-- Whether tokens are a denominator with its slash, or nothing in place of the denominator one. -/
inductive IsDenominator : List Token → Int64 → Prop
  | absent : IsDenominator [] 1
  | given {written : List Token} {a : Int64} (h : IsInteger written a.toInt) (ha : a ≠ 0) :
      IsDenominator (.mark '/' :: written) a

/-- Whether tokens are a fraction. -/
inductive IsFraction : List Token → Fraction → Prop
  | intro {above below : List Token} {n d : Int64} (hn : IsNumerator above n)
      (hd : IsDenominator below d) : IsFraction (above ++ below) ⟨n, d⟩

theorem IsFraction.whole (a : Int64) {n : Nat} (ha : a.toInt = n) (spelling : String) :
    IsFraction [.literal ⟨spelling, .whole n⟩] ⟨a, 1⟩ := by
  have hnumerator : IsNumerator [.literal ⟨spelling, .whole n⟩] a := .plain ha
  exact (IsFraction.intro hnumerator .absent :)

theorem IsFraction.over (a b : Int64) {n d : Nat} (ha : a.toInt = n) (hb : b.toInt = d) (h : b ≠ 0)
    (above below : String) :
    IsFraction [.literal ⟨above, .whole n⟩, .mark '/', .literal ⟨below, .whole d⟩] ⟨a, b⟩ := by
  have hnumerator : IsNumerator [.literal ⟨above, .whole n⟩] a := .plain ha
  have hinteger : IsInteger [.literal ⟨below, .whole d⟩] b.toInt := hb ▸ .plain below d
  exact (IsFraction.intro hnumerator (.given hinteger h) :)

/-! ## Reading -/

section Reading

variable {written tokens rest : List Token} {x : Int} {a : Int64} {f g : Fraction}

theorem takeInteger_append (h : IsInteger written x) :
    takeInteger (written ++ rest) = .ok (x, rest) := by
  cases h <;> rfl

theorem component_eq_ok_iff : component x = .ok a ↔ a.toInt = x := by
  have hofInt : Bounded.ofInt? x = some a ↔ a.toInt = x := Bounded.ofInt?_eq_some_iff
  rw [← hofInt]
  unfold component
  split
  · rename_i b hb
    rw [hb, Except.ok.injEq, Option.some.injEq]
  · rename_i hnone
    rw [hnone]
    exact iff_of_false nofun nofun

theorem takeComponent_append (h : IsInteger written a.toInt) :
    takeComponent (written ++ rest) = .ok (a, rest) := by
  unfold takeComponent
  simp [takeInteger_append h, component_eq_ok_iff.2 rfl]

namespace Fraction

theorem takeNumerator_append (h : IsNumerator written a) :
    takeNumerator (written ++ rest) = .ok (a, rest) := by
  cases h with
  | @plain spelling n _ h =>
    have hinteger : IsInteger [.literal ⟨spelling, .whole n⟩] a.toInt := h ▸ .plain spelling n
    exact takeComponent_append hinteger
  | @negated _ b _ h ha =>
    have hneg : Bounded.neg? b = some a := Bounded.neg?_eq_some_iff.2 ha
    simp [takeNumerator, takeComponent_append h, hneg]

theorem takeDenominator_append (h : IsDenominator written a)
    (hrest : ∀ tokens, rest ≠ .mark '/' :: tokens) :
    takeDenominator (written ++ rest) = .ok (a, rest) := by
  cases h with
  | absent =>
    rw [List.nil_append]
    unfold takeDenominator
    split
    · rename_i tokens
      exact absurd rfl (hrest tokens)
    · rfl
  | given h ha => simp [takeDenominator, takeComponent_append h, ha]

/-- A fraction is read whole where no slash follows. -/
theorem take_append (h : IsFraction written f) (hrest : ∀ tokens, rest ≠ .mark '/' :: tokens) :
    take (written ++ rest) = .ok (f, rest) := by
  obtain ⟨hn, hd⟩ := h
  unfold take
  simp [List.append_assoc, takeNumerator_append hn, takeDenominator_append hd hrest]

end Fraction

theorem IsFraction.unique (hf : IsFraction written f) (hg : IsFraction written g) : f = g := by
  have hf : Fraction.take (written ++ []) = .ok (f, []) := Fraction.take_append hf nofun
  have hg : Fraction.take (written ++ []) = .ok (g, []) := Fraction.take_append hg nofun
  exact congrArg Prod.fst (Except.ok.inj (hf.symm.trans hg))

/-! ## What is read -/

theorem takeInteger_sound (h : takeInteger tokens = .ok (x, rest)) :
    ∃ written, tokens = written ++ rest ∧ IsInteger written x := by
  unfold takeInteger at h
  split at h
  · cases h
    exact ⟨_, rfl, .plain _ _⟩
  · cases h
    exact ⟨_, rfl, .signed _ _⟩
  · cases h

theorem takeComponent_sound (h : takeComponent tokens = .ok (a, rest)) :
    ∃ written, tokens = written ++ rest ∧ IsInteger written a.toInt := by
  unfold takeComponent at h
  simp only [bind_eq_ok_iff, pure_eq_ok_iff, Prod.exists, Prod.mk.injEq] at h
  obtain ⟨x, _, hx, _, ha, rfl, rfl⟩ := h
  obtain ⟨written, rfl, hwritten⟩ := takeInteger_sound hx
  exact ⟨written, rfl, component_eq_ok_iff.1 ha ▸ hwritten⟩

namespace Fraction

theorem takeNumerator_sound (h : takeNumerator tokens = .ok (a, rest)) :
    ∃ written, tokens = written ++ rest ∧ IsNumerator written a := by
  unfold takeNumerator at h
  split at h
  · simp only [bind_eq_ok_iff, pure_eq_ok_iff, Prod.exists, Prod.mk.injEq] at h
    obtain ⟨b, _, hb, _, ha, rfl, rfl⟩ := h
    obtain ⟨written, rfl, hwritten⟩ := takeComponent_sound hb
    simp only [mapError_eq_ok_iff, orFault_eq_ok_iff, Bounded.neg?_eq_some_iff] at ha
    exact ⟨_, rfl, .negated hwritten ha⟩
  · rename_i hplain
    obtain ⟨written, rfl, hwritten⟩ := takeComponent_sound h
    -- A literal with a sign of its own would begin with the sign of the fraction.
    generalize hx : a.toInt = x at hwritten
    cases hwritten with
    | plain spelling n => exact ⟨_, rfl, .plain hx⟩
    | signed spelling n => exact absurd rfl (hplain _)

theorem takeDenominator_sound (h : takeDenominator tokens = .ok (a, rest)) :
    ∃ written, tokens = written ++ rest ∧ IsDenominator written a := by
  unfold takeDenominator at h
  split at h
  · simp only [bind_eq_ok_iff, Prod.exists] at h
    obtain ⟨b, _, hb, hrest⟩ := h
    obtain ⟨written, rfl, hwritten⟩ := takeComponent_sound hb
    split at hrest
    · cases hrest
    · rename_i hne
      cases hrest
      exact ⟨_, rfl, .given hwritten hne⟩
  · cases h
    exact ⟨[], rfl, .absent⟩

/-- Only fractions are read. -/
theorem take_sound (h : take tokens = .ok (f, rest)) :
    ∃ written, tokens = written ++ rest ∧ IsFraction written f := by
  unfold take at h
  simp only [bind_eq_ok_iff, pure_eq_ok_iff, Prod.exists, Prod.mk.injEq] at h
  obtain ⟨n, _, hn, d, _, hd, rfl, rfl⟩ := h
  obtain ⟨above, rfl, habove⟩ := takeNumerator_sound hn
  obtain ⟨below, rfl, hbelow⟩ := takeDenominator_sound hd
  exact ⟨above ++ below, (List.append_assoc ..).symm, .intro habove hbelow⟩

end Fraction

end Reading

end Metrology.Declaration
