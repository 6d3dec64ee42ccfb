import Metrology.Dimension

/-!
# Reading joined factors

Dimensions and products of units are written as factors with a separator between them, and a factor
as a symbol with its exponent behind a caret. A separator that starts with a blank shows where each
part ends, when no part holds a blank (`partsText_inj`). An exponent is read back from its sign and
its digits (`toString_inj`), and a factor when its symbol holds no caret (`factorText_inj`): an
exponent is written where there is one.
-/

namespace Metrology

/-! ## Marks between parts -/

section Marks

variable {α : Type} {a : α}

/-- A list is cut in one way at the first place of a mark. -/
theorem append_cons_inj_of_notMem {xs ys us vs : List α} (hx : a ∉ xs) (hy : a ∉ ys)
    (h : xs ++ a :: us = ys ++ a :: vs) : xs = ys ∧ us = vs := by
  induction xs generalizing ys with
  | nil =>
    cases ys with
    | nil => exact ⟨rfl, List.tail_eq_of_cons_eq h⟩
    | cons y ys => exact absurd (List.head_eq_of_cons_eq h ▸ List.mem_cons_self) hy
  | cons x xs ih =>
    cases ys with
    | nil => exact absurd (List.head_eq_of_cons_eq h ▸ List.mem_cons_self) hx
    | cons y ys =>
      obtain ⟨rfl, htail⟩ := List.cons.inj h
      obtain ⟨rfl, rfl⟩ :=
        ih (mt (List.mem_cons_of_mem _) hx) (mt (List.mem_cons_of_mem _) hy) htail
      exact ⟨rfl, rfl⟩

/-- Parts are told apart in what they are joined to, when the separator starts with a mark that none
of them holds. -/
theorem intercalate_inj {sep : List α} {xs ys : List (List α)} (hxs : ∀ x ∈ xs, a ∉ x)
    (hys : ∀ y ∈ ys, a ∉ y) (hx : xs ≠ []) (hy : ys ≠ [])
    (h : (a :: sep).intercalate xs = (a :: sep).intercalate ys) : xs = ys := by
  induction xs generalizing ys with
  | nil => exact absurd rfl hx
  | cons x xs ih =>
    obtain ⟨y, ys, rfl⟩ := List.exists_cons_of_ne_nil hy
    rw [List.forall_mem_cons] at hxs hys
    rcases xs with _ | ⟨x', xs⟩ <;> rcases ys with _ | ⟨y', ys⟩
    · simpa using h
    · refine absurd ?_ hxs.1
      rw [List.intercalate_singleton, List.intercalate_cons_cons] at h
      simp [h]
    · refine absurd ?_ hys.1
      rw [List.intercalate_singleton, List.intercalate_cons_cons] at h
      simp [← h]
    · rw [List.intercalate_cons_cons, List.intercalate_cons_cons, List.append_assoc,
        List.append_assoc] at h
      obtain ⟨rfl, htail⟩ := append_cons_inj_of_notMem hxs.1 hys.1 h
      rw [ih hxs.2 hys.2 (List.cons_ne_nil _ _) (List.cons_ne_nil _ _)
        (List.append_cancel_left htail)]

end Marks

/-! ## Texts between separators -/

/-- Parts with a separator between them; without parts, the text of a pure number. -/
def partsText (sep : String) (parts : List String) : String :=
  if parts = [] then "1" else sep.intercalate parts

/-- Whether a part of a text is told apart from the blank before a separator, and from the text of a
pure number. -/
structure IsPart (part : String) : Prop where
  noBlank : ' ' ∉ part.toList
  ne_one : part ≠ "1"

section Joined

variable {sep : String} {rest : List Char} {parts others : List String}

/-- Joined parts are not the text of a pure number: one part alone is not, and several have a blank
between them. -/
theorem intercalate_ne_one (hsep : sep.toList = ' ' :: rest) (hparts : ∀ s ∈ parts, IsPart s)
    (hne : parts ≠ []) : sep.intercalate parts ≠ "1" := by
  rcases parts with _ | ⟨s, _ | ⟨t, parts⟩⟩
  · exact absurd rfl hne
  · rw [String.intercalate_singleton]
    exact (hparts s List.mem_cons_self).ne_one
  · intro hone
    have hblank : ' ' ∈ (sep.intercalate (s :: t :: parts)).toList := by
      rw [String.intercalate_cons_cons]
      simp [hsep]
    rw [hone] at hblank
    exact absurd hblank (by decide)

theorem partsText_inj (hsep : sep.toList = ' ' :: rest) (hparts : ∀ s ∈ parts, IsPart s)
    (hothers : ∀ s ∈ others, IsPart s) (h : partsText sep parts = partsText sep others) :
    parts = others := by
  unfold partsText at h
  split at h
  · rename_i hnil
    split at h
    · rename_i hnil'
      rw [hnil, hnil']
    · rename_i hne
      exact absurd h.symm (intercalate_ne_one hsep hothers hne)
  · rename_i hne
    split at h
    · exact absurd h (intercalate_ne_one hsep hparts hne)
    · rename_i hne'
      have hblank : ∀ {ps : List String}, (∀ s ∈ ps, IsPart s) →
          ∀ x ∈ ps.map String.toList, ' ' ∉ x := by
        intro ps hps x hx
        obtain ⟨s, hs, rfl⟩ := List.mem_map.1 hx
        exact (hps s hs).noBlank
      have hlist := congrArg String.toList h
      rw [String.toList_intercalate, String.toList_intercalate, hsep] at hlist
      have hmap := intercalate_inj (hblank hparts) (hblank hothers) (by simpa using hne)
        (by simpa using hne') hlist
      exact (List.map_inj_right fun _ _ => String.toList_inj.1).1 hmap

end Joined

/-! ## Exponents -/

/-- The text of a natural number holds digits only. -/
theorem notMem_repr {n : Nat} {c : Char} (hc : ¬c.isDigit) : c ∉ n.repr.toList := by
  intro h
  rw [Nat.toList_repr] at h
  exact hc (Nat.isDigit_of_mem_toDigits (by decide) (by decide) h)

/-- A natural number is the value of its digits. -/
theorem repr_inj {m n : Nat} (h : m.repr = n.repr) : m = n := by
  have hdigits : Nat.toDigits 10 m = Nat.toDigits 10 n := by
    rw [← Nat.toList_repr, ← Nat.toList_repr, h]
  have hvalue := congrArg (Nat.ofDigitChars 10 · 0) hdigits
  rwa [Nat.ofDigitChars_ten_toDigits, Nat.ofDigitChars_ten_toDigits] at hvalue

theorem repr_ne_minus_append {m n : Nat} : m.repr ≠ "-" ++ n.repr := by
  intro h
  have hminus : '-' ∈ m.repr.toList := by
    rw [h]
    simp
  exact notMem_repr (by decide) hminus

theorem blank_notMem_toString (e : Int32) : ' ' ∉ (toString e).toList := by
  show ' ' ∉ e.toInt.repr.toList
  rw [Int.repr_eq_if]
  split
  · exact notMem_repr (by decide)
  · simpa using notMem_repr (by decide)

theorem toString_inj {e e' : Int32} (h : toString e = toString e') : e = e' := by
  have hrepr : e.toInt.repr = e'.toInt.repr := h
  refine Int32.toInt_inj.1 ?_
  rw [Int.repr_eq_if, Int.repr_eq_if] at hrepr
  split at hrepr <;> split at hrepr
  · have hnat := repr_inj hrepr
    omega
  · exact absurd hrepr repr_ne_minus_append
  · exact absurd hrepr.symm repr_ne_minus_append
  · have hnat := repr_inj ((String.append_right_inj _).1 hrepr)
    omega

/-! ## Factors -/

/-- Whether a symbol is told apart from the signs around it. -/
structure IsSymbol (symbol : String) : Prop extends IsPart symbol where
  noCaret : '^' ∉ symbol.toList

namespace Dimension

variable {symbol symbol' : String} {e e' : Int32}

theorem factorText_one (symbol : String) : factorText (symbol, 1) = symbol := rfl

theorem toList_factorText (symbol : String) (h : e ≠ 1) :
    (factorText (symbol, e)).toList = symbol.toList ++ '^' :: (toString e).toList := by
  have htext : factorText (symbol, e) = s!"{symbol}^{e}" := if_neg h
  rw [htext]
  simp [toString]

/-- An exponent is written unless it is one. -/
theorem caret_mem_factorText_iff (h : IsSymbol symbol) :
    '^' ∈ (factorText (symbol, e)).toList ↔ e ≠ 1 := by
  by_cases he : e = 1
  · rw [he, factorText_one]
    exact iff_of_false h.noCaret fun hne => hne rfl
  · exact iff_of_true (by simp [toList_factorText symbol he]) he

theorem isPart_factorText (h : IsSymbol symbol) (e : Int32) : IsPart (factorText (symbol, e)) := by
  by_cases he : e = 1
  · rw [he, factorText_one]
    exact h.toIsPart
  · constructor
    · rw [toList_factorText symbol he]
      simp [h.noBlank, blank_notMem_toString]
    · intro hone
      have hcaret := (caret_mem_factorText_iff h).2 he
      rw [hone] at hcaret
      exact absurd hcaret (by decide)

theorem factorText_inj (hs : IsSymbol symbol) (hs' : IsSymbol symbol')
    (h : factorText (symbol, e) = factorText (symbol', e')) : symbol = symbol' ∧ e = e' := by
  have hone : e ≠ 1 ↔ e' ≠ 1 := by
    rw [← caret_mem_factorText_iff hs, ← caret_mem_factorText_iff hs', h]
  by_cases he : e = 1
  · have he' : e' = 1 := (Decidable.not_iff_not.1 hone).1 he
    rw [he, he', factorText_one, factorText_one] at h
    exact ⟨h, he.trans he'.symm⟩
  · have hlist := congrArg String.toList h
    rw [toList_factorText symbol he, toList_factorText symbol' (hone.1 he)] at hlist
    obtain ⟨hsymbol, hexponent⟩ := append_cons_inj_of_notMem hs.noCaret hs'.noCaret hlist
    exact ⟨String.toList_inj.1 hsymbol, toString_inj (String.toList_inj.1 hexponent)⟩

end Dimension

end Metrology
