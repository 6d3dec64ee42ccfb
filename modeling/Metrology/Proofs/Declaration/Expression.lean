import Metrology.Declaration.Expression

/-!
# Expressions among other tokens

An expression ends before a comma or a word as it does at the end of the tokens
(`takeDimension_append`). Its reading counts down, and calls three readings of one count on the next
smaller one. So what the readings of one count do before other tokens, and with any larger count, is
said for the three together (`Extends`), and shown step by step.
-/

namespace Metrology.Declaration

/-- Whether tokens do not go on with an expression in front of them. -/
inductive EndsExpression : List Token → Prop
  | nil : EndsExpression []
  | comma (tokens : List Token) : EndsExpression (.mark ',' :: tokens)
  | word (name : String) (tokens : List Token) : EndsExpression (.word name :: tokens)

variable {tokens e left rest operand : List Token} {count more : Nat}

theorem takeSegments_of_ends (h : EndsExpression rest) : takeSegments rest = .ok ([], rest) := by
  cases h <;> rfl

theorem takeSuffixes_of_ends (h : EndsExpression rest) :
    takeSuffixes count operand rest = .ok (operand, rest) := by
  cases h <;> cases count <;> rfl

theorem takeSuffixes_nil (h : takeSuffixes count operand [] = .ok (e, left)) : left = [] := by
  rw [takeSuffixes_of_ends .nil] at h
  exact (Prod.mk.inj (Except.ok.inj h)).2.symm

/-- A path is read the same before other tokens, unless they go on with it. -/
theorem takeSegments_append (h : takeSegments tokens = .ok (e, left))
    (hrest : left = [] → EndsExpression rest) :
    takeSegments (tokens ++ rest) = .ok (e, left ++ rest) := by
  fun_induction takeSegments tokens generalizing e left with
  | case1 name tokens hname => cases h
  | case2 name tokens hname ih =>
    obtain ⟨⟨segments, others⟩, hsegments, h⟩ := bind_eq_ok_iff.1 h
    obtain ⟨rfl, rfl⟩ := Prod.mk.inj (Except.ok.inj h)
    simp only [List.cons_append, takeSegments, if_neg hname, ih hsegments hrest]
    rfl
  | case3 tokens hname => cases h
  | case4 tokens hword hpath =>
    obtain ⟨rfl, rfl⟩ := Prod.mk.inj (Except.ok.inj h)
    cases tokens with
    | nil => exact takeSegments_of_ends (hrest rfl)
    | cons token tokens =>
      cases token with
      | path => exact absurd rfl (hpath tokens)
      | _ => rfl

/-! ## Larger counts, and tokens behind -/

/-- Whether the readings of a count that succeed do so with every larger count, and before other
tokens that do not go on with what was read. -/
structure Extends (count : Nat) : Prop where
  expression : ∀ {tokens e left rest more}, takeExpression count tokens = .ok (e, left) →
    EndsExpression (left ++ rest) → count ≤ more →
    takeExpression more (tokens ++ rest) = .ok (e, left ++ rest)
  suffixes : ∀ {operand tokens e left rest more},
    takeSuffixes count operand tokens = .ok (e, left) → EndsExpression (left ++ rest) →
    count ≤ more → takeSuffixes more operand (tokens ++ rest) = .ok (e, left ++ rest)
  list : ∀ {tokens more}, checkExpressions count tokens = .ok ⟨⟩ → count ≤ more →
    checkExpressions more tokens = .ok ⟨⟩

theorem extends_zero : Extends 0 where
  expression h := by cases h
  suffixes h hends _ := by
    obtain ⟨rfl, rfl⟩ := Prod.mk.inj (Except.ok.inj h)
    exact takeSuffixes_of_ends hends
  list {tokens more} h _ := by
    cases tokens with
    | nil => cases more <;> rfl
    | cons token tokens => cases h

namespace Extends

/-- The operand of an expression and what follows it. -/
theorem path_suffixes (hcount : Extends count) (head : List Token) {segments others : List Token}
    (hsegments : takeSegments tokens = .ok (segments, others))
    (h : takeSuffixes count (head ++ segments) others = .ok (e, left))
    (hends : EndsExpression (left ++ rest)) (hmore : count ≤ more) :
    takeSegments (tokens ++ rest) = .ok (segments, others ++ rest) ∧
      takeSuffixes more (head ++ segments) (others ++ rest) = .ok (e, left ++ rest) := by
  refine ⟨takeSegments_append hsegments fun hothers => ?_, hcount.suffixes h hends hmore⟩
  subst hothers
  obtain rfl := takeSuffixes_nil h
  exact hends

theorem expression_succ (hcount : Extends count)
    (h : takeExpression (count + 1) tokens = .ok (e, left)) (hends : EndsExpression (left ++ rest))
    (hmore : count ≤ more) :
    takeExpression (more + 1) (tokens ++ rest) = .ok (e, left ++ rest) := by
  rcases tokens with _ | ⟨token, tokens⟩
  · cases h
  cases token with
  | mark c =>
    unfold takeExpression at h
    split at h
    · rename_i hc
      obtain ⟨⟨inner, others⟩, hinner, h⟩ := bind_eq_ok_iff.1 h
      obtain ⟨rfl, rfl⟩ := Prod.mk.inj (Except.ok.inj h)
      simp only [List.cons_append, takeExpression, if_pos hc,
        hcount.expression hinner hends hmore]
      rfl
    · cases h
  | literal l =>
    unfold takeExpression at h
    simp only [List.cons_append, takeExpression]
    exact hcount.suffixes h hends hmore
  | word name =>
    unfold takeExpression at h
    split at h
    · rename_i hname
      obtain ⟨⟨segments, others⟩, hsegments, h⟩ := bind_eq_ok_iff.1 h
      obtain ⟨hs, ht⟩ := hcount.path_suffixes [.word name] hsegments h hends hmore
      simp only [List.cons_append, takeExpression, if_pos hname, hs]
      exact ht
    · cases h
  | path =>
    unfold takeExpression at h
    obtain ⟨⟨segments, others⟩, hsegments, h⟩ := bind_eq_ok_iff.1 h
    obtain ⟨hs, ht⟩ := hcount.path_suffixes [] hsegments h hends hmore
    rw [List.cons_append] at hs
    simp only [List.cons_append, takeExpression, hs]
    exact ht
  | group delimiter content =>
    cases delimiter with
    | parenthesis =>
      unfold takeExpression at h
      obtain ⟨_, hcontent, h⟩ := bind_eq_ok_iff.1 h
      simp only [List.cons_append, takeExpression, hcount.list hcontent hmore]
      exact hcount.suffixes h hends hmore
    | bracket => cases h
    | brace => cases h

theorem suffixes_succ (hcount : Extends count)
    (h : takeSuffixes (count + 1) operand tokens = .ok (e, left))
    (hends : EndsExpression (left ++ rest)) (hmore : count ≤ more) :
    takeSuffixes (more + 1) operand (tokens ++ rest) = .ok (e, left ++ rest) := by
  unfold takeSuffixes at h
  split at h
  · rename_i hzero
    cases hzero
  · rename_i content others hsucc
    obtain rfl := Nat.succ.inj hsucc
    obtain ⟨_, hcontent, h⟩ := bind_eq_ok_iff.1 h
    simp only [List.cons_append, takeSuffixes, hcount.list hcontent hmore]
    exact hcount.suffixes h hends hmore
  · rename_i content others hsucc
    obtain rfl := Nat.succ.inj hsucc
    obtain ⟨_, hcontent, h⟩ := bind_eq_ok_iff.1 h
    simp only [List.cons_append, takeSuffixes, hcount.list hcontent hmore]
    exact hcount.suffixes h hends hmore
  · rename_i others hsucc
    obtain rfl := Nat.succ.inj hsucc
    simp only [List.cons_append, takeSuffixes]
    exact hcount.suffixes h hends hmore
  · obtain ⟨rfl, rfl⟩ := Prod.mk.inj (Except.ok.inj h)
    exact takeSuffixes_of_ends hends
  · rename_i name others hsucc
    obtain rfl := Nat.succ.inj hsucc
    split at h
    · cases h
    · rename_i hname
      simp only [List.cons_append, takeSuffixes, if_neg hname]
      exact hcount.suffixes h hends hmore
  · rename_i spelling n others hsucc
    obtain rfl := Nat.succ.inj hsucc
    simp only [List.cons_append, takeSuffixes]
    exact hcount.suffixes h hends hmore
  · cases h
  · obtain ⟨rfl, rfl⟩ := Prod.mk.inj (Except.ok.inj h)
    exact takeSuffixes_of_ends hends

theorem list_succ (hcount : Extends count)
    (h : checkExpressions (count + 1) tokens = .ok ⟨⟩) (hmore : count ≤ more) :
    checkExpressions (more + 1) tokens = .ok ⟨⟩ := by
  rcases tokens with _ | ⟨token, tokens⟩
  · rfl
  unfold checkExpressions at h
  obtain ⟨⟨inner, others⟩, hinner, h⟩ := bind_eq_ok_iff.1 h
  have hread (hends : EndsExpression others) :
      takeExpression more (token :: tokens) = .ok (inner, others) := by
    rw [← List.append_nil others] at hends
    simpa using hcount.expression hinner hends hmore
  -- What stands behind an expression of a list is the end or a comma.
  rcases others with _ | ⟨first, others⟩
  · simp only [checkExpressions, hread .nil]
    rfl
  · obtain ⟨⟨_, behind⟩, hcomma, h⟩ := bind_eq_ok_iff.1 h
    rw [takeMark_eq_ok_iff.1 hcomma] at hread
    simp only [checkExpressions, hread (.comma behind)]
    exact hcount.list h hmore

end Extends

theorem extends_all (count : Nat) : Extends count := by
  induction count with
  | zero => exact extends_zero
  | succ count ih =>
    constructor
    · rintro tokens e left rest (_ | more) h hends hmore
      · exact absurd hmore (by omega)
      · exact ih.expression_succ h hends (by omega)
    · rintro operand tokens e left rest (_ | more) h hends hmore
      · exact absurd hmore (by omega)
      · exact ih.suffixes_succ h hends (by omega)
    · rintro tokens (_ | more) h hmore
      · exact absurd hmore (by omega)
      · exact ih.list_succ h (by omega)

theorem weightOf_le_append (tokens rest : List Token) :
    Token.weightOf tokens ≤ Token.weightOf (tokens ++ rest) := by
  induction tokens with
  | nil => exact Nat.zero_le _
  | cons token tokens ih =>
    simp only [List.cons_append, Token.weightOf]
    omega

/-- An expression is read whole where it ends. -/
theorem takeDimension_append (h : takeDimension tokens = .ok (e, [])) (hrest : EndsExpression rest) :
    takeDimension (tokens ++ rest) = .ok (e, rest) := by
  have hweight := weightOf_le_append tokens rest
  exact (extends_all _).expression h hrest (by omega)

end Metrology.Declaration
