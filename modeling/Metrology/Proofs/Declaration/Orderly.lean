import Metrology.Proofs.Declaration.Expression

/-!
# Parsers of expressions that keep their tokens

A parser of expressions is `Orderly` when the expression that it gives and the tokens that it leaves
are together the tokens it was given, and when no calculation stops it. Entries can be read with any
parser of this kind, and `takeDimension` is one (`orderly_takeDimension`). It counts down, so both
are said of the readings of one count and shown step by step (`Keeps`, `FaultFree`).
-/

namespace Metrology.Declaration

/-- Whether no calculation stops a reading. -/
def Faultless {α : Type} (x : Except DeclarationError α) : Prop :=
  ∀ cause, x ≠ .error (.fault cause)

section Faultless

variable {α β : Type} {x : Except DeclarationError α} {f : α → Except DeclarationError β}

theorem faultless_ok (a : α) : Faultless (.ok a) := nofun

theorem Faultless.bind (hx : Faultless x) (hf : ∀ a, Faultless (f a)) : Faultless (x >>= f) := by
  cases x with
  | error failure => exact fun cause h => hx cause (congrArg Except.error (Except.error.inj h))
  | ok a => exact hf a

/-- A part that is missing is no matter of calculation. -/
theorem faultless_missing (part : Part) (tokens : List Token) :
    Faultless (.error (part.missing tokens) : Except DeclarationError α) := by
  unfold Part.missing
  split <;> nofun

theorem faultless_takeName (tokens : List Token) : Faultless (takeName tokens) := by
  unfold takeName
  split
  · split <;> nofun
  · exact faultless_missing _ _

theorem faultless_takeMark (c : Char) (part : Part) (tokens : List Token) :
    Faultless (takeMark c part tokens) := by
  unfold takeMark
  split
  · split <;> nofun
  · exact faultless_missing part _

end Faultless

/-- Whether a parser of expressions divides its tokens into an expression and what follows it, and
is stopped by no calculation. -/
structure Orderly (expressions : Parser (List Token)) : Prop where
  taken : ∀ {tokens e rest}, expressions tokens = .ok (e, rest) → tokens = e ++ rest
  faultless : ∀ tokens, Faultless (expressions tokens)

variable {tokens e left operand : List Token} {count : Nat}

/-! ## Tokens that are kept -/

theorem takeSegments_taken (h : takeSegments tokens = .ok (e, left)) : tokens = e ++ left := by
  fun_induction takeSegments tokens generalizing e left with
  | case1 name tokens hname => cases h
  | case2 name tokens hname ih =>
    obtain ⟨⟨segments, others⟩, hsegments, h⟩ := bind_eq_ok_iff.1 h
    obtain ⟨rfl, rfl⟩ := Prod.mk.inj (Except.ok.inj h)
    rw [ih hsegments]
    rfl
  | case3 tokens hname => cases h
  | case4 tokens hword hpath =>
    obtain ⟨rfl, rfl⟩ := Prod.mk.inj (Except.ok.inj h)
    rfl

/-- Whether the readings of a count keep their tokens. -/
structure Keeps (count : Nat) : Prop where
  expression : ∀ {tokens e left}, takeExpression count tokens = .ok (e, left) → tokens = e ++ left
  suffixes : ∀ {operand tokens e left}, takeSuffixes count operand tokens = .ok (e, left) →
    operand ++ tokens = e ++ left

namespace Keeps

theorem expression_succ (hcount : Keeps count)
    (h : takeExpression (count + 1) tokens = .ok (e, left)) : tokens = e ++ left := by
  unfold takeExpression at h
  split at h
  · rename_i hzero
    cases hzero
  · rename_i c rest hsucc
    obtain rfl := Nat.succ.inj hsucc
    split at h
    · obtain ⟨⟨inner, others⟩, hinner, h⟩ := bind_eq_ok_iff.1 h
      obtain ⟨rfl, rfl⟩ := Prod.mk.inj (Except.ok.inj h)
      rw [hcount.expression hinner]
      rfl
    · cases h
  · rename_i l rest hsucc
    obtain rfl := Nat.succ.inj hsucc
    exact hcount.suffixes h
  · rename_i name rest hsucc
    obtain rfl := Nat.succ.inj hsucc
    split at h
    · obtain ⟨⟨segments, others⟩, hsegments, h⟩ := bind_eq_ok_iff.1 h
      rw [← hcount.suffixes h, takeSegments_taken hsegments]
      rfl
    · cases h
  · rename_i rest hsucc
    obtain rfl := Nat.succ.inj hsucc
    obtain ⟨⟨segments, others⟩, hsegments, h⟩ := bind_eq_ok_iff.1 h
    rw [← hcount.suffixes h, takeSegments_taken hsegments]
  · rename_i content rest hsucc
    obtain rfl := Nat.succ.inj hsucc
    obtain ⟨_, -, h⟩ := bind_eq_ok_iff.1 h
    exact hcount.suffixes h
  · cases h

theorem suffixes_succ (hcount : Keeps count)
    (h : takeSuffixes (count + 1) operand tokens = .ok (e, left)) :
    operand ++ tokens = e ++ left := by
  -- What is taken moves from the front of the tokens to the end of the operand.
  have hmove : ∀ {part rest : List Token},
      takeSuffixes count (operand ++ part) rest = .ok (e, left) →
      operand ++ (part ++ rest) = e ++ left :=
    fun h => (List.append_assoc ..).symm.trans (hcount.suffixes h)
  unfold takeSuffixes at h
  split at h
  · rename_i hzero
    cases hzero
  · rename_i content others hsucc
    obtain rfl := Nat.succ.inj hsucc
    obtain ⟨_, -, h⟩ := bind_eq_ok_iff.1 h
    exact hmove h
  · rename_i content others hsucc
    obtain rfl := Nat.succ.inj hsucc
    obtain ⟨_, -, h⟩ := bind_eq_ok_iff.1 h
    exact hmove h
  · rename_i others hsucc
    obtain rfl := Nat.succ.inj hsucc
    exact hmove h
  · obtain ⟨rfl, rfl⟩ := Prod.mk.inj (Except.ok.inj h)
    rfl
  · rename_i name others hsucc
    obtain rfl := Nat.succ.inj hsucc
    split at h
    · cases h
    · exact hmove h
  · rename_i spelling n others hsucc
    obtain rfl := Nat.succ.inj hsucc
    exact hmove h
  · cases h
  · obtain ⟨rfl, rfl⟩ := Prod.mk.inj (Except.ok.inj h)
    rfl

end Keeps

theorem keeps_all (count : Nat) : Keeps count := by
  induction count with
  | zero =>
    constructor
    · intro tokens e left h
      cases h
    · intro operand tokens e left h
      obtain ⟨rfl, rfl⟩ := Prod.mk.inj (Except.ok.inj h)
      rfl
  | succ count ih => exact ⟨ih.expression_succ, ih.suffixes_succ⟩

/-! ## Readings without a fault -/

theorem faultless_takeSegments (tokens : List Token) : Faultless (takeSegments tokens) := by
  fun_induction takeSegments tokens with
  | case1 name tokens hname =>
    intro cause h
    cases h
  | case2 name tokens hname ih => exact ih.bind fun _ => faultless_ok _
  | case3 tokens hname => exact faultless_missing _ _
  | case4 tokens hword hpath => exact faultless_ok _

/-- Whether no calculation stops the readings of a count. -/
structure FaultFree (count : Nat) : Prop where
  expression : ∀ tokens, Faultless (takeExpression count tokens)
  suffixes : ∀ operand tokens, Faultless (takeSuffixes count operand tokens)
  list : ∀ tokens, Faultless (checkExpressions count tokens)

namespace FaultFree

theorem expression_succ (hcount : FaultFree count) (tokens : List Token) :
    Faultless (takeExpression (count + 1) tokens) := by
  unfold takeExpression
  split
  · nofun
  · rename_i hsucc
    obtain rfl := Nat.succ.inj hsucc
    split
    · exact (hcount.expression _).bind fun _ => faultless_ok _
    · nofun
  · rename_i hsucc
    obtain rfl := Nat.succ.inj hsucc
    exact hcount.suffixes _ _
  · rename_i hsucc
    obtain rfl := Nat.succ.inj hsucc
    split
    · exact (faultless_takeSegments _).bind fun _ => hcount.suffixes _ _
    · nofun
  · rename_i hsucc
    obtain rfl := Nat.succ.inj hsucc
    exact (faultless_takeSegments _).bind fun _ => hcount.suffixes _ _
  · rename_i hsucc
    obtain rfl := Nat.succ.inj hsucc
    exact (hcount.list _).bind fun _ => hcount.suffixes _ _
  · exact faultless_missing _ _

theorem suffixes_succ (hcount : FaultFree count) (operand tokens : List Token) :
    Faultless (takeSuffixes (count + 1) operand tokens) := by
  unfold takeSuffixes
  split
  · exact faultless_ok _
  · rename_i hsucc
    obtain rfl := Nat.succ.inj hsucc
    exact (hcount.list _).bind fun _ => hcount.suffixes _ _
  · rename_i hsucc
    obtain rfl := Nat.succ.inj hsucc
    exact (hcount.list _).bind fun _ => hcount.suffixes _ _
  · rename_i hsucc
    obtain rfl := Nat.succ.inj hsucc
    exact hcount.suffixes _ _
  · exact faultless_ok _
  · rename_i hsucc
    obtain rfl := Nat.succ.inj hsucc
    split
    · nofun
    · exact hcount.suffixes _ _
  · rename_i hsucc
    obtain rfl := Nat.succ.inj hsucc
    exact hcount.suffixes _ _
  · exact faultless_missing _ _
  · exact faultless_ok _

theorem list_succ (hcount : FaultFree count) (tokens : List Token) :
    Faultless (checkExpressions (count + 1) tokens) := by
  rcases tokens with _ | ⟨token, tokens⟩
  · exact faultless_ok _
  unfold checkExpressions
  refine (hcount.expression _).bind fun x => ?_
  obtain ⟨inner, rest⟩ := x
  cases rest with
  | nil => exact faultless_ok _
  | cons first rest => exact (faultless_takeMark _ _ _).bind fun _ => hcount.list _

end FaultFree

theorem faultFree_all (count : Nat) : FaultFree count := by
  induction count with
  | zero =>
    refine ⟨fun _ => nofun, fun _ _ => faultless_ok _, fun tokens => ?_⟩
    cases tokens with
    | nil => exact faultless_ok _
    | cons token tokens => nofun
  | succ count ih => exact ⟨ih.expression_succ, ih.suffixes_succ, ih.list_succ⟩

theorem orderly_takeDimension : Orderly takeDimension where
  taken h := (keeps_all _).expression h
  faultless _ := (faultFree_all _).expression _

end Metrology.Declaration
