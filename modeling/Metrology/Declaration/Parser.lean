import Metrology.Declaration.Error
import Metrology.Declaration.Token

/-!
# Parsers of tokens

A `Parser` takes a part of a declaration from the front of a list of tokens and gives the tokens
behind it. Here are the parsers of names and marks, and `complete`, which wants all tokens used.
-/

namespace Metrology.Declaration

/-- The error at tokens that do not begin with a part. A missing mark is not told apart from the
end. -/
def Part.missing (part : Part) (tokens : List Token) : DeclarationError :=
  if tokens.isEmpty ∧ part ≠ .equals ∧ part ≠ .comma then .ended part else .expected part

/-- A parser of a part: the part, and the tokens behind it. -/
abbrev Parser (α : Type) := List Token → Except DeclarationError (α × List Token)

/-- A name. -/
def takeName : Parser String
  | .word name :: tokens =>
      if reservedWords.contains name then .error (.reservedWord name) else .ok (name, tokens)
  | tokens => .error (Part.identifier.missing tokens)

/-- A mark. -/
def takeMark (c : Char) (part : Part) : Parser PUnit
  | .mark d :: tokens => if c = d then .ok (⟨⟩, tokens) else .error (.expected part)
  | tokens => .error (part.missing tokens)

theorem takeName_word {name : String} (h : reservedWords.contains name = false)
    (tokens : List Token) : takeName (.word name :: tokens) = .ok (name, tokens) :=
  if_neg (Bool.eq_false_iff.1 h)

theorem takeName_eq_ok_iff {name : String} {tokens rest : List Token} :
    takeName tokens = .ok (name, rest) ↔
      tokens = .word name :: rest ∧ reservedWords.contains name = false := by
  constructor
  · intro h
    unfold takeName at h
    split at h
    · split at h
      · cases h
      · rename_i hname
        obtain ⟨rfl, rfl⟩ := Prod.mk.inj (Except.ok.inj h)
        exact ⟨rfl, Bool.eq_false_iff.2 hname⟩
    · cases h
  · rintro ⟨rfl, h⟩
    exact takeName_word h rest

theorem takeMark_eq_ok_iff {c : Char} {part : Part} {tokens rest : List Token} {u : PUnit} :
    takeMark c part tokens = .ok (u, rest) ↔ tokens = .mark c :: rest := by
  unfold takeMark
  split
  · rename_i d others
    split
    · rename_i hd
      subst hd
      constructor
      · rintro ⟨⟩
        rfl
      · rintro ⟨⟩
        rfl
    · rename_i hd
      refine iff_of_false nofun fun h => hd ?_
      exact (Token.mark.inj (List.cons.inj h).1).symm
  · rename_i hother
    exact iff_of_false nofun fun h => hother _ _ h

/-- Runs a parser on all of the tokens. -/
def Parser.complete {α : Type} (parser : Parser α) (tokens : List Token) :
    Except DeclarationError α := do
  match ← parser tokens with
  | (a, []) => return a
  | (_, _ :: _) => throw .leftOver

end Metrology.Declaration
