import Mathlib.Data.List.Forall2
import Metrology.Declaration.Attribute
import Metrology.Proofs.Declaration.Expression
import Metrology.Proofs.Declaration.Fraction

/-!
# Entries as they are written

A `Setting` is an entry of an attribute as it is written. `Says` tells which entry a key and the
tokens of a value are, and there is none where the key is unknown or a magnitude is zero
(`exists_says_iff`). Entries that are written one after another are read as what each of them says
(`takeAll_eq_ok_iff`), whatever parser reads the expressions, if only it reads each of them whole.
-/

namespace Metrology.Declaration

/-! ## Settings -/

/-- An entry as it is written: a name, the tokens of its value, and a comma behind it or none. -/
structure Setting where
  key : String
  value : List Token
  comma : Bool
  isName : reservedWords.contains key = false := by decide

/-- The tokens of an entry. -/
def Setting.tokens (s : Setting) : List Token :=
  .word s.key :: .mark '=' :: (s.value ++ if s.comma then [.mark ','] else [])

/-- The tokens of entries, one after another. -/
def tokensOf (settings : List Setting) : List Token := settings.flatMap Setting.tokens

/-- What can follow the value of an entry. -/
inductive EndsValue : List Token → Prop
  | nil : EndsValue []
  | comma (tokens : List Token) : EndsValue (.mark ',' :: tokens)
  | key {name : String} (h : reservedWords.contains name = false) (tokens : List Token) :
      EndsValue (.word name :: .mark '=' :: tokens)

/-- Whether tokens are a string literal. -/
inductive IsText : List Token → Literal → Prop
  | intro (spelling s : String) : IsText [.literal ⟨spelling, .text s⟩] ⟨spelling, .text s⟩

/-- The keys of an attribute. -/
def keys : List String := ["symbol", "dimension", "magnitude", "origin"]

section Values

variable (IsExpression : List Token → Prop)

/-- Whether tokens are a value for a key. For other keys than those of an attribute there is no
rule. -/
inductive IsValue : String → List Token → Prop
  | symbol {written : List Token} {l : Literal} (h : IsText written l) : IsValue "symbol" written
  | dimension {written : List Token} (h : IsExpression written) : IsValue "dimension" written
  | magnitude {written : List Token} {f : Fraction} (h : IsFraction written f) :
      IsValue "magnitude" written
  | origin {written : List Token} {f : Fraction} (h : IsFraction written f) :
      IsValue "origin" written
  | unknown {key : String} (h : key ∉ keys) (written : List Token) : IsValue key written

/-- Whether a key with the tokens of a value is an entry. -/
def Says (key : String) (written : List Token) : Entry → Prop
  | .symbol l => key = "symbol" ∧ IsText written l
  | .dimension e => key = "dimension" ∧ IsExpression written ∧ e = written
  | .magnitude f => key = "magnitude" ∧ IsFraction written f ∧ f.numerator ≠ 0
  | .origin f => key = "origin" ∧ IsFraction written f

/-- Whether a parser reads every expression whole, wherever the value of an entry ends behind it. -/
def ReadsWhole (expressions : Parser (List Token)) : Prop :=
  ∀ {written rest}, IsExpression written → EndsValue rest →
    expressions (written ++ rest) = .ok (written, rest)

/-- Whether tokens are an expression of a dimension and nothing else. -/
def IsDimension (written : List Token) : Prop := takeDimension written = .ok (written, [])

end Values

variable {IsExpression : List Token → Prop} {expressions : Parser (List Token)}
  {settings : List Setting} {s : Setting} {key : String} {written tokens rest : List Token}
  {entry : Entry} {entries : List Entry}

/-! ## One entry -/

theorem EndsValue.endsExpression (h : EndsValue rest) : EndsExpression rest := by
  cases h with
  | nil => exact .nil
  | comma tokens => exact .comma tokens
  | key _ tokens => exact .word _ _

theorem readsWhole_takeDimension : ReadsWhole IsDimension takeDimension :=
  fun h hrest => takeDimension_append h hrest.endsExpression

theorem EndsValue.ne_slash (h : EndsValue rest) (tokens : List Token) :
    rest ≠ .mark '/' :: tokens := by
  rintro rfl
  cases h

theorem endsValue_tokensOf (settings : List Setting) : EndsValue (tokensOf settings) := by
  cases settings with
  | nil => exact .nil
  | cons s settings => exact .key s.isName _

theorem endsValue_comma (comma : Bool) (settings : List Setting) :
    EndsValue ((if comma then [.mark ','] else []) ++ tokensOf settings) := by
  cases comma with
  | false => exact endsValue_tokensOf settings
  | true => exact .comma _

theorem dropComma_tokensOf (comma : Bool) (settings : List Setting) :
    Entry.dropComma ((if comma then [.mark ','] else []) ++ tokensOf settings) =
      tokensOf settings := by
  cases comma with
  | false => cases settings <;> rfl
  | true => rfl

theorem takeValue_of_said (hexpressions : ReadsWhole IsExpression expressions)
    (h : Says IsExpression key written entry) (hrest : EndsValue rest) :
    Entry.takeValue expressions key (written ++ rest) = .ok (entry, rest) := by
  cases entry with
  | symbol l =>
    obtain ⟨rfl, ⟨⟩⟩ := h
    rfl
  | dimension e =>
    obtain ⟨rfl, h, rfl⟩ := h
    simp [Entry.takeValue, hexpressions h hrest, Except.map]
  | magnitude f =>
    obtain ⟨rfl, h, hf⟩ := h
    simp [Entry.takeValue, Entry.takeMagnitude, Fraction.take_append h hrest.ne_slash, hf]
  | origin f =>
    obtain ⟨rfl, h⟩ := h
    simp [Entry.takeValue, Fraction.take_append h hrest.ne_slash, Except.map]

theorem takeValue_of_notMem (h : key ∉ keys) :
    Entry.takeValue expressions key tokens = .error (.unknownKey key) := by
  unfold Entry.takeValue
  split
  · exact absurd (by decide) h
  · exact absurd (by decide) h
  · exact absurd (by decide) h
  · exact absurd (by decide) h
  · rfl

theorem takeMagnitude_of_zero {f : Fraction} (h : IsFraction written f) (hf : f.numerator = 0)
    (hrest : EndsValue rest) : Entry.takeMagnitude (written ++ rest) = .error .zeroMagnitude := by
  unfold Entry.takeMagnitude
  simp only [Fraction.take_append h hrest.ne_slash]
  exact if_pos hf

/-- A value is an entry unless its key is unknown or it is a magnitude of zero. -/
theorem exists_says_iff (h : IsValue IsExpression key written) :
    (∃ entry, Says IsExpression key written entry) ↔
      key ∈ keys ∧ (key = "magnitude" → ∀ f, IsFraction written f → f.numerator ≠ 0) := by
  constructor
  · rintro ⟨entry, hsaid⟩
    cases entry with
    | symbol l =>
      obtain ⟨rfl, -⟩ := hsaid
      exact ⟨by decide, fun hkey => absurd hkey (by decide)⟩
    | dimension e =>
      obtain ⟨rfl, -⟩ := hsaid
      exact ⟨by decide, fun hkey => absurd hkey (by decide)⟩
    | magnitude f =>
      obtain ⟨rfl, hf, hne⟩ := hsaid
      exact ⟨by decide, fun _ g hg => hf.unique hg ▸ hne⟩
    | origin f =>
      obtain ⟨rfl, -⟩ := hsaid
      exact ⟨by decide, fun hkey => absurd hkey (by decide)⟩
  · rintro ⟨hkey, hmagnitude⟩
    cases h with
    | symbol hl => exact ⟨.symbol _, rfl, hl⟩
    | dimension he => exact ⟨.dimension written, rfl, he, rfl⟩
    | magnitude hf => exact ⟨.magnitude _, rfl, hf, hmagnitude rfl _ hf⟩
    | origin hf => exact ⟨.origin _, rfl, hf⟩
    | unknown hno => exact absurd hkey hno

/-- A value that is no entry is refused. -/
theorem takeValue_of_not_said (h : IsValue IsExpression key written)
    (hno : ¬ ∃ entry, Says IsExpression key written entry) (hrest : EndsValue rest) :
    ∃ failure, Entry.takeValue expressions key (written ++ rest) = .error failure := by
  by_cases hkey : key ∈ keys
  · rw [exists_says_iff h, not_and, Classical.not_imp] at hno
    obtain ⟨rfl, hzero⟩ := hno hkey
    obtain ⟨f, hf, hzero⟩ : ∃ f, IsFraction written f ∧ f.numerator = 0 := by simpa using hzero
    exact ⟨_, takeMagnitude_of_zero hf hzero hrest⟩
  · exact ⟨_, takeValue_of_notMem hkey⟩

theorem takeValue_eq_ok_iff (hexpressions : ReadsWhole IsExpression expressions)
    (h : IsValue IsExpression key written) (hrest : EndsValue rest) :
    Entry.takeValue expressions key (written ++ rest) = .ok (entry, tokens) ↔
      Says IsExpression key written entry ∧ tokens = rest := by
  constructor
  · intro htake
    by_cases hsaid : ∃ e, Says IsExpression key written e
    · obtain ⟨e, he⟩ := hsaid
      rw [takeValue_of_said hexpressions he hrest] at htake
      obtain ⟨rfl, rfl⟩ := Prod.mk.inj (Except.ok.inj htake)
      exact ⟨he, rfl⟩
    · obtain ⟨failure, hfailure⟩ := takeValue_of_not_said h hsaid hrest
      rw [hfailure] at htake
      cases htake
  · rintro ⟨hsaid, rfl⟩
    exact takeValue_of_said hexpressions hsaid hrest

/-- An entry is read with its comma, and nothing behind it. -/
theorem take_eq_ok_iff (hexpressions : ReadsWhole IsExpression expressions)
    (h : IsValue IsExpression s.key s.value) :
    Entry.take expressions (s.tokens ++ tokensOf settings) = .ok (entry, tokens) ↔
      Says IsExpression s.key s.value entry ∧ tokens = tokensOf settings := by
  have hrest := endsValue_comma s.comma settings
  have hname := takeName_word s.isName (.mark '=' :: (s.value ++
    ((if s.comma then [.mark ','] else []) ++ tokensOf settings)))
  unfold Entry.take Setting.tokens
  simp only [List.cons_append, List.append_assoc, bind_eq_ok_iff, pure_eq_ok_iff, Prod.exists,
    Prod.mk.injEq, hname, Except.ok.injEq, takeMark_eq_ok_iff]
  constructor
  · rintro ⟨_, _, ⟨rfl, rfl⟩, -, _, htokens, _, _, hvalue, rfl, rfl⟩
    obtain rfl := (List.cons.inj htokens).2
    obtain ⟨hsaid, rfl⟩ := (takeValue_eq_ok_iff hexpressions h hrest).1 hvalue
    exact ⟨hsaid, dropComma_tokensOf s.comma settings⟩
  · rintro ⟨hsaid, rfl⟩
    exact ⟨_, _, ⟨rfl, rfl⟩, ⟨⟩, _, rfl, _, _, takeValue_of_said hexpressions hsaid hrest, rfl,
      dropComma_tokensOf s.comma settings⟩

/-! ## All entries -/

theorem takeAll_succ_eq_ok_iff {fuel : Nat} (h : tokens ≠ []) :
    Entry.takeAll expressions (fuel + 1) tokens = .ok entries ↔
      ∃ entry rest others, Entry.take expressions tokens = .ok (entry, rest) ∧
        Entry.takeAll expressions fuel rest = .ok others ∧ entry :: others = entries := by
  cases tokens with
  | nil => exact absurd rfl h
  | cons token tokens =>
    simp only [Entry.takeAll, bind_eq_ok_iff, pure_eq_ok_iff, Prod.exists, exists_and_left]

/-- Entries are read one after another, each where the one before it ends. -/
theorem takeAll_eq_ok_iff (hexpressions : ReadsWhole IsExpression expressions)
    (h : ∀ s ∈ settings, IsValue IsExpression s.key s.value) {fuel : ℕ}
    (hfuel : (tokensOf settings).length ≤ fuel) :
    Entry.takeAll expressions fuel (tokensOf settings) = .ok entries ↔
      List.Forall₂ (fun s => Says IsExpression s.key s.value) settings entries := by
  induction settings generalizing fuel entries with
  | nil =>
    have hnil : Entry.takeAll expressions fuel (tokensOf []) = .ok [] := by cases fuel <;> rfl
    rw [hnil, Except.ok.injEq, List.forall₂_nil_left_iff, eq_comm]
  | cons s settings ih =>
    obtain ⟨hs, h⟩ := List.forall_mem_cons.1 h
    have htokens : tokensOf (s :: settings) = s.tokens ++ tokensOf settings := rfl
    rw [htokens, List.length_append] at hfuel
    -- The count is the number of tokens, and every entry uses some of them.
    have hlength : 0 < s.tokens.length := Nat.zero_lt_succ _
    obtain ⟨fuel, rfl⟩ := Nat.exists_eq_add_one.2 (show 0 < fuel by omega)
    have hne : s.tokens ++ tokensOf settings ≠ [] := List.cons_ne_nil _ _
    rw [htokens, takeAll_succ_eq_ok_iff hne, List.forall₂_cons_left_iff]
    simp only [take_eq_ok_iff hexpressions hs]
    constructor
    · rintro ⟨entry, _, rest, ⟨hsaid, rfl⟩, hrest, rfl⟩
      exact ⟨entry, rest, hsaid, (ih h (by omega)).1 hrest, rfl⟩
    · rintro ⟨entry, rest, hsaid, hrest, rfl⟩
      exact ⟨entry, _, rest, ⟨hsaid, rfl⟩, (ih h (by omega)).2 hrest, rfl⟩

end Metrology.Declaration
