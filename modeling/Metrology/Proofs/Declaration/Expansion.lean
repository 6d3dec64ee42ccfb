import Metrology.Declaration.Expansion
import Metrology.Proofs.Declaration.Reading
import Metrology.Proofs.Ratio.Value

/-!
# What unit declarations expand to

The code of a fraction calls the construction of a ratio with two integers, and `Evaluates` reads
such a call. It is always the call with the two sides of the fraction (`evaluates_tokens_iff`). The
ratio that it makes is exactly the fraction, unless the denominator is the least integer, which has
no absolute value (`IsFraction.exact`). The numerator never is the least integer: without a sign it
is not negative, and behind a sign it is the negative of an integer in range.

So a declaration that is accepted defines what is written in it (`Declared`), and one that is
refused by a fault negates the least integer (`Expansion.ofItem_declared`).
-/

namespace Metrology.Declaration

open Expansion (code arguments)

variable {expressions : Parser (List Token)} {settings : List Setting} {written : List Token}
  {f : Fraction}

/-! ## Ratios -/

/-- Whether the ratio of a fraction is calculated unless the denominator is the least integer, and
is exactly the fraction. -/
structure Fraction.Exact (f : Fraction) : Prop where
  returns_iff : Returns f.toRatio ↔ f.denominator ≠ .minValue
  value_eq : ∀ {r}, f.toRatio = .ok r → r.value = (f.numerator.toInt : ℚ) / f.denominator.toInt
  overflows : f.denominator = .minValue → f.toRatio = .error (.overflow .negation)

theorem IsNumerator.ne_minValue {n : Int64} (h : IsNumerator written n) : n ≠ .minValue := by
  rintro rfl
  have hmin : Int64.minValue.toInt = -2 ^ 63 := rfl
  cases h with
  | plain h => omega
  | @negated _ a _ _ ha =>
    have hlt := a.toInt_lt
    omega

theorem IsDenominator.ne_zero {d : Int64} (h : IsDenominator written d) : d ≠ 0 := by
  cases h with
  | absent => decide
  | given _ hd => exact hd

/-- A fraction as it is written divides by no zero, and its numerator has an absolute value. -/
theorem IsFraction.exact (h : IsFraction written f) : f.Exact := by
  obtain @⟨above, below, n, d, hn, hd⟩ := h
  refine ⟨⟨?_, fun hmin => ?_⟩, fun h => (Ratio.make_eq_ok_iff.1 h).2.2.2, fun hmin => ?_⟩
  · rintro ⟨r, hr⟩
    exact (Ratio.make_eq_ok_iff.1 hr).2.2.1
  · exact ⟨_, Ratio.make_eq_ok_iff.2 ⟨hd.ne_zero, hn.ne_minValue, hmin,
      Ratio.value_lowest hn.ne_minValue hmin hd.ne_zero⟩⟩
  · unfold Fraction.toRatio Ratio.make
    rw [dif_neg hd.ne_zero, dif_neg hn.ne_minValue, dif_pos hmin]

theorem isFraction_one : IsFraction [.literal ⟨"1", .whole 1⟩] .one := .whole 1 rfl "1"

/-! ## Code of ratios -/

/-- What the code of a ratio evaluates to: two integers are given to the construction of ratios. -/
inductive Evaluates : List Token → Calc Ratio → Prop
  | new {above below : List Token} {n d : Int64} (hn : IsInteger above n.toInt)
      (hd : IsInteger below d.toInt) :
      Evaluates [.word "crate", .path, .word "Rational", .path, .word "new",
        .group .parenthesis (above ++ .mark ',' :: below)] (Ratio.make n d)

/-- What the code of an origin evaluates to. -/
inductive EvaluatesOrigin : List Token → Option (Calc Ratio) → Prop
  | none : EvaluatesOrigin (code ":: core :: option :: Option :: None") none
  | some {written : List Token} {r : Calc Ratio} (h : Evaluates written r) :
      EvaluatesOrigin (code ":: core :: option :: Option :: Some" ++ [arguments [written]]) (some r)

theorem isInteger_integerTokens (n : Int64) : IsInteger (Fraction.integerTokens n) n.toInt := by
  have hsign : n < 0 ↔ n.toInt < 0 := Int64.lt_iff_toInt_lt
  obtain ⟨size, hsize⟩ : ∃ size, size = n.toInt.natAbs := ⟨_, rfl⟩
  unfold Fraction.integerTokens
  rw [← hsize]
  split
  · rename_i hneg
    have hvalue : n.toInt = -(size : ℤ) := by
      have := hsign.1 hneg
      omega
    exact hvalue ▸ .signed _ size
  · rename_i hneg
    have hvalue : n.toInt = size := by
      have := mt hsign.2 hneg
      omega
    exact hvalue ▸ .plain _ size

/-- Integer literals in front of other tokens have one value. -/
theorem IsInteger.unique_append {written' rest rest' : List Token} {x y : ℤ}
    (hx : IsInteger written x) (hy : IsInteger written' y)
    (h : written ++ rest = written' ++ rest') : x = y ∧ rest = rest' := by
  have hread : takeInteger (written ++ rest) = .ok (x, rest) := takeInteger_append hx
  rw [h, takeInteger_append hy] at hread
  obtain ⟨rfl, rfl⟩ := Prod.mk.inj (Except.ok.inj hread)
  exact ⟨rfl, rfl⟩

/-- The code of a fraction is the construction of its ratio and of no other. -/
theorem evaluates_tokens_iff {r : Calc Ratio} : Evaluates f.tokens r ↔ r = f.toRatio := by
  have hn := isInteger_integerTokens f.numerator
  have hd := isInteger_integerTokens f.denominator
  constructor
  · intro h
    unfold Fraction.tokens at h
    generalize hcode : Fraction.integerTokens f.numerator ++
      Token.mark ',' :: Fraction.integerTokens f.denominator = content at h
    obtain @⟨above, below, n, d, habove, hbelow⟩ := h
    obtain ⟨hnum, hrest⟩ := hn.unique_append habove hcode
    have hends := congrArg (· ++ []) (List.cons.inj hrest).2
    obtain ⟨hden, -⟩ := hd.unique_append hbelow hends
    unfold Fraction.toRatio
    rw [Int64.toInt_inj.1 hnum, Int64.toInt_inj.1 hden]
  · rintro rfl
    exact .new hn hd

namespace Expansion

theorem ne_group_of_mem_code {text : String} {token : Token} (h : token ∈ code text)
    (delimiter : Delimiter) (content : List Token) : token ≠ .group delimiter content := by
  obtain ⟨word, -, rfl⟩ := List.mem_map.1 h
  unfold tokenOf
  split
  · nofun
  · split
    · split <;> nofun
    · nofun

theorem arguments_singleton_inj {written written' : List Token}
    (h : arguments [written] = arguments [written']) : written = written' := by
  simpa [arguments] using h

/-- The code of an origin is that of the declared fraction, if there is one. -/
theorem evaluatesOrigin_iff {e : Expansion} {o : Option (Calc Ratio)} :
    EvaluatesOrigin e.originTokens o ↔ o = e.origin.map Fraction.toRatio := by
  have hgroup : ∀ {text text' : String} {written : List Token},
      code text ≠ code text' ++ [arguments [written]] := fun h =>
    ne_group_of_mem_code (h ▸ List.mem_append_right _ (List.mem_singleton_self _)) _ _ rfl
  unfold originTokens
  cases e.origin with
  | none =>
    constructor
    · intro h
      replace h : EvaluatesOrigin (code ":: core :: option :: Option :: None") o := h
      generalize hcode : code ":: core :: option :: Option :: None" = tokens at h
      cases h with
      | none => rfl
      | some h => exact absurd hcode hgroup
    · rintro rfl
      exact .none
  | some f =>
    constructor
    · intro h
      replace h : EvaluatesOrigin
        (code ":: core :: option :: Option :: Some" ++ [arguments [f.tokens]]) o := h
      generalize hcode : code ":: core :: option :: Option :: Some" ++ [arguments [f.tokens]] =
        tokens at h
      cases h with
      | none => exact absurd hcode.symm hgroup
      | some h =>
        have hwritten := (List.cons.inj (List.append_cancel_left hcode)).1
        rw [← arguments_singleton_inj hwritten] at h
        exact congrArg Option.some (evaluates_tokens_iff.1 h)
    · rintro rfl
      exact .some (evaluates_tokens_iff.2 rfl)

end Expansion

/-! ## Declarations -/

/-- Whether the unit attribute of an item holds given tokens. -/
def Item.Encloses (item : Item) (tokens : List Token) : Prop :=
  ∃ tag, item.tags.find? Tag.isUnit = some tag ∧ tag.arguments = .enclosed tokens

theorem Item.Encloses.unique {item : Item} {tokens others : List Token}
    (h : item.Encloses tokens) (h' : item.Encloses others) : tokens = others := by
  obtain ⟨tag, htag, harguments⟩ := h
  obtain ⟨tag', htag', harguments'⟩ := h'
  obtain rfl := Option.some.inj (htag.symm.trans htag')
  exact Arguments.enclosed.inj (harguments.symm.trans harguments')

/-- The attribute of an item is read from the tokens that it holds. Without tokens there is no
attribute, and no calculation. -/
theorem Item.unitAttribute_cases (item : Item) (expressions : Parser (List Token)) :
    (∃ tokens, item.Encloses tokens ∧
      item.unitAttribute expressions = Attribute.ofTokens expressions tokens) ∨
    (∀ tokens, ¬ item.Encloses tokens) ∧
      ∃ failure, (∀ cause, failure ≠ .fault cause) ∧
        item.unitAttribute expressions = .error failure := by
  unfold Item.unitAttribute Item.Encloses
  rcases item.tags.find? Tag.isUnit with _ | ⟨path, _ | tokens | _⟩
  · exact .inr ⟨fun _ ⟨_, h, _⟩ => (nomatch h), .noAttribute, nofun, rfl⟩
  · refine .inr ⟨fun tokens ⟨tag, htag, harguments⟩ => ?_, .bareAttribute, nofun, rfl⟩
    exact absurd (Option.some.inj htag ▸ harguments) nofun
  · exact .inl ⟨tokens, ⟨_, rfl, rfl⟩, rfl⟩
  · refine .inr ⟨fun tokens ⟨tag, htag, harguments⟩ => ?_, .assignedAttribute, nofun, rfl⟩
    exact absurd (Option.some.inj htag ▸ harguments) nofun

/-- A field that is filled is the value of some entry. -/
theorem Holds.exists_setting {α : Type} {r : List Token → α → Prop} {key : String} {x : α}
    (h : Holds r key settings (some x)) : ∃ s ∈ settings, s.key = key ∧ r s.value x := by
  unfold Holds at h
  generalize hlast : lastUnder key settings = last at h
  cases h with
  | some hx =>
    obtain ⟨s, hs, hkey, rfl⟩ := mem_valuesUnder.1 (List.mem_of_getLast? hlast)
    exact ⟨s, hs, hkey, hx⟩

theorem numerator_ne_zero {IsExpression : List Token → Prop}
    (hsaid : ∀ s ∈ settings, ∃ entry, Says IsExpression s.key s.value entry)
    (h : Holds IsFraction "magnitude" settings (some f)) : f.numerator ≠ 0 := by
  obtain ⟨s, hs, hkey, hf⟩ := h.exists_setting
  obtain ⟨entry, hentry⟩ := hsaid s hs
  cases entry with
  | symbol l => exact absurd (hkey.symm.trans hentry.1) (by decide)
  | dimension e => exact absurd (hkey.symm.trans hentry.1) (by decide)
  | magnitude g =>
    obtain ⟨-, hg, hne⟩ := hentry
    exact hf.unique hg ▸ hne
  | origin g => exact absurd (hkey.symm.trans hentry.1) (by decide)

/-- Whether an expansion defines what is written in a declaration: the magnitude, or one, and it is
not zero; the origin where one is given; and the unit of differences that goes with it. The code of
each fraction makes its ratio. -/
structure Declared (settings : List Setting) (e : Expansion) : Prop where
  symbol : Holds IsText "symbol" settings (some e.symbol)
  dimension : Holds Eq "dimension" settings (some e.dimension)
  magnitude : ∃ written, Holds IsFraction "magnitude" settings written ∧
    e.magnitude = written.getD .one
  origin : Holds IsFraction "origin" settings e.origin
  numerator_ne_zero : e.magnitude.numerator ≠ 0
  magnitude_ne_zero : ∀ r, e.magnitude.toRatio = .ok r → r.value ≠ 0
  exact : ∀ f, f = e.magnitude ∨ e.origin = some f → f.Exact
  evaluates_magnitude : ∀ r, Evaluates e.magnitude.tokens r ↔ r = e.magnitude.toRatio
  evaluates_origin : ∀ o, EvaluatesOrigin e.originTokens o ↔ o = e.origin.map Fraction.toRatio
  absolute_iff : e.origin.isSome = true ↔ ∃ s ∈ settings, s.key = "origin"
  difference : e.differenceTokens =
    if e.origin.isSome then code "crate :: Relative <" ++ [.word e.name, .mark '>']
    else [.word e.name]

theorem value_ne_zero_of_toRatio {r : Ratio} (hf : f.numerator ≠ 0) (h : f.toRatio = .ok r) :
    r.value ≠ 0 := by
  obtain ⟨hd, -, -, hvalue⟩ := Ratio.make_eq_ok_iff.1 h
  have hnum : (f.numerator.toInt : ℚ) ≠ 0 := by
    exact_mod_cast fun h0 => hf (Int64.toInt_inj.1 h0)
  have hden : (f.denominator.toInt : ℚ) ≠ 0 := by
    exact_mod_cast fun h0 => hd (Int64.toInt_inj.1 h0)
  exact hvalue ▸ div_ne_zero hnum hden

theorem Attribute.numerator_ne_zero {a : Attribute} {IsExpression : List Token → Prop}
    (hsaid : ∀ s ∈ settings, ∃ entry, Says IsExpression s.key s.value entry)
    (h : a.draft.SaidBy settings) : (a.magnitude.getD .one).numerator ≠ 0 := by
  obtain ⟨_, _, _ | f, _⟩ := a
  · exact (by decide : (1 : Int64) ≠ 0)
  · exact Declaration.numerator_ne_zero hsaid h.magnitude

theorem Attribute.declared (name : String) {a : Attribute} {IsExpression : List Token → Prop}
    (hsaid : ∀ s ∈ settings, ∃ entry, Says IsExpression s.key s.value entry)
    (h : a.draft.SaidBy settings) : Declared settings (.ofAttribute name a) where
  symbol := h.symbol
  dimension := h.dimension
  magnitude := ⟨a.magnitude, h.magnitude, rfl⟩
  origin := h.origin
  numerator_ne_zero := numerator_ne_zero hsaid h
  magnitude_ne_zero _ hr := value_ne_zero_of_toRatio (numerator_ne_zero hsaid h) hr
  exact f hf := by
    rcases hf with rfl | hf
    · obtain ⟨_, _, _ | f, _⟩ := a
      · exact isFraction_one.exact
      · obtain ⟨_, -, -, hf⟩ := Holds.exists_setting h.magnitude
        exact hf.exact
    · have horigin : Holds IsFraction "origin" settings (some f) := hf ▸ h.origin
      obtain ⟨_, -, -, hf⟩ := horigin.exists_setting
      exact hf.exact
  evaluates_magnitude _ := evaluates_tokens_iff
  evaluates_origin _ := Expansion.evaluatesOrigin_iff
  absolute_iff := h.origin.isSome_iff
  difference := by
    obtain ⟨_, _, _, _ | f⟩ := a <;> rfl

namespace Expansion

/-- With any parser of expressions that keeps its tokens, a declaration is stopped by a fault when a
fraction in it negates the least integer, and by no other. Where it is accepted, its attribute is a
list of entries, and it defines what they declare. -/
theorem ofItem_declared (hexpressions : Orderly expressions) (item : Item) :
    (∀ cause, ofItem item expressions = .error (.fault cause) ↔
      cause = .overflow .negation ∧ ∃ tokens, item.Encloses tokens ∧
        ∃ entries left, Reads expressions tokens entries left ∧ Entry.NegatesLeast left) ∧
    ∀ e, ofItem item expressions = .ok e →
      e.name = item.name ∧ ∃ settings, item.Encloses (tokensOf settings) ∧ Declared settings e := by
  have hfault : ∀ cause, ofItem item expressions = .error (.fault cause) ↔
      item.unitAttribute expressions = .error (.fault cause) :=
    fun cause => bind_eq_error_iff.trans (or_iff_left fun ⟨_, _, h⟩ => nomatch h)
  rcases item.unitAttribute_cases expressions with
    ⟨tokens, htokens, hattribute⟩ | ⟨hnone, failure, hne, hattribute⟩
  · refine ⟨fun cause => ?_, fun e h => ?_⟩
    · rw [hfault, hattribute, Attribute.ofTokens_eq_fault_iff hexpressions]
      refine and_congr_right fun _ => ⟨fun h => ⟨tokens, htokens, h⟩, ?_⟩
      rintro ⟨others, hothers, h⟩
      exact htokens.unique hothers ▸ h
    · obtain ⟨a, ha, h⟩ := bind_eq_ok_iff.1 h
      obtain rfl := Except.ok.inj h
      obtain ⟨settings, rfl, hsaid, hdraft⟩ :=
        Attribute.ofTokens_sound hexpressions (hattribute.symm.trans ha)
      exact ⟨rfl, settings, htokens, Attribute.declared item.name hsaid hdraft⟩
  · refine ⟨fun cause => ?_, fun e h => ?_⟩
    · rw [hfault, hattribute]
      refine iff_of_false (fun h => hne cause (Except.error.inj h)) ?_
      rintro ⟨-, tokens, htokens, -⟩
      exact hnone tokens htokens
    · obtain ⟨a, ha, -⟩ := bind_eq_ok_iff.1 h
      exact absurd (hattribute.symm.trans ha) nofun

/-- An item with a unit attribute of given entries. -/
def itemOf (name : String) (settings : List Setting) : Item where
  tags := [⟨[.word "unit"], .enclosed (tokensOf settings)⟩]
  name := name

/-- A degree Fahrenheit: its size and its zero are the fractions in the code, and its differences
are measured in its relative counterpart. -/
theorem ofItem_declared_fahrenheit :
    Orderly takeDimension ∧ ∃ e : Expansion,
      ofItem (itemOf "Fahrenheit" Attribute.fahrenheit) takeDimension = .ok e ∧
      Evaluates e.magnitude.tokens (Ratio.make 5 9) ∧
      EvaluatesOrigin e.originTokens (some (Ratio.make 45967 100)) ∧
      (∀ r, Ratio.make 5 9 = .ok r → r.value ≠ 0) ∧
      e.differenceTokens = code "crate :: Relative <" ++ [.word "Fahrenheit", .mark '>'] := by
  obtain ⟨e, he, hmagnitude, horigin⟩ : ∃ e : Expansion,
      ofItem (itemOf "Fahrenheit" Attribute.fahrenheit) takeDimension = .ok e ∧
      e.magnitude = ⟨5, 9⟩ ∧ e.origin = some ⟨45967, 100⟩ := ⟨_, rfl, rfl, rfl⟩
  obtain ⟨-, haccepted⟩ :=
    ofItem_declared orderly_takeDimension (itemOf "Fahrenheit" Attribute.fahrenheit)
  obtain ⟨hname, settings, -, h⟩ := haccepted e he
  refine ⟨orderly_takeDimension, e, he, ?_, ?_, ?_, ?_⟩
  · rw [h.evaluates_magnitude, hmagnitude]
    rfl
  · rw [h.evaluates_origin, horigin]
    rfl
  · intro r hr
    exact h.magnitude_ne_zero r (hmagnitude ▸ hr)
  · rw [h.difference, horigin, hname]
    rfl

/-- An origin that negates the least integer stops a declaration, and a magnitude over the least
integer is accepted and cannot be calculated. -/
theorem ofItem_minValue_overflows :
    ∃ (least : Token) (start : List Setting) (origin magnitude : List Token) (e : Expansion),
      least = .literal ⟨"9223372036854775808", .whole 0x8000000000000000⟩ ∧
      start = [.mk "symbol" [.literal ⟨"\"x\"", .text "x"⟩] true,
        .mk "dimension" [.word "LENGTH"] true] ∧
      origin = [.mark '-', .mark '-', least] ∧
      magnitude = [.literal ⟨"1", .whole 1⟩, .mark '/', .mark '-', least] ∧
      ofItem (itemOf "X" (start ++ [.mk "origin" origin false])) =
        .error (.fault (.overflow .negation)) ∧
      ofItem (itemOf "X" (start ++ [.mk "magnitude" magnitude false])) = .ok e ∧
      Evaluates e.magnitude.tokens (.error (.overflow .negation)) := by
  refine ⟨_, _, _, _, _, rfl, rfl, rfl, rfl, rfl, rfl, ?_⟩
  exact evaluates_tokens_iff.2 rfl

end Expansion

end Metrology.Declaration
