import Metrology.Proofs.Declaration.Attribute
import Metrology.Proofs.Declaration.Orderly

/-!
# How entries are read

`Reads` is a run of readings, one entry after another. Whatever an orderly parser of expressions
does, a run meets nothing but entries as they are written (`Reads.exists_settings`), and an
attribute is refused where a run comes to tokens that are no entry (`takeAll_eq_error_iff`).

Only one calculation is made on the way, the negation of a numerator. It fails for the least
integer, which has to be written with a sign of its own behind the sign of the fraction
(`NegatesLeast`). So the faults of an attribute are those of the runs that come to such a fraction
(`Attribute.ofTokens_eq_fault_iff`).
-/

namespace Metrology.Declaration

variable {expressions : Parser (List Token)} {tokens rest left written : List Token} {key : String}
  {entry : Entry} {entries : List Entry} {cause : Fault}

/-! ## Fractions -/

/-- Whether tokens begin with a minus sign in front of the least integer. -/
inductive NegatesLeast : List Token → Prop
  | intro (spelling : String) (rest : List Token) :
      NegatesLeast
        (.mark '-' :: .mark '-' :: .literal ⟨spelling, .whole 0x8000000000000000⟩ :: rest)

theorem faultless_takeInteger (tokens : List Token) : Faultless (takeInteger tokens) := by
  unfold takeInteger
  split
  · exact faultless_ok _
  · exact faultless_ok _
  · exact faultless_missing _ _

theorem faultless_takeComponent (tokens : List Token) : Faultless (takeComponent tokens) := by
  refine (faultless_takeInteger tokens).bind fun ⟨x, rest⟩ => ?_
  refine Faultless.bind ?_ fun _ => faultless_ok _
  unfold component
  split
  · exact faultless_ok _
  · split <;> nofun

/-- The least integer is written with a sign. -/
theorem isInteger_minValue_iff :
    IsInteger written Int64.minValue.toInt ↔
      ∃ spelling, written = [.mark '-', .literal ⟨spelling, .whole 0x8000000000000000⟩] := by
  have hmin : Int64.minValue.toInt = -(0x8000000000000000 : ℕ) := rfl
  constructor
  · intro h
    generalize hx : Int64.minValue.toInt = x at h
    rw [hmin] at hx
    cases h with
    | plain spelling n => exact absurd hx (by omega)
    | signed spelling n =>
      obtain rfl : 0x8000000000000000 = n := by omega
      exact ⟨spelling, rfl⟩
  · rintro ⟨spelling, rfl⟩
    exact hmin ▸ .signed spelling 0x8000000000000000

/-- Only the least integer has no negative. -/
theorem neg?_eq_none_iff {n : Int64} : Bounded.neg? n = none ↔ n = .minValue := by
  constructor
  · intro h
    by_contra hn
    have hlt := Ratio.natAbs_toInt_lt hn
    have hneg : (Int64.ofInt (-n.toInt)).toInt = -n.toInt := by
      apply Int64.toInt_ofInt_of_le <;> omega
    exact absurd (h.symm.trans (Bounded.neg?_eq_some_iff.2 hneg)) nofun
  · rintro rfl
    decide

namespace Fraction

theorem takeNumerator_eq_fault_iff :
    takeNumerator tokens = .error (.fault cause) ↔
      cause = .overflow .negation ∧ NegatesLeast tokens := by
  constructor
  · intro h
    unfold takeNumerator at h
    split at h
    · rename_i behind
      obtain ⟨⟨n, rest⟩, hn, hnegate⟩ :=
        (bind_eq_error_iff.1 h).resolve_left (faultless_takeComponent behind cause)
      have hfault := (bind_eq_error_iff.1 hnegate).resolve_right fun ⟨_, _, hok⟩ => nomatch hok
      rcases hneg : Bounded.neg? n with _ | m
      · rw [hneg] at hfault
        obtain ⟨written, rfl, hwritten⟩ := takeComponent_sound hn
        rw [neg?_eq_none_iff.1 hneg] at hwritten
        obtain ⟨spelling, rfl⟩ := isInteger_minValue_iff.1 hwritten
        exact ⟨(DeclarationError.fault.inj (Except.error.inj hfault)).symm, .intro spelling rest⟩
      · rw [hneg] at hfault
        cases hfault
    · exact absurd h (faultless_takeComponent _ cause)
  · rintro ⟨rfl, spelling, rest⟩
    rfl

theorem faultless_takeDenominator (tokens : List Token) : Faultless (takeDenominator tokens) := by
  unfold takeDenominator
  split
  · refine (faultless_takeComponent _).bind fun ⟨n, rest⟩ => ?_
    show Faultless (if n = 0 then _ else _)
    split <;> nofun
  · exact faultless_ok _

/-- The only fault of a fraction is that of its numerator. -/
theorem take_eq_fault_iff :
    take tokens = .error (.fault cause) ↔ cause = .overflow .negation ∧ NegatesLeast tokens := by
  have hrest : ∀ x : Int64 × List Token, Faultless (do
      let y ← takeDenominator x.2
      return ((⟨x.1, y.1⟩ : Fraction), y.2)) :=
    fun x => (faultless_takeDenominator x.2).bind fun _ => faultless_ok _
  rw [← takeNumerator_eq_fault_iff]
  refine bind_eq_error_iff.trans (or_iff_left ?_)
  rintro ⟨x, -, h⟩
  exact hrest x cause h

end Fraction

/-! ## One entry -/

namespace Entry

/-- Whether tokens begin with an entry whose fraction negates the least integer. -/
inductive NegatesLeast : List Token → Prop
  | intro {key : String} {value : List Token} (hkey : key = "magnitude" ∨ key = "origin")
      (h : Declaration.NegatesLeast value) : NegatesLeast (.word key :: .mark '=' :: value)

theorem takeMagnitude_eq_fault_iff :
    takeMagnitude tokens = .error (.fault cause) ↔
      Fraction.take tokens = .error (.fault cause) := by
  have hrest : ∀ x : Fraction × List Token, Faultless (do
      if x.1.numerator = 0 then throw .zeroMagnitude
      return (Entry.magnitude x.1, x.2)) := by
    intro x
    show Faultless (if x.1.numerator = 0 then _ else _)
    split <;> nofun
  exact bind_eq_error_iff.trans (or_iff_left fun ⟨x, _, h⟩ => hrest x cause h)

theorem faultless_takeText (tokens : List Token) : Faultless (takeText tokens) := by
  unfold takeText
  split
  · exact faultless_ok _
  · exact faultless_missing _ _

theorem takeValue_eq_fault_iff (hexpressions : Orderly expressions) :
    takeValue expressions key tokens = .error (.fault cause) ↔
      (key = "magnitude" ∨ key = "origin") ∧ Fraction.take tokens = .error (.fault cause) := by
  unfold takeValue
  split
  · refine iff_of_false (fun h => ?_) fun h => absurd h.1 (by decide)
    exact faultless_takeText tokens cause (map_eq_error_iff.1 h)
  · refine iff_of_false (fun h => ?_) fun h => absurd h.1 (by decide)
    exact hexpressions.faultless tokens cause (map_eq_error_iff.1 h)
  · rw [takeMagnitude_eq_fault_iff, and_iff_right (by decide)]
  · rw [map_eq_error_iff, and_iff_right (by decide)]
  · rename_i hmagnitude horigin
    refine iff_of_false nofun fun h => ?_
    exact h.1.elim hmagnitude horigin

theorem take_eq_fault_iff (hexpressions : Orderly expressions) :
    take expressions tokens = .error (.fault cause) ↔
      cause = .overflow .negation ∧ NegatesLeast tokens := by
  constructor
  · intro h
    obtain ⟨⟨key, behind⟩, hkey, h⟩ :=
      (bind_eq_error_iff.1 h).resolve_left (faultless_takeName tokens cause)
    obtain ⟨⟨_, value⟩, hequals, h⟩ :=
      (bind_eq_error_iff.1 h).resolve_left (faultless_takeMark _ _ behind cause)
    have hvalue := (bind_eq_error_iff.1 h).resolve_right fun ⟨_, _, hok⟩ => nomatch hok
    obtain ⟨rfl, -⟩ := takeName_eq_ok_iff.1 hkey
    obtain rfl := takeMark_eq_ok_iff.1 hequals
    obtain ⟨hkeys, hfraction⟩ := (takeValue_eq_fault_iff hexpressions).1 hvalue
    obtain ⟨hcause, hleast⟩ := Fraction.take_eq_fault_iff.1 hfraction
    exact ⟨hcause, .intro hkeys hleast⟩
  · rintro ⟨rfl, @⟨key, value, hkey, hleast⟩⟩
    have hname : reservedWords.contains key = false := by
      rcases hkey with rfl | rfl <;> decide
    have hvalue := (takeValue_eq_fault_iff hexpressions).2
      ⟨hkey, Fraction.take_eq_fault_iff.2 ⟨rfl, hleast⟩⟩
    refine bind_eq_error_iff.2 (.inr ⟨_, takeName_word hname _, ?_⟩)
    refine bind_eq_error_iff.2 (.inr ⟨(⟨⟩, value), takeMark_eq_ok_iff.2 rfl, ?_⟩)
    exact bind_eq_error_iff.2 (.inl hvalue)

theorem takeText_sound {l : Literal} (h : takeText tokens = .ok (l, rest)) :
    ∃ written, tokens = written ++ rest ∧ IsText written l := by
  unfold takeText at h
  split at h
  · obtain ⟨rfl, rfl⟩ := Prod.mk.inj (Except.ok.inj h)
    exact ⟨[_], rfl, .intro _ _⟩
  · cases h

/-- Only values of a key are read under it. -/
theorem takeValue_sound (hexpressions : Orderly expressions)
    (h : takeValue expressions key tokens = .ok (entry, rest)) :
    ∃ written, tokens = written ++ rest ∧ Says (fun _ => True) key written entry := by
  unfold takeValue at h
  split at h
  · obtain ⟨⟨l, _⟩, hl, h⟩ := map_eq_ok_iff.1 h
    obtain ⟨rfl, rfl⟩ := Prod.mk.inj h
    obtain ⟨written, htokens, hwritten⟩ := takeText_sound hl
    exact ⟨written, htokens, rfl, hwritten⟩
  · obtain ⟨⟨e, _⟩, he, h⟩ := map_eq_ok_iff.1 h
    obtain ⟨rfl, rfl⟩ := Prod.mk.inj h
    exact ⟨e, hexpressions.taken he, rfl, trivial, rfl⟩
  · obtain ⟨⟨f, _⟩, hf, h⟩ := bind_eq_ok_iff.1 h
    obtain ⟨written, htokens, hwritten⟩ := Fraction.take_sound hf
    replace h : (if f.numerator = 0 then _ else _) = _ := h
    split at h
    · cases h
    · rename_i hne
      obtain ⟨rfl, rfl⟩ := Prod.mk.inj (Except.ok.inj h)
      exact ⟨written, htokens, rfl, hwritten, hne⟩
  · obtain ⟨⟨f, _⟩, hf, h⟩ := map_eq_ok_iff.1 h
    obtain ⟨rfl, rfl⟩ := Prod.mk.inj h
    obtain ⟨written, htokens, hwritten⟩ := Fraction.take_sound hf
    exact ⟨written, htokens, rfl, hwritten⟩
  · cases h

theorem dropComma_sound (tokens : List Token) :
    ∃ comma : Bool, tokens = (if comma then [.mark ','] else []) ++ dropComma tokens := by
  unfold dropComma
  split
  · exact ⟨true, rfl⟩
  · exact ⟨false, rfl⟩

/-- Only entries as they are written are read. -/
theorem take_sound (hexpressions : Orderly expressions)
    (h : take expressions tokens = .ok (entry, rest)) :
    ∃ s : Setting, tokens = s.tokens ++ rest ∧ Says (fun _ => True) s.key s.value entry := by
  obtain ⟨⟨key, _⟩, hkey, h⟩ := bind_eq_ok_iff.1 h
  obtain ⟨⟨_, _⟩, hequals, h⟩ := bind_eq_ok_iff.1 h
  obtain ⟨⟨_, behind⟩, hvalue, h⟩ := bind_eq_ok_iff.1 h
  obtain ⟨rfl, rfl⟩ := Prod.mk.inj (Except.ok.inj h)
  obtain ⟨rfl, hname⟩ := takeName_eq_ok_iff.1 hkey
  obtain rfl := takeMark_eq_ok_iff.1 hequals
  obtain ⟨written, rfl, hsaid⟩ := takeValue_sound hexpressions hvalue
  obtain ⟨comma, hcomma⟩ := dropComma_sound behind
  refine ⟨⟨key, written, comma, hname⟩, ?_, hsaid⟩
  unfold Setting.tokens
  rw [List.cons_append, List.cons_append, List.append_assoc, ← hcomma]

end Entry

/-! ## Runs of readings -/

/-- Whether entries are read one after another, up to what is left. -/
inductive Reads (expressions : Parser (List Token)) :
    List Token → List Entry → List Token → Prop
  | nil (tokens : List Token) : Reads expressions tokens [] tokens
  | cons {tokens rest left : List Token} {entry : Entry} {entries : List Entry}
      (h : Entry.take expressions tokens = .ok (entry, rest))
      (hrest : Reads expressions rest entries left) :
      Reads expressions tokens (entry :: entries) left

/-- What is read are entries as they are written. -/
theorem Reads.exists_settings (hexpressions : Orderly expressions)
    (h : Reads expressions tokens entries left) :
    ∃ settings, tokens = tokensOf settings ++ left ∧
      List.Forall₂ (fun s => Says (fun _ => True) s.key s.value) settings entries := by
  induction h with
  | nil tokens => exact ⟨[], rfl, .nil⟩
  | cons h _ ih =>
    obtain ⟨s, rfl, hs⟩ := Entry.take_sound hexpressions h
    obtain ⟨settings, rfl, hsettings⟩ := ih
    exact ⟨s :: settings, (List.append_assoc ..).symm, .cons hs hsettings⟩

theorem length_lt_of_take (hexpressions : Orderly expressions)
    (h : Entry.take expressions tokens = .ok (entry, rest)) : rest.length < tokens.length := by
  obtain ⟨s, rfl, -⟩ := Entry.take_sound hexpressions h
  have hlength : 0 < s.tokens.length := Nat.zero_lt_succ _
  rw [List.length_append]
  omega

/-- There is no entry at the end. -/
theorem Reads.left_eq_nil (hexpressions : Orderly expressions)
    (h : Reads expressions [] entries left) : left = [] := by
  cases h with
  | nil => rfl
  | cons htake _ => exact absurd (length_lt_of_take hexpressions htake) (Nat.not_lt_zero _)

theorem reads_of_takeAll {fuel : ℕ} (h : Entry.takeAll expressions fuel tokens = .ok entries) :
    Reads expressions tokens entries [] := by
  induction fuel generalizing tokens entries with
  | zero =>
    cases tokens with
    | nil =>
      obtain rfl := Except.ok.inj h
      exact .nil []
    | cons token tokens => cases h
  | succ fuel ih =>
    by_cases hnil : tokens = []
    · subst hnil
      obtain rfl := Except.ok.inj h
      exact .nil []
    · obtain ⟨entry, rest, others, htake, hothers, rfl⟩ := (takeAll_succ_eq_ok_iff hnil).1 h
      exact .cons htake (ih hothers)

/-- A reading fails where a run comes to tokens that are no entry. -/
theorem takeAll_eq_error_iff (hexpressions : Orderly expressions) {failure : DeclarationError}
    {fuel : ℕ} (hfuel : tokens.length ≤ fuel) :
    Entry.takeAll expressions fuel tokens = .error failure ↔
      ∃ entries left, Reads expressions tokens entries left ∧ left ≠ [] ∧
        Entry.take expressions left = .error failure := by
  induction fuel generalizing tokens with
  | zero =>
    obtain rfl := List.length_eq_zero_iff.1 (Nat.le_zero.1 hfuel)
    refine iff_of_false nofun ?_
    rintro ⟨entries, left, hreads, hne, -⟩
    exact hne (hreads.left_eq_nil hexpressions)
  | succ fuel ih =>
    cases tokens with
    | nil =>
      refine iff_of_false nofun ?_
      rintro ⟨entries, left, hreads, hne, -⟩
      exact hne (hreads.left_eq_nil hexpressions)
    | cons token tokens =>
      refine bind_eq_error_iff.trans ?_
      constructor
      · rintro (h | ⟨⟨entry, rest⟩, htake, h⟩)
        · exact ⟨[], _, .nil _, List.cons_ne_nil _ _, h⟩
        · have hlength := length_lt_of_take hexpressions htake
          have hrest := (bind_eq_error_iff.1 h).resolve_right fun ⟨_, _, hok⟩ => nomatch hok
          obtain ⟨entries, left, hreads, hleft⟩ := (ih (by omega)).1 hrest
          exact ⟨entry :: entries, left, .cons htake hreads, hleft⟩
      · rintro ⟨entries, left, hreads, hne, hfailure⟩
        cases hreads with
        | nil => exact .inl hfailure
        | @cons _ rest _ entry entries htake hreads =>
          have hlength := length_lt_of_take hexpressions htake
          refine .inr ⟨(entry, rest), htake, bind_eq_error_iff.2 (.inl ?_)⟩
          exact (ih (by omega)).2 ⟨entries, left, hreads, hne, hfailure⟩

/-! ## Attributes -/

namespace Attribute

/-- The faults of an attribute are those of the runs that come to a fraction that negates the least
integer. -/
theorem ofTokens_eq_fault_iff (hexpressions : Orderly expressions) :
    ofTokens expressions tokens = .error (.fault cause) ↔
      cause = .overflow .negation ∧
        ∃ entries left, Reads expressions tokens entries left ∧ Entry.NegatesLeast left := by
  have hfinish : ∀ draft : Draft, Faultless draft.finish := by
    rintro ⟨_ | symbol, _ | dimension, magnitude, origin⟩ <;> nofun
  have hread : ofTokens expressions tokens = .error (.fault cause) ↔
      Entry.takeAll expressions tokens.length tokens = .error (.fault cause) :=
    bind_eq_error_iff.trans (or_iff_left fun ⟨_, _, h⟩ => hfinish _ cause h)
  rw [hread, takeAll_eq_error_iff hexpressions (Nat.le_refl _)]
  simp only [Entry.take_eq_fault_iff hexpressions]
  constructor
  · rintro ⟨entries, left, hreads, -, hcause, hleast⟩
    exact ⟨hcause, entries, left, hreads, hleast⟩
  · rintro ⟨hcause, entries, left, hreads, hleast⟩
    refine ⟨entries, left, hreads, ?_, hcause, hleast⟩
    rintro rfl
    cases hleast

/-- Only attributes as they are written are read. -/
theorem ofTokens_sound (hexpressions : Orderly expressions) {a : Attribute}
    (h : ofTokens expressions tokens = .ok a) :
    ∃ settings, tokens = tokensOf settings ∧
      (∀ s ∈ settings, ∃ entry, Says (fun _ => True) s.key s.value entry) ∧
      a.draft.SaidBy settings := by
  obtain ⟨entries, hentries, h⟩ := bind_eq_ok_iff.1 h
  obtain ⟨settings, htokens, hsaid⟩ := (reads_of_takeAll hentries).exists_settings hexpressions
  rw [List.append_nil] at htokens
  refine ⟨settings, htokens, exists_forall₂_iff.1 ⟨entries, hsaid⟩, ?_⟩
  unfold draft
  rw [← Draft.finish_eq_ok_iff.1 h]
  exact Draft.saidBy_ofEntries hsaid

end Attribute

end Metrology.Declaration
