import Mathlib.Data.List.Forall2
import Mathlib.Data.List.Nodup
import Metrology.Proofs.Declaration.Setting
import Metrology.Proofs.Fault.Results

/-!
# Attributes as they are written

The entries of an attribute are put together one by one, and a field `Holds` what the last value of
its key stands for. `Draft.SaidBy` says so of the four fields, and every entry keeps it
(`Draft.SaidBy.put`).

What an attribute says depends only on what is written under each key, and in which order. Entries
can be `Rearranged` in every way that leaves this alone: entries of different keys may change
places, and commas may be written or left out.
-/

namespace Metrology.Declaration

variable {IsExpression : List Token → Prop} {expressions : Parser (List Token)}
  {settings others : List Setting} {s : Setting} {key : String} {written : List Token}
  {entry : Entry} {entries : List Entry}

/-! ## The last value of a key -/

/-- The values under a key, in order. -/
def valuesUnder (key : String) (settings : List Setting) : List (List Token) :=
  (settings.filter fun s => s.key = key).map Setting.value

theorem valuesUnder_cons (key : String) (s : Setting) (settings : List Setting) :
    valuesUnder key (s :: settings) =
      if s.key = key then s.value :: valuesUnder key settings else valuesUnder key settings := by
  unfold valuesUnder
  rw [List.filter_cons]
  by_cases h : s.key = key
  · simp [h]
  · simp [h]

/-- The last value under a key. -/
def lastUnder (key : String) (settings : List Setting) : Option (List Token) :=
  (valuesUnder key settings).getLast?

theorem lastUnder_append_of_eq (h : s.key = key) (settings : List Setting) :
    lastUnder key (settings ++ [s]) = some s.value := by
  simp [lastUnder, valuesUnder, h]

theorem lastUnder_append_of_ne (h : s.key ≠ key) (settings : List Setting) :
    lastUnder key (settings ++ [s]) = lastUnder key settings := by
  simp [lastUnder, valuesUnder, h]

theorem mem_valuesUnder {value : List Token} :
    value ∈ valuesUnder key settings ↔ ∃ s ∈ settings, s.key = key ∧ s.value = value := by
  simp [valuesUnder, and_assoc]

/-- Whether a field of an attribute holds what the last value of its key stands for. -/
def Holds {α : Type} (r : List Token → α → Prop) (key : String) (settings : List Setting)
    (field : Option α) : Prop := Option.Rel r (lastUnder key settings) field

section Holds

variable {α : Type} {r : List Token → α → Prop} {x : α} {field other : Option α}

theorem holds_append_of_eq (h : s.key = key) (hx : r s.value x) :
    Holds r key (settings ++ [s]) (some x) := by
  unfold Holds
  rw [lastUnder_append_of_eq h]
  exact .some hx

theorem Holds.append_of_ne (h : Holds r key settings field) (hkey : s.key ≠ key) :
    Holds r key (settings ++ [s]) field := by
  unfold Holds
  rwa [lastUnder_append_of_ne hkey]

theorem Holds.unique (hr : ∀ v x y, r v x → r v y → x = y) (h : Holds r key settings field)
    (h' : Holds r key settings other) : field = other := by
  unfold Holds at h h'
  generalize lastUnder key settings = last at h h'
  cases h with
  | none =>
    cases h'
    rfl
  | some hx =>
    cases h' with
    | some hy => rw [hr _ _ _ hx hy]

theorem Holds.isSome_iff (h : Holds r key settings field) :
    field.isSome = true ↔ ∃ s ∈ settings, s.key = key := by
  have hlast : (lastUnder key settings).isSome = true ↔ ∃ s ∈ settings, s.key = key := by
    simp [lastUnder, valuesUnder]
  rw [← hlast]
  unfold Holds at h
  generalize lastUnder key settings = last at h
  cases h <;> rfl

end Holds

theorem IsText.unique {l m : Literal} (h : IsText written l) (h' : IsText written m) : l = m := by
  cases h
  cases h'
  rfl

/-- Whether a draft says the last of what is written under every key. -/
structure Draft.SaidBy (settings : List Setting) (draft : Draft) : Prop where
  symbol : Holds IsText "symbol" settings draft.symbol
  dimension : Holds Eq "dimension" settings draft.dimension
  magnitude : Holds IsFraction "magnitude" settings draft.magnitude
  origin : Holds IsFraction "origin" settings draft.origin

namespace Draft

variable {draft other : Draft} {a : Attribute}

theorem saidBy_empty : empty.SaidBy [] := ⟨.none, .none, .none, .none⟩

theorem SaidBy.unique (h : draft.SaidBy settings) (h' : other.SaidBy settings) : draft = other := by
  obtain ⟨_, _, _, _⟩ := draft
  obtain ⟨_, _, _, _⟩ := other
  rw [Draft.mk.injEq]
  have hfraction : ∀ v f g, IsFraction v f → IsFraction v g → f = g :=
    fun _ _ _ hf hg => hf.unique hg
  exact ⟨h.symbol.unique (fun _ _ _ hl hm => hl.unique hm) h'.symbol,
    h.dimension.unique (fun _ _ _ hx hy => hx.symm.trans hy) h'.dimension,
    h.magnitude.unique hfraction h'.magnitude, h.origin.unique hfraction h'.origin⟩

/-- One more entry changes the field of its key and leaves the others alone. -/
theorem SaidBy.put (h : draft.SaidBy settings) (hsaid : Says IsExpression s.key s.value entry) :
    (draft.put entry).SaidBy (settings ++ [s]) := by
  have hne : ∀ {name key : String}, s.key = name → name ≠ key → s.key ≠ key :=
    fun hname hkey => hname ▸ hkey
  cases entry with
  | symbol l =>
    obtain ⟨hkey, hl⟩ := hsaid
    exact ⟨holds_append_of_eq hkey hl, h.dimension.append_of_ne (hne hkey (by decide)),
      h.magnitude.append_of_ne (hne hkey (by decide)),
      h.origin.append_of_ne (hne hkey (by decide))⟩
  | dimension e =>
    obtain ⟨hkey, -, he⟩ := hsaid
    exact ⟨h.symbol.append_of_ne (hne hkey (by decide)), holds_append_of_eq hkey he.symm,
      h.magnitude.append_of_ne (hne hkey (by decide)),
      h.origin.append_of_ne (hne hkey (by decide))⟩
  | magnitude f =>
    obtain ⟨hkey, hf, -⟩ := hsaid
    exact ⟨h.symbol.append_of_ne (hne hkey (by decide)),
      h.dimension.append_of_ne (hne hkey (by decide)), holds_append_of_eq hkey hf,
      h.origin.append_of_ne (hne hkey (by decide))⟩
  | origin f =>
    obtain ⟨hkey, hf⟩ := hsaid
    exact ⟨h.symbol.append_of_ne (hne hkey (by decide)),
      h.dimension.append_of_ne (hne hkey (by decide)),
      h.magnitude.append_of_ne (hne hkey (by decide)), holds_append_of_eq hkey hf⟩

theorem SaidBy.foldl_put (h : draft.SaidBy settings)
    (hsaid : List.Forall₂ (fun s => Says IsExpression s.key s.value) others entries) :
    (entries.foldl Draft.put draft).SaidBy (settings ++ others) := by
  induction hsaid generalizing settings draft with
  | nil => exact (List.append_nil settings).symm ▸ h
  | @cons s entry others entries hs _ ih =>
    have hput := ih (h.put hs)
    rwa [List.append_assoc] at hput

theorem saidBy_ofEntries
    (h : List.Forall₂ (fun s => Says IsExpression s.key s.value) settings entries) :
    (ofEntries entries).SaidBy settings := saidBy_empty.foldl_put h

theorem finish_eq_ok_iff :
    draft.finish = .ok a ↔ draft = ⟨some a.symbol, some a.dimension, a.magnitude, a.origin⟩ := by
  obtain ⟨symbol, dimension, magnitude, origin⟩ := draft
  unfold finish
  cases symbol with
  | none => exact iff_of_false nofun nofun
  | some l =>
    cases dimension with
    | none => exact iff_of_false nofun nofun
    | some e =>
      constructor
      · rintro ⟨⟩
        rfl
      · rintro ⟨⟩
        rfl

end Draft

/-! ## The attribute -/

theorem exists_forall₂_iff {α β : Type} {R : α → β → Prop} {xs : List α} :
    (∃ ys, List.Forall₂ R xs ys) ↔ ∀ x ∈ xs, ∃ y, R x y := by
  induction xs with
  | nil => exact iff_of_true ⟨[], .nil⟩ (List.forall_mem_nil _)
  | cons x xs ih =>
    rw [List.forall_mem_cons, ← ih]
    simp only [List.forall₂_cons_left_iff]
    constructor
    · rintro ⟨_, y, ys, hy, hys, rfl⟩
      exact ⟨⟨y, hy⟩, ys, hys⟩
    · rintro ⟨⟨y, hy⟩, ys, hys⟩
      exact ⟨y :: ys, y, ys, hy, hys, rfl⟩

namespace Attribute

variable {a : Attribute}

/-- What an attribute says, as a draft. -/
def draft (a : Attribute) : Draft := ⟨some a.symbol, some a.dimension, a.magnitude, a.origin⟩

theorem ofTokens_eq_ok_iff (hexpressions : ReadsWhole IsExpression expressions)
    (h : ∀ s ∈ settings, IsValue IsExpression s.key s.value) :
    ofTokens expressions (tokensOf settings) = .ok a ↔
      (∀ s ∈ settings, ∃ entry, Says IsExpression s.key s.value entry) ∧
        a.draft.SaidBy settings := by
  unfold ofTokens
  simp only [bind_eq_ok_iff, takeAll_eq_ok_iff hexpressions h (Nat.le_refl _), Draft.finish_eq_ok_iff,
    ← exists_forall₂_iff]
  constructor
  · rintro ⟨entries, hentries, hdraft⟩
    refine ⟨⟨entries, hentries⟩, ?_⟩
    unfold draft
    rw [← hdraft]
    exact Draft.saidBy_ofEntries hentries
  · rintro ⟨⟨entries, hentries⟩, hdraft⟩
    exact ⟨entries, hentries, (Draft.saidBy_ofEntries hentries).unique hdraft⟩

theorem returns_ofTokens_iff (hexpressions : ReadsWhole IsExpression expressions)
    (h : ∀ s ∈ settings, IsValue IsExpression s.key s.value) :
    Returns (ofTokens expressions (tokensOf settings)) ↔
      (∀ s ∈ settings, ∃ entry, Says IsExpression s.key s.value entry) ∧
        (∃ s ∈ settings, s.key = "symbol") ∧ ∃ s ∈ settings, s.key = "dimension" := by
  constructor
  · rintro ⟨a, ha⟩
    obtain ⟨hsaid, hdraft⟩ := (ofTokens_eq_ok_iff hexpressions h).1 ha
    exact ⟨hsaid, hdraft.symbol.isSome_iff.1 rfl, hdraft.dimension.isSome_iff.1 rfl⟩
  · rintro ⟨hsaid, hsymbol, hdimension⟩
    obtain ⟨entries, hentries⟩ := exists_forall₂_iff.2 hsaid
    have hdraft := Draft.saidBy_ofEntries hentries
    obtain ⟨symbol, hsymbol⟩ := Option.isSome_iff_exists.1 (hdraft.symbol.isSome_iff.2 hsymbol)
    obtain ⟨dimension, hdimension⟩ :=
      Option.isSome_iff_exists.1 (hdraft.dimension.isSome_iff.2 hdimension)
    obtain ⟨hsymbols, hdimensions, hmagnitudes, horigins⟩ := hdraft
    rw [hsymbol] at hsymbols
    rw [hdimension] at hdimensions
    exact ⟨⟨symbol, dimension, _, _⟩, (ofTokens_eq_ok_iff hexpressions h).2
      ⟨hsaid, hsymbols, hdimensions, hmagnitudes, horigins⟩⟩

end Attribute

/-! ## Other orders -/

/-- Whether entries are others in another order and with other commas, where no two entries of one
key have changed places. -/
inductive Rearranged : List Setting → List Setting → Prop
  | nil : Rearranged [] []
  | cons {s t : Setting} {settings others : List Setting} (hkey : s.key = t.key)
      (hvalue : s.value = t.value) (h : Rearranged settings others) :
      Rearranged (s :: settings) (t :: others)
  | swap {s t : Setting} (h : s.key ≠ t.key) (settings : List Setting) :
      Rearranged (s :: t :: settings) (t :: s :: settings)
  | trans {settings between others : List Setting} (h : Rearranged settings between)
      (h' : Rearranged between others) : Rearranged settings others

namespace Rearranged

/-- Entries of distinct keys can be put into any order. -/
theorem of_perm (h : settings.Perm others) (hkeys : (settings.map Setting.key).Nodup) :
    Rearranged settings others := by
  induction h with
  | nil => exact .nil
  | cons s _ ih => exact .cons rfl rfl (ih hkeys.of_cons)
  | swap s t settings =>
    have hne : t.key ≠ s.key := fun h => List.not_nodup_cons_of_mem (h ▸ List.mem_cons_self) hkeys
    exact .swap hne settings
  | trans h _ ih ih' => exact .trans (ih hkeys) (ih' ((h.map Setting.key).nodup_iff.1 hkeys))

/-- What is written under one key stays as it is. -/
theorem valuesUnder_eq (h : Rearranged settings others) (key : String) :
    valuesUnder key settings = valuesUnder key others := by
  induction h with
  | nil => rfl
  | cons hkey hvalue _ ih => rw [valuesUnder_cons, valuesUnder_cons, hkey, hvalue, ih]
  | @swap s t hne settings =>
    -- At most one of the neighbours is written under the key.
    simp only [valuesUnder_cons]
    by_cases hs : s.key = key
    · have ht : t.key ≠ key := fun ht => hne (hs.trans ht.symm)
      rw [if_pos hs, if_neg ht, if_neg ht, if_pos hs]
    · rw [if_neg hs, if_neg hs]
  | trans _ _ ih ih' => exact ih.trans ih'

theorem forall_iff (h : Rearranged settings others) (P : String → List Token → Prop) :
    (∀ s ∈ settings, P s.key s.value) ↔ ∀ s ∈ others, P s.key s.value := by
  have hvalues : ∀ settings : List Setting, (∀ s ∈ settings, P s.key s.value) ↔
      ∀ key, ∀ value ∈ valuesUnder key settings, P key value := by
    intro settings
    simp only [mem_valuesUnder]
    constructor
    · rintro h _ _ ⟨s, hs, rfl, rfl⟩
      exact h s hs
    · intro h s hs
      exact h _ _ ⟨s, hs, rfl, rfl⟩
  rw [hvalues, hvalues]
  simp only [h.valuesUnder_eq]

theorem saidBy_iff (h : Rearranged settings others) {draft : Draft} :
    draft.SaidBy settings ↔ draft.SaidBy others := by
  have hlast : ∀ key, lastUnder key settings = lastUnder key others :=
    fun key => congrArg List.getLast? (h.valuesUnder_eq key)
  have hholds : ∀ {α : Type} {r : List Token → α → Prop} {key : String} {field : Option α},
      Holds r key settings field ↔ Holds r key others field := by
    intro α r key field
    unfold Holds
    rw [hlast]
  constructor
  · rintro ⟨hsymbol, hdimension, hmagnitude, horigin⟩
    exact ⟨hholds.1 hsymbol, hholds.1 hdimension, hholds.1 hmagnitude, hholds.1 horigin⟩
  · rintro ⟨hsymbol, hdimension, hmagnitude, horigin⟩
    exact ⟨hholds.2 hsymbol, hholds.2 hdimension, hholds.2 hmagnitude, hholds.2 horigin⟩

end Rearranged

namespace Attribute

theorem ofTokens_rearranged (hexpressions : ReadsWhole IsExpression expressions)
    (h : ∀ s ∈ settings, IsValue IsExpression s.key s.value) (hothers : Rearranged settings others)
    {a : Attribute} : ofTokens expressions (tokensOf others) = .ok a ↔
      ofTokens expressions (tokensOf settings) = .ok a := by
  rw [ofTokens_eq_ok_iff hexpressions ((hothers.forall_iff _).1 h), ofTokens_eq_ok_iff hexpressions h,
    hothers.saidBy_iff,
    hothers.forall_iff fun key value => ∃ entry, Says IsExpression key value entry]

/-- Entries whose values are well formed are an attribute unless a key is unknown, a magnitude is
zero or a required key is missing. The attribute says the last of what is written under every key,
so neither the order between different keys nor a comma matters. -/
theorem ofTokens_settings (hexpressions : ReadsWhole IsExpression expressions)
    (h : ∀ s ∈ settings, IsValue IsExpression s.key s.value) :
    (Returns (ofTokens expressions (tokensOf settings)) ↔
      (∀ s ∈ settings, s.key ∈ keys) ∧
      (∀ s ∈ settings, s.key = "magnitude" → ∀ f, IsFraction s.value f → f.numerator ≠ 0) ∧
      (∃ s ∈ settings, s.key = "symbol") ∧ ∃ s ∈ settings, s.key = "dimension") ∧
    (∀ a, ofTokens expressions (tokensOf settings) = .ok a →
      Holds IsText "symbol" settings (some a.symbol) ∧
      Holds Eq "dimension" settings (some a.dimension) ∧
      Holds IsFraction "magnitude" settings a.magnitude ∧
      Holds IsFraction "origin" settings a.origin) ∧
    ∀ others, Rearranged settings others → ∀ a,
      ofTokens expressions (tokensOf others) = .ok a ↔
        ofTokens expressions (tokensOf settings) = .ok a := by
  have hsaid : (∀ s ∈ settings, ∃ entry, Says IsExpression s.key s.value entry) ↔
      (∀ s ∈ settings, s.key ∈ keys) ∧
      ∀ s ∈ settings, s.key = "magnitude" → ∀ f, IsFraction s.value f → f.numerator ≠ 0 := by
    rw [← forall₂_and]
    exact forall₂_congr fun s hs => exists_says_iff (h s hs)
  refine ⟨?_, fun a ha => ?_, fun others hothers a => ofTokens_rearranged hexpressions h hothers⟩
  · rw [returns_ofTokens_iff hexpressions h, hsaid, and_assoc]
  · obtain ⟨-, hdraft⟩ := (ofTokens_eq_ok_iff hexpressions h).1 ha
    exact ⟨hdraft.symbol, hdraft.dimension, hdraft.magnitude, hdraft.origin⟩

/-- A degree Fahrenheit with a magnitude that is overwritten. -/
def fahrenheit : List Setting :=
  [.mk "magnitude" [.literal ⟨"1", .whole 1⟩] false,
    .mk "symbol" [.literal ⟨"\"°F\"", .text "°F"⟩] true,
    .mk "dimension" [.word "Dimension", .path, .word "TEMPERATURE"] false,
    .mk "magnitude" [.literal ⟨"5", .whole 5⟩, .mark '/', .literal ⟨"9", .whole 9⟩] false,
    .mk "origin" [.literal ⟨"45967", .whole 45967⟩, .mark '/', .literal ⟨"100", .whole 100⟩] true]

/-- A degree Fahrenheit in another order and with other commas. -/
def fahrenheitRearranged : List Setting :=
  [.mk "symbol" [.literal ⟨"\"°F\"", .text "°F"⟩] false,
    .mk "magnitude" [.literal ⟨"1", .whole 1⟩] true,
    .mk "origin" [.literal ⟨"45967", .whole 45967⟩, .mark '/', .literal ⟨"100", .whole 100⟩] true,
    .mk "dimension" [.word "Dimension", .path, .word "TEMPERATURE"] false,
    .mk "magnitude" [.literal ⟨"5", .whole 5⟩, .mark '/', .literal ⟨"9", .whole 9⟩] false]

theorem fahrenheit_rearranged : Rearranged fahrenheit fahrenheitRearranged := by
  refine .trans (.swap (by decide) _) (.cons rfl rfl (.cons rfl rfl ?_))
  exact .of_perm (@List.perm_append_comm _ [_, _] [_]) (by decide)

theorem ofTokens_settings_fahrenheit :
    ReadsWhole IsDimension takeDimension ∧
    (∀ s ∈ fahrenheit, IsValue IsDimension s.key s.value) ∧
    ofTokens takeDimension (tokensOf fahrenheitRearranged) = .ok
      ⟨⟨"\"°F\"", .text "°F"⟩, [.word "Dimension", .path, .word "TEMPERATURE"], some ⟨5, 9⟩,
        some ⟨45967, 100⟩⟩ := by
  have hvalue : ∀ s ∈ fahrenheit, IsValue IsDimension s.key s.value := by
    unfold fahrenheit
    simp only [List.forall_mem_cons]
    exact ⟨.magnitude (.whole 1 rfl "1"), .symbol (.intro _ _), .dimension rfl,
      .magnitude (.over 5 9 rfl rfl (by decide) "5" "9"),
      .origin (.over 45967 100 rfl rfl (by decide) "45967" "100"), List.forall_mem_nil _⟩
  refine ⟨readsWhole_takeDimension, hvalue, ?_⟩
  have h := ofTokens_settings readsWhole_takeDimension hvalue
  exact (h.2.2 _ fahrenheit_rearranged _).2 rfl

end Attribute

end Metrology.Declaration
