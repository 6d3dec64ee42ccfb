import Mathlib.Data.List.Nodup
import Metrology.Proofs.Fault.Results
import Metrology.Record.Quantity

/-!
# Fields of a record

The members of a record are taken one after another. `Fills` says what the values of one name do to
one field, `Takes` what a list of members does to all of them: each member fills the field of its
name and leaves the others alone (`take_eq_ok_iff`), and lists of members are taken in turn
(`takes_append`). So the fields that are found depend on the values of each name only
(`ofMembers_eq_ok_iff`), and not on how members of different names are interleaved.
-/

namespace Metrology

open Json

variable {α β : Type}

/-! ## Members of one name -/

/-- The values of the members of a given name, in order. -/
def valuesOf (name : String) (members : List (String × Value)) : List Value :=
  (members.filter fun m => m.1 = name).map Prod.snd

theorem valuesOf_append (name : String) (ms ns : List (String × Value)) :
    valuesOf name (ms ++ ns) = valuesOf name ms ++ valuesOf name ns := by
  unfold valuesOf
  rw [List.filter_append, List.map_append]

theorem mem_valuesOf {name : String} {members : List (String × Value)} {v : Value} :
    v ∈ valuesOf name members ↔ (name, v) ∈ members := by
  unfold valuesOf
  simp

theorem length_valuesOf (name : String) (members : List (String × Value)) :
    (valuesOf name members).length = (members.map Prod.fst).count name := by
  unfold valuesOf
  rw [List.length_map, List.count, List.countP_map, List.countP_eq_length_filter]
  congr 1

/-! ## One field -/

/-- What the values of one name do to a field: the first is decoded, and there is no other. -/
inductive Fills (decoder : Decoder β) : Option β → List Value → Option β → Prop
  | nil (found : Option β) : Fills decoder found [] found
  | cons {v : Value} {b : β} {values : List Value} {found : Option β} (h : decoder v = .ok b)
      (hs : Fills decoder (some b) values found) : Fills decoder none (v :: values) found

section Fills

variable {decoder : Decoder β} {start found : Option β} {b : β} {v : Value}
  {values others : List Value}

theorem fills_nil_iff : Fills decoder start [] found ↔ found = start := by
  constructor
  · rintro ⟨⟩
    rfl
  · rintro rfl
    exact .nil _

theorem fills_some_iff : Fills decoder (some b) values found ↔ values = [] ∧ found = some b := by
  constructor
  · rintro ⟨⟩
    exact ⟨rfl, rfl⟩
  · rintro ⟨rfl, rfl⟩
    exact .nil _

theorem fills_none_iff : Fills decoder none values found ↔
    values = [] ∧ found = none ∨ ∃ v b, values = [v] ∧ decoder v = .ok b ∧ found = some b := by
  constructor
  · intro h
    cases h with
    | nil => exact .inl ⟨rfl, rfl⟩
    | cons h hs =>
      obtain ⟨rfl, rfl⟩ := fills_some_iff.1 hs
      exact .inr ⟨_, _, rfl, h, rfl⟩
  · rintro (⟨rfl, rfl⟩ | ⟨v, b, rfl, h, rfl⟩)
    · exact .nil _
    · exact .cons h (.nil _)

theorem Fills.length_le (h : Fills decoder none values found) : values.length ≤ 1 := by
  rcases fills_none_iff.1 h with ⟨rfl, -⟩ | ⟨v, b, rfl, -, -⟩
  · simp
  · simp

theorem fills_append : Fills decoder start (values ++ others) found ↔
    ∃ between, Fills decoder start values between ∧ Fills decoder between others found := by
  constructor
  · intro h
    cases values with
    | nil => exact ⟨start, .nil _, h⟩
    | cons v values =>
      cases h with
      | cons h hs =>
        obtain ⟨hnil, rfl⟩ := fills_some_iff.1 hs
        obtain ⟨rfl, rfl⟩ := List.append_eq_nil_iff.1 hnil
        exact ⟨_, .cons h (.nil _), .nil _⟩
  · rintro ⟨between, hs, ho⟩
    cases hs with
    | nil => exact ho
    | cons h hs =>
      obtain ⟨rfl, rfl⟩ := fills_some_iff.1 hs
      exact .cons h ho

/-- To decode the value of a new field and store it is to let the value fill the field. -/
theorem store_fresh_eq_ok_iff {γ : Type} {name : String} {c : γ} (store : Option β → γ) :
    (do return store (some (← Fields.fresh name start decoder v))) = Except.ok c ↔
      ∃ field, Fills decoder start [v] field ∧ store field = c := by
  unfold Fields.fresh
  cases start with
  | none =>
    simp only [fills_none_iff, bind_eq_ok_iff]
    constructor
    · rintro ⟨b, hb, h⟩
      exact ⟨some b, .inr ⟨v, b, rfl, hb, rfl⟩, Except.ok.inj h⟩
    · rintro ⟨field, ⟨⟨⟩, -⟩ | ⟨w, b, ⟨⟩, hb, rfl⟩, rfl⟩
      exact ⟨b, hb, rfl⟩
  | some b =>
    simp only [fills_some_iff]
    constructor
    · intro h
      cases h
    · rintro ⟨field, ⟨h, -⟩, -⟩
      cases h

/-! ### A field of a whole record -/

section Members

variable {name : String} {members : List (String × Value)}

theorem Fills.eq_none_iff (h : Fills decoder none (valuesOf name members) found) :
    found = none ↔ ∀ v, (name, v) ∉ members := by
  simp only [← mem_valuesOf]
  rcases fills_none_iff.1 h with ⟨hnil, rfl⟩ | ⟨v, b, hone, -, rfl⟩
  · simp [hnil]
  · simp [hone]

theorem Fills.eq_some_iff (h : Fills decoder none (valuesOf name members) found) :
    found = some b ↔ ∃ v, (name, v) ∈ members ∧ decoder v = .ok b := by
  simp only [← mem_valuesOf]
  rcases fills_none_iff.1 h with ⟨hnil, rfl⟩ | ⟨v, c, hone, hc, rfl⟩
  · simp [hnil]
  · simp [hone, hc]

/-- A field is filled by a record that has at most one value for it, and that can be decoded. -/
theorem exists_fills_iff : (∃ found, Fills decoder none (valuesOf name members) found) ↔
    (members.map Prod.fst).count name ≤ 1 ∧ ∀ v, (name, v) ∈ members → ∃ b, decoder v = .ok b := by
  rw [← length_valuesOf]
  simp only [← mem_valuesOf]
  constructor
  · rintro ⟨found, h⟩
    refine ⟨h.length_le, fun v hv => ?_⟩
    rcases fills_none_iff.1 h with ⟨hnil, -⟩ | ⟨w, b, hone, hb, -⟩
    · simp [hnil] at hv
    · obtain rfl : v = w := by simpa [hone] using hv
      exact ⟨b, hb⟩
  · rintro ⟨hlen, hdecoded⟩
    rcases hvalues : valuesOf name members with _ | ⟨v, _ | ⟨w, rest⟩⟩
    · exact ⟨none, .nil _⟩
    · obtain ⟨b, hb⟩ := hdecoded v (hvalues ▸ List.mem_singleton_self v)
      exact ⟨some b, .cons hb (.nil _)⟩
    · simp [hvalues] at hlen

end Members

end Fills

/-! ## All fields -/

namespace Fields

variable {payload : Decoder α} {fields found : Fields α} {members others : List (String × Value)}

/-- What members do to the fields: each has the name of a field, and fills that field. -/
structure Takes (payload : Decoder α) (fields : Fields α) (members : List (String × Value))
    (found : Fields α) : Prop where
  known : ∀ m ∈ members, m.1 ∈ names
  value : Fills payload fields.value (valuesOf "value" members) found.value
  unit : Fills decodeString fields.unit (valuesOf "unit" members) found.unit
  absolute : Fills decodeBool fields.absolute (valuesOf "absolute" members) found.absolute

theorem takes_nil_iff : Takes payload fields [] found ↔ found = fields := by
  constructor
  · rintro ⟨-, hvalue, hunit, habsolute⟩
    obtain ⟨x, s, b⟩ := found
    obtain rfl := fills_nil_iff.1 hvalue
    obtain rfl := fills_nil_iff.1 hunit
    obtain rfl := fills_nil_iff.1 habsolute
    rfl
  · rintro rfl
    exact ⟨List.forall_mem_nil _, .nil _, .nil _, .nil _⟩

/-- Members are taken in turn. -/
theorem takes_append : Takes payload fields (members ++ others) found ↔
    ∃ between, Takes payload fields members between ∧ Takes payload between others found := by
  constructor
  · rintro ⟨hknown, hvalue, hunit, habsolute⟩
    rw [List.forall_mem_append] at hknown
    rw [valuesOf_append, fills_append] at hvalue hunit habsolute
    obtain ⟨x, hx, hvalue⟩ := hvalue
    obtain ⟨s, hs, hunit⟩ := hunit
    obtain ⟨b, hb, habsolute⟩ := habsolute
    exact ⟨⟨x, s, b⟩, ⟨hknown.1, hx, hs, hb⟩, hknown.2, hvalue, hunit, habsolute⟩
  · rintro ⟨between, h, h'⟩
    constructor
    · exact List.forall_mem_append.2 ⟨h.known, h'.known⟩
    · exact valuesOf_append .. ▸ fills_append.2 ⟨_, h.value, h'.value⟩
    · exact valuesOf_append .. ▸ fills_append.2 ⟨_, h.unit, h'.unit⟩
    · exact valuesOf_append .. ▸ fills_append.2 ⟨_, h.absolute, h'.absolute⟩

/-- One member fills the field of its name and leaves the others alone. -/
theorem take_eq_ok_iff {m : String × Value} :
    take payload fields m = .ok found ↔ Takes payload fields [m] found := by
  obtain ⟨x, s, b⟩ := found
  unfold take
  split
  · refine (store_fresh_eq_ok_iff fun field => { fields with value := field }).trans ⟨?_, ?_⟩
    · rintro ⟨field, hvalue, ⟨⟩⟩
      exact ⟨by simp [names], hvalue, .nil _, .nil _⟩
    · rintro ⟨-, hvalue, hunit, habsolute⟩
      obtain rfl := fills_nil_iff.1 hunit
      obtain rfl := fills_nil_iff.1 habsolute
      exact ⟨_, hvalue, rfl⟩
  · refine (store_fresh_eq_ok_iff fun field => { fields with unit := field }).trans ⟨?_, ?_⟩
    · rintro ⟨field, hunit, ⟨⟩⟩
      exact ⟨by simp [names], .nil _, hunit, .nil _⟩
    · rintro ⟨-, hvalue, hunit, habsolute⟩
      obtain rfl := fills_nil_iff.1 hvalue
      obtain rfl := fills_nil_iff.1 habsolute
      exact ⟨_, hunit, rfl⟩
  · refine (store_fresh_eq_ok_iff fun field => { fields with absolute := field }).trans ⟨?_, ?_⟩
    · rintro ⟨field, habsolute, ⟨⟩⟩
      exact ⟨by simp [names], .nil _, .nil _, habsolute⟩
    · rintro ⟨-, hvalue, hunit, habsolute⟩
      obtain rfl := fills_nil_iff.1 hvalue
      obtain rfl := fills_nil_iff.1 hunit
      exact ⟨_, habsolute, rfl⟩
  · rename_i name v hvalue hunit habsolute
    refine iff_of_false nofun fun h => ?_
    have hknown : name ∈ names := h.known (name, v) (List.mem_singleton_self _)
    simp only [names, List.mem_cons, List.not_mem_nil, or_false] at hknown
    rcases hknown with rfl | rfl | rfl
    · exact hvalue rfl
    · exact hunit rfl
    · exact habsolute rfl

/-- The fields that are found are those that the members fill. -/
theorem foldlM_take_eq_ok_iff :
    members.foldlM (take payload) fields = .ok found ↔ Takes payload fields members found := by
  induction members generalizing fields with
  | nil => rw [List.foldlM_nil, pure_eq_ok_iff, takes_nil_iff, eq_comm]
  | cons m members ih =>
    rw [List.foldlM_cons, bind_eq_ok_iff, ← List.singleton_append, takes_append]
    simp only [take_eq_ok_iff, ih]

theorem ofMembers_eq_ok_iff :
    ofMembers payload members = .ok found ↔ Takes payload empty members found :=
  foldlM_take_eq_ok_iff

/-! ## Records that fit a label -/

theorem decodeString_eq_ok_iff {v : Value} {s : String} :
    decodeString v = .ok s ↔ v = .string s := by
  cases v <;> simp [decodeString]

theorem decodeBool_eq_ok_iff {v : Value} {b : Bool} : decodeBool v = .ok b ↔ v = .bool b := by
  cases v <;> simp [decodeBool]

/-- When every name is that of a field, it is enough to count these names. -/
theorem nodup_iff_of_known (hknown : ∀ m ∈ members, m.1 ∈ names) :
    (members.map Prod.fst).Nodup ↔ ∀ name ∈ names, (members.map Prod.fst).count name ≤ 1 := by
  rw [List.nodup_iff_count_le_one]
  constructor
  · exact fun h name _ => h name
  · intro h name
    by_cases hname : name ∈ members.map Prod.fst
    · obtain ⟨m, hm, rfl⟩ := List.mem_map.1 hname
      exact h m.1 (hknown m hm)
    · rw [List.count_eq_zero.2 hname]
      exact Nat.zero_le 1

/-- Fields are found in records of which each member has the name of a field, no name occurs twice,
and each value can be decoded. -/
theorem exists_takes_iff : (∃ found, Takes payload empty members found) ↔
    (∀ m ∈ members, m.1 ∈ names) ∧ (members.map Prod.fst).Nodup ∧
      (∀ v, ("value", v) ∈ members → ∃ x, payload v = .ok x) ∧
      (∀ v, ("unit", v) ∈ members → ∃ s, v = .string s) ∧
      ∀ v, ("absolute", v) ∈ members → ∃ b, v = .bool b := by
  simp only [← decodeString_eq_ok_iff, ← decodeBool_eq_ok_iff]
  constructor
  · rintro ⟨found, hknown, hvalue, hunit, habsolute⟩
    obtain ⟨hvalue, hpayload⟩ := exists_fills_iff.1 ⟨_, hvalue⟩
    obtain ⟨hunit, hname⟩ := exists_fills_iff.1 ⟨_, hunit⟩
    obtain ⟨habsolute, hmark⟩ := exists_fills_iff.1 ⟨_, habsolute⟩
    refine ⟨hknown, (nodup_iff_of_known hknown).2 ?_, hpayload, hname, hmark⟩
    simp only [names, List.forall_mem_cons]
    exact ⟨hvalue, hunit, habsolute, List.forall_mem_nil _⟩
  · rintro ⟨hknown, hnodup, hpayload, hname, hmark⟩
    have hcount := List.nodup_iff_count_le_one.1 hnodup
    obtain ⟨x, hx⟩ := exists_fills_iff.2 ⟨hcount "value", hpayload⟩
    obtain ⟨s, hs⟩ := exists_fills_iff.2 ⟨hcount "unit", hname⟩
    obtain ⟨b, hb⟩ := exists_fills_iff.2 ⟨hcount "absolute", hmark⟩
    exact ⟨⟨x, s, b⟩, hknown, hx, hs, hb⟩

theorem payloadFor_eq_ok_iff {label : Label} {x : α} : fields.payloadFor label = .ok x ↔
    fields.value = some x ∧ (∀ s, fields.unit = some s → s = label.name) ∧
      ∀ b, fields.scale? = some b → b = label.absolute := by
  unfold payloadFor
  rcases fields.value with _ | y
  · exact iff_of_false nofun fun h => nomatch h.1
  rcases fields.unit with _ | s
  · rcases fields.scale? with _ | b
    · simp
    · by_cases hb : b = label.absolute <;> simp [hb]
  by_cases hs : s = label.name
  · rcases fields.scale? with _ | b
    · simp [hs]
    · by_cases hb : b = label.absolute <;> simp [hs, hb]
  · simp [hs]

end Fields

end Metrology
