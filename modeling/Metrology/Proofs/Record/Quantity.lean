import Metrology.Catalog
import Metrology.Proofs.Record.Fields
import Metrology.Proofs.UnitType.Text

/-!
# Records of quantities

A record `Fits` a label when its members are the fields of the label, each at most once and in any
order. These are the records that are read (`payloadOf_eq_ok_iff`), and those that are written are
among them (`fits_written`). So a quantity that is written and read again is the same quantity
(`record_format`).

A record that is written under one label fits no other (`fits_written_iff`). But labels have only the
name of a unit: units that share it share their records, so a quantity is read in its own unit where
names are not ambiguous (`read_as_other_unit`), and not otherwise (`read_minute_as_inch`).
-/

namespace Metrology

open Json

variable {α : Type}

/-! ## Records that fit a label -/

/-- Whether the members of a record fit a label, with a payload: each is a field, none occurs twice,
and each says what the label says. A unit without a mark is relative. -/
structure Label.Fits (label : Label) (payload : Decoder α) (members : List (String × Value))
    (x : α) : Prop where
  known : ∀ m ∈ members, m.1 = "value" ∨ m.1 = "unit" ∨ m.1 = "absolute"
  once : (members.map Prod.fst).Nodup
  value : ∃ v, ("value", v) ∈ members ∧ payload v = .ok x
  unit : ∀ v, ("unit", v) ∈ members → v = .string label.name
  absolute : ∀ v, ("absolute", v) ∈ members → v = .bool label.absolute
  relative : (∃ v, ("unit", v) ∈ members) → (∀ v, ("absolute", v) ∉ members) →
    label.absolute = false

namespace Label

variable {label : Label} {payload : Decoder α} {members others : List (String × Value)}
  {fields : Fields α} {x : α}

/-- The order of the members makes no difference. -/
theorem Fits.perm (h : label.Fits payload members x) (hperm : members.Perm others) :
    label.Fits payload others x where
  known m hm := h.known m (hperm.mem_iff.2 hm)
  once := (hperm.map Prod.fst).nodup_iff.1 h.once
  value := by
    obtain ⟨v, hv, hx⟩ := h.value
    exact ⟨v, hperm.mem_iff.1 hv, hx⟩
  unit v hv := h.unit v (hperm.mem_iff.2 hv)
  absolute v hv := h.absolute v (hperm.mem_iff.2 hv)
  relative := by
    rintro ⟨v, hv⟩ hnone
    exact h.relative ⟨v, hperm.mem_iff.2 hv⟩ fun w hw => hnone w (hperm.mem_iff.1 hw)

/-- Of a field there is one value. -/
theorem Fits.value_unique (h : label.Fits payload members x) {name : String} {v w : Value}
    (hv : (name, v) ∈ members) (hw : (name, w) ∈ members) : v = w :=
  congrArg Prod.snd (List.inj_on_of_nodup_map h.once hv hw rfl)

theorem Fits.exists_takes (h : label.Fits payload members x) :
    ∃ found, Fields.Takes payload .empty members found := by
  refine Fields.exists_takes_iff.2 ⟨fun m hm => ?_, h.once, fun v hv => ?_, fun v hv => ?_,
    fun v hv => ?_⟩
  · simpa [Fields.names] using h.known m hm
  · obtain ⟨w, hw, hx⟩ := h.value
    exact ⟨x, h.value_unique hw hv ▸ hx⟩
  · exact ⟨_, h.unit v hv⟩
  · exact ⟨_, h.absolute v hv⟩

end Label

namespace Fields

variable {label : Label} {payload : Decoder α} {members : List (String × Value)}
  {fields : Fields α} {x : α}

theorem Takes.unit_eq_some_iff (h : Takes payload empty members fields) {s : String} :
    fields.unit = some s ↔ ("unit", .string s) ∈ members := by
  rw [h.unit.eq_some_iff]
  simp [decodeString_eq_ok_iff]

theorem Takes.absolute_eq_some_iff (h : Takes payload empty members fields) {b : Bool} :
    fields.absolute = some b ↔ ("absolute", .bool b) ∈ members := by
  rw [h.absolute.eq_some_iff]
  simp [decodeBool_eq_ok_iff]

/-- The fields speak of an absolute scale by the mark, and of a relative scale also by a unit that
has none. -/
theorem Takes.scale_eq_some_iff (h : Takes payload empty members fields) {b : Bool} :
    fields.scale? = some b ↔ ("absolute", .bool b) ∈ members ∨
      (∀ v, ("absolute", v) ∉ members) ∧ (∃ v, ("unit", v) ∈ members) ∧ b = false := by
  rw [← h.absolute_eq_some_iff, ← h.absolute.eq_none_iff]
  unfold scale?
  rcases fields.absolute with _ | c
  · have hunit : fields.unit.isSome = true ↔ ∃ v, ("unit", v) ∈ members := by
      rw [Option.isSome_iff_ne_none, Ne, h.unit.eq_none_iff]
      simp
    rw [← hunit]
    rcases fields.unit with _ | s
    · simp
    · simp [eq_comm]
  · simp

end Fields

namespace Label

variable {label : Label} {payload : Decoder α} {members others : List (String × Value)}
  {fields : Fields α} {x : α}

/-- The records that are read under a label are those that fit it. -/
theorem payloadOf_eq_ok_iff :
    label.payloadOf payload (.object members none) = .ok x ↔ label.Fits payload members x := by
  unfold payloadOf
  simp only [bind_eq_ok_iff, Fields.ofMembers_eq_ok_iff, Fields.payloadFor_eq_ok_iff]
  constructor
  · rintro ⟨found, htakes, -, -, hvalue, hunit, hscale⟩
    obtain ⟨hknown, hnodup, -, hstring, hbool⟩ := Fields.exists_takes_iff.1 ⟨found, htakes⟩
    constructor
    · simpa [Fields.names] using hknown
    · exact hnodup
    · exact htakes.value.eq_some_iff.1 hvalue
    · intro v hv
      obtain ⟨s, rfl⟩ := hstring v hv
      rw [hunit s (htakes.unit_eq_some_iff.2 hv)]
    · intro v hv
      obtain ⟨b, rfl⟩ := hbool v hv
      rw [hscale b (htakes.scale_eq_some_iff.2 (.inl hv))]
    · intro hv hnone
      exact (hscale false (htakes.scale_eq_some_iff.2 (.inr ⟨hnone, hv, rfl⟩))).symm
  · intro h
    obtain ⟨found, htakes⟩ := h.exists_takes
    refine ⟨found, htakes, ⟨⟩, rfl, htakes.value.eq_some_iff.2 h.value, fun s hs => ?_,
      fun b hb => ?_⟩
    · exact Value.string.inj (h.unit _ (htakes.unit_eq_some_iff.1 hs))
    · rcases htakes.scale_eq_some_iff.1 hb with hmark | ⟨hnone, hunit, rfl⟩
      · exact Value.bool.inj (h.absolute _ hmark)
      · exact (h.relative hunit hnone).symm

/-! ## Records that are written -/

/-- The members of a record that is written. -/
def written (label : Label) (v : Value) : List (String × Value) :=
  ("value", v) :: ("unit", .string label.name) ::
    if label.absolute then [("absolute", .bool true)] else []

theorem record_eq (label : Label) (v : Value) : label.record v = .object (label.written v) none :=
  rfl

theorem mem_written {name : String} {v w : Value} : (name, w) ∈ label.written v ↔
    name = "value" ∧ w = v ∨ name = "unit" ∧ w = .string label.name ∨
      name = "absolute" ∧ w = .bool true ∧ label.absolute = true := by
  unfold written
  by_cases habsolute : label.absolute = true
  · simp [habsolute]
  · simp [habsolute]

theorem nodup_written (label : Label) (v : Value) :
    ((label.written v).map Prod.fst).Nodup := by
  unfold written
  by_cases habsolute : label.absolute = true
  · simp [habsolute]
  · simp [habsolute]

theorem fits_written {v : Value} (h : payload v = .ok x) :
    label.Fits payload (label.written v) x where
  known := by
    rintro ⟨name, w⟩ hm
    rcases mem_written.1 hm with ⟨rfl, -⟩ | ⟨rfl, -⟩ | ⟨rfl, -⟩ <;> simp
  once := nodup_written label v
  value := ⟨v, by simp [mem_written], h⟩
  unit := by simp [mem_written]
  absolute := by
    intro w hw
    obtain ⟨rfl, habsolute⟩ : w = .bool true ∧ label.absolute = true := by
      simpa [mem_written] using hw
    rw [habsolute]
  relative := by
    intro _ hnone
    by_contra habsolute
    exact hnone (.bool true) (by simpa [mem_written] using habsolute)

/-- A record that is written under one label fits another when the labels are the same. -/
theorem fits_written_iff {other : Label} {v : Value} :
    other.Fits payload (label.written v) x ↔ label = other ∧ payload v = .ok x := by
  constructor
  · intro h
    obtain ⟨name, absolute⟩ := label
    obtain ⟨name', absolute'⟩ := other
    obtain ⟨w, hw, hx⟩ := h.value
    obtain rfl : w = v := by simpa [mem_written] using hw
    have hname := Value.string.inj (h.unit (.string name) (by simp [mem_written]))
    have habsolute : absolute = absolute' := by
      cases absolute with
      | false =>
        exact (h.relative ⟨.string name, by simp [mem_written]⟩ (by simp [mem_written])).symm
      | true => exact Value.bool.inj (h.absolute (.bool true) (by simp [mem_written]))
    exact ⟨by rw [hname, habsolute], hx⟩
  · rintro ⟨rfl, hx⟩
    exact fits_written hx

end Label

/-! ## Quantities -/

namespace Quantity

variable {u v : UnitType} {label other : Label} {encode : α → Value} {decode : Decoder α}
  {members : List (String × Value)} {q : Quantity u α}

theorem label_eq_ok_iff : u.label = .ok label ↔
    u.name = .ok label.name ∧ u.isAbsolute = .ok label.absolute := by
  obtain ⟨name, absolute⟩ := label
  unfold UnitType.label
  simp only [bind_eq_ok_iff, pure_eq_ok_iff, Label.mk.injEq]
  constructor
  · rintro ⟨_, hname, _, habsolute, rfl, rfl⟩
    exact ⟨hname, habsolute⟩
  · rintro ⟨hname, habsolute⟩
    exact ⟨_, hname, _, habsolute, rfl, rfl⟩

theorem ofRecord_eq_ok_iff (h : u.label = .ok label) :
    ofRecord decode u (.object members none) = .ok q ↔ label.Fits decode members q.value := by
  unfold ofRecord
  simp only [bind_eq_ok_iff, pure_eq_ok_iff, mapError_eq_ok_iff, h, Except.ok.injEq,
    exists_eq_left', Label.payloadOf_eq_ok_iff]
  constructor
  · rintro ⟨x, hx, rfl⟩
    exact hx
  · exact fun hx => ⟨q.value, hx, rfl⟩

theorem toRecord_eq (h : u.label = .ok label) (q : Quantity u α) :
    q.toRecord encode = .ok (.object (label.written (encode q.value)) none) := by
  unfold toRecord
  rw [h, ← Label.record_eq]
  rfl

/-- The records that are read as quantities of a unit type are those that fit its label, in any order
of their members; what is read is the payload that they hold. A quantity is written as such a record,
so it is read again as it was if its payload is. -/
theorem record_format {name : String} {absolute : Bool} (hname : u.name = .ok name)
    (habsolute : u.isAbsolute = .ok absolute) (encode : α → Value) (decode : Decoder α) :
    (∀ (members : List (String × Value)) (q : Quantity u α),
      ofRecord decode u (.ofMembers members) = .ok q ↔
        Label.Fits ⟨name, absolute⟩ decode members q.value) ∧
    (∀ {members others : List (String × Value)}, members.Perm others → ∀ q : Quantity u α,
      ofRecord decode u (.ofMembers members) = .ok q ↔
        ofRecord decode u (.ofMembers others) = .ok q) ∧
    ∀ q : Quantity u α, decode (encode q.value) = .ok q.value →
      ∃ record, q.toRecord encode = .ok record ∧ ofRecord decode u record = .ok q := by
  have hlabel : u.label = .ok ⟨name, absolute⟩ := label_eq_ok_iff.2 ⟨hname, habsolute⟩
  refine ⟨fun _ _ => ofRecord_eq_ok_iff hlabel, fun hperm q => ?_, fun q hq => ?_⟩
  · unfold Value.ofMembers
    rw [ofRecord_eq_ok_iff hlabel, ofRecord_eq_ok_iff hlabel]
    exact ⟨fun h => h.perm hperm, fun h => h.perm hperm.symm⟩
  · exact ⟨_, toRecord_eq hlabel q, (ofRecord_eq_ok_iff hlabel).2 (Label.fits_written hq)⟩

/-- Seven kelvins are read from their record in any order, and not without the mark. -/
theorem record_format_kelvin :
    ∃ (u : UnitType) (encode : Int64 → Value) (q : Quantity u Int64) (record : Value),
      u = .named Catalog.kelvin ∧ u.name = .ok "K" ∧ u.isAbsolute = .ok true ∧ q = ⟨7⟩ ∧
      q.toRecord encode = .ok record ∧ ofRecord decodeInt64 u record = .ok q ∧
      ofRecord decodeInt64 u (.ofMembers
        [("absolute", .bool true), ("unit", .string "K"), ("value", .whole 7)]) = .ok q ∧
      ∀ r, ofRecord decodeInt64 u (.ofMembers [("value", .whole 7), ("unit", .string "K")]) ≠
        .ok r := by
  have hname : (UnitType.named Catalog.kelvin).name = .ok "K" := rfl
  have habsolute : (UnitType.named Catalog.kelvin).isAbsolute = .ok true := rfl
  obtain ⟨hformat, hperm, hround⟩ :=
    record_format hname habsolute (fun n : Int64 => .whole n.toInt) decodeInt64
  obtain ⟨record, hwritten, hread⟩ := hround ⟨7⟩ rfl
  obtain rfl := Except.ok.inj hwritten
  refine ⟨_, _, ⟨7⟩, _, rfl, hname, habsolute, rfl, hwritten, hread, ?_, fun r hr => ?_⟩
  · refine (hperm ?_ _).1 hread
    exact (List.reverse_perm _).symm
  · have hfits := (hformat _ _).1 hr
    exact Bool.false_ne_true (hfits.relative ⟨.string "K", by simp⟩ (by simp)).symm

/-! ## Records of other units -/

/-- The record of a quantity is read as a quantity of another unit type when the types have one name,
both are absolute or both are relative, and the payload can be decoded. Where bases of one text
measure the same, the types are equal then. -/
theorem read_as_other_unit {c d : Canonical} (hc : u.terms = .ok c) (hd : v.terms = .ok d)
    (encode : α → Value) (decode : Decoder α) (q : Quantity u α) :
    ∃ record, q.toRecord encode = .ok record ∧
      (∀ r : Quantity v α, ofRecord decode v record = .ok r ↔
        u.name = v.name ∧ u.isAbsolute = v.isAbsolute ∧ decode (encode q.value) = .ok r.value) ∧
      (Power.Unambiguous c.terms d.terms → Returns (ofRecord decode v record) →
        (∀ same, u.isEqual v = .ok same → same = true) ∧
        (u.Evaluates → v.Evaluates → u.isEqual v = .ok true)) := by
  have hu : u.label = .ok ⟨c.text, c.origin.isSome⟩ :=
    label_eq_ok_iff.2 ⟨UnitType.name_eq hc, UnitType.isAbsolute_eq hc⟩
  have hv : v.label = .ok ⟨d.text, d.origin.isSome⟩ :=
    label_eq_ok_iff.2 ⟨UnitType.name_eq hd, UnitType.isAbsolute_eq hd⟩
  have hread : ∀ r : Quantity v α, ofRecord decode v
      (.object (Label.written ⟨c.text, c.origin.isSome⟩ (encode q.value)) none) = .ok r ↔
      u.name = v.name ∧ u.isAbsolute = v.isAbsolute ∧ decode (encode q.value) = .ok r.value := by
    intro r
    rw [ofRecord_eq_ok_iff hv, Label.fits_written_iff, UnitType.name_eq hc, UnitType.name_eq hd,
      UnitType.isAbsolute_eq hc, UnitType.isAbsolute_eq hd]
    simp only [Label.mk.injEq, Except.ok.injEq, and_assoc]
  refine ⟨_, toRecord_eq hu q, hread, ?_⟩
  rintro hunambiguous ⟨r, hr⟩
  obtain ⟨hname, habs, -⟩ := (hread r).1 hr
  have hequal : ∀ same, u.isEqual v = .ok same → same = true := fun _ =>
    UnitType.isEqual_of_name_eq hc hd hunambiguous hname habs
  refine ⟨hequal, fun heu hev => ?_⟩
  obtain ⟨same, hsame⟩ := UnitType.returns_isEqual heu hev
  rw [hsame, hequal same hsame]

/-- A kelvin times a meter is stored under one name with and without the origin of the kelvin; it is
one unit. -/
theorem read_as_other_unit_kelvin :
    ∃ (u v : UnitType) (q : Quantity u Int64) (r : Quantity v Int64) (record : Value),
      u = .product (.named Catalog.kelvin) (.named Catalog.meter) ∧
      v = .product (.named (.relative Catalog.kelvin)) (.named Catalog.meter) ∧
      q = ⟨7⟩ ∧ r = ⟨7⟩ ∧ q.toRecord (fun n => .whole n.toInt) = .ok record ∧
      ofRecord decodeInt64 v record = .ok r ∧ u.isEqual v = .ok true := by
  obtain ⟨c, d, hc, hd⟩ : ∃ c d,
      (UnitType.product (.named Catalog.kelvin) (.named Catalog.meter)).terms = .ok c ∧
      (UnitType.product (.named (.relative Catalog.kelvin)) (.named Catalog.meter)).terms = .ok d :=
    ⟨_, _, rfl, rfl⟩
  have hcterms : c.terms = [⟨.plain "K" .ofTemperature .one (some .zero), 1⟩,
      ⟨.plain "m" .ofLength .one none, 1⟩] := by
    obtain rfl := Except.ok.inj hc
    rfl
  have hdterms : d.terms = [⟨.plain "K" .ofTemperature .one none, 1⟩,
      ⟨.plain "m" .ofLength .one none, 1⟩] := by
    obtain rfl := Except.ok.inj hd
    rfl
  have hunambiguous : Power.Unambiguous c.terms d.terms := by
    rw [hcterms, hdterms]
    decide
  obtain ⟨record, hwritten, hread, hequal⟩ :=
    read_as_other_unit hc hd (fun n : Int64 => .whole n.toInt) decodeInt64 ⟨7⟩
  have hr := (hread ⟨7⟩).2 ⟨rfl, rfl, rfl⟩
  exact ⟨_, _, _, _, record, rfl, rfl, rfl, rfl, hwritten, hr,
    (hequal hunambiguous ⟨_, hr⟩).2 ⟨⟨_, rfl⟩, ⟨_, rfl⟩, ⟨_, rfl⟩⟩ ⟨⟨_, rfl⟩, ⟨_, rfl⟩, ⟨_, rfl⟩⟩⟩

/-- The minute and the thousandth of an inch have one name and are not equal, and the record of the
one is read as the other. -/
theorem read_minute_as_inch :
    ∃ (u v : UnitType) (q : Quantity u Int64) (r : Quantity v Int64) (record : Value),
      u = .named Catalog.minute ∧ v = .named (.multiple .milli Catalog.inch) ∧
      q = ⟨1⟩ ∧ r = ⟨1⟩ ∧ q.toRecord (fun n => .whole n.toInt) = .ok record ∧
      ofRecord decodeInt64 v record = .ok r ∧ u.isEqual v = .ok false :=
  ⟨_, _, _, _, _, rfl, rfl, rfl, rfl, rfl, rfl, rfl⟩

end Quantity

end Metrology
