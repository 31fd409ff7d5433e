/-
`json.Marshal` of the routing-table records, read back by `json.Unmarshal`.

`Route` and `RoutingTable` have no `MarshalJSON` of their own: the encoder writes their tagged
fields in order, each under its name, leaves out an `omitempty` field that is empty, and calls
the `MarshalJSON` of `NHNCloudTime` for the creation time and of the reference types for the
elements of `VPCs` and `Subnets` (`GoStruct.marshal`, with one encoder per field).

* `GoStruct.decode_marshal` — decoding what the encoder writes gives each field what its member
  decodes to, and the starting value where the member was left out;
* `Route.decode_zero_marshal` — a route whose strings are UTF-8 text reads back as itself, so
  every decoded route does (`Route.marshal_decoded_route`);
* `RoutingTable.decode_zero_marshal` — so does a routing table, but for its creation time, which
  comes back as its wall clock in UTC, to the second (`RoutingTable.marshal_decoded_table`).
-/
import NhnCloudLayer3.InternetGateway
import NhnCloudLayer3.ParsedTime

namespace NhnCloudLayer3

namespace GoStruct

variable {α : Type} (S : GoStruct α)

/-- `json.Marshal` of a struct without a `MarshalJSON`: its fields in order, each under its name,
but those whose encoding `enc` leaves out (`omitempty` on an empty value). -/
def marshal (enc : (f : S.Field) → S.Ty f → Option Json) (a : α) : Json :=
  .obj (S.fields.filterMap fun f => (enc f (S.get a f)).map fun v => (S.name f, v))

variable {S} (hself : ∀ f, S.fieldOf (S.name f) = some f) (hall : ∀ f, f ∈ S.fields)
  (hnodup : S.fields.Nodup)

include hself in
theorem name_injective : Function.Injective S.name := fun f g h =>
  Option.some.inj ((hself f).symm.trans (h ▸ hself g))

include hself hnodup in
theorem marshal_keys_nodup (enc : (f : S.Field) → S.Ty f → Option Json) (a : α) :
    ((S.fields.filterMap fun f => (enc f (S.get a f)).map fun v => (S.name f, v)).map
      Prod.fst).Nodup := by
  rw [List.map_filterMap]
  refine hnodup.filterMap fun f g k hf hg => name_injective hself ?_
  simp only [Option.map_map, Option.mem_def, Option.map_eq_some', Function.comp_apply] at hf hg
  obtain ⟨-, -, rfl⟩ := hf
  obtain ⟨-, -, e⟩ := hg
  exact e.symm

include hself in
/-- The encoder writes each field under its own name, so the keys it writes are exact. -/
theorem marshal_keys_exact (enc : (f : S.Field) → S.Ty f → Option Json) (a : α) :
    S.exactKeys (S.fields.filterMap fun f => (enc f (S.get a f)).map fun v => (S.name f, v)) =
      true := by
  refine (GoStruct.exactKeys_iff S).mpr fun kv hm g hg => ?_
  obtain ⟨f, -, hkv⟩ := List.mem_filterMap.mp hm
  obtain ⟨v, -, rfl⟩ := Option.map_eq_some'.mp hkv
  rw [hself f] at hg
  cases hg
  rfl

include hself hall hnodup in
/-- The member the encoder writes for each field. -/
theorem lookup_marshal (enc : (f : S.Field) → S.Ty f → Option Json) (a : α) (f : S.Field) :
    Json.lookup (S.fields.filterMap fun f => (enc f (S.get a f)).map fun v => (S.name f, v))
      (S.name f) = enc f (S.get a f) := by
  cases he : enc f (S.get a f) with
  | none =>
    refine Json.lookup_eq_none.mpr fun hm => ?_
    obtain ⟨⟨k, v⟩, hkv, rfl⟩ := List.mem_map.mp hm
    obtain ⟨g, -, hg⟩ := List.mem_filterMap.mp hkv
    cases hg' : enc g (S.get a g) with
    | none => rw [hg'] at hg; cases hg
    | some w =>
      simp only [hg', Option.map_some', Option.some.injEq, Prod.mk.injEq] at hg
      cases name_injective hself hg.1
      rw [he] at hg'; cases hg'
  | some v =>
    exact Json.lookup_of_mem (marshal_keys_nodup hself hnodup enc a)
      (List.mem_filterMap.mpr ⟨f, hall f, by rw [he]; rfl⟩)

include hself hall hnodup in
/-- **Decoding what the encoder writes.** Where each written member decodes into its field
without error, to the field of `c`, and each field left out already holds the field of `c`,
decoding the encoding of `b` gives `c`. -/
theorem decode_marshal {enc : (f : S.Field) → S.Ty f → Option Json} {goType : String}
    {a b c : α} (hext : ∀ x y, (∀ f, S.get x f = S.get y f) → x = y)
    (hfield : ∀ f v, enc f (S.get b f) = some v →
      S.decodeField f (S.get a f) v = .ok (S.get c f))
    (homit : ∀ f, enc f (S.get b f) = none → S.get a f = S.get c f) :
    S.decode goType a (S.marshal enc b) = .ok c :=
  decode_obj_eq_ok hself (marshal_keys_nodup hself hnodup enc b)
    (marshal_keys_exact hself enc b) hext
    (fun f v hl => hfield f v (by rw [← lookup_marshal hself hall hnodup enc b f]; exact hl))
    (fun f hl => homit f (by rw [← lookup_marshal hself hall hnodup enc b f]; exact hl))

end GoStruct

/-- Decoding the encodings of a list into an empty slice, where each element reads back from its
encoding into a zero value. -/
theorem decodeElems_nil_map {α : Type} {dec : α → Json → Decoded α} {zero : α} {enc : α → Json}
    (l : List α) (h : ∀ x ∈ l, dec zero (enc x) = .ok x) :
    decodeElems dec zero [] (l.map enc) = .ok l := by
  induction l with
  | nil => rfl
  | cons x xs ih =>
    simp only [List.map_cons, decodeElems, List.headD_nil, List.tail_nil,
      h x (List.mem_cons_self x xs), ih fun y hy => h y (List.mem_cons_of_mem x hy)]
    rfl

section Int

/-- The decimal digits of `n`, most significant first. -/
def decimalDigits (n : Nat) : List (Fin 10) :=
  (Nat.toDigits 10 n).map fun c => Fin.ofNat (c.toNat - 48)

/-- `json.Marshal` of an `int`: `strconv.FormatInt(k, 10)`, a sign and the digits. -/
def Number.ofInt (k : Int) : Number := ⟨decide (k < 0), decimalDigits k.natAbs, [], none⟩

theorem digitsValue_append_singleton (ds : List (Fin 10)) (d : Fin 10) :
    digitsValue (ds ++ [d]) = 10 * digitsValue ds + d := by
  simp [digitsValue, List.foldl_append]

theorem digitsValue_decimalDigits (n : Nat) : digitsValue (decimalDigits n) = n := by
  induction n using Nat.strong_induction_on with
  | _ n ih =>
    have hd : ∀ {d : Nat}, d < 10 → ((Fin.ofNat ((Nat.digitChar d).toNat - 48) : Fin 10) : Nat) = d :=
      fun h => by rw [toNat_digitChar h, Nat.add_sub_cancel_left]; exact Nat.mod_eq_of_lt h
    rw [decimalDigits, toDigits_ten]
    split_ifs with h
    · simp [digitsValue, hd h]
    · rw [List.map_append, List.map_singleton, digitsValue_append_singleton, ← decimalDigits,
        ih _ (Nat.div_lt_self (by omega) (by decide)), hd (Nat.mod_lt _ (by decide))]
      omega

/-- A 64-bit `int` reads back from what the encoder writes for it. -/
theorem parseInt_ofInt {k : Int} (h₁ : -2 ^ 63 ≤ k) (h₂ : k < 2 ^ 63) :
    (Number.ofInt k).parseInt = some k := by
  have hv : (if decide (k < 0) = true then -(k.natAbs : Int) else k.natAbs) = k := by
    by_cases hk : k < 0
    · rw [if_pos (decide_eq_true hk)]; omega
    · rw [if_neg (by simpa using hk)]; omega
  simp only [Number.parseInt, Number.ofInt, digitsValue_decimalDigits, hv, and_self, if_true,
    h₁, h₂]

theorem Number.parseInt_range {n : Number} {k : Int} (h : n.parseInt = some k) :
    -2 ^ 63 ≤ k ∧ k < 2 ^ 63 := by
  simp only [Number.parseInt] at h
  split_ifs at h with _ _ hr hr <;> exact Option.some.inj h ▸ hr

/-- `json.Unmarshal` into an `int` keeps it a 64-bit `int`. -/
theorem decodeInt_range {cur : Int} (h : -2 ^ 63 ≤ cur ∧ cur < 2 ^ 63) (v : Json) :
    -2 ^ 63 ≤ (decodeInt cur v).val ∧ (decodeInt cur v).val < 2 ^ 63 := by
  cases v with
  | num n =>
    simp only [decodeInt]
    split
    · exact Number.parseInt_range ‹_›
    · exact h
  | _ => exact h

end Int

section OmitEmpty

/-- A `string` field tagged `omitempty`: left out when empty. -/
def omitEmptyString (s : GoString) : Option Json :=
  if s = .empty then none else some (.str s.toJson)

/-- A `bool` field tagged `omitempty`: left out when false. -/
def omitFalse (b : Bool) : Option Json := if b then some (.bool true) else none

/-- A slice field tagged `omitempty`: left out when it has no elements. -/
def omitEmptySlice {α : Type} (enc : α → Json) (l : List α) : Option Json :=
  if l.isEmpty then none else some (.arr (l.map enc))

variable {s : GoString} {b : Bool} {v : Json}

theorem omitEmptyString_eq_some : omitEmptyString s = some v ↔ s ≠ .empty ∧ v = .str s.toJson := by
  unfold omitEmptyString; split_ifs with h <;> simp [h, eq_comm]

theorem omitEmptyString_eq_none : omitEmptyString s = none ↔ s = .empty := by
  unfold omitEmptyString; split_ifs with h <;> simp [h]

theorem omitFalse_eq_some : omitFalse b = some v ↔ b = true ∧ v = .bool true := by
  unfold omitFalse; split_ifs with h <;> simp [h, eq_comm]

theorem omitFalse_eq_none : omitFalse b = none ↔ b = false := by
  unfold omitFalse; split_ifs with h <;> simp [h]

theorem omitEmptySlice_eq_some {α : Type} {enc : α → Json} {l : List α} :
    omitEmptySlice enc l = some v ↔ l ≠ [] ∧ v = .arr (l.map enc) := by
  cases l <;> simp [omitEmptySlice, eq_comm]

theorem omitEmptySlice_eq_none {α : Type} {enc : α → Json} {l : List α} :
    omitEmptySlice enc l = none ↔ l = [] := by
  cases l <;> simp [omitEmptySlice]

end OmitEmpty

namespace Route

/-- The member the encoder writes for each field of a route; `none` where `omitempty` leaves
the empty value out. -/
def encodeField : (f : Field) → f.Ty → Option Json
  | .id, s => some (.str s.toJson)
  | .cidr, s => some (.str s.toJson)
  | .mask, k => some (.num (Number.ofInt k))
  | .gateway, s => some (.str s.toJson)
  | .gatewayId, s => omitEmptyString s
  | .description, p => some (InternetGateway.stringPtrJson p)
  | .routingTableId, s => some (.str s.toJson)
  | .tenantId, s => some (.str s.toJson)
  | .hidden, b => omitFalse b

/-- `json.Marshal` of a route. -/
def marshal (r : Route) : Json := goStruct.marshal encodeField r

/-- What every route `json.Unmarshal` builds satisfies: its strings are UTF-8 text and its
mask is a 64-bit `int`. -/
structure Valid (r : Route) : Prop where
  id : r.id.IsText
  cidr : r.cidr.IsText
  mask : -2 ^ 63 ≤ r.mask ∧ r.mask < 2 ^ 63
  gateway : r.gateway.IsText
  gatewayId : r.gatewayId.IsText
  description : ∀ s ∈ r.description, s.IsText
  routingTableId : r.routingTableId.IsText
  tenantId : r.tenantId.IsText

theorem valid_zero : zero.Valid :=
  ⟨GoString.isText_empty, GoString.isText_empty, by decide, GoString.isText_empty,
    GoString.isText_empty, nofun, GoString.isText_empty, GoString.isText_empty⟩

theorem goStruct_mem_fields (f : Field) : f ∈ goStruct.fields := by
  cases f <;> decide

theorem goStruct_fields_nodup : goStruct.fields.Nodup := by
  decide

/-- Decoding into any route: every field comes back but `gateway_id` and `hidden`, which the
encoder leaves out when empty and false, and which then keep the receiver's values. -/
theorem decode_marshal_into {r : Route} (hr : r.Valid) (a : Route) :
    decode a (marshal r) = .ok { r with
      gatewayId := if r.gatewayId = .empty then a.gatewayId else r.gatewayId
      hidden := r.hidden || a.hidden } := by
  refine GoStruct.decode_marshal goStruct_fieldOf_name goStruct_mem_fields
    goStruct_fields_nodup (fun x y h => ext_get h) (fun f v he => ?_) (fun f he => ?_)
  · cases f
    case id => cases he; exact InternetGateway.decodeString_toJson hr.id a.id
    case cidr => cases he; exact InternetGateway.decodeString_toJson hr.cidr a.cidr
    case mask =>
      cases he
      show decodeInt a.mask (.num (Number.ofInt r.mask)) = .ok r.mask
      simp only [decodeInt, parseInt_ofInt hr.mask.1 hr.mask.2]
    case gateway => cases he; exact InternetGateway.decodeString_toJson hr.gateway a.gateway
    case gatewayId =>
      obtain ⟨hg, rfl⟩ := (@omitEmptyString_eq_some r.gatewayId v).mp he
      show decodeString a.gatewayId (.str r.gatewayId.toJson) =
        .ok (if r.gatewayId = .empty then a.gatewayId else r.gatewayId)
      rw [if_neg hg]
      exact InternetGateway.decodeString_toJson hr.gatewayId a.gatewayId
    case description =>
      cases he; exact InternetGateway.decodeStringPtr_stringPtrJson hr.description a.description
    case routingTableId =>
      cases he; exact InternetGateway.decodeString_toJson hr.routingTableId a.routingTableId
    case tenantId => cases he; exact InternetGateway.decodeString_toJson hr.tenantId a.tenantId
    case hidden =>
      obtain ⟨hh, rfl⟩ := (@omitFalse_eq_some r.hidden v).mp he
      show decodeBool a.hidden (.bool true) = .ok (r.hidden || a.hidden)
      rw [hh]
      rfl
  · cases f
    case gatewayId =>
      show a.gatewayId = if r.gatewayId = .empty then a.gatewayId else r.gatewayId
      rw [if_pos ((@omitEmptyString_eq_none r.gatewayId).mp he)]
    case hidden =>
      show a.hidden = (r.hidden || a.hidden)
      rw [(@omitFalse_eq_none r.hidden).mp he, Bool.false_or]
    all_goals cases he

theorem decode_zero_marshal {r : Route} (hr : r.Valid) : decode zero (marshal r) = .ok r := by
  rw [decode_marshal_into hr zero]
  obtain ⟨⟩ := r
  simp only [zero, Bool.or_false]
  split_ifs with h <;> simp only [h]

/-- Decoding any member into a field of a route keeps the route valid. -/
theorem valid_set_decodeField (a : Route) (f : Field) (v : Json) (ha : a.Valid) :
    (goStruct.set a f (goStruct.decodeField f (goStruct.get a f) v).val).Valid := by
  cases f
  case id => exact { ha with id := decodeString_isText ha.id v }
  case cidr => exact { ha with cidr := decodeString_isText ha.cidr v }
  case mask => exact { ha with mask := decodeInt_range ha.mask v }
  case gateway => exact { ha with gateway := decodeString_isText ha.gateway v }
  case gatewayId => exact { ha with gatewayId := decodeString_isText ha.gatewayId v }
  case description => exact { ha with description := decodeStringPtr_isText ha.description v }
  case routingTableId => exact { ha with routingTableId := decodeString_isText ha.routingTableId v }
  case tenantId => exact { ha with tenantId := decodeString_isText ha.tenantId v }
  case hidden => exact { ha with }

/-- Every route `json.Unmarshal` builds into a valid route is valid. -/
theorem valid_decode {a : Route} (ha : a.Valid) (v : Json) : (decode a v).val.Valid :=
  goStruct.decode_invariant Valid valid_set_decodeField _ a ha v

/-- **Route round trip.** Every route that `json.Unmarshal` builds, from any JSON value into a
zero route, is written by `json.Marshal` and read back into a zero route as itself, without
error. -/
theorem marshal_decoded_route (v : Json) :
    decode zero (marshal (decode zero v).val) = .ok (decode zero v).val :=
  decode_zero_marshal (valid_decode valid_zero v)

end Route

section Slices

variable {α : Type} {dec : α → Json → Decoded α} {zero : α}

theorem Decoded.andThen_val_cases (d : Decoded α) (f : α → Decoded α) :
    (d.andThen f).val = d.val ∨ (d.andThen f).val = (f d.val).val := by
  unfold Decoded.andThen
  split
  · exact .inl rfl
  · exact .inr rfl

/-- A property of elements that the zero value has and decoding keeps holds of every element of
a slice decoded from an array into a slice whose elements have it. -/
theorem decodeElems_invariant (P : α → Prop) (hz : P zero) (hdec : ∀ c x, P c → P (dec c x).val) :
    ∀ (xs : List Json) (cur : List α), (∀ c ∈ cur, P c) →
      ∀ c ∈ (decodeElems dec zero cur xs).val, P c
  | [], _, _ => nofun
  | x :: xs, cur, hcur => by
    have hhead : P (dec (cur.headD zero) x).val := hdec _ x (by
      cases cur with
      | nil => exact hz
      | cons c _ => exact hcur c (List.mem_cons_self _ _))
    have htail : ∀ c ∈ cur.tail, P c := fun c hc => hcur c (List.mem_of_mem_tail hc)
    intro c hc
    simp only [decodeElems] at hc
    rcases Decoded.andThen_val_cases _ _ with h | h <;> rw [h] at hc <;>
      simp only [Decoded.map_val, List.mem_cons] at hc <;> rcases hc with rfl | hc
    · exact hhead
    · exact htail c hc
    · exact hhead
    · exact decodeElems_invariant P hz hdec xs cur.tail htail c hc

theorem decodeSlice_invariant (P : α → Prop) (hz : P zero) (hdec : ∀ c x, P c → P (dec c x).val)
    (goType : String) (cur : List α) (hcur : ∀ c ∈ cur, P c) (v : Json) :
    ∀ c ∈ (decodeSlice dec zero goType cur v).val, P c := by
  cases v
  case null => exact nofun
  case arr xs => exact decodeElems_invariant P hz hdec xs cur hcur
  all_goals exact hcur

end Slices

namespace FlexibleInfo

/-- Both strings of a reference are UTF-8 text. -/
def IsText (fi : FlexibleInfo) : Prop := fi.id.IsText ∧ fi.name.IsText

theorem isText_zero : zero.IsText := ⟨GoString.isText_empty, GoString.isText_empty⟩

/-- Every reference `UnmarshalJSON` builds into a reference with text strings has text strings. -/
theorem isText_unmarshalJSON (aliasName : String) {fi : FlexibleInfo} (h : fi.IsText) (v : Json) :
    (flexibleUnmarshalJSON aliasName fi v).1.IsText := by
  cases v
  case str s => exact ⟨GoString.isText_ofString s, GoString.isText_empty⟩
  case null => exact isText_zero
  all_goals
    exact (aliasStruct aliasName).decode_invariant IsText
      (fun a f v ha => by
        obtain ⟨h₁, h₂⟩ := ha
        cases f
        · exact ⟨decodeString_isText h₁ v, h₂⟩
        · exact ⟨h₁, decodeString_isText h₂ v⟩) _ fi h _

/-- A reference with text strings reads back, into a zero reference, from what `MarshalJSON`
writes. -/
theorem unmarshalJSON_marshalJSON_of_isText (aliasName : String) {fi : FlexibleInfo}
    (h : fi.IsText) : flexibleUnmarshalJSON aliasName zero (flexibleMarshalJSON fi) = (fi, none) := by
  have := flexibleUnmarshalJSON_marshalJSON aliasName fi.id.toJson fi.name.toJson
  rwa [h.1, h.2] at this

end FlexibleInfo

/-- The JSON value `NHNCloudTime.MarshalJSON` writes: `null` for the zero time, else the string
`Format` gives. -/
def NHNCloudTime.marshalValue (ct : NHNCloudTime) : Json :=
  if ct.time.isZero then .null else .str ct.time.format

/-- A clock text is quoted alike with and without HTML escaping. -/
theorem quote_clock {cs : List Char} (h : ∀ c ∈ cs, IsClockChar c) (html : Bool) :
    Json.quote html ⟨cs⟩ = Json.quote false ⟨cs⟩ := by
  unfold Json.quote
  rw [show (⟨cs⟩ : String).toList = cs from rfl, List.map_congr_left fun c hc =>
    ((h c hc).escapeRune html).trans ((h c hc).escapeRune false).symm]

/-- The value the encoder writes for a creation time has the text `MarshalJSON` gives, for
every time whose year has four digits. -/
theorem NHNCloudTime.rawText_marshalValue (ct : NHNCloudTime) (hy : 0 ≤ ct.time.year)
    (hy' : ct.time.year ≤ 9999) : ct.marshalValue.rawText = ct.marshalJSON := by
  unfold NHNCloudTime.marshalValue NHNCloudTime.marshalJSON
  split_ifs
  · rfl
  · obtain ⟨cs, hfmt, hclock, -⟩ := GoTime.format_clock ct.time hy hy'
    rw [hfmt, Json.rawText]
    exact (quote_clock hclock true).symm

/-- Decoding the creation time the encoder writes: the zero time leaves the receiver as it was,
any other comes back as its wall clock read as UTC, to the second. -/
theorem NHNCloudTime.unmarshalValue_marshalValue (ct ct' : NHNCloudTime) (hy : 0 ≤ ct'.time.year)
    (hy' : ct'.time.year ≤ 9999) :
    ct.unmarshalValue ct'.marshalValue = if ct'.time.isZero then (ct, none)
      else (⟨⟨ct'.time.sec + ct'.time.zone.seconds, 0, .utc⟩⟩, none) := by
  unfold NHNCloudTime.unmarshalValue NHNCloudTime.marshalValue
  split_ifs
  · rfl
  · obtain ⟨cs, hfmt, hclock, hparse⟩ := GoTime.format_clock ct'.time hy hy'
    rw [hfmt, Json.rawText, show GoString.ofString (Json.quote false ⟨cs⟩) = ⟨_⟩ from
      congrArg GoString.mk (ofString_quote_clock hclock false)]
    exact NHNCloudTime.unmarshalJSON_quoted hclock hparse

/-- Decoding a creation time keeps its year of four digits. -/
theorem NHNCloudTime.year_decodeWith {ct : NHNCloudTime}
    (h : 0 ≤ ct.time.year ∧ ct.time.year ≤ 9999) (v : Json) :
    0 ≤ (decodeWith NHNCloudTime.unmarshalValue ct v).val.time.year ∧
      (decodeWith NHNCloudTime.unmarshalValue ct v).val.time.year ≤ 9999 := by
  rw [decodeWith_val]
  exact NHNCloudTime.unmarshalJSON_year h _

namespace RoutingTable

/-- The member the encoder writes for each field of a routing table; `none` where `omitempty`
leaves an empty slice out. The creation time is the value `NHNCloudTime.MarshalJSON` writes, with
the text it gives for every year of four digits (`NHNCloudTime.rawText_marshalValue`). -/
def encodeField : (f : Field) → f.Ty → Option Json
  | .id, s => some (.str s.toJson)
  | .name, s => some (.str s.toJson)
  | .defaultTable, b => some (.bool b)
  | .distributed, b => some (.bool b)
  | .gatewayId, s => some (.str s.toJson)
  | .gatewayName, s => some (.str s.toJson)
  | .tenantId, s => some (.str s.toJson)
  | .state, s => some (.str s.toJson)
  | .createTime, ct => some ct.marshalValue
  | .vpcs, l => omitEmptySlice FlexibleVPCInfo.marshalJSON l
  | .subnets, l => omitEmptySlice FlexibleSubnetInfo.marshalJSON l
  | .routes, l => omitEmptySlice Route.marshal l

/-- `json.Marshal` of a routing table. -/
def marshal (rt : RoutingTable) : Json := goStruct.marshal encodeField rt

/-- What every routing table `json.Unmarshal` builds satisfies: its strings, those of its
references included, are UTF-8 text, its creation time has a four-digit year, and its routes
are valid. -/
structure Valid (rt : RoutingTable) : Prop where
  id : rt.id.IsText
  name : rt.name.IsText
  gatewayId : rt.gatewayId.IsText
  gatewayName : rt.gatewayName.IsText
  tenantId : rt.tenantId.IsText
  state : rt.state.IsText
  createTime : 0 ≤ rt.createTime.time.year ∧ rt.createTime.time.year ≤ 9999
  vpcs : ∀ fi ∈ rt.vpcs, fi.IsText
  subnets : ∀ fi ∈ rt.subnets, fi.IsText
  routes : ∀ r ∈ rt.routes, r.Valid

theorem valid_zero : zero.Valid :=
  ⟨GoString.isText_empty, GoString.isText_empty, GoString.isText_empty, GoString.isText_empty,
    GoString.isText_empty, GoString.isText_empty, by decide, nofun, nofun, nofun⟩

theorem goStruct_mem_fields (f : Field) : f ∈ goStruct.fields := by
  cases f <;> decide

theorem goStruct_fields_nodup : goStruct.fields.Nodup := by
  decide

/-- The creation time a routing table reads back with: the zero time for the zero instant,
else the wall clock read as UTC, to the second. -/
def readBackTime (ct : NHNCloudTime) : NHNCloudTime :=
  if ct.time.isZero then .zero else ⟨⟨ct.time.sec + ct.time.zone.seconds, 0, .utc⟩⟩

/-- A valid routing table is written by `json.Marshal` and read back into a zero routing table,
without error, as itself but for its creation time, which comes back as its wall clock read as
UTC, to the second. -/
theorem decode_zero_marshal {rt : RoutingTable} (hrt : rt.Valid) :
    decode zero (marshal rt) = .ok { rt with createTime := readBackTime rt.createTime } := by
  refine GoStruct.decode_marshal goStruct_fieldOf_name goStruct_mem_fields
    goStruct_fields_nodup (fun x y h => ext_get h) (fun f v he => ?_) (fun f he => ?_)
  · cases f
    case id => cases he; exact InternetGateway.decodeString_toJson hrt.id .empty
    case name => cases he; exact InternetGateway.decodeString_toJson hrt.name .empty
    case defaultTable => cases he; rfl
    case distributed => cases he; rfl
    case gatewayId => cases he; exact InternetGateway.decodeString_toJson hrt.gatewayId .empty
    case gatewayName => cases he; exact InternetGateway.decodeString_toJson hrt.gatewayName .empty
    case tenantId => cases he; exact InternetGateway.decodeString_toJson hrt.tenantId .empty
    case state => cases he; exact InternetGateway.decodeString_toJson hrt.state .empty
    case createTime =>
      cases he
      refine decodeWith_of_eq ?_
      show NHNCloudTime.zero.unmarshalValue rt.createTime.marshalValue = (readBackTime _, none)
      rw [NHNCloudTime.unmarshalValue_marshalValue _ _ hrt.createTime.1 hrt.createTime.2]
      unfold readBackTime
      split_ifs <;> rfl
    case vpcs =>
      obtain ⟨-, rfl⟩ := (@omitEmptySlice_eq_some _ _ FlexibleVPCInfo.marshalJSON rt.vpcs).mp he
      exact decodeElems_nil_map _ fun fi hfi =>
        decodeWith_of_eq (FlexibleInfo.unmarshalJSON_marshalJSON_of_isText _ (hrt.vpcs fi hfi))
    case subnets =>
      obtain ⟨-, rfl⟩ :=
        (@omitEmptySlice_eq_some _ _ FlexibleSubnetInfo.marshalJSON rt.subnets).mp he
      exact decodeElems_nil_map _ fun fi hfi =>
        decodeWith_of_eq (FlexibleInfo.unmarshalJSON_marshalJSON_of_isText _ (hrt.subnets fi hfi))
    case routes =>
      obtain ⟨-, rfl⟩ := (@omitEmptySlice_eq_some _ _ Route.marshal rt.routes).mp he
      exact decodeElems_nil_map _ fun r hr => Route.decode_zero_marshal (hrt.routes r hr)
  · cases f
    case vpcs => exact ((@omitEmptySlice_eq_none _ FlexibleVPCInfo.marshalJSON rt.vpcs).mp he).symm
    case subnets =>
      exact ((@omitEmptySlice_eq_none _ FlexibleSubnetInfo.marshalJSON rt.subnets).mp he).symm
    case routes => exact ((@omitEmptySlice_eq_none _ Route.marshal rt.routes).mp he).symm
    all_goals cases he

/-- Decoding any member into a field of a routing table keeps the routing table valid. -/
theorem valid_set_decodeField (a : RoutingTable) (f : Field) (v : Json) (ha : a.Valid) :
    (goStruct.set a f (goStruct.decodeField f (goStruct.get a f) v).val).Valid := by
  have hflex : ∀ (aliasName : String) (c : FlexibleInfo) (x : Json), c.IsText →
      (decodeWith (flexibleUnmarshalJSON aliasName) c x).val.IsText := fun aliasName c x hc => by
    rw [decodeWith_val]
    exact FlexibleInfo.isText_unmarshalJSON aliasName hc x
  cases f
  case id => exact { ha with id := decodeString_isText ha.id v }
  case name => exact { ha with name := decodeString_isText ha.name v }
  case defaultTable => exact { ha with }
  case distributed => exact { ha with }
  case gatewayId => exact { ha with gatewayId := decodeString_isText ha.gatewayId v }
  case gatewayName => exact { ha with gatewayName := decodeString_isText ha.gatewayName v }
  case tenantId => exact { ha with tenantId := decodeString_isText ha.tenantId v }
  case state => exact { ha with state := decodeString_isText ha.state v }
  case createTime => exact { ha with createTime := NHNCloudTime.year_decodeWith ha.createTime v }
  case vpcs =>
    exact { ha with vpcs := decodeSlice_invariant _ FlexibleInfo.isText_zero (hflex _) _ _ ha.vpcs v }
  case subnets =>
    exact { ha with
      subnets := decodeSlice_invariant _ FlexibleInfo.isText_zero (hflex _) _ _ ha.subnets v }
  case routes =>
    have hroute (c : Route) (x : Json) (hc : c.Valid) := Route.valid_decode hc x
    exact { ha with routes := decodeSlice_invariant _ Route.valid_zero hroute _ _ ha.routes v }

/-- Every routing table `json.Unmarshal` builds into a valid routing table is valid. -/
theorem valid_decode {a : RoutingTable} (ha : a.Valid) (v : Json) : (decode a v).val.Valid :=
  goStruct.decode_invariant Valid valid_set_decodeField _ a ha v

/-- **Routing table round trip.** Every routing table that `json.Unmarshal` builds, from any
JSON value into a zero routing table, is written by `json.Marshal` and read back into a zero
routing table, without error, as itself but for its creation time, which comes back as its
wall clock read as UTC, to the second. -/
theorem marshal_decoded_table (v : Json) :
    decode zero (marshal (decode zero v).val) =
      .ok { (decode zero v).val with createTime := readBackTime (decode zero v).val.createTime } :=
  decode_zero_marshal (valid_decode valid_zero v)

end RoutingTable

end NhnCloudLayer3
