/-
The two paths of `RoutingTableResult.Extract` compared: decoding a routing table strictly, with
`json.Unmarshal`, and reading it permissively, with `parseRoutingTableFromMap`.

Both read the members of a re-encoded response body, whose keys are sorted, hence distinct.
Where no key of the record, nor of an object in its `vpcs`, `subnets` or `routes` arrays,
differs from a field's name only in case (`exactRecordKeys`; the API writes its keys in
lowercase), the strict decoder fills each field from the member of its own name, the member a
map holds under that name, and the two paths agree member by member, but for a route's mask:
the permissive path reads it through the `float64` the map holds (`intThroughFloat64`).

* `roundBinary64_intCast` — an integer of at most `2^53` in magnitude is a `float64`, so such a
  mask comes back as it was;
* `parseRoutingTableFromMap_embeds` — where the strict decoding succeeds, the permissive record
  has its scalars and creation time, and lists that are sublists of its lists, each mask read
  through a `float64`: it leaves out the elements the strict decoder reads from `null`;
* `parseRoutingTableFromMap_eq_decode` — where the lists hold no `null`, the two records are
  equal but for the masks, and equal where every mask is at most `2^53` in magnitude;
* `extract_reads_record` — `Extract` of a body whose `routingtable` member is an object returns
  a record and no error, and the record keeps every member of the right type (`ReadsRecord`),
  whichever path produced it.

Design notes: one agreement lemma for each kind of member (string, bool, `*string`, `int`, the
creation time, a slice), between the decoder of `Decode` and the map accessor of `Permissive`;
the records are then compared field by field through `GoStruct.get_decode_obj`.
-/
import NhnCloudLayer3.CreateTime
import NhnCloudLayer3.Extract

namespace NhnCloudLayer3

/-- A JSON `null`. -/
def Json.isNull : Json → Bool
  | .null => true
  | _ => false

/-! ### Masks through a `float64` -/

theorem roundHalfEven_intCast (m : ℤ) : roundHalfEven m = m := by
  simp [roundHalfEven]

/-- **An integer of at most `2^53` in magnitude is a `float64`**: decoding it into an
`interface{}` keeps its value. -/
theorem roundBinary64_intCast {k : ℤ} (h : |k| ≤ 2 ^ 53) :
    roundBinary64 k = some (k : ℚ) := by
  rcases eq_or_ne k 0 with rfl | hk
  · simp [roundBinary64]
  have hn : k.natAbs ≤ 2 ^ 53 := by rw [Int.abs_eq_natAbs] at h; omega
  have hlog : Nat.log 2 k.natAbs ≤ 53 :=
    calc Nat.log 2 k.natAbs ≤ Nat.log 2 (2 ^ 53) := Nat.log_mono_right hn
      _ = 53 := Nat.log_pow (by norm_num) 53
  have he : max (Int.log 2 |(k : ℚ)| - 52) (-1074) = (Nat.log 2 k.natAbs : ℤ) - 52 := by
    rw [← Int.cast_abs, Int.abs_eq_natAbs, Int.cast_natCast, Int.log_natCast]; omega
  -- the scaled value is an integer: below `2^53` the scale is a nonpositive power of two, and
  -- at `2^53` it is two
  obtain ⟨m, hm⟩ : ∃ m : ℤ, (k : ℚ) / 2 ^ ((Nat.log 2 k.natAbs : ℤ) - 52) = m := by
    rcases Nat.lt_or_ge (Nat.log 2 k.natAbs) 53 with hl | hl
    · refine ⟨k * 2 ^ (52 - Nat.log 2 k.natAbs), ?_⟩
      rw [show (Nat.log 2 k.natAbs : ℤ) - 52 = -((52 - Nat.log 2 k.natAbs : ℕ) : ℤ) by omega,
        zpow_neg, zpow_natCast, div_inv_eq_mul]
      push_cast; ring
    · have h53 : k.natAbs = 2 ^ 53 := le_antisymm hn <| by
        have := Nat.pow_log_le_self 2 (Int.natAbs_ne_zero.mpr hk)
        rwa [show Nat.log 2 k.natAbs = 53 by omega] at this
      rw [show Nat.log 2 k.natAbs = 53 by omega]
      rcases Int.natAbs_eq k with hk' | hk' <;> rw [hk', h53]
      · exact ⟨2 ^ 52, by norm_num⟩
      · exact ⟨-2 ^ 52, by norm_num⟩
  have hv : (m : ℚ) * 2 ^ ((Nat.log 2 k.natAbs : ℤ) - 52) = k := by
    rw [← hm, div_mul_cancel₀ _ (zpow_ne_zero _ two_ne_zero)]
  have hsmall : ¬ (2 : ℚ) ^ 1024 ≤ |(k : ℚ)| := by
    have : |(k : ℚ)| ≤ 2 ^ 53 := by exact_mod_cast h
    intro h'; linarith [show (2 : ℚ) ^ 53 < 2 ^ 1024 by norm_num]
  simp only [roundBinary64, Int.cast_eq_zero, hk, if_false, he, hm, roundHalfEven_intCast, hv,
    hsmall]

theorem floatToInt_intCast {v : Int} (h : -2 ^ 63 ≤ v ∧ v < 2 ^ 63) : floatToInt v = v := by
  unfold floatToInt
  simp only [Int.floor_intCast, Int.ceil_intCast, ite_self]
  exact if_pos h

/-- `int(float64(k))`: an `int` read back through the `float64` that `encoding/json` decodes a
number into for an `interface{}`, as the permissive path reads a mask; `0`, that path's default,
where the rounding overflows. -/
def intThroughFloat64 (k : Int) : Int := ((roundBinary64 k).map floatToInt).getD 0

/-- An `int` of at most `2^53` in magnitude comes back as itself. -/
theorem intThroughFloat64_of_abs_le {k : Int} (h : |k| ≤ 2 ^ 53) : intThroughFloat64 k = k := by
  obtain ⟨h₁, h₂⟩ := abs_le.mp h
  rw [intThroughFloat64, roundBinary64_intCast h, Option.map_some', Option.getD_some,
    floatToInt_intCast ⟨by linarith, by linarith⟩]

/-- A route as the permissive path reads it back: its mask through a `float64`. -/
def Route.roundMask (r : Route) : Route := { r with mask := intThroughFloat64 r.mask }

/-- A routing table with the mask of each route read through a `float64`. -/
def RoutingTable.roundMasks (rt : RoutingTable) : RoutingTable :=
  { rt with routes := rt.routes.map Route.roundMask }

theorem RoutingTable.roundMasks_of_abs_le {rt : RoutingTable}
    (h : ∀ r ∈ rt.routes, |r.mask| ≤ 2 ^ 53) : rt.roundMasks = rt := by
  have hr : rt.routes.map Route.roundMask = rt.routes := by
    conv_rhs => rw [← List.map_id rt.routes]
    exact List.map_congr_left fun r hr => by
      rw [Route.roundMask, intThroughFloat64_of_abs_le (h r hr)]; rfl
  rw [RoutingTable.roundMasks, hr]

section Members

/-! Each accessor of the permissive path reads, from a member the strict decoder accepts, what
the decoder stores. -/

variable {kvs : List (String × Json)} {key : String}

/-- A `string` field keeps its value unless the member is a string: so does `data[key].(string)`
with the value as default. -/
theorem stringAt_of_decodeString (cur : GoString) :
    (Json.lookup kvs key).elim cur (fun v => (decodeString cur v).val) =
      (stringAt kvs key).getD cur := by
  unfold stringAt
  cases Json.lookup kvs key with
  | none => rfl
  | some v => cases v <;> rfl

theorem boolAt_of_decodeBool (cur : Bool) :
    (Json.lookup kvs key).elim cur (fun v => (decodeBool cur v).val) =
      (boolAt kvs key).getD cur := by
  unfold boolAt
  cases Json.lookup kvs key with
  | none => rfl
  | some v => cases v <;> rfl

theorem stringAt_of_decodeStringPtr
    (h : ∀ v, Json.lookup kvs key = some v → (decodeStringPtr none v).error = none) :
    (Json.lookup kvs key).elim none (fun v => (decodeStringPtr none v).val) = stringAt kvs key := by
  unfold stringAt
  cases hl : Json.lookup kvs key with
  | none => rfl
  | some v =>
    have hv := h v hl
    cases v <;> first | rfl | simp [decodeStringPtr] at hv

/-- A number `strconv.ParseInt` reads as `k` has the value `k`. -/
theorem Number.value_of_parseInt {n : Number} {k : Int} (h : n.parseInt = some k) :
    n.value = k := by
  unfold Number.parseInt at h
  by_cases h₁ : n.frac = [] ∧ n.exp = none
  · have hv : n.value =
        ((if n.neg then -(digitsValue n.int : Int) else digitsValue n.int : Int) : ℚ) := by
      simp only [Number.value, h₁.1, h₁.2, List.append_nil, List.length_nil, pow_zero, div_one,
        Option.getD_none, mul_one]
      split <;> simp
    rw [if_pos h₁] at h
    dsimp only at h
    generalize (if n.neg then -(digitsValue n.int : Int) else digitsValue n.int) = v at h hv
    split_ifs at h
    rw [hv, Option.some.inj h]
  · rw [if_neg h₁] at h; cases h

/-- An `int` field: the permissive path reads the member through a `float64`. -/
theorem float64At_of_decodeInt
    (h : ∀ v, Json.lookup kvs key = some v → (decodeInt 0 v).error = none) :
    ((float64At kvs key).map floatToInt).getD 0 =
      intThroughFloat64 ((Json.lookup kvs key).elim 0 fun v => (decodeInt 0 v).val) := by
  have hzero : intThroughFloat64 0 = 0 := by simp [intThroughFloat64, roundBinary64, floatToInt]
  unfold float64At
  cases hl : Json.lookup kvs key with
  | none => exact hzero.symm
  | some v =>
    have hv := h v hl
    cases v
    case num n =>
      cases hk : n.parseInt with
      | none => simp [decodeInt, hk] at hv
      | some k =>
        simp only [decodeInt, hk, Number.float64, Number.value_of_parseInt hk, Option.elim,
          Decoded.ok_val, intThroughFloat64]
    case null => exact hzero.symm
    all_goals simp [decodeInt] at hv

/-- The creation time: the strict decoder hands the member's text to `NHNCloudTime.UnmarshalJSON`,
the permissive path quotes the string it holds; where the first accepts, both read the same. -/
theorem createTimeOf_of_decodeWith
    (h : ∀ v, Json.lookup kvs key = some v →
      (decodeWith NHNCloudTime.unmarshalValue .zero v).error = none) :
    (Json.lookup kvs key).elim .zero
        (fun v => (decodeWith NHNCloudTime.unmarshalValue .zero v).val) =
      ((stringAt kvs key).map createTimeOf).getD .zero := by
  unfold stringAt
  cases hl : Json.lookup kvs key with
  | none => rfl
  | some v =>
    have hv := (decodeWith_error_eq_none _ _ _).mp (h v hl)
    simp only [Option.elim, decodeWith_val]
    cases v
    case str s => exact (createTimeOf_eq hv).symm
    all_goals
      exact congrArg Prod.fst (NHNCloudTime.unmarshalValue_of_not_str (fun _ h => Json.noConfusion h) hv)

end Members

/-- The array under `key`, if any, holds no `null`. -/
def noNullIn (kvs : List (String × Json)) (key : String) : Bool :=
  match Json.lookup kvs key with
  | some (.arr xs) => xs.all fun x => !x.isNull
  | _ => true

theorem noNullIn_iff {kvs : List (String × Json)} {key : String} :
    noNullIn kvs key = true ↔
      ∀ xs, Json.lookup kvs key = some (.arr xs) → ∀ x ∈ xs, x ≠ .null := by
  unfold noNullIn
  cases Json.lookup kvs key with
  | none => simp
  | some v =>
    cases v
    case arr xs =>
      simp only [List.all_eq_true, Bool.not_eq_true', Option.some.injEq, Json.arr.injEq,
        forall_eq']
      refine forall₂_congr fun x _ => ?_
      cases x <;> simp [Json.isNull]
    all_goals simp

/-- The keys of a value, where it is an object, are exact for the struct `S`. -/
def GoStruct.exactKeysOf {α : Type} (S : GoStruct α) : Json → Bool
  | .obj ms => S.exactKeys ms
  | _ => true

/-- The keys of every object of the array under `key`, if any, are exact for `S`. -/
def exactKeysIn {α : Type} (S : GoStruct α) (kvs : List (String × Json)) (key : String) : Bool :=
  match Json.lookup kvs key with
  | some (.arr xs) => xs.all S.exactKeysOf
  | _ => true

theorem exactKeysIn_iff {α : Type} {S : GoStruct α} {kvs : List (String × Json)} {key : String} :
    exactKeysIn S kvs key = true ↔
      ∀ xs, Json.lookup kvs key = some (.arr xs) → ∀ x ∈ xs, S.exactKeysOf x = true := by
  unfold exactKeysIn
  cases Json.lookup kvs key with
  | none => simp
  | some v => cases v <;> simp

/-- No key of a routing-table object, nor of an object in its `vpcs`, `subnets` or `routes`
arrays, differs from a field's name only in case: each member that goes to a field is named as
it, as the API's lowercase keys are. -/
def exactRecordKeys (kvs : List (String × Json)) : Bool :=
  RoutingTable.goStruct.exactKeys kvs &&
    exactKeysIn (FlexibleInfo.aliasStruct "vpcAlias") kvs "vpcs" &&
    exactKeysIn (FlexibleInfo.aliasStruct "subnetAlias") kvs "subnets" &&
    exactKeysIn Route.goStruct kvs "routes"

section Slices

variable {β : Type} {dec : β → Json → Decoded β} {zero : β} {goType : String}
  {f : Json → Option β}

theorem filterMap_eq_map_filter {γ : Type} {f : Json → Option γ} {g : Json → γ}
    (hnull : f .null = none) :
    ∀ {xs : List Json}, (∀ x ∈ xs, x ≠ .null → f x = some (g x)) →
      xs.filterMap f = (xs.filter fun x => !x.isNull).map g
  | [], _ => rfl
  | x :: xs, h => by
    have ih := filterMap_eq_map_filter hnull fun y hy => h y (List.mem_cons_of_mem _ hy)
    cases x
    case null => simp [hnull, Json.isNull, ih]
    all_goals simp [h _ (List.mem_cons_self _ _) (by simp), Json.isNull, ih]

/-- **Slices.** Where a list member decodes, reading its array with `f`, which skips `null` and
reads every other element as the element decoder does and then `g`, gives the decoded slice
mapped by `g` without the elements decoded from `null`: a sublist of it, and all of it where
the array holds no `null`. -/
theorem elim_of_decodeSlice {γ : Type} {f : Json → Option γ} {g : β → γ}
    {kvs : List (String × Json)} {key : String} {read : Json → List γ}
    (hnull : f .null = none)
    (hread : ∀ v, read v = match v with | .arr xs => xs.filterMap f | _ => [])
    (helem : ∀ xs, Json.lookup kvs key = some (.arr xs) → ∀ x ∈ xs, x ≠ .null →
      (dec zero x).error = none → f x = some (g (dec zero x).val))
    (hok : ∀ v, Json.lookup kvs key = some v → (decodeSlice dec zero goType [] v).error = none) :
    ((Json.lookup kvs key).elim [] read).Sublist
        (((Json.lookup kvs key).elim [] fun v => (decodeSlice dec zero goType [] v).val).map g) ∧
      (noNullIn kvs key = true → (Json.lookup kvs key).elim [] read =
        ((Json.lookup kvs key).elim [] fun v => (decodeSlice dec zero goType [] v).val).map g) := by
  rw [noNullIn_iff]
  generalize Json.lookup kvs key = m at helem hok ⊢
  rcases m with _ | v
  · exact ⟨List.nil_sublist _, fun _ => rfl⟩
  have hv := hok v rfl
  simp only [Option.elim, hread]
  cases v
  case null => exact ⟨List.nil_sublist _, fun _ => rfl⟩
  case arr xs =>
    have he := (decodeElems_nil_error_eq_none dec zero xs).mp hv
    have hfm := filterMap_eq_map_filter hnull fun x hx hn => helem xs rfl x hx hn (he x hx)
    simp only [decodeSlice, decodeElems_nil_val dec zero xs hv, hfm, List.map_map]
    refine ⟨(List.filter_sublist xs).map _, fun hn => ?_⟩
    rw [List.filter_eq_self.mpr fun x hx => ?_]
    · rfl
    cases x <;> first | rfl | exact absurd rfl (hn xs rfl _ hx)
  all_goals simp [decodeSlice] at hv

end Slices

section Elements

/-! The elements of `vpcs`, `subnets` and `routes`, read by each path. -/

/-- A reference the strict decoder reads from an element other than `null` is the one
`flexibleOf` reads. -/
theorem flexibleOf_of_unmarshalJSON (aliasName : String) {x : Json} (hs : x.sorted = true)
    (hx : (FlexibleInfo.aliasStruct aliasName).exactKeysOf x = true) (hn : x ≠ .null)
    (hok : (flexibleUnmarshalJSON aliasName .zero x).2 = none) :
    flexibleOf x = some (flexibleUnmarshalJSON aliasName .zero x).1 := by
  cases x
  case null => exact absurd rfl hn
  case str s => rfl
  case obj ms =>
    have field := GoStruct.get_decode_obj (FlexibleInfo.aliasStruct_fieldOf_self aliasName)
      (Json.nodup_keys_of_sorted hs) hx hok
    exact congrArg some (congrArg₂ FlexibleInfo.mk
      ((field .id).trans (stringAt_of_decodeString _)).symm
      ((field .name).trans (stringAt_of_decodeString _)).symm)
  all_goals simp [flexibleUnmarshalJSON, GoStruct.decode] at hok

/-- A route the strict decoder reads from an element other than `null` is the one `routeOf`
reads, but for its mask, which `routeOf` reads through a `float64`. -/
theorem routeOf_of_decode {x : Json} (hs : x.sorted = true)
    (hx : Route.goStruct.exactKeysOf x = true) (hn : x ≠ .null)
    (hok : (Route.decode .zero x).error = none) :
    routeOf x = some (Route.decode .zero x).val.roundMask := by
  cases x
  case null => exact absurd rfl hn
  case obj ms =>
    have field := GoStruct.get_decode_obj Route.goStruct_fieldOf_name
      (Json.nodup_keys_of_sorted hs) hx hok
    have herr := GoStruct.decodeField_error_of_lookup Route.goStruct_fieldOf_name
      (Json.nodup_keys_of_sorted hs) hx hok
    refine congrArg some (Route.ext_get fun f => ?_)
    cases f
    case mask =>
      exact (float64At_of_decodeInt (herr .mask)).trans (congrArg intThroughFloat64 (field .mask)).symm
    case description => exact ((field .description).trans (stringAt_of_decodeStringPtr (herr .description))).symm
    case hidden => exact ((field .hidden).trans (boolAt_of_decodeBool _)).symm
    all_goals exact ((field _).trans (stringAt_of_decodeString _)).symm
  all_goals simp [Route.decode, GoStruct.decode] at hok

end Elements

/-- `rt'` is `rt` with, possibly, more elements in its lists: the same scalars and creation time,
and each list of `rt` a sublist of that of `rt'`. -/
structure RoutingTable.Embeds (rt rt' : RoutingTable) : Prop where
  scalars : { rt with vpcs := [], subnets := [], routes := [] } =
    { rt' with vpcs := [], subnets := [], routes := [] }
  vpcs : rt.vpcs.Sublist rt'.vpcs
  subnets : rt.subnets.Sublist rt'.subnets
  routes : rt.routes.Sublist rt'.routes

theorem RoutingTable.Embeds.eq {rt rt' : RoutingTable} (h : rt.Embeds rt')
    (hv : rt.vpcs = rt'.vpcs) (hs : rt.subnets = rt'.subnets) (hr : rt.routes = rt'.routes) :
    rt = rt' := by
  have hsc := h.scalars
  obtain ⟨⟩ := rt; obtain ⟨⟩ := rt'
  simp only [RoutingTable.mk.injEq, and_true] at hsc hv hs hr ⊢
  exact ⟨hsc.1, hsc.2.1, hsc.2.2.1, hsc.2.2.2.1, hsc.2.2.2.2.1, hsc.2.2.2.2.2.1,
    hsc.2.2.2.2.2.2.1, hsc.2.2.2.2.2.2.2.1, hsc.2.2.2.2.2.2.2.2, hv, hs, hr⟩

section Agreement

variable {kvs : List (String × Json)} (hs : (Json.obj kvs).sorted = true)
  (hx : exactRecordKeys kvs = true)
  (hok : (RoutingTable.decode .zero (.obj kvs)).error = none)

include hx in
theorem exactRecordKeys_parts :
    RoutingTable.goStruct.exactKeys kvs = true ∧
      exactKeysIn (FlexibleInfo.aliasStruct "vpcAlias") kvs "vpcs" = true ∧
      exactKeysIn (FlexibleInfo.aliasStruct "subnetAlias") kvs "subnets" = true ∧
      exactKeysIn Route.goStruct kvs "routes" = true := by
  simpa only [exactRecordKeys, Bool.and_eq_true, and_assoc] using hx

include hs in
/-- The elements of an array member are sorted, as the body is. -/
theorem sorted_of_lookup_arr {key : String} {xs : List Json}
    (hl : Json.lookup kvs key = some (.arr xs)) {x : Json} (hx : x ∈ xs) : x.sorted = true :=
  Json.sorted_arr.mp (Json.sorted_of_mem hs (Json.mem_of_lookup hl)) x hx

include hs hx hok in
theorem routingTable_decode_get (f : RoutingTable.Field) :
    RoutingTable.goStruct.get (RoutingTable.decode .zero (.obj kvs)).val f =
      (Json.lookup kvs (RoutingTable.goStruct.name f)).elim (RoutingTable.goStruct.get .zero f)
        fun v => (RoutingTable.goStruct.decodeField f (RoutingTable.goStruct.get .zero f) v).val :=
  GoStruct.get_decode_obj RoutingTable.goStruct_fieldOf_name
    (Json.nodup_keys_of_sorted hs) (exactRecordKeys_parts hx).1 hok f

include hs hx hok in
theorem routingTable_decodeField_error (f : RoutingTable.Field) (v : Json)
    (h : Json.lookup kvs (RoutingTable.goStruct.name f) = some v) :
    (RoutingTable.goStruct.decodeField f (RoutingTable.goStruct.get .zero f) v).error = none :=
  GoStruct.decodeField_error_of_lookup RoutingTable.goStruct_fieldOf_name
    (Json.nodup_keys_of_sorted hs) (exactRecordKeys_parts hx).1 hok f v h

include hs hx hok in
theorem parseRoutingTableFromMap_scalars :
    { parseRoutingTableFromMap kvs with vpcs := [], subnets := [], routes := [] } =
      { (RoutingTable.decode .zero (.obj kvs)).val with vpcs := [], subnets := [], routes := [] } := by
  refine RoutingTable.ext_get fun f => ?_
  have hfield := routingTable_decode_get hs hx hok f
  have hf := routingTable_decodeField_error hs hx hok f
  cases f
  case vpcs | subnets | routes => rfl
  case defaultTable | distributed => exact (hfield.trans (boolAt_of_decodeBool _)).symm
  case createTime => exact (hfield.trans (createTimeOf_of_decodeWith hf)).symm
  all_goals exact (hfield.trans (stringAt_of_decodeString _)).symm

include hs in
theorem parseRoutingTableFromMap_flexible {key aliasName goType : String}
    (hkeys : exactKeysIn (FlexibleInfo.aliasStruct aliasName) kvs key = true)
    (hslice : ∀ v, Json.lookup kvs key = some v →
      (decodeSlice (decodeWith (flexibleUnmarshalJSON aliasName)) FlexibleInfo.zero goType [] v).error
        = none) :
    ((Json.lookup kvs key).elim [] parseFlexible).Sublist
        ((Json.lookup kvs key).elim [] fun v =>
          (decodeSlice (decodeWith (flexibleUnmarshalJSON aliasName)) FlexibleInfo.zero goType [] v).val) ∧
      (noNullIn kvs key = true → (Json.lookup kvs key).elim [] parseFlexible =
        (Json.lookup kvs key).elim [] fun v =>
          (decodeSlice (decodeWith (flexibleUnmarshalJSON aliasName)) FlexibleInfo.zero goType [] v).val) := by
  have helem : ∀ xs, Json.lookup kvs key = some (.arr xs) → ∀ x ∈ xs, x ≠ .null →
      (decodeWith (flexibleUnmarshalJSON aliasName) FlexibleInfo.zero x).error = none →
      flexibleOf x = some (id (decodeWith (flexibleUnmarshalJSON aliasName) FlexibleInfo.zero x).val) :=
    fun xs hl x hx hn he => by
      rw [id, decodeWith_val]
      exact flexibleOf_of_unmarshalJSON aliasName (sorted_of_lookup_arr hs hl hx)
        (exactKeysIn_iff.mp hkeys xs hl x hx) hn ((decodeWith_error_eq_none _ _ _).mp he)
  simpa only [List.map_id] using elim_of_decodeSlice (rfl : flexibleOf .null = none)
    (fun v => by cases v <;> rfl) helem hslice

include hs hx hok in
theorem parseRoutingTableFromMap_vpcs_agree :
    (parseRoutingTableFromMap kvs).vpcs.Sublist (RoutingTable.decode .zero (.obj kvs)).val.vpcs ∧
      (noNullIn kvs "vpcs" = true →
        (parseRoutingTableFromMap kvs).vpcs = (RoutingTable.decode .zero (.obj kvs)).val.vpcs) := by
  have e : (RoutingTable.decode .zero (.obj kvs)).val.vpcs = _ :=
    routingTable_decode_get hs hx hok .vpcs
  rw [parseRoutingTableFromMap_vpcs, e]
  exact parseRoutingTableFromMap_flexible hs (exactRecordKeys_parts hx).2.1
    (routingTable_decodeField_error hs hx hok .vpcs)

include hs hx hok in
theorem parseRoutingTableFromMap_subnets_agree :
    (parseRoutingTableFromMap kvs).subnets.Sublist
        (RoutingTable.decode .zero (.obj kvs)).val.subnets ∧
      (noNullIn kvs "subnets" = true →
        (parseRoutingTableFromMap kvs).subnets =
          (RoutingTable.decode .zero (.obj kvs)).val.subnets) := by
  have e : (RoutingTable.decode .zero (.obj kvs)).val.subnets = _ :=
    routingTable_decode_get hs hx hok .subnets
  rw [parseRoutingTableFromMap_subnets, e]
  exact parseRoutingTableFromMap_flexible hs (exactRecordKeys_parts hx).2.2.1
    (routingTable_decodeField_error hs hx hok .subnets)

include hs hx hok in
theorem parseRoutingTableFromMap_routes_agree :
    (parseRoutingTableFromMap kvs).routes.Sublist
        (RoutingTable.decode .zero (.obj kvs)).val.roundMasks.routes ∧
      (noNullIn kvs "routes" = true →
        (parseRoutingTableFromMap kvs).routes =
          (RoutingTable.decode .zero (.obj kvs)).val.roundMasks.routes) := by
  have e : (RoutingTable.decode .zero (.obj kvs)).val.routes = _ :=
    routingTable_decode_get hs hx hok .routes
  rw [parseRoutingTableFromMap_routes, RoutingTable.roundMasks, e]
  refine elim_of_decodeSlice (rfl : routeOf .null = none) (fun v => by cases v <;> rfl)
    (fun xs hl x hxs hn he => ?_) (routingTable_decodeField_error hs hx hok .routes)
  exact routeOf_of_decode (sorted_of_lookup_arr hs hl hxs)
    (exactKeysIn_iff.mp (exactRecordKeys_parts hx).2.2.2 xs hl x hxs) hn he

include hs hx hok in
/-- **The permissive record embeds in the strict one.** Where the strict decoding of an object
with sorted and exact keys succeeds, `parseRoutingTableFromMap` reads the same scalars and
creation time, and lists that leave out only what the strict decoder reads from `null`
elements, each mask read through a `float64`. -/
theorem parseRoutingTableFromMap_embeds :
    (parseRoutingTableFromMap kvs).Embeds (RoutingTable.decode .zero (.obj kvs)).val.roundMasks where
  scalars := parseRoutingTableFromMap_scalars hs hx hok
  vpcs := (parseRoutingTableFromMap_vpcs_agree hs hx hok).1
  subnets := (parseRoutingTableFromMap_subnets_agree hs hx hok).1
  routes := (parseRoutingTableFromMap_routes_agree hs hx hok).1

end Agreement

/-- **The permissive path agrees with the strict one.** On the members of an object with sorted
and exact keys whose `vpcs`, `subnets` and `routes` arrays hold no `null`, wherever the strict
decoding into a zero `RoutingTable` succeeds, `parseRoutingTableFromMap` returns the strict
record with each mask read through a `float64`: the strict record itself where every mask is
at most `2^53` in magnitude. -/
theorem parseRoutingTableFromMap_eq_decode {kvs : List (String × Json)}
    (hs : (Json.obj kvs).sorted = true) (hx : exactRecordKeys kvs = true)
    (hnull : ∀ key ∈ ["vpcs", "subnets", "routes"], noNullIn kvs key = true)
    (hok : (RoutingTable.decode .zero (.obj kvs)).error = none) :
    parseRoutingTableFromMap kvs = (RoutingTable.decode .zero (.obj kvs)).val.roundMasks ∧
      ((∀ r ∈ (RoutingTable.decode .zero (.obj kvs)).val.routes, |r.mask| ≤ 2 ^ 53) →
        parseRoutingTableFromMap kvs = (RoutingTable.decode .zero (.obj kvs)).val) := by
  have heq : parseRoutingTableFromMap kvs = (RoutingTable.decode .zero (.obj kvs)).val.roundMasks :=
    (parseRoutingTableFromMap_embeds hs hx hok).eq
      ((parseRoutingTableFromMap_vpcs_agree hs hx hok).2 (hnull _ (by simp)))
      ((parseRoutingTableFromMap_subnets_agree hs hx hok).2 (hnull _ (by simp)))
      ((parseRoutingTableFromMap_routes_agree hs hx hok).2 (hnull _ (by simp)))
  exact ⟨heq, fun hm => heq.trans (RoutingTable.roundMasks_of_abs_le hm)⟩

theorem parseRoutingTableFromMap_eq_decode_on_record :
    parseRoutingTableFromMap [("id", .str "rt-1"), ("vpcs", .arr [.str "vpc-1"])] =
        (RoutingTable.decode .zero
          (.obj [("id", .str "rt-1"), ("vpcs", .arr [.str "vpc-1"])])).val.roundMasks ∧
      ((∀ r ∈ (RoutingTable.decode .zero
          (.obj [("id", .str "rt-1"), ("vpcs", .arr [.str "vpc-1"])])).val.routes,
          |r.mask| ≤ 2 ^ 53) →
        parseRoutingTableFromMap [("id", .str "rt-1"), ("vpcs", .arr [.str "vpc-1"])] =
          (RoutingTable.decode .zero
            (.obj [("id", .str "rt-1"), ("vpcs", .arr [.str "vpc-1"])])).val) :=
  parseRoutingTableFromMap_eq_decode
    (by simp [Json.sorted, Json.sortedMembers, Json.sortedAll]; decide) (by decide) (by decide) rfl

/-- The digits `encoding/json` writes for the `float64` nearest `2^60`: `1152921504606847000`. -/
def twoPow60Text : Number := ⟨false, [1, 1, 5, 2, 9, 2, 1, 5, 0, 4, 6, 0, 6, 8, 4, 7, 0, 0, 0], [], none⟩

/-- The `float64` of that text is `2^60`. -/
theorem float64_twoPow60Text : twoPow60Text.float64 = some 1152921504606846976 := by
  have hv : twoPow60Text.value = ((1152921504606847000 : ℕ) : ℤ) := Number.value_of_parseInt rfl
  have hlog : Int.log 2 |(((1152921504606847000 : ℕ) : ℤ) : ℚ)| = 60 := by
    have h : Nat.log 2 1152921504606847000 = 60 := by
      rw [Nat.log_eq_iff (by norm_num)]; norm_num
    rw [← Int.cast_abs, abs_of_nonneg (by positivity), Int.cast_natCast, Int.log_natCast, h]
    rfl
  have hfloor : ⌊(((1152921504606847000 : ℕ) : ℤ) : ℚ) / 2 ^ (8 : ℤ)⌋ = 4503599627370496 := by
    rw [Int.floor_eq_iff]; norm_num
  simp only [Number.float64, hv, roundBinary64, roundHalfEven, hlog]
  norm_num [hfloor]

/-- A `null` element of `vpcs` decodes strictly to an empty reference, which the permissive
path leaves out; and the mask `1152921504606847000`, which Go writes for the `float64` `2^60`,
decodes strictly as itself, while the permissive path reads the `float64` `2^60`. -/
theorem parseRoutingTableFromMap_differs_from_decode :
    (RoutingTable.decode .zero (.obj [("vpcs", .arr [.null])])).error = none ∧
    (RoutingTable.decode .zero (.obj [("vpcs", .arr [.null])])).val.vpcs = [FlexibleInfo.zero] ∧
    (parseRoutingTableFromMap [("vpcs", .arr [.null])]).vpcs = [] ∧
    (RoutingTable.decode .zero
        (.obj [("routes", .arr [.obj [("mask", .num twoPow60Text)]])])).error = none ∧
    (RoutingTable.decode .zero
        (.obj [("routes", .arr [.obj [("mask", .num twoPow60Text)]])])).val.routes.map
          Route.mask = [1152921504606847000] ∧
    (parseRoutingTableFromMap [("routes", .arr [.obj [("mask", .num twoPow60Text)]])]).routes.map
          Route.mask = [1152921504606846976] := by
  refine ⟨rfl, rfl, rfl, rfl, rfl, ?_⟩
  show [((twoPow60Text.float64).map floatToInt).getD 0] = _
  rw [float64_twoPow60Text, Option.map_some', Option.getD_some,
    show ((1152921504606846976 : ℚ)) = ((1152921504606846976 : ℤ) : ℚ) by norm_num,
    floatToInt_intCast ⟨by norm_num, by norm_num⟩]

section Contract

/-! What `Extract` promises of the record it reads from an object, stated over the object's
members as a map holds them. -/

/-- The reference the contract of `Extract` expects from an element of `vpcs` or `subnets`: a
string gives the ID; an object whose `id` and `name` are strings or absent gives them; any other
element is promised nothing. -/
def expectedRef : Json → Option FlexibleInfo
  | .str s => some ⟨GoString.ofString s, .empty⟩
  | .obj kvs =>
    (stringOrAbsent (Json.lookup kvs "id")).bind fun i =>
      (stringOrAbsent (Json.lookup kvs "name")).map fun n => ⟨i, n⟩
  | _ => none
where
  /-- A member that is a string, or absent: the empty string. -/
  stringOrAbsent : Option Json → Option GoString
    | none => some .empty
    | some (.str s) => some (GoString.ofString s)
    | some _ => none

/-- The members of an object. -/
def objectMembers : Json → Option (List (String × Json))
  | .obj kvs => some kvs
  | _ => none

/-- The string members of `kvs` under the names `strings` lists, and the boolean ones under the
names `bools` lists, are the values these lists give. -/
def CopiesMembers (kvs : List (String × Json)) (strings : List (String × GoString))
    (bools : List (String × Bool)) : Prop :=
  (∀ p ∈ strings, ∀ s, Json.lookup kvs p.1 = some (.str s) → p.2 = GoString.ofString s) ∧
    ∀ p ∈ bools, ∀ b, Json.lookup kvs p.1 = some (.bool b) → p.2 = b

/-- The string fields of a route, under their JSON names. -/
def Route.stringMembers (r : Route) : List (String × GoString) :=
  [("id", r.id), ("cidr", r.cidr), ("gateway", r.gateway), ("gateway_id", r.gatewayId),
    ("routingtable_id", r.routingTableId), ("tenant_id", r.tenantId)]

/-- A route keeps the string and boolean members of the object `kvs`. -/
def Route.Copies (kvs : List (String × Json)) (r : Route) : Prop :=
  CopiesMembers kvs r.stringMembers [("hidden", r.hidden)] ∧
    ∀ s, Json.lookup kvs "description" = some (.str s) → r.description = some (GoString.ofString s)

/-- The string fields of a routing table, under their JSON names. -/
def RoutingTable.stringMembers (rt : RoutingTable) : List (String × GoString) :=
  [("id", rt.id), ("name", rt.name), ("gateway_id", rt.gatewayId), ("gateway_name", rt.gatewayName),
    ("tenant_id", rt.tenantId), ("state", rt.state)]

/-- The boolean fields of a routing table, under their JSON names. -/
def RoutingTable.boolMembers (rt : RoutingTable) : List (String × Bool) :=
  [("default_table", rt.defaultTable), ("distributed", rt.distributed)]

/-- What `Extract` promises of the record `rt` it reads from the object `kvs`: its string and
boolean members; the creation time `NHNCloudTime.UnmarshalJSON` gives wherever it accepts the
member; in order, the reference of each element of `vpcs` and `subnets` that is a string or an
object with string or absent `id` and `name`; and one route for each object of `routes`, with
its string and boolean members. -/
structure ReadsRecord (kvs : List (String × Json)) (rt : RoutingTable) : Prop where
  scalars : CopiesMembers kvs rt.stringMembers rt.boolMembers
  createTime : ∀ v, Json.lookup kvs "create_time" = some v →
    (NHNCloudTime.unmarshalValue .zero v).2 = none →
      rt.createTime = (NHNCloudTime.unmarshalValue .zero v).1
  vpcs : ∀ xs, Json.lookup kvs "vpcs" = some (.arr xs) → (xs.filterMap expectedRef).Sublist rt.vpcs
  subnets : ∀ xs, Json.lookup kvs "subnets" = some (.arr xs) →
    (xs.filterMap expectedRef).Sublist rt.subnets
  routes : ∀ xs, Json.lookup kvs "routes" = some (.arr xs) →
    ∃ sub, sub.Sublist rt.routes ∧ List.Forall₂ Route.Copies (xs.filterMap objectMembers) sub

variable {kvs : List (String × Json)}

/-- Fields read with `stringAt` and `boolAt` keep the members of the right type. -/
theorem copiesMembers_of_getD {strings : List (String × GoString)} {bools : List (String × Bool)}
    (hs : ∀ p ∈ strings, p.2 = (stringAt kvs p.1).getD .empty)
    (hb : ∀ p ∈ bools, p.2 = (boolAt kvs p.1).getD false) : CopiesMembers kvs strings bools :=
  ⟨fun p hp s h => by simp [hs p hp, stringAt, h], fun p hp b h => by simp [hb p hp, boolAt, h]⟩

theorem getD_stringAt_of_stringOrAbsent {key : String} {i : GoString}
    (h : expectedRef.stringOrAbsent (Json.lookup kvs key) = some i) :
    (stringAt kvs key).getD .empty = i := by
  unfold stringAt
  revert h
  cases Json.lookup kvs key with
  | none => intro h; cases h; rfl
  | some v =>
    cases v <;> intro h <;> cases h
    rfl

/-- `flexibleOf` reads every reference the contract expects. -/
theorem flexibleOf_of_expectedRef {x : Json} {r : FlexibleInfo} (h : expectedRef x = some r) :
    flexibleOf x = some r := by
  cases x
  case str s => exact h
  case obj ms =>
    obtain ⟨i, hi, hr⟩ := Option.bind_eq_some.mp h
    obtain ⟨n, hn, rfl⟩ := Option.map_eq_some'.mp hr
    simp only [flexibleOf, getD_stringAt_of_stringOrAbsent hi, getD_stringAt_of_stringOrAbsent hn]
  all_goals cases h

theorem filterMap_sublist_filterMap {α β : Type} {f g : α → Option β}
    (h : ∀ x b, f x = some b → g x = some b) :
    ∀ xs : List α, (xs.filterMap f).Sublist (xs.filterMap g)
  | [] => .slnil
  | x :: xs => by
    have ih := filterMap_sublist_filterMap h xs
    cases hf : f x with
    | none =>
      rw [List.filterMap_cons_none hf]
      exact ih.trans ((List.sublist_cons_self x xs).filterMap g)
    | some b =>
      rw [List.filterMap_cons_some hf, List.filterMap_cons_some (h x b hf)]
      exact ih.cons₂ b

/-- `routeOf` reads a route from every object of `routes`, keeping its members. -/
theorem forall₂_copies_routeOf (xs : List Json) :
    List.Forall₂ Route.Copies (xs.filterMap objectMembers) (xs.filterMap routeOf) := by
  refine List.rel_filterMap (fun x y (hxy : x = y) => ?_) (List.forall₂_refl xs)
  subst hxy
  cases x
  case obj ms =>
    exact .some ⟨copiesMembers_of_getD (by simp [Route.stringMembers]) (by simp),
      fun s h => by simp [stringAt, h]⟩
  all_goals exact .none

/-- **The permissive path keeps the contract**, on every object, with no condition. -/
theorem readsRecord_parseRoutingTableFromMap (kvs : List (String × Json)) :
    ReadsRecord kvs (parseRoutingTableFromMap kvs) where
  scalars := copiesMembers_of_getD (by simp [RoutingTable.stringMembers, parseRoutingTableFromMap])
    (by simp [RoutingTable.boolMembers, parseRoutingTableFromMap])
  createTime v hl hv := by
    have e := @createTimeOf_of_decodeWith kvs "create_time" fun v' hl' => by
      rw [hl] at hl'; cases hl'; exact (decodeWith_error_eq_none _ _ _).mpr hv
    rw [hl] at e
    simp only [Option.elim, decodeWith_val] at e
    exact e.symm
  vpcs xs hl := by
    rw [parseRoutingTableFromMap_vpcs, hl]
    exact filterMap_sublist_filterMap (fun _ _ => flexibleOf_of_expectedRef) xs
  subnets xs hl := by
    rw [parseRoutingTableFromMap_subnets, hl]
    exact filterMap_sublist_filterMap (fun _ _ => flexibleOf_of_expectedRef) xs
  routes xs hl := ⟨xs.filterMap routeOf, by rw [parseRoutingTableFromMap_routes, hl]; rfl,
    forall₂_copies_routeOf xs⟩

/-- A record that embeds one keeping the contract keeps it too. -/
theorem ReadsRecord.mono {rt rt' : RoutingTable} (h : ReadsRecord kvs rt) (he : rt.Embeds rt') :
    ReadsRecord kvs rt' where
  scalars := by
    have hs : rt.stringMembers = rt'.stringMembers :=
      (congrArg RoutingTable.stringMembers he.scalars :)
    have hb : rt.boolMembers = rt'.boolMembers := (congrArg RoutingTable.boolMembers he.scalars :)
    exact hs ▸ hb ▸ h.scalars
  createTime v hl hv :=
    (congrArg RoutingTable.createTime he.scalars).symm.trans (h.createTime v hl hv)
  vpcs xs hl := (h.vpcs xs hl).trans he.vpcs
  subnets xs hl := (h.subnets xs hl).trans he.subnets
  routes xs hl :=
    let ⟨sub, hsub, hc⟩ := h.routes xs hl
    ⟨sub, hsub.trans he.routes, hc⟩

/-- The contract reads no mask: a record keeps it exactly when it keeps it with its masks read
through a `float64`. -/
theorem ReadsRecord.of_roundMasks {rt : RoutingTable} (h : ReadsRecord kvs rt.roundMasks) :
    ReadsRecord kvs rt where
  scalars := h.scalars
  createTime := h.createTime
  vpcs := h.vpcs
  subnets := h.subnets
  routes xs hl := by
    obtain ⟨sub, hsub, hc⟩ := h.routes xs hl
    obtain ⟨sub', hsub', rfl⟩ := List.sublist_map_iff.mp hsub
    exact ⟨sub', hsub', (List.forall₂_map_right_iff.mp hc).imp fun _ _ h => h⟩

end Contract

section Paths

/-! The two paths `Extract` can take on a body whose one `routingtable` member is an object. -/

variable {r : Result} {kvs ms : List (String × Json)} {k : String}
  (hbody : r.body = .obj kvs)
  (hone : kvs.filter (fun kv => foldName kv.1 = foldName "routingtable") = [(k, .obj ms)])

include hbody hone in
/-- The record object of a response body is sorted and has its numbers within range. -/
theorem single_object_invariants :
    (Json.obj ms).sorted = true ∧ (Json.obj ms).finiteNumbers = true := by
  have hmem : (k, Json.obj ms) ∈ kvs.filter (fun kv => foldName kv.1 = foldName "routingtable") :=
    hone ▸ List.mem_singleton_self _
  have hm := (List.mem_filter.mp hmem).1
  exact ⟨Json.sorted_of_mem (hbody ▸ r.body_sorted) hm,
    Json.allNumbers_obj.mp (hbody ▸ r.body_finite) _ hm⟩

include hbody hone in
/-- `Extract` returns the strict record where the object decodes, and the permissive one where
it does not. -/
theorem extract_of_single_object (herr : r.err = none) :
    ((RoutingTable.decode .zero (.obj ms)).error = none ∧
      RoutingTableResult.extract r = (some (RoutingTable.decode .zero (.obj ms)).val, none)) ∨
    ((RoutingTable.decode .zero (.obj ms)).error ≠ none ∧
      RoutingTableResult.extract r = (some (parseRoutingTableFromMap ms), none)) := by
  have hx : RoutingTableResult.extract r = RoutingTableResult.extractFrom (.obj kvs) := by
    simp [RoutingTableResult.extract, herr, hbody]
  have hs := RoutingTableResult.strictFrom_of_single hone
  rw [decodePtr_of_ne_null (fun h => Json.noConfusion h)] at hs
  rw [hx]
  cases hd : (RoutingTable.decode .zero (.obj ms)).error with
  | none => exact .inl ⟨rfl, by simp [RoutingTableResult.extractFrom, hs, hd]⟩
  | some e =>
    refine .inr ⟨nofun, ?_⟩
    simp [RoutingTableResult.extractFrom, hs, hd, RoutingTableResult.fallbackFrom_of_single hone,
      RoutingTableResult.unmarshalWithFallback,
      (single_object_invariants hbody hone).2]

end Paths

/-- **`Extract` reads every record object.** For a result with no error whose body has exactly
one member matching `routingtable`, and that member an object, `Extract` returns a record and
no error. Where no key of the object, nor of an object in its lists, differs from a field's
name only in case, the record keeps the object's members of the right type (`ReadsRecord`),
whether the strict decoding produced it or the fallback did. -/
theorem extract_reads_record (r : Result) (herr : r.err = none) {kvs ms : List (String × Json)}
    {k : String} (hbody : r.body = .obj kvs)
    (hone : kvs.filter (fun kv => foldName kv.1 = foldName "routingtable") = [(k, .obj ms)]) :
    ∃ rt, RoutingTableResult.extract r = (some rt, none) ∧
      (exactRecordKeys ms = true → ReadsRecord ms rt) := by
  rcases extract_of_single_object hbody hone herr with ⟨hd, hx⟩ | ⟨-, hx⟩
  · exact ⟨_, hx, fun hk => ((readsRecord_parseRoutingTableFromMap ms).mono
      (parseRoutingTableFromMap_embeds (single_object_invariants hbody hone).1 hk hd)).of_roundMasks⟩
  · exact ⟨_, hx, fun _ => readsRecord_parseRoutingTableFromMap ms⟩

theorem extract_reads_record_on_record :
    ∃ rt, RoutingTableResult.extract
        ⟨.obj [("routingtable", .obj [("id", .str "rt-1")])], none,
          by simp [Json.sorted, Json.sortedMembers, Json.sortedAll], by decide⟩ = (some rt, none) ∧
      (exactRecordKeys [("id", .str "rt-1")] = true → ReadsRecord [("id", .str "rt-1")] rt) :=
  @extract_reads_record _ rfl _ _ "routingtable" rfl (by simp)

/-- A case variant `CREATE_TIME` sets the creation time, and the `null` member named exactly
`create_time` leaves it set, although `NHNCloudTime.UnmarshalJSON` accepts that `null` as the
zero time. -/
theorem extract_case_variant_create_time :
    RoutingTableResult.extract
        ⟨.obj [("routingtable",
            .obj [("CREATE_TIME", .str "2024-02-13 10:45:57"), ("create_time", .null)])], none,
          by simp [Json.sorted, Json.sortedMembers, Json.sortedAll]; decide, by decide⟩ =
      (some { RoutingTable.zero with createTime := ⟨63843417957, 0, .utc⟩ }, none) ∧
    NHNCloudTime.unmarshalValue .zero .null = (.zero, none) := by
  have hf : RoutingTable.goStruct.fieldOf "CREATE_TIME" = some .createTime := by
    simp only [GoStruct.fieldOf, matchField, foldName, String.map_eq]
    decide
  have hdec : RoutingTable.decode .zero
      (.obj [("CREATE_TIME", .str "2024-02-13 10:45:57"), ("create_time", .null)]) =
      .ok { RoutingTable.zero with createTime := ⟨63843417957, 0, .utc⟩ } := by
    rw [RoutingTable.decode, GoStruct.decode, GoStruct.decodeMembers_cons_ok RoutingTable.goStruct
      _ _ .createTime (.str "2024-02-13 10:45:57") hf (fun _ => rfl)]
    rfl
  have hs : RoutingTableResult.strictFrom (.obj [("routingtable",
      .obj [("CREATE_TIME", .str "2024-02-13 10:45:57"), ("create_time", .null)])]) =
      (decodePtr RoutingTable.decode .zero none
        (.obj [("CREATE_TIME", .str "2024-02-13 10:45:57"), ("create_time", .null)])).mapError
        (.inField "" "routingtable") :=
    @RoutingTableResult.strictFrom_of_single _ "routingtable" _ (by simp)
  refine ⟨?_, rfl⟩
  simp [RoutingTableResult.extract, RoutingTableResult.extractFrom, hs, decodePtr, hdec]

section Malformed

/-! The permissive policy of `Extract`: a malformed element of a list, or a member missing
altogether, does not fail the record. -/

/-- An element of `vpcs` or `subnets` that is neither `null`, a string nor an object fails
`UnmarshalJSON`, into any reference. -/
theorem flexibleUnmarshalJSON_error_of_malformed (aliasName : String) {x : Json}
    (hn : x ≠ .null) (hx : flexibleOf x = none) (fi : FlexibleInfo) :
    (flexibleUnmarshalJSON aliasName fi x).2 ≠ none := by
  cases x
  case null => exact absurd rfl hn
  case str _ | obj _ => cases hx
  all_goals simp [flexibleUnmarshalJSON, GoStruct.decode]

/-- An element of `routes` that is neither `null` nor an object fails to decode into any
route. -/
theorem Route.decode_error_of_malformed {x : Json} (hn : x ≠ .null) (hx : routeOf x = none)
    (c : Route) : (Route.decode c x).error ≠ none := by
  cases x
  case null => exact absurd rfl hn
  case obj _ => cases hx
  all_goals simp [Route.decode, GoStruct.decode]

/-- One malformed element in `vpcs`, `subnets` or `routes` fails the strict decoding. -/
theorem decode_error_of_malformed {ms : List (String × Json)}
    (hbad : (∃ xs, Json.lookup ms "vpcs" = some (.arr xs) ∧ ∃ x ∈ xs, x ≠ .null ∧ flexibleOf x = none) ∨
      (∃ xs, Json.lookup ms "subnets" = some (.arr xs) ∧ ∃ x ∈ xs, x ≠ .null ∧ flexibleOf x = none) ∨
      (∃ xs, Json.lookup ms "routes" = some (.arr xs) ∧ ∃ x ∈ xs, x ≠ .null ∧ routeOf x = none)) :
    (RoutingTable.decode .zero (.obj ms)).error ≠ none := by
  rcases hbad with ⟨xs, hl, x, hx, hn, hf⟩ | ⟨xs, hl, x, hx, hn, hf⟩ | ⟨xs, hl, x, hx, hn, hf⟩
  · have hv : ∀ cur, (RoutingTable.goStruct.decodeField .vpcs cur (.arr xs)).error ≠ none :=
      decodeElems_error_of_mem _ _ (fun c h => flexibleUnmarshalJSON_error_of_malformed "vpcAlias"
        hn hf c ((decodeWith_error_eq_none _ _ _).mp h)) hx
    exact RoutingTable.goStruct.decodeMembers_error_of_mem
      (rfl : RoutingTable.goStruct.fieldOf "vpcs" = some .vpcs) hv _ (Json.mem_of_lookup hl)
  · have hv : ∀ cur, (RoutingTable.goStruct.decodeField .subnets cur (.arr xs)).error ≠ none :=
      decodeElems_error_of_mem _ _ (fun c h => flexibleUnmarshalJSON_error_of_malformed
        "subnetAlias" hn hf c ((decodeWith_error_eq_none _ _ _).mp h)) hx
    exact RoutingTable.goStruct.decodeMembers_error_of_mem
      (rfl : RoutingTable.goStruct.fieldOf "subnets" = some .subnets) hv _ (Json.mem_of_lookup hl)
  · have hv : ∀ cur, (RoutingTable.goStruct.decodeField .routes cur (.arr xs)).error ≠ none :=
      decodeElems_error_of_mem _ _ (Route.decode_error_of_malformed hn hf) hx
    exact RoutingTable.goStruct.decodeMembers_error_of_mem
      (rfl : RoutingTable.goStruct.fieldOf "routes" = some .routes) hv _ (Json.mem_of_lookup hl)

/-- **A malformed element does not lose the record.** Where one element of `vpcs` or `subnets`
is neither `null`, a string nor an object, or one element of `routes` neither `null` nor an
object, `Extract` returns the record the permissive path reads, and no error: each list keeps
exactly the elements of the right kind, in order. -/
theorem extract_falls_back_on_malformed_element (r : Result) (herr : r.err = none)
    {kvs ms : List (String × Json)} {k : String} (hbody : r.body = .obj kvs)
    (hone : kvs.filter (fun kv => foldName kv.1 = foldName "routingtable") = [(k, .obj ms)])
    (hbad : (∃ xs, Json.lookup ms "vpcs" = some (.arr xs) ∧ ∃ x ∈ xs, x ≠ .null ∧ flexibleOf x = none) ∨
      (∃ xs, Json.lookup ms "subnets" = some (.arr xs) ∧ ∃ x ∈ xs, x ≠ .null ∧ flexibleOf x = none) ∨
      (∃ xs, Json.lookup ms "routes" = some (.arr xs) ∧ ∃ x ∈ xs, x ≠ .null ∧ routeOf x = none)) :
    RoutingTableResult.extract r = (some (parseRoutingTableFromMap ms), none) := by
  rcases extract_of_single_object hbody hone herr with ⟨hd, -⟩ | ⟨-, hx⟩
  · exact absurd hd (decode_error_of_malformed hbad)
  · exact hx

theorem extract_falls_back_on_malformed_element_on_bool :
    RoutingTableResult.extract
        ⟨.obj [("routingtable", .obj [("vpcs", .arr [.str "vpc-1", .bool true])])], none,
          by simp [Json.sorted, Json.sortedMembers, Json.sortedAll], by decide⟩ =
      (some (parseRoutingTableFromMap [("vpcs", .arr [.str "vpc-1", .bool true])]), none) :=
  @extract_falls_back_on_malformed_element _ rfl _ _ "routingtable" rfl (by simp)
    (.inl ⟨_, rfl, .bool true, by simp, nofun, rfl⟩)

theorem parseRoutingTableFromMap_get_of_lookup_none {kvs : List (String × Json)}
    {f : RoutingTable.Field} (h : Json.lookup kvs (RoutingTable.goStruct.name f) = none) :
    RoutingTable.goStruct.get (parseRoutingTableFromMap kvs) f =
      RoutingTable.goStruct.get .zero f := by
  cases f <;> simp_all [RoutingTable.goStruct, parseRoutingTableFromMap, stringAt, boolAt,
    RoutingTable.zero]

/-- **A missing member leaves its field zero.** `Extract` of a body whose one `routingtable`
member is an object returns a record whose every field that no member of the object names,
under case folding, holds its zero value. -/
theorem extract_missing_member_zero (r : Result) (herr : r.err = none)
    {kvs ms : List (String × Json)} {k : String} (hbody : r.body = .obj kvs)
    (hone : kvs.filter (fun kv => foldName kv.1 = foldName "routingtable") = [(k, .obj ms)]) :
    ∃ rt, RoutingTableResult.extract r = (some rt, none) ∧
      ∀ f, (∀ kv ∈ ms, foldName kv.1 ≠ foldName (RoutingTable.goStruct.name f)) →
        RoutingTable.goStruct.get rt f = RoutingTable.goStruct.get .zero f := by
  rcases extract_of_single_object hbody hone herr with ⟨-, hx⟩ | ⟨-, hx⟩
  · exact ⟨_, hx, fun f hf => RoutingTable.goStruct.decodeMembers_get_of_unmatched _ _
      fun kv hkv hk => hf kv hkv (GoStruct.fieldOf_fold _ hk).symm⟩
  · refine ⟨_, hx, fun f hf => parseRoutingTableFromMap_get_of_lookup_none ?_⟩
    refine Json.lookup_eq_none.mpr fun hm => ?_
    obtain ⟨kv, hkv, he⟩ := List.mem_map.mp hm
    exact hf kv hkv (congrArg foldName he)

theorem extract_missing_member_zero_on_record :
    ∃ rt, RoutingTableResult.extract
        ⟨.obj [("routingtable", .obj [("id", .str "rt-1")])], none,
          by simp [Json.sorted, Json.sortedMembers, Json.sortedAll], by decide⟩ = (some rt, none) ∧
      ∀ f, (∀ kv ∈ [("id", Json.str "rt-1")], foldName kv.1 ≠ foldName (RoutingTable.goStruct.name f)) →
        RoutingTable.goStruct.get rt f = RoutingTable.goStruct.get .zero f :=
  @extract_missing_member_zero _ rfl _ _ "routingtable" rfl (by simp)

end Malformed

end NhnCloudLayer3
