/-
What the extractors read of a server's answer.

The transport decodes a response body into an `interface{}`, and `ExtractInto` writes it out
again before decoding it: Go writes a map with its keys in increasing order, and an integer of
at most `2^53` in magnitude as its own digits. For an answer whose objects give no key twice and
whose numbers are such integers, the body an extractor decodes is therefore the answer with the
members of every object sorted by key (`Json.sortKeys`).

* `Json.sorted_sortKeys` — that body is sorted, as every response body is;
* `Number.keptByTransport_ofInt` — an integer of at most `2^53` in magnitude comes back as its
  own digits, so the encodings of routes and routing tables with such masks are answers the
  transport keeps (`RoutingTable.allNumbers_marshal`, `RoutingTable.keysNodup_marshal`,
  `Result.ofAnswer`);
* `GoStruct.decode_sortKeys_of_ok` — a struct that decodes from an object decodes alike from
  its re-encoding, where each member does;
* `RouteResult.extract_route_of_marshal` — **end to end**: a response carrying the encoding of
  a route is extracted as that route, by `Extract` and by `ExtractRoute`;
* `RoutingTableResult.extract_table_of_marshal` — and one carrying the encoding of a routing
  table as that table, by `Extract` and by `ExtractRoutingTable`, its creation time read as UTC
  to the second.
-/
import NhnCloudLayer3.Encode
import NhnCloudLayer3.Fallback

namespace NhnCloudLayer3

namespace Json

/-- The order Go writes the keys of a map in. -/
def keyLE (a b : String × Json) : Bool := decide (a.1 ≤ b.1)

mutual
/-- The re-encoding of a value whose objects give no key twice and whose numbers are integers
of at most `2^53` in magnitude: the members of every object sorted by key. -/
def sortKeys : Json → Json
  | .arr xs => .arr (sortKeysAll xs)
  | .obj kvs => .obj ((sortKeysMembers kvs).mergeSort keyLE)
  | v => v

/-- `sortKeys` on every element. -/
def sortKeysAll : List Json → List Json
  | [] => []
  | x :: xs => sortKeys x :: sortKeysAll xs

/-- `sortKeys` on every member's value. -/
def sortKeysMembers : List (String × Json) → List (String × Json)
  | [] => []
  | (k, v) :: kvs => (k, sortKeys v) :: sortKeysMembers kvs
end

theorem sortKeysAll_eq_map : ∀ xs : List Json, sortKeysAll xs = xs.map sortKeys
  | [] => rfl
  | x :: xs => by rw [sortKeysAll, sortKeysAll_eq_map xs, List.map_cons]

theorem sortKeysMembers_eq_map :
    ∀ kvs : List (String × Json), sortKeysMembers kvs = kvs.map fun kv => (kv.1, sortKeys kv.2)
  | [] => rfl
  | (k, v) :: kvs => by rw [sortKeysMembers, sortKeysMembers_eq_map kvs, List.map_cons]

@[simp] theorem sortKeys_null : sortKeys .null = .null := rfl
@[simp] theorem sortKeys_bool (b : Bool) : sortKeys (.bool b) = .bool b := rfl
@[simp] theorem sortKeys_num (n : Number) : sortKeys (.num n) = .num n := rfl
@[simp] theorem sortKeys_str (s : String) : sortKeys (.str s) = .str s := rfl

@[simp] theorem sortKeys_arr (xs : List Json) : sortKeys (.arr xs) = .arr (xs.map sortKeys) := by
  rw [sortKeys, sortKeysAll_eq_map]

theorem sortKeys_obj (kvs : List (String × Json)) :
    sortKeys (.obj kvs) = .obj ((kvs.map fun kv => (kv.1, sortKeys kv.2)).mergeSort keyLE) := by
  rw [sortKeys, sortKeysMembers_eq_map]

/-- An object of one member is re-encoded member-wise. -/
theorem sortKeys_single (k : String) (v : Json) :
    sortKeys (.obj [(k, v)]) = .obj [(k, sortKeys v)] := by
  rw [sortKeys_obj, List.map_singleton, List.mergeSort_singleton]

mutual
/-- No object of the value gives a key twice. -/
def keysNodup : Json → Bool
  | .arr xs => keysNodupAll xs
  | .obj kvs => decide (kvs.map Prod.fst).Nodup && keysNodupMembers kvs
  | _ => true

/-- `keysNodup` of every element. -/
def keysNodupAll : List Json → Bool
  | [] => true
  | x :: xs => keysNodup x && keysNodupAll xs

/-- `keysNodup` of every member's value. -/
def keysNodupMembers : List (String × Json) → Bool
  | [] => true
  | (_, v) :: kvs => keysNodup v && keysNodupMembers kvs
end

theorem keysNodupMembers_iff {kvs : List (String × Json)} :
    keysNodupMembers kvs = true ↔ ∀ kv ∈ kvs, keysNodup kv.2 = true := by
  induction kvs with
  | nil => simp [keysNodupMembers]
  | cons kv kvs ih => obtain ⟨k, v⟩ := kv; simp [keysNodupMembers, ih]

theorem keysNodup_obj {kvs : List (String × Json)} :
    keysNodup (.obj kvs) = true ↔
      (kvs.map Prod.fst).Nodup ∧ ∀ kv ∈ kvs, keysNodup kv.2 = true := by
  rw [keysNodup, Bool.and_eq_true, decide_eq_true_eq, keysNodupMembers_iff]

theorem keysNodup_arr {xs : List Json} :
    keysNodup (.arr xs) = true ↔ ∀ x ∈ xs, keysNodup x = true := by
  rw [keysNodup]
  induction xs with
  | nil => simp [keysNodupAll]
  | cons x xs ih => simp [keysNodupAll, ih]

theorem keysNodup_single (k : String) {v : Json} (h : keysNodup v = true) :
    keysNodup (.obj [(k, v)]) = true :=
  keysNodup_obj.mpr ⟨List.nodup_singleton k, by simpa using h⟩

theorem allNumbers_single {p : Number → Bool} (k : String) {v : Json} (h : allNumbers p v = true) :
    allNumbers p (.obj [(k, v)]) = true :=
  allNumbers_obj.mpr fun _ hm => (List.mem_singleton.mp hm) ▸ h

@[simp] theorem keysNodup_str (s : String) : keysNodup (.str s) = true := rfl
@[simp] theorem allNumbers_str (p : Number → Bool) (s : String) : allNumbers p (.str s) = true :=
  rfl

/-- A string, a number, a boolean or `null`: a value with no object in it. -/
def isScalar : Json → Bool
  | .arr _ | .obj _ => false
  | _ => true

theorem sortKeys_of_isScalar : ∀ {v : Json}, isScalar v = true → sortKeys v = v
  | .null, _ | .bool _, _ | .num _, _ | .str _, _ => rfl

theorem keysNodup_of_isScalar : ∀ {v : Json}, isScalar v = true → keysNodup v = true
  | .null, _ | .bool _, _ | .num _, _ | .str _, _ => rfl

theorem sortedMembers_iff {kvs : List (String × Json)} :
    sortedMembers kvs = true ↔ ∀ kv ∈ kvs, sorted kv.2 = true := by
  induction kvs with
  | nil => simp [sortedMembers]
  | cons kv kvs ih => obtain ⟨k, v⟩ := kv; simp [sortedMembers, ih]

/-- Sorted by `keyLE`, with distinct keys, the keys increase strictly. -/
theorem chain_keys_of_pairwise {kvs : List (String × Json)} (h : kvs.Pairwise fun a b => keyLE a b)
    (hd : (kvs.map Prod.fst).Nodup) : (kvs.map Prod.fst).Chain' (· < ·) := by
  rw [List.chain'_iff_pairwise, List.pairwise_map]
  refine (h.and (List.pairwise_map.mp hd)).imp fun ⟨hle, hne⟩ => ?_
  exact lt_of_le_of_ne (by simpa [keyLE] using hle) hne

mutual
/-- **The re-encoding is sorted.** A value whose objects give no key twice is re-encoded with
the keys of every object in increasing order. -/
theorem sorted_sortKeys : ∀ v : Json, keysNodup v = true → sorted (sortKeys v) = true
  | .null, _ => rfl
  | .bool _, _ => rfl
  | .num _, _ => rfl
  | .str _, _ => rfl
  | .arr xs, h => by
    rw [sortKeys, sorted]
    exact sortedAll_sortKeysAll xs h
  | .obj kvs, h => by
    simp only [keysNodup, Bool.and_eq_true, decide_eq_true_eq] at h
    have hperm := List.mergeSort_perm (sortKeysMembers kvs) keyLE
    have hd : (((sortKeysMembers kvs).mergeSort keyLE).map Prod.fst).Nodup := by
      refine (hperm.map Prod.fst).nodup_iff.mpr ?_
      simpa [sortKeysMembers_eq_map, List.map_map, Function.comp_def] using h.1
    have hle := @List.sorted_mergeSort _ keyLE
      (fun a b c hab hbc => by simp only [keyLE, decide_eq_true_eq] at *; exact hab.trans hbc)
      (fun a b => by simpa [keyLE] using le_total a.1 b.1) (sortKeysMembers kvs)
    rw [sortKeys, sorted, Bool.and_eq_true, decide_eq_true_eq, sortedMembers_iff]
    exact ⟨chain_keys_of_pairwise hle hd, fun kv hkv =>
      sortedMembers_sortKeysMembers kvs h.2 kv (hperm.subset hkv)⟩

theorem sortedAll_sortKeysAll : ∀ xs : List Json, keysNodupAll xs = true →
    sortedAll (sortKeysAll xs) = true
  | [], _ => rfl
  | x :: xs, h => by
    simp only [keysNodupAll, Bool.and_eq_true] at h
    rw [sortKeysAll, sortedAll, sorted_sortKeys x h.1, sortedAll_sortKeysAll xs h.2, Bool.and_self]

theorem sortedMembers_sortKeysMembers : ∀ kvs : List (String × Json),
    keysNodupMembers kvs = true → ∀ kv ∈ sortKeysMembers kvs, sorted kv.2 = true
  | [], _ => nofun
  | (k, v) :: kvs, h => by
    simp only [keysNodupMembers, Bool.and_eq_true] at h
    intro kv hkv
    rw [sortKeysMembers, List.mem_cons] at hkv
    rcases hkv with rfl | hkv
    · exact sorted_sortKeys v h.1
    · exact sortedMembers_sortKeysMembers kvs h.2 kv hkv
end

mutual
/-- The re-encoding has the numbers of the value. -/
theorem allNumbers_sortKeys (p : Number → Bool) :
    ∀ v : Json, allNumbers p (sortKeys v) = allNumbers p v
  | .null => rfl
  | .bool _ => rfl
  | .num _ => rfl
  | .str _ => rfl
  | .arr xs => by
    rw [sortKeys, Bool.eq_iff_iff, allNumbers_arr, allNumbers_arr]
    exact allNumbers_sortKeysAll p xs
  | .obj kvs => by
    rw [sortKeys, Bool.eq_iff_iff, allNumbers_obj, allNumbers_obj]
    simp only [List.mem_mergeSort]
    exact allNumbers_sortKeysMembers p kvs

theorem allNumbers_sortKeysAll (p : Number → Bool) : ∀ xs : List Json,
    (∀ x ∈ sortKeysAll xs, allNumbers p x = true) ↔ ∀ x ∈ xs, allNumbers p x = true
  | [] => by simp [sortKeysAll]
  | x :: xs => by
    simp only [sortKeysAll, List.mem_cons, forall_eq_or_imp, allNumbers_sortKeys p x,
      allNumbers_sortKeysAll p xs]

theorem allNumbers_sortKeysMembers (p : Number → Bool) : ∀ kvs : List (String × Json),
    (∀ kv ∈ sortKeysMembers kvs, allNumbers p kv.2 = true) ↔
      ∀ kv ∈ kvs, allNumbers p kv.2 = true
  | [] => by simp [sortKeysMembers]
  | (k, v) :: kvs => by
    simp only [sortKeysMembers, List.mem_cons, forall_eq_or_imp, allNumbers_sortKeys p v,
      allNumbers_sortKeysMembers p kvs]
end

/-- A `map[string]interface{}` holds the same under every key whatever the order of distinct
members. -/
theorem lookup_perm {kvs kvs' : List (String × Json)} (hd : (kvs.map Prod.fst).Nodup)
    (h : kvs.Perm kvs') (k : String) : lookup kvs k = lookup kvs' k := by
  have hd' : (kvs'.map Prod.fst).Nodup := (h.map Prod.fst).nodup_iff.mp hd
  cases hl : lookup kvs k with
  | some v => exact (lookup_of_mem hd' (h.subset (mem_of_lookup hl))).symm
  | none =>
    refine (lookup_eq_none.mpr fun hm => lookup_eq_none.mp hl ?_).symm
    exact (h.map Prod.fst).symm.subset hm

theorem lookup_map_snd (g : Json → Json) (kvs : List (String × Json)) (k : String) :
    lookup (kvs.map fun kv => (kv.1, g kv.2)) k = (lookup kvs k).map g := by
  induction kvs with
  | nil => rfl
  | cons kv kvs ih =>
    obtain ⟨k', v⟩ := kv
    rw [List.map_cons, lookup_cons, lookup_cons, ih]
    cases lookup kvs k <;> by_cases hk : k' = k <;> simp [hk]

end Json

/-! ### Numbers -/

theorem Number.value_ofInt (k : ℤ) : (Number.ofInt k).value = k := by
  simp only [Number.value, Number.ofInt, List.append_nil, digitsValue_decimalDigits,
    List.length_nil, pow_zero, div_one, Option.getD_none, mul_one, Nat.cast_natAbs]
  by_cases hk : k < 0
  · rw [abs_of_neg hk]; simp [hk]
  · rw [abs_of_nonneg (le_of_not_lt hk)]; simp [hk]

/-- A number the transport writes back as it was: an integer of at most `2^53` in magnitude, in
the digits `json.Marshal` writes for an `int`. It decodes into that integer as a `float64`,
which Go writes in the same digits. -/
def Number.keptByTransport (n : Number) : Bool :=
  match n.parseInt with
  | some k => decide (|k| ≤ 2 ^ 53) && n == Number.ofInt k
  | none => false

theorem Number.keptByTransport_ofInt {k : ℤ} (h : |k| ≤ 2 ^ 53) :
    (Number.ofInt k).keptByTransport = true := by
  obtain ⟨h₁, h₂⟩ := abs_le.mp h
  rw [Number.keptByTransport, parseInt_ofInt (by linarith) (by linarith)]
  show (decide (|k| ≤ 2 ^ 53) && Number.ofInt k == Number.ofInt k) = true
  rw [decide_eq_true h, beq_self_eq_true]
  rfl

/-- A number the transport keeps is within the range of a `float64`. -/
theorem Number.float64_isSome_of_keptByTransport {n : Number} (h : n.keptByTransport = true) :
    n.float64.isSome = true := by
  unfold Number.keptByTransport at h
  cases hk : n.parseInt with
  | none => rw [hk] at h; cases h
  | some k =>
    rw [hk, Bool.and_eq_true, decide_eq_true_eq] at h
    rw [Number.float64, Number.value_of_parseInt hk, roundBinary64_intCast h.1]
    rfl

/-- The response an extractor works on for a server's answer `v` whose objects give no key
twice and whose numbers the transport keeps: no error, and the answer re-encoded. -/
def Result.ofAnswer (v : Json) (hk : v.keysNodup = true)
    (hn : v.allNumbers Number.keptByTransport = true) : Result :=
  ⟨v.sortKeys, none, Json.sorted_sortKeys v hk, (Json.allNumbers_sortKeys _ v).trans
    (Json.allNumbers_mono (fun _ => Number.float64_isSome_of_keptByTransport) v hn)⟩

namespace GoStruct

variable {α : Type} {S : GoStruct α} (hself : ∀ f, S.fieldOf (S.name f) = some f)

include hself in
/-- **Decoding in another order.** A struct that decodes without error from an object with
distinct keys decodes to the same value from the members in any order, each value changed by
`g`, where `g` changes nothing its member decodes to. -/
theorem decode_perm_map_of_ok {goType : String} {a c : α} {g : Json → Json}
    {kvs kvs' : List (String × Json)} (hd : (kvs.map Prod.fst).Nodup)
    (hx : S.exactKeys kvs = true)
    (hext : ∀ x y, (∀ f, S.get x f = S.get y f) → x = y)
    (hok : S.decode goType a (.obj kvs) = .ok c)
    (hperm : kvs'.Perm (kvs.map fun kv => (kv.1, g kv.2)))
    (hval : ∀ f v, Json.lookup kvs (S.name f) = some v →
      S.decodeField f (S.get a f) (g v) = S.decodeField f (S.get a f) v) :
    S.decode goType a (.obj kvs') = .ok c := by
  have herr : (S.decode goType a (.obj kvs)).error = none := by rw [hok]; rfl
  have hkeys : (kvs.map fun kv => (kv.1, g kv.2)).map Prod.fst = kvs.map Prod.fst := by
    simp [List.map_map, Function.comp_def]
  have hd' : (kvs'.map Prod.fst).Nodup := (hperm.map Prod.fst).nodup_iff.mpr (hkeys ▸ hd)
  have hx' : S.exactKeys kvs' = true := (exactKeys_iff S).mpr fun kv hm => by
    obtain ⟨kv₀, hm₀, rfl⟩ := List.mem_map.mp (hperm.subset hm)
    exact (exactKeys_iff S).mp hx kv₀ hm₀
  have hlookup : ∀ k, Json.lookup kvs' k = (Json.lookup kvs k).map g := fun k => by
    rw [Json.lookup_perm hd' hperm, Json.lookup_map_snd]
  have hget := get_decode_obj hself hd hx herr
  simp only [hok, Decoded.ok_val] at hget
  refine decode_obj_eq_ok hself hd' hx' hext (fun f v hl => ?_) (fun f hl => ?_)
  · rw [hlookup] at hl
    obtain ⟨w, hw, rfl⟩ := Option.map_eq_some'.mp hl
    rw [hval f w hw, Decoded.eq_ok_of_error_eq_none
      (decodeField_error_of_lookup hself hd hx herr f w hw), hget f, hw]
    rfl
  · rw [hlookup, Option.map_eq_none'] at hl
    rw [hget f, hl]
    rfl

include hself in
/-- A struct that decodes without error from an object with distinct keys decodes to the same
value from its re-encoding, where each member decodes alike after the re-encoding. -/
theorem decode_sortKeys_of_ok {goType : String} {a c : α} {kvs : List (String × Json)}
    (hd : (kvs.map Prod.fst).Nodup) (hx : S.exactKeys kvs = true)
    (hext : ∀ x y, (∀ f, S.get x f = S.get y f) → x = y)
    (hok : S.decode goType a (.obj kvs) = .ok c)
    (hval : ∀ f v, Json.lookup kvs (S.name f) = some v →
      S.decodeField f (S.get a f) v.sortKeys = S.decodeField f (S.get a f) v) :
    S.decode goType a (Json.obj kvs).sortKeys = .ok c := by
  rw [Json.sortKeys_obj]
  exact decode_perm_map_of_ok hself hd hx hext hok (List.mergeSort_perm _ _) hval

/-- The encoding of a struct has the numbers of its members. -/
theorem allNumbers_marshal (p : Number → Bool) (enc : (f : S.Field) → S.Ty f → Option Json)
    (a : α) (h : ∀ f v, enc f (S.get a f) = some v → Json.allNumbers p v = true) :
    Json.allNumbers p (S.marshal enc a) = true := by
  refine Json.allNumbers_obj.mpr fun kv hm => ?_
  obtain ⟨f, -, hkv⟩ := List.mem_filterMap.mp hm
  obtain ⟨v, hv, rfl⟩ := Option.map_eq_some'.mp hkv
  exact h f v hv

include hself in
/-- The encoding of a struct gives no key twice where its members give none. -/
theorem keysNodup_marshal (hnodup : S.fields.Nodup) (enc : (f : S.Field) → S.Ty f → Option Json)
    (a : α) (h : ∀ f v, enc f (S.get a f) = some v → v.keysNodup = true) :
    (S.marshal enc a).keysNodup = true := by
  refine Json.keysNodup_obj.mpr ⟨marshal_keys_nodup hself hnodup enc a, fun kv hm => ?_⟩
  obtain ⟨f, -, hkv⟩ := List.mem_filterMap.mp hm
  obtain ⟨v, hv, rfl⟩ := Option.map_eq_some'.mp hkv
  exact h f v hv

end GoStruct

namespace Route

/-- Every member the encoder writes for a route is a string, a number, a boolean or `null`. -/
theorem isScalar_encodeField :
    ∀ (f : Field) (x : f.Ty) (v : Json), encodeField f x = some v → v.isScalar = true
  | .id, _, _, h | .cidr, _, _, h | .mask, _, _, h | .gateway, _, _, h
  | .routingTableId, _, _, h | .tenantId, _, _, h => by cases h; rfl
  | .gatewayId, _, _, h => by obtain ⟨-, rfl⟩ := omitEmptyString_eq_some.mp h; rfl
  | .description, p, _, h => by cases h; cases p <;> rfl
  | .hidden, _, _, h => by obtain ⟨-, rfl⟩ := omitFalse_eq_some.mp h; rfl

/-- A valid route reads back from the re-encoding of its encoding. -/
theorem decode_zero_sortKeys_marshal {r : Route} (hr : r.Valid) :
    decode zero (marshal r).sortKeys = .ok r :=
  GoStruct.decode_sortKeys_of_ok goStruct_fieldOf_name
    (GoStruct.marshal_keys_nodup goStruct_fieldOf_name goStruct_fields_nodup encodeField r)
    (@GoStruct.marshal_keys_exact _ goStruct goStruct_fieldOf_name encodeField r) (fun _ _ h => ext_get h)
    (decode_zero_marshal hr) fun f v hl => by
      rw [Json.sortKeys_of_isScalar (isScalar_encodeField f _ v
        ((GoStruct.lookup_marshal goStruct_fieldOf_name goStruct_mem_fields
          goStruct_fields_nodup encodeField r f).symm.trans hl))]

theorem keysNodup_marshal (r : Route) : (marshal r).keysNodup = true :=
  GoStruct.keysNodup_marshal goStruct_fieldOf_name goStruct_fields_nodup encodeField r
    fun f _ h => Json.keysNodup_of_isScalar (isScalar_encodeField f _ _ h)

/-- The one number the encoding of a route holds is its mask. -/
theorem allNumbers_marshal {p : Number → Bool} {r : Route} (h : p (Number.ofInt r.mask) = true) :
    (marshal r).allNumbers p = true :=
  @GoStruct.allNumbers_marshal _ goStruct p encodeField r fun f v hv => by
    cases f
    case mask => cases hv; exact h
    case gatewayId => obtain ⟨-, rfl⟩ := omitEmptyString_eq_some.mp hv; rfl
    case description => cases hv; cases goStruct.get r .description <;> rfl
    case hidden => obtain ⟨-, rfl⟩ := omitFalse_eq_some.mp hv; rfl
    all_goals cases hv; rfl

end Route

theorem id_le_name : "id" ≤ "name" := by
  rw [String.le_iff_toList_le]; decide

/-- A reference is written sorted already: as a bare ID, or with `id` before `name`. -/
theorem sortKeys_flexibleMarshalJSON (fi : FlexibleInfo) :
    (flexibleMarshalJSON fi).sortKeys = flexibleMarshalJSON fi := by
  unfold flexibleMarshalJSON
  split_ifs <;>
    simp only [Json.sortKeys_str, Json.sortKeys_obj, List.nil_append, List.append_nil,
      List.singleton_append, List.map_nil, List.map_cons, List.mergeSort_nil,
      List.mergeSort_singleton]
  exact congrArg Json.obj
    (List.mergeSort_of_sorted (List.pairwise_pair.mpr (decide_eq_true id_le_name)))

/-- A reference is written with distinct keys and no number. -/
theorem keysNodup_flexibleMarshalJSON (fi : FlexibleInfo) :
    (flexibleMarshalJSON fi).keysNodup = true ∧
      ∀ p, (flexibleMarshalJSON fi).allNumbers p = true := by
  unfold flexibleMarshalJSON
  split_ifs <;> simp [Json.keysNodup_obj, Json.allNumbers_obj]

namespace RoutingTable

/-- A valid routing table reads back from the re-encoding of its encoding as from its encoding:
the re-encoding sorts the members of the table and of each route, and leaves the rest as it
was. -/
theorem decode_zero_sortKeys_marshal {rt : RoutingTable} (hrt : rt.Valid) :
    decode zero (marshal rt).sortKeys = .ok { rt with createTime := readBackTime rt.createTime } :=
  GoStruct.decode_sortKeys_of_ok goStruct_fieldOf_name
    (GoStruct.marshal_keys_nodup goStruct_fieldOf_name goStruct_fields_nodup encodeField rt)
    (@GoStruct.marshal_keys_exact _ goStruct goStruct_fieldOf_name encodeField rt) (fun _ _ h => ext_get h)
    (decode_zero_marshal hrt) fun f v hl => by
      have he := (GoStruct.lookup_marshal goStruct_fieldOf_name goStruct_mem_fields
        goStruct_fields_nodup encodeField rt f).symm.trans hl
      cases f
      case createTime =>
        cases he
        unfold NHNCloudTime.marshalValue
        split_ifs <;> rfl
      case vpcs =>
        obtain ⟨-, rfl⟩ := (@omitEmptySlice_eq_some _ _ FlexibleVPCInfo.marshalJSON rt.vpcs).mp he
        simp only [Json.sortKeys_arr, List.map_map, Function.comp_def, FlexibleVPCInfo.marshalJSON,
          sortKeys_flexibleMarshalJSON]
      case subnets =>
        obtain ⟨-, rfl⟩ :=
          (@omitEmptySlice_eq_some _ _ FlexibleSubnetInfo.marshalJSON rt.subnets).mp he
        simp only [Json.sortKeys_arr, List.map_map, Function.comp_def,
          FlexibleSubnetInfo.marshalJSON, sortKeys_flexibleMarshalJSON]
      case routes =>
        obtain ⟨-, rfl⟩ := (@omitEmptySlice_eq_some _ _ Route.marshal rt.routes).mp he
        show decodeSlice Route.decode Route.zero "[]routingtables.Route" []
            (Json.arr (rt.routes.map Route.marshal)).sortKeys =
          decodeSlice Route.decode Route.zero "[]routingtables.Route" [] (.arr _)
        rw [Json.sortKeys_arr, List.map_map, decodeSlice, decodeSlice,
          @decodeElems_nil_map _ _ _ (Json.sortKeys ∘ Route.marshal) _
            fun r hr => Route.decode_zero_sortKeys_marshal (hrt.routes r hr),
          decodeElems_nil_map _ fun r hr => Route.decode_zero_marshal (hrt.routes r hr)]
      all_goals cases he; rfl

theorem keysNodup_marshal (rt : RoutingTable) : (marshal rt).keysNodup = true :=
  GoStruct.keysNodup_marshal goStruct_fieldOf_name goStruct_fields_nodup encodeField rt
    fun f v h => by
      cases f
      case createTime =>
        cases h
        unfold NHNCloudTime.marshalValue
        split_ifs <;> rfl
      case vpcs | subnets =>
        obtain ⟨-, rfl⟩ := omitEmptySlice_eq_some.mp h
        refine Json.keysNodup_arr.mpr fun x hx => ?_
        obtain ⟨fi, -, rfl⟩ := List.mem_map.mp hx
        exact (keysNodup_flexibleMarshalJSON fi).1
      case routes =>
        obtain ⟨-, rfl⟩ := omitEmptySlice_eq_some.mp h
        refine Json.keysNodup_arr.mpr fun x hx => ?_
        obtain ⟨r, -, rfl⟩ := List.mem_map.mp hx
        exact Route.keysNodup_marshal r
      all_goals cases h; rfl

/-- The numbers of the encoding of a routing table are the masks of its routes. -/
theorem allNumbers_marshal {p : Number → Bool} {rt : RoutingTable}
    (h : ∀ r ∈ rt.routes, p (Number.ofInt r.mask) = true) : (marshal rt).allNumbers p = true :=
  @GoStruct.allNumbers_marshal _ goStruct p encodeField rt fun f v hv => by
    cases f
    case createTime =>
      cases hv
      unfold NHNCloudTime.marshalValue
      split_ifs <;> rfl
    case vpcs | subnets =>
      obtain ⟨-, rfl⟩ := omitEmptySlice_eq_some.mp hv
      refine Json.allNumbers_arr.mpr fun x hx => ?_
      obtain ⟨fi, -, rfl⟩ := List.mem_map.mp hx
      exact (keysNodup_flexibleMarshalJSON fi).2 _
    case routes =>
      obtain ⟨-, rfl⟩ := omitEmptySlice_eq_some.mp hv
      refine Json.allNumbers_arr.mpr fun x hx => ?_
      obtain ⟨r, hr, rfl⟩ := List.mem_map.mp hx
      exact Route.allNumbers_marshal (h r hr)
    all_goals cases hv; rfl

end RoutingTable

/-! ### End to end -/

theorem Route.marshal_sortKeys_ne_null (r : Route) : r.marshal.sortKeys ≠ .null := by
  unfold Route.marshal GoStruct.marshal
  rw [Json.sortKeys_obj]
  exact Json.noConfusion

namespace RouteResult

/-- **End to end.** The response for a server's answer `{"route": …}` around the encoding of a
valid route whose mask is at most `2^53` in magnitude is extracted as that route, by `Extract`
and by `ExtractRoute`. -/
theorem extract_route_of_marshal {rt : Route} (hrt : rt.Valid) (hmask : |rt.mask| ≤ 2 ^ 53) :
    let r := Result.ofAnswer (.obj [("route", rt.marshal)])
      (Json.keysNodup_single _ (Route.keysNodup_marshal rt))
      (Json.allNumbers_single _ (Route.allNumbers_marshal (Number.keptByTransport_ofInt hmask)))
    extract r = (some rt, none) ∧ extractRoute r = (some rt, none) := by
  intro r
  have herr : r.err = none := rfl
  have hbody : r.body = .obj [("route", rt.marshal.sortKeys)] := Json.sortKeys_single _ _
  have hone : [("route", rt.marshal.sortKeys)].filter
      (fun kv => foldName kv.1 = foldName "route") = [("route", rt.marshal.sortKeys)] := by
    simp
  simp only [extract, extractRoute, herr, hbody, envelope_decode_of_single _ _ _ _ hone,
    decodePtr_of_ne_null (Route.marshal_sortKeys_ne_null rt), decodeRawMessage,
    Option.getD_none, Route.decode_zero_sortKeys_marshal hrt, Decoded.mapError, Decoded.map,
    Decoded.ok, Decoded.error, Option.map_none', Option.or_none, and_self]

theorem extract_route_of_marshal_on_default_route :
    let rt : Route :=
      { Route.zero with cidr := .ofString "0.0.0.0", gateway := .ofString "10.0.0.1" }
    let r := Result.ofAnswer (.obj [("route", rt.marshal)])
      (Json.keysNodup_single _ (Route.keysNodup_marshal rt))
      (Json.allNumbers_single _ (Route.allNumbers_marshal (Number.keptByTransport_ofInt
        (by decide))))
    extract r = (some rt, none) ∧ extractRoute r = (some rt, none) := by
  intro rt
  exact @extract_route_of_marshal rt
    { Route.valid_zero with
      cidr := GoString.isText_ofString _, gateway := GoString.isText_ofString _ }
    (by decide)

end RouteResult

namespace RoutingTableResult

/-- **End to end.** The response for a server's answer `{"routingtable": …}` around the
encoding of a valid routing table whose routes have masks of at most `2^53` in magnitude is
extracted as that table, by `Extract` and by `ExtractRoutingTable`, its creation time read as
UTC to the second. -/
theorem extract_table_of_marshal {rt : RoutingTable} (hrt : rt.Valid)
    (hmask : ∀ r ∈ rt.routes, |r.mask| ≤ 2 ^ 53) :
    let r := Result.ofAnswer (.obj [("routingtable", rt.marshal)])
      (Json.keysNodup_single _ (RoutingTable.keysNodup_marshal rt))
      (Json.allNumbers_single _
        (RoutingTable.allNumbers_marshal fun x hx => Number.keptByTransport_ofInt (hmask x hx)))
    extract r = (some { rt with createTime := RoutingTable.readBackTime rt.createTime }, none) ∧
      extractRoutingTable r =
        (some { rt with createTime := RoutingTable.readBackTime rt.createTime }, none) := by
  intro r
  have herr : r.err = none := rfl
  have hd := RoutingTable.decode_zero_sortKeys_marshal hrt
  obtain ⟨ms, hms⟩ : ∃ ms, rt.marshal.sortKeys = .obj ms := ⟨_, Json.sortKeys_obj _⟩
  have hbody : r.body = .obj [("routingtable", .obj ms)] := by
    rw [← hms]; exact Json.sortKeys_single _ _
  rw [hms] at hd
  have hone : [("routingtable", Json.obj ms)].filter
      (fun kv => foldName kv.1 = foldName "routingtable") = [("routingtable", .obj ms)] := by
    simp
  simp only [extract, extractRoutingTable, extractRoutingTableWithFallback, herr, hbody,
    extractFrom_single_of_ok (by rw [hd]; rfl : (RoutingTable.decode .zero (.obj ms)).error = none),
    fallbackFrom_of_single hone, unmarshalWithFallback, hd, Decoded.ok, Decoded.error,
    Option.or_none, true_and]

theorem extract_table_of_marshal_on_one_route :
    let rt : RoutingTable := { RoutingTable.zero with
      id := .ofString "rt-1", vpcs := [⟨.ofString "vpc-1", .ofString "main"⟩],
      routes := [{ Route.zero with cidr := .ofString "0.0.0.0", gateway := .ofString "10.0.0.1" }] }
    let r := Result.ofAnswer (.obj [("routingtable", rt.marshal)])
      (Json.keysNodup_single _ (RoutingTable.keysNodup_marshal rt))
      (Json.allNumbers_single _ (RoutingTable.allNumbers_marshal
        (List.forall_mem_singleton.mpr (Number.keptByTransport_ofInt (by decide)))))
    extract r = (some rt, none) ∧ extractRoutingTable r = (some rt, none) := by
  intro rt
  exact @extract_table_of_marshal rt
    { RoutingTable.valid_zero with
      id := GoString.isText_ofString _
      vpcs := by
        simp only [List.mem_singleton, forall_eq]
        exact ⟨GoString.isText_ofString _, GoString.isText_ofString _⟩
      routes := by
        simp only [List.mem_singleton, forall_eq]
        exact { Route.valid_zero with
          cidr := GoString.isText_ofString _, gateway := GoString.isText_ofString _ } }
    (by decide)

end RoutingTableResult

end NhnCloudLayer3
