/-
Extracting one record from a response: `RoutingTableResult.Extract`, its fallback
`ExtractRoutingTableWithFallback` (also `ExtractRoutingTable`), and `RouteResult`'s two
extractors.

`gophercloud.Result.ExtractInto` returns the request's error, else decodes the re-encoded body
into an anonymous struct with one field (`envelope`). `Extract` decodes the member
`routingtable` into a `*RoutingTable`; where that fails, the fallback takes the member's raw
bytes (a `json.RawMessage`), decodes them into a `RoutingTable`, and where that fails too,
reads them as a map with `parseRoutingTableFromMap`.
-/
import NhnCloudLayer3.Permissive

namespace NhnCloudLayer3

/-- An anonymous struct with the one field `key`, decoded with `dec`: the shape of every
`var s struct { X T "json:key" }` the package decodes a response into. -/
def envelope {τ : Type} (key : String) (dec : τ → Json → Decoded τ) : GoStruct τ where
  Field := Unit
  structName := ""
  fields := [()]
  name _ := key
  Ty _ := τ
  get a _ := a
  set _ _ x := x
  decodeField _ := dec
  get_set _ _ _ := rfl
  get_set_of_ne _ _ _ _ h := (h (Subsingleton.elim _ _)).elim

/-- How `reflect` prints such an anonymous struct type, in errors. -/
def envelopeType (field goType key : String) : String :=
  "struct \x7b " ++ field ++ " " ++ goType ++ " \"json:\\\"" ++ key ++ "\\\"\" \x7d"

/-- A member goes to the envelope's field exactly when its name folds to the key's. -/
theorem envelope_fieldOf {τ : Type} (key : String) (dec : τ → Json → Decoded τ) (k : String) :
    (envelope key dec).fieldOf k = if foldName k = foldName key then some () else none := by
  simp only [GoStruct.fieldOf, matchField, envelope, List.map_cons, List.map_nil,
    List.find?_cons, List.find?_nil]
  by_cases h : key = k
  · subst h; simp
  · rw [beq_false_of_ne h]
    by_cases hf : foldName k = foldName key
    · simp [hf]
    · simp [hf, beq_false_of_ne (Ne.symm hf)]

/-- The envelope decodes an object through the members matching `key` alone. -/
theorem envelope_decode_obj {τ : Type} (key goType : String) (dec : τ → Json → Decoded τ)
    (a : τ) (kvs : List (String × Json)) :
    (envelope key dec).decode goType a (.obj kvs) =
      (envelope key dec).decodeMembers a (kvs.filter fun kv => foldName kv.1 = foldName key) := by
  rw [GoStruct.decode, GoStruct.decodeMembers_filter]
  congr 2; funext kv
  by_cases hk : foldName kv.1 = foldName key <;> simp [envelope_fieldOf, hk]

/-- An object whose only member matching `key` is `(k, v)` decodes as `v` into the field. -/
theorem envelope_decode_of_single {τ : Type} (key goType : String) (dec : τ → Json → Decoded τ)
    (a : τ) {kvs : List (String × Json)} {k : String} {v : Json}
    (h : kvs.filter (fun kv => foldName kv.1 = foldName key) = [(k, v)]) :
    (envelope key dec).decode goType a (.obj kvs) = (dec a v).mapError (.inField "" key) := by
  have hk : (envelope key dec).fieldOf k = some () := by
    have : (k, v) ∈ kvs.filter (fun kv => foldName kv.1 = foldName key) :=
      h ▸ List.mem_singleton_self _
    simpa [envelope_fieldOf] using (List.mem_filter.mp this).2
  rw [envelope_decode_obj, h, GoStruct.decodeMembers_single _ _ hk]
  rfl

/-- An object with no member matching `key` leaves the field as it was. -/
theorem envelope_decode_of_none {τ : Type} (key goType : String) (dec : τ → Json → Decoded τ)
    (a : τ) {kvs : List (String × Json)}
    (h : kvs.filter (fun kv => foldName kv.1 = foldName key) = []) :
    (envelope key dec).decode goType a (.obj kvs) = .ok a := by
  rw [envelope_decode_obj, h]
  rfl

/-- Decoding into a `json.RawMessage`: the value's bytes, whatever the value, `null`
included. -/
def decodeRawMessage (_ : Option Json) (v : Json) : Decoded (Option Json) := .ok (some v)

/-- A `gophercloud.Result`: the response body, which the transport decoded into an
`interface{}` and `ExtractInto` encodes again, and the error of the request. Go writes a map
with its keys in increasing order, and each number as a `float64`, in the fewest digits that
read back as it: so the keys are sorted and every number is within the range of a `float64`. -/
structure Result where
  body : Json
  err : Option GoError
  body_sorted : body.sorted = true
  body_finite : body.finiteNumbers = true

namespace RoutingTableResult

/-- The end of `ExtractRoutingTableWithFallback`, on the raw member (none when it is absent):
decode it into a `RoutingTable`, else read it as a map, else fail. -/
def unmarshalWithFallback : Option Json → Option RoutingTable × Option GoError
  | none => (none, some (.failedToUnmarshalRoutingTable .unexpectedEnd))
  | some v =>
    let d := RoutingTable.decode .zero v
    match d.error with
    | none => (some d.val, none)
    | some e =>
      match v with
      | .obj kvs =>
        if v.finiteNumbers then (some (parseRoutingTableFromMap kvs), none)
        else (none, some (.failedToUnmarshalRoutingTable e))
      | .null => (some (parseRoutingTableFromMap []), none)
      | _ => (none, some (.failedToUnmarshalRoutingTable e))

/-- `ExtractRoutingTableWithFallback` on a body, the request having no error. -/
def fallbackFrom (body : Json) : Option RoutingTable × Option GoError :=
  let resp := (envelope "routingtable" decodeRawMessage).decode
    (envelopeType "RoutingTable" "json.RawMessage" "routingtable") none body
  match resp.error with
  | some e => (none, some (.failedToExtractResponse e))
  | none => unmarshalWithFallback resp.val

/-- The strict decoding of `Extract`: the member `routingtable` into a `*RoutingTable`. -/
def strictFrom (body : Json) : Decoded (Option RoutingTable) :=
  (envelope "routingtable" (decodePtr RoutingTable.decode .zero)).decode
    (envelopeType "RoutingTable" "*routingtables.RoutingTable" "routingtable") none body

/-- `Extract` on a body, the request having no error. -/
def extractFrom (body : Json) : Option RoutingTable × Option GoError :=
  match (strictFrom body).error with
  | some _ => fallbackFrom body
  | none => ((strictFrom body).val, none)

/-- On a body whose only member matching `routingtable` is `(k, v)`, the strict decoding is
that of `v` into a nil `*RoutingTable`. -/
theorem strictFrom_of_single {kvs : List (String × Json)} {k : String} {v : Json}
    (h : kvs.filter (fun kv => foldName kv.1 = foldName "routingtable") = [(k, v)]) :
    strictFrom (.obj kvs) =
      (decodePtr RoutingTable.decode .zero none v).mapError (.inField "" "routingtable") :=
  envelope_decode_of_single _ _ _ _ h

/-- `Extract` of `{"routingtable": o}`, for an object `o` that decodes, is the decoded record. -/
theorem extractFrom_single_of_ok {ms : List (String × Json)}
    (h : (RoutingTable.decode .zero (.obj ms)).error = none) :
    extractFrom (.obj [("routingtable", .obj ms)]) =
      (some (RoutingTable.decode .zero (.obj ms)).val, none) := by
  have hs := @strictFrom_of_single [("routingtable", .obj ms)] "routingtable" (.obj ms) (by simp)
  simp [extractFrom, hs, h, decodePtr]

/-- `RoutingTableResult.ExtractRoutingTableWithFallback`. -/
def extractRoutingTableWithFallback (r : Result) : Option RoutingTable × Option GoError :=
  match r.err with
  | some e => (none, some e)
  | none => fallbackFrom r.body

/-- `RoutingTableResult.Extract`. -/
def extract (r : Result) : Option RoutingTable × Option GoError :=
  match r.err with
  | some e => (none, some e)
  | none => extractFrom r.body

/-- `RoutingTableResult.ExtractRoutingTable`. -/
def extractRoutingTable (r : Result) : Option RoutingTable × Option GoError :=
  extractRoutingTableWithFallback r

/-- The end of the fallback returns a record or an error: never both, never neither. -/
theorem unmarshalWithFallback_exclusive (raw : Option Json) :
    (unmarshalWithFallback raw).1.isSome = !(unmarshalWithFallback raw).2.isSome := by
  unfold unmarshalWithFallback
  rcases raw with _ | v
  · rfl
  · dsimp only
    split
    · rfl
    · split
      · split <;> rfl
      all_goals rfl

theorem fallbackFrom_exclusive (body : Json) :
    (fallbackFrom body).1.isSome = !(fallbackFrom body).2.isSome := by
  unfold fallbackFrom
  dsimp only
  split
  · rfl
  · exact unmarshalWithFallback_exclusive _

theorem fallbackFrom_ne_none (body : Json) : fallbackFrom body ≠ (none, none) := fun h => by
  simpa [h] using fallbackFrom_exclusive body

/-- On a body whose only member matching `routingtable` is `(k, v)`, the fallback reads `v`. -/
theorem fallbackFrom_of_single {kvs : List (String × Json)} {k : String} {v : Json}
    (h : kvs.filter (fun kv => foldName kv.1 = foldName "routingtable") = [(k, v)]) :
    fallbackFrom (.obj kvs) = unmarshalWithFallback (some v) := by
  simp [fallbackFrom, envelope_decode_of_single _ _ _ _ h, decodeRawMessage]

/-- Where the body has at most one member matching `routingtable`, `Extract` returns a nil
record without error exactly on a `null` body and on an object whose matching member, if any,
is `null`; everywhere else it returns what the fallback does. -/
theorem extractFrom_cases (body : Json)
    (hone : ∀ kvs, body = .obj kvs →
      (kvs.filter fun kv => foldName kv.1 = foldName "routingtable").length ≤ 1) :
    (extractFrom body = (none, none) ↔ body = .null ∨
      ∃ kvs, body = .obj kvs ∧ ∀ kv ∈ kvs, foldName kv.1 = foldName "routingtable" → kv.2 = .null) ∧
    (extractFrom body ≠ (none, none) → extractFrom body = fallbackFrom body) := by
  have hfb := fallbackFrom_ne_none body
  have hfail : ∀ e, (strictFrom body).error = some e → extractFrom body = fallbackFrom body := by
    intro e he; simp [extractFrom, he]
  cases body
  case null => simp [extractFrom, strictFrom, GoStruct.decode]
  case obj kvs =>
    rcases hm : kvs.filter (fun kv => foldName kv.1 = foldName "routingtable") with
      _ | ⟨⟨k, v⟩, _ | ⟨kv', rest⟩⟩
    · have hs : strictFrom (.obj kvs) = .ok none := envelope_decode_of_none _ _ _ _ hm
      have hnull : ∀ kv ∈ kvs, foldName kv.1 = foldName "routingtable" → kv.2 = .null :=
        fun kv hkv hf => absurd (List.mem_filter.mpr ⟨hkv, by simpa using hf⟩)
          (hm ▸ List.not_mem_nil _)
      simpa [extractFrom, hs] using fun a b h => hnull (a, b) h
    · have hmem : ∀ kv ∈ kvs, foldName kv.1 = foldName "routingtable" → kv = (k, v) :=
        fun kv hkv hf => List.mem_singleton.mp (hm ▸ List.mem_filter.mpr ⟨hkv, by simpa using hf⟩)
      have hkv := List.mem_filter.mp (hm ▸ List.mem_singleton_self (k, v))
      have hs := strictFrom_of_single hm
      by_cases hv : v = .null
      · subst hv
        have hx : extractFrom (.obj kvs) = (none, none) := by simp [extractFrom, hs, decodePtr]
        simp only [hx, ne_eq, not_true_eq_false, IsEmpty.forall_iff, and_true, true_iff]
        exact .inr ⟨kvs, rfl, fun kv h hf => by rw [hmem kv h hf]⟩
      · rw [decodePtr_of_ne_null hv] at hs
        have hrhs : ¬(Json.obj kvs = .null ∨ ∃ kvs', Json.obj kvs = .obj kvs' ∧
            ∀ kv ∈ kvs', foldName kv.1 = foldName "routingtable" → kv.2 = .null) := by
          rintro (h | ⟨_, h, hall⟩)
          · cases h
          · cases h; exact hv (hall _ hkv.1 (by simpa using hkv.2))
        cases hd : (RoutingTable.decode .zero v).error with
        | some e =>
          rw [hfail (e.inField "" "routingtable") (by simp [hs, hd])]
          exact ⟨iff_of_false hfb hrhs, fun _ => rfl⟩
        | none =>
          have hx : extractFrom (.obj kvs) = (some (RoutingTable.decode .zero v).val, none) := by
            simp [extractFrom, hs, hd]
          rw [hx, fallbackFrom_of_single hm]
          exact ⟨iff_of_false (by simp) hrhs, fun _ => by simp [unmarshalWithFallback, hd]⟩
    · simpa [hm] using hone kvs rfl
  all_goals
    rw [hfail _ rfl]
    exact ⟨iff_of_false hfb (by simp), fun _ => rfl⟩

/-- **`Extract` against `ExtractRoutingTable`.** `ExtractRoutingTable` returns a record or an
error, never both and never neither. Where the body has at most one member matching
`routingtable`, `Extract` returns a nil record without error exactly on a `null` body or a
missing or `null` member, and on every other body it returns what `ExtractRoutingTable` does. -/
theorem extract_vs_extractRoutingTable (r : Result) (herr : r.err = none)
    (hone : ∀ kvs, r.body = .obj kvs →
      (kvs.filter fun kv => foldName kv.1 = foldName "routingtable").length ≤ 1) :
    (extractRoutingTable r).1.isSome = !(extractRoutingTable r).2.isSome ∧
    (extract r = (none, none) ↔ r.body = .null ∨
      ∃ kvs, r.body = .obj kvs ∧ ∀ kv ∈ kvs, foldName kv.1 = foldName "routingtable" → kv.2 = .null) ∧
    (extract r ≠ (none, none) → extract r = extractRoutingTable r) := by
  have hx : extract r = extractFrom r.body := by simp [extract, herr]
  have hf : extractRoutingTable r = fallbackFrom r.body := by
    simp [extractRoutingTable, extractRoutingTableWithFallback, herr]
  rw [hx, hf]
  exact ⟨fallbackFrom_exclusive _, extractFrom_cases r.body hone⟩

theorem extract_vs_extractRoutingTable_on_record :
    extract ⟨.obj [("routingtable", .obj [("id", .str "rt-1")])], none,
        by simp [Json.sorted, Json.sortedMembers, Json.sortedAll], by decide⟩ =
      extractRoutingTable ⟨.obj [("routingtable", .obj [("id", .str "rt-1")])], none,
        by simp [Json.sorted, Json.sortedMembers, Json.sortedAll], by decide⟩ :=
  (extract_vs_extractRoutingTable
    ⟨.obj [("routingtable", .obj [("id", .str "rt-1")])], none,
      by simp [Json.sorted, Json.sortedMembers, Json.sortedAll], by decide⟩ rfl
    (fun _ h => by cases h; simp)).2.2 (by decide)

/-- An empty body, and a `null` member, make `Extract` return a nil record with a nil error,
where `ExtractRoutingTable` returns an error, and a zero record. -/
theorem extract_nil_record_nil_error :
    extract ⟨.obj [], none, rfl, rfl⟩ = (none, none) ∧
    extractRoutingTable ⟨.obj [], none, rfl, rfl⟩ =
      (none, some (.failedToUnmarshalRoutingTable .unexpectedEnd)) ∧
    extract ⟨.obj [("routingtable", .null)], none,
        by simp [Json.sorted, Json.sortedMembers, Json.sortedAll], rfl⟩ = (none, none) ∧
    extractRoutingTable ⟨.obj [("routingtable", .null)], none,
        by simp [Json.sorted, Json.sortedMembers, Json.sortedAll], rfl⟩ =
      (some RoutingTable.zero, none) :=
  ⟨rfl, rfl, rfl, rfl⟩

end RoutingTableResult

namespace RouteResult

/-- `RouteResult.Extract`. -/
def extract (r : Result) : Option Route × Option GoError :=
  match r.err with
  | some e => (none, some e)
  | none =>
    let s := (envelope "route" (decodePtr Route.decode .zero)).decode
      (envelopeType "Route" "*routingtables.Route" "route") none r.body
    match s.error with
    | some e => (none, some e)
    | none => (s.val, none)

/-- `RouteResult.ExtractRoute`. -/
def extractRoute (r : Result) : Option Route × Option GoError :=
  match r.err with
  | some e => (none, some e)
  | none =>
    let resp := (envelope "route" decodeRawMessage).decode
      (envelopeType "Route" "json.RawMessage" "route") none r.body
    match resp.error, resp.val with
    | some e, _ => (none, some (.failedToExtractResponse e))
    | none, none => (none, some (.failedToUnmarshalRoute .unexpectedEnd))
    | none, some v =>
      let d := Route.decode .zero v
      match d.error with
      | none => (some d.val, none)
      | some e => (none, some (.failedToUnmarshalRoute e))

/-- Every result of `ExtractRoute` is a route or an error, never both and never neither. -/
theorem extractRoute_exclusive (r : Result) :
    (extractRoute r).1.isSome = !(extractRoute r).2.isSome := by
  unfold extractRoute
  split
  · rfl
  · dsimp only
    split
    case h_3 => split <;> rfl
    all_goals rfl

/-- **`Extract` against `ExtractRoute`.** `ExtractRoute` returns a route or an error, never both
and never neither, on every result. On a body whose only member matching `route` is not `null`,
`Extract` returns the same route, and fails exactly when `ExtractRoute` does. -/
theorem extract_vs_extractRoute (r : Result) :
    (extractRoute r).1.isSome = !(extractRoute r).2.isSome ∧
      (r.err = none → ∀ (kvs : List (String × Json)) (k : String) (v : Json), r.body = .obj kvs →
        kvs.filter (fun kv => foldName kv.1 = foldName "route") = [(k, v)] → v ≠ .null →
        (extract r).1 = (extractRoute r).1 ∧
          (extract r).2.isSome = (extractRoute r).2.isSome) := by
  refine ⟨extractRoute_exclusive r, fun herr kvs k v hbody hone hv => ?_⟩
  simp only [extract, extractRoute, herr, hbody, envelope_decode_of_single _ _ _ _ hone,
    decodePtr_of_ne_null hv, decodeRawMessage]
  cases hd : (Route.decode .zero v).error <;> simp [hd]

theorem extract_vs_extractRoute_on_route :
    let r : Result := ⟨.obj [("route", .obj [("cidr", .str "10.0.0.0/24")])], none,
      by simp [Json.sorted, Json.sortedMembers, Json.sortedAll], by decide⟩
    (extractRoute r).1 = some { Route.zero with cidr := GoString.ofString "10.0.0.0/24" } ∧
      (extractRoute r).1.isSome = !(extractRoute r).2.isSome ∧
      (extract r).1 = (extractRoute r).1 ∧ (extract r).2.isSome = (extractRoute r).2.isSome :=
  have h := extract_vs_extractRoute ⟨.obj [("route", .obj [("cidr", .str "10.0.0.0/24")])], none,
    by simp [Json.sorted, Json.sortedMembers, Json.sortedAll], by decide⟩
  ⟨rfl, h.1, h.2 rfl _ "route" (.obj [("cidr", .str "10.0.0.0/24")]) rfl (by simp) nofun⟩

end RouteResult

end NhnCloudLayer3
