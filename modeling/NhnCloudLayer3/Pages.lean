/-
Extracting a list from a response: `ExtractRoutingTables` and `ExtractRoutes` for pages of a
listing, with the pages' `IsEmpty`, and `GatewayResult.Extract`.

Each decodes the re-encoded body into an anonymous struct with one slice field and returns the
slice with the error (`extractList`). The slice is decoded element by element with the strict
decoder, so a record that does not decode makes the whole page return an error, and a record
whose `NHNCloudTime` or reference fails to decode stops the page there.

* `extractRoutes_keeps_every_element` — a route has no field that can stop its decoder, so a page
  of routes keeps every element, in order, and reports an error exactly when one of them fails.
-/
import NhnCloudLayer3.Extract

namespace NhnCloudLayer3

/-- `ExtractInto` of `struct { Field []T "json:key" }`, returning the slice and the error. -/
def extractList {α : Type} (key field goType : String) (dec : α → Json → Decoded α) (zero : α)
    (r : Result) : List α × Option GoError :=
  match r.err with
  | some e => ([], some e)
  | none =>
    let s := (envelope key (decodeSlice dec zero goType)).decode
      (envelopeType field goType key) [] r.body
    (s.val, s.error)

/-- `ExtractRoutingTables`. -/
def extractRoutingTables : Result → List RoutingTable × Option GoError :=
  extractList "routingtables" "RoutingTables" "[]routingtables.RoutingTable" RoutingTable.decode
    .zero

/-- `RoutingTablePage.IsEmpty`. -/
def RoutingTablePage.isEmpty (r : Result) : Bool × Option GoError :=
  ((extractRoutingTables r).1.isEmpty, (extractRoutingTables r).2)

/-- A listing whose only member matching `key` is the array `xs` gives its elements decoded
into zero values, with the first error among them placed in the envelope. -/
theorem extractList_of_member {α : Type} {key field goType : String}
    {dec : α → Json → Decoded α} {zero : α} {r : Result} {kvs : List (String × Json)} {k : String}
    {xs : List Json} (herr : r.err = none) (hbody : r.body = .obj kvs)
    (hkey : kvs.filter (fun kv => foldName kv.1 = foldName key) = [(k, .arr xs)]) :
    extractList key field goType dec zero r =
      ((decodeElems dec zero [] xs).val,
        ((decodeElems dec zero [] xs).mapError (.inField "" key)).error) := by
  simp only [extractList, herr, hbody, envelope_decode_of_single _ _ _ _ hkey]
  rfl

/-- **A page is its records decoded strictly.** On a page whose `routingtables` member is an
array of objects, `ExtractRoutingTables` fails exactly when one of them does not decode into a
`RoutingTable`; without error, each record is the one `Extract` gives for that object alone;
and the page is empty exactly when the array is. -/
theorem extractRoutingTables_decodes_each (r : Result) (kvs : List (String × Json)) (k : String)
    (os : List Json) (herr : r.err = none) (hbody : r.body = .obj kvs)
    (hkey : kvs.filter (fun kv => foldName kv.1 = foldName "routingtables") = [(k, .arr os)])
    (hobj : ∀ o ∈ os, ∃ ms, o = .obj ms) :
    ((extractRoutingTables r).2 = none ↔ ∀ o ∈ os, (RoutingTable.decode .zero o).error = none) ∧
    ((extractRoutingTables r).2 = none →
      (extractRoutingTables r).1.map (fun t => (some t, none)) =
        os.map fun o => RoutingTableResult.extractFrom (.obj [("routingtable", o)])) ∧
    ((RoutingTablePage.isEmpty r).1 = true ↔ os = []) := by
  have h : extractRoutingTables r = _ := extractList_of_member herr hbody hkey
  have herror : (extractRoutingTables r).2 = none ↔
      ∀ o ∈ os, (RoutingTable.decode .zero o).error = none := by
    rw [h, Decoded.mapError_error_eq_none, decodeElems_nil_error_eq_none]
  refine ⟨herror, fun he => ?_, ?_⟩
  · rw [h, decodeElems_nil_val _ _ _ (Decoded.mapError_error_eq_none.mp (h ▸ he)), List.map_map]
    refine List.map_congr_left fun o ho => ?_
    obtain ⟨ms, rfl⟩ := hobj o ho
    rw [RoutingTableResult.extractFrom_single_of_ok (herror.mp he _ ho)]
    rfl
  · simp [RoutingTablePage.isEmpty, h, decodeElems_nil_val_eq_nil]

theorem extractRoutingTables_decodes_one_record :
    (extractRoutingTables ⟨.obj [("routingtables", .arr [.obj [("id", .str "rt-1")]])], none,
        by simp [Json.sorted, Json.sortedMembers, Json.sortedAll], by decide⟩).1.map
        (fun t => (some t, none)) =
      [RoutingTableResult.extractFrom (.obj [("routingtable", .obj [("id", .str "rt-1")])])] :=
  have h := extractRoutingTables_decodes_each
    ⟨.obj [("routingtables", .arr [.obj [("id", .str "rt-1")]])], none,
      by simp [Json.sorted, Json.sortedMembers, Json.sortedAll], by decide⟩
    [("routingtables", .arr [.obj [("id", .str "rt-1")]])] "routingtables"
    [.obj [("id", .str "rt-1")]] rfl rfl (by simp) (by simp)
  h.2.1 (h.1.2 (by simp; rfl))

/-- A record whose `default_table` is a string makes the whole page fail, while `Extract`
reads the same object alone through the fallback. -/
theorem extractRoutingTables_mistyped_member_fails :
    extractRoutingTables ⟨.obj [("routingtables", .arr [.obj [("default_table", .str "yes")]])],
        none, by simp [Json.sorted, Json.sortedMembers, Json.sortedAll], by decide⟩ =
      ([RoutingTable.zero], some (.unmarshalType "string" "bool" (some "RoutingTable")
        "routingtables.default_table")) ∧
    RoutingTableResult.extractFrom (.obj [("routingtable", .obj [("default_table", .str "yes")])]) =
      (some RoutingTable.zero, none) :=
  ⟨rfl, rfl⟩

/-- `ExtractRoutes`. -/
def extractRoutes : Result → List Route × Option GoError :=
  extractList "routes" "Routes" "[]routingtables.Route" Route.decode .zero

/-- `RoutePage.IsEmpty`. -/
def RoutePage.isEmpty (r : Result) : Bool × Option GoError :=
  ((extractRoutes r).1.isEmpty, (extractRoutes r).2)

/-- `Gateway`: a gateway reachable through routing policies. -/
structure Gateway where
  id : GoString
  type : GoString
  name : GoString
  deriving DecidableEq, Repr

namespace Gateway

/-- The zero value. -/
def zero : Gateway := ⟨.empty, .empty, .empty⟩

/-- The fields of `Gateway`. -/
inductive Field
  | id | type | name
  deriving DecidableEq

/-- `Gateway` as `encoding/json` sees it. -/
def goStruct : GoStruct Gateway where
  Field := Field
  structName := "Gateway"
  fields := [.id, .type, .name]
  name | .id => "id" | .type => "type" | .name => "name"
  Ty _ := GoString
  get a | .id => a.id | .type => a.type | .name => a.name
  set a
    | .id => fun x => { a with id := x }
    | .type => fun x => { a with type := x }
    | .name => fun x => { a with name := x }
  decodeField _ := decodeString
  get_set a f x := by cases f <;> rfl
  get_set_of_ne a f g x h := by cases f <;> cases g <;> first | rfl | exact absurd rfl h

/-- Decoding a JSON value into a `Gateway`. -/
def decode : Gateway → Json → Decoded Gateway := goStruct.decode "routingtables.Gateway"

end Gateway

/-- `GatewayResult.Extract`. -/
def GatewayResult.extract : Result → List Gateway × Option GoError :=
  extractList "gateways" "Gateways" "[]routingtables.Gateway" Gateway.decode .zero

/-- A listing whose records never stop decoding keeps one record per element of its array, each
decoded into a zero value, whatever errors they give; the error is none exactly when no
element gives one. -/
theorem extractList_of_stop {α : Type} {key field goType : String}
    {dec : α → Json → Decoded α} {zero : α} (hstop : ∀ c x, (dec c x).stop = none) {r : Result}
    {kvs : List (String × Json)} {k : String} {xs : List Json} (herr : r.err = none)
    (hbody : r.body = .obj kvs)
    (hkey : kvs.filter (fun kv => foldName kv.1 = foldName key) = [(k, .arr xs)]) :
    (extractList key field goType dec zero r).1 = xs.map (fun x => (dec zero x).val) ∧
    ((extractList key field goType dec zero r).2 = none ↔ ∀ x ∈ xs, (dec zero x).error = none) := by
  rw [extractList_of_member herr hbody hkey, Decoded.mapError_error_eq_none,
    decodeElems_nil_error_eq_none, decodeElems_nil_val_of_stop dec zero hstop]
  exact ⟨rfl, Iff.rfl⟩

/-- A route never stops decoding: it has no `json.Unmarshaler` field. -/
theorem Route.decode_stop (a : Route) (v : Json) : (Route.decode a v).stop = none :=
  Route.goStruct.decode_stop (fun f cur v => by
    cases f
    case mask => exact decodeInt_stop cur v
    case description => exact decodeStringPtr_stop cur v
    case hidden => exact decodeBool_stop cur v
    all_goals exact decodeString_stop cur v) _ a v

/-- A gateway never stops decoding: its fields are strings. -/
theorem Gateway.decode_stop (a : Gateway) (v : Json) : (Gateway.decode a v).stop = none :=
  Gateway.goStruct.decode_stop (fun _ cur v => decodeString_stop cur v) _ a v

/-- **Route pages keep every element.** On a page whose only member matching `routes` is an
array, `ExtractRoutes` returns one route per element, in order, each what `json.Unmarshal`
gives for that element alone, whatever errors occur (unlike `ExtractRoutingTables`, which stops
at a record whose creation time or reference fails); it returns an error exactly when one
element gives one, and `IsEmpty` reports empty exactly when the array is. -/
theorem extractRoutes_keeps_every_element (r : Result) (kvs : List (String × Json)) (k : String)
    (xs : List Json) (herr : r.err = none) (hbody : r.body = .obj kvs)
    (hkey : kvs.filter (fun kv => foldName kv.1 = foldName "routes") = [(k, .arr xs)]) :
    (extractRoutes r).1 = xs.map (fun x => (Route.decode .zero x).val) ∧
    ((extractRoutes r).2 = none ↔ ∀ x ∈ xs, (Route.decode .zero x).error = none) ∧
    ((RoutePage.isEmpty r).1 = true ↔ xs = []) := by
  obtain ⟨hval, herror⟩ := extractList_of_stop Route.decode_stop herr hbody hkey
  refine ⟨hval, herror, ?_⟩
  simp only [RoutePage.isEmpty, extractRoutes, hval, List.isEmpty_iff, List.map_eq_nil_iff]

theorem extractRoutes_keeps_every_element_on_mistyped_mask :
    (extractRoutes ⟨.obj [("routes", .arr [.obj [("mask", .str "24")], .obj []])], none,
        by simp [Json.sorted, Json.sortedMembers, Json.sortedAll], by decide⟩).1 =
      [.obj [("mask", .str "24")], .obj []].map (fun x => (Route.decode .zero x).val) :=
  (extractRoutes_keeps_every_element
    ⟨.obj [("routes", .arr [.obj [("mask", .str "24")], .obj []])], none,
      by simp [Json.sorted, Json.sortedMembers, Json.sortedAll], by decide⟩
    [("routes", .arr [.obj [("mask", .str "24")], .obj []])] "routes" _ rfl rfl (by simp)).1

end NhnCloudLayer3
