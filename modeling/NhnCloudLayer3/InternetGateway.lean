/-
Internet gateways: `InternetGateway`, its `UnmarshalJSON`, its default encoding, and the
extractors of its results and pages.

`UnmarshalJSON` decodes into a fresh struct that embeds the gateway's fields (`tmp`) next to a
`create_time` string, copies the fields over, and parses the string, when it is not empty, in
the layout `2006-01-02 15:04:05`. The field `CreateTime` itself is tagged `json:"-"`, so the
default encoder never writes it.

* `extractInternetGateways_stops_at_error` — a gateway whose `UnmarshalJSON` fails ends the
  page: the gateways after it are not read.
-/
import NhnCloudLayer3.Pages

namespace NhnCloudLayer3

/-- `InternetGateway`. -/
structure InternetGateway where
  id : GoString
  name : GoString
  externalNetworkId : GoString
  routingTableId : Option GoString
  state : GoString
  createTime : GoTime
  tenantId : GoString
  migrateStatus : GoString
  migrateError : Option GoString
  deriving DecidableEq, Repr

namespace InternetGateway

/-- The zero value. -/
def zero : InternetGateway :=
  ⟨.empty, .empty, .empty, none, .empty, .zero, .empty, .empty, none⟩

/-- The fields of `struct { tmp; CreateTime string "json:create_time" }`: those of the
gateway promoted from `tmp`, all but `CreateTime`, and the string `create_time`. -/
inductive Field
  | id | name | externalNetworkId | routingTableId | state | tenantId | migrateStatus
  | migrateError | createTime
  deriving DecidableEq

/-- The Go type of each field. -/
def Field.Ty : Field → Type
  | .routingTableId => Option GoString
  | .migrateError => Option GoString
  | _ => GoString

/-- The anonymous struct `UnmarshalJSON` decodes into: the gateway, and the `create_time`
string. -/
def wireStruct : GoStruct (InternetGateway × GoString) where
  Field := Field
  structName := ""
  fields := [.id, .name, .externalNetworkId, .routingTableId, .state, .tenantId, .migrateStatus,
    .migrateError, .createTime]
  name
    | .id => "id" | .name => "name" | .externalNetworkId => "external_network_id"
    | .routingTableId => "routingtable_id" | .state => "state" | .tenantId => "tenant_id"
    | .migrateStatus => "migrate_status" | .migrateError => "migrate_error"
    | .createTime => "create_time"
  path
    | .id => "tmp.id" | .name => "tmp.name" | .externalNetworkId => "tmp.external_network_id"
    | .routingTableId => "tmp.routingtable_id" | .state => "tmp.state"
    | .tenantId => "tmp.tenant_id" | .migrateStatus => "tmp.migrate_status"
    | .migrateError => "tmp.migrate_error" | .createTime => "create_time"
  Ty := Field.Ty
  get a
    | .id => a.1.id | .name => a.1.name | .externalNetworkId => a.1.externalNetworkId
    | .routingTableId => a.1.routingTableId | .state => a.1.state | .tenantId => a.1.tenantId
    | .migrateStatus => a.1.migrateStatus | .migrateError => a.1.migrateError
    | .createTime => a.2
  set a
    | .id => fun x => ({ a.1 with id := x }, a.2)
    | .name => fun x => ({ a.1 with name := x }, a.2)
    | .externalNetworkId => fun x => ({ a.1 with externalNetworkId := x }, a.2)
    | .routingTableId => fun x => ({ a.1 with routingTableId := x }, a.2)
    | .state => fun x => ({ a.1 with state := x }, a.2)
    | .tenantId => fun x => ({ a.1 with tenantId := x }, a.2)
    | .migrateStatus => fun x => ({ a.1 with migrateStatus := x }, a.2)
    | .migrateError => fun x => ({ a.1 with migrateError := x }, a.2)
    | .createTime => fun x => (a.1, x)
  decodeField
    | .routingTableId => decodeStringPtr
    | .migrateError => decodeStringPtr
    | .id => decodeString | .name => decodeString | .externalNetworkId => decodeString
    | .state => decodeString | .tenantId => decodeString | .migrateStatus => decodeString
    | .createTime => decodeString
  get_set a f x := by cases f <;> rfl
  get_set_of_ne a f g x h := by cases f <;> cases g <;> first | rfl | exact absurd rfl h

/-- `InternetGateway.UnmarshalJSON`: on a decoding error the receiver is left as it was; else
it becomes the decoded gateway, with the parsed creation time, and a time that does not parse
is returned as the error after the gateway has been replaced. -/
def unmarshalJSON (g : InternetGateway) (v : Json) : InternetGateway × Option GoError :=
  let d := wireStruct.decode
    "struct \x7b internetgateways.tmp; CreateTime string \"json:\\\"create_time\\\"\" \x7d"
    (zero, .empty) v
  match d.error with
  | some e => (g, some e)
  | none =>
    if d.val.2 = .empty then (d.val.1, none)
    else
      match parse layoutDateTime d.val.2 with
      | .ok t => ({ d.val.1 with createTime := t }, none)
      | .error e => (d.val.1, some e)

/-- A `*string` as the encoder writes it. -/
def stringPtrJson : Option GoString → Json
  | none => .null
  | some s => .str s.toJson

/-- `json.Marshal` of a gateway: its tagged fields in order, `CreateTime` left out. -/
def marshal (g : InternetGateway) : Json :=
  .obj [("id", .str g.id.toJson), ("name", .str g.name.toJson),
    ("external_network_id", .str g.externalNetworkId.toJson),
    ("routingtable_id", stringPtrJson g.routingTableId), ("state", .str g.state.toJson),
    ("tenant_id", .str g.tenantId.toJson), ("migrate_status", .str g.migrateStatus.toJson),
    ("migrate_error", stringPtrJson g.migrateError)]

/-- Every string of the gateway is UTF-8 text, as every string decoded from JSON is. -/
structure IsText (g : InternetGateway) : Prop where
  id : g.id.IsText
  name : g.name.IsText
  externalNetworkId : g.externalNetworkId.IsText
  routingTableId : ∀ s ∈ g.routingTableId, s.IsText
  state : g.state.IsText
  tenantId : g.tenantId.IsText
  migrateStatus : g.migrateStatus.IsText
  migrateError : ∀ s ∈ g.migrateError, s.IsText

theorem isText_zero : zero.IsText :=
  ⟨GoString.isText_empty, GoString.isText_empty, GoString.isText_empty, nofun,
    GoString.isText_empty, GoString.isText_empty, GoString.isText_empty, nofun⟩

/-- Decoding a member into the anonymous struct keeps the gateway's strings text. -/
theorem wireStruct_isText (a : InternetGateway × GoString) (f : wireStruct.Field) (v : Json)
    (h : a.1.IsText) :
    (wireStruct.set a f (wireStruct.decodeField f (wireStruct.get a f) v).val).1.IsText := by
  obtain ⟨h₁, h₂, h₃, h₄, h₅, h₆, h₇, h₈⟩ := h
  cases f <;> constructor <;>
    first | assumption | exact decodeString_isText ‹_› v | exact decodeStringPtr_isText ‹_› v

/-- Every gateway `UnmarshalJSON` returns without error has text strings. -/
theorem unmarshalJSON_isText {g₀ g : InternetGateway} {v : Json}
    (h : unmarshalJSON g₀ v = (g, none)) : g.IsText := by
  have hd := wireStruct.decode_invariant (fun a => a.1.IsText) wireStruct_isText
    "struct \x7b internetgateways.tmp; CreateTime string \"json:\\\"create_time\\\"\" \x7d"
    (zero, .empty) isText_zero v
  unfold unmarshalJSON at h
  dsimp only at h
  split at h
  · cases h
  · split_ifs at h
    · cases h; exact hd
    · split at h
      · cases h
        exact ⟨hd.1, hd.2, hd.3, hd.4, hd.5, hd.6, hd.7, hd.8⟩
      · cases h

theorem decodeString_toJson {s : GoString} (h : s.IsText) :
    ∀ cur, decodeString cur (.str s.toJson) = .ok s := fun _ => congrArg Decoded.ok h

theorem decodeStringPtr_stringPtrJson {p : Option GoString} (h : ∀ s ∈ p, s.IsText) :
    ∀ cur, decodeStringPtr cur (stringPtrJson p) = .ok p := by
  intro cur
  cases p with
  | none => rfl
  | some s => exact congrArg (fun t => Decoded.ok (some t)) (h s rfl)

/-- A gateway with text strings is encoded and decoded, into any receiver, as itself with a
zero creation time: the encoder leaves `CreateTime` out. -/
theorem unmarshalJSON_marshal {g : InternetGateway} (hg : g.IsText) (g₁ : InternetGateway) :
    unmarshalJSON g₁ (marshal g) = ({ g with createTime := .zero }, none) := by
  obtain ⟨h₁, h₂, h₃, h₄, h₅, h₆, h₇, h₈⟩ := hg
  simp only [unmarshalJSON, marshal, GoStruct.decode]
  rw [wireStruct.decodeMembers_cons_ok _ "id" .id (.str g.id.toJson) rfl
      (decodeString_toJson h₁),
    wireStruct.decodeMembers_cons_ok _ "name" .name (.str g.name.toJson) rfl
      (decodeString_toJson h₂),
    wireStruct.decodeMembers_cons_ok _ "external_network_id" .externalNetworkId
      (.str g.externalNetworkId.toJson) rfl (decodeString_toJson h₃),
    wireStruct.decodeMembers_cons_ok _ "routingtable_id" .routingTableId
      (stringPtrJson g.routingTableId) rfl (decodeStringPtr_stringPtrJson h₄),
    wireStruct.decodeMembers_cons_ok _ "state" .state (.str g.state.toJson) rfl
      (decodeString_toJson h₅),
    wireStruct.decodeMembers_cons_ok _ "tenant_id" .tenantId (.str g.tenantId.toJson) rfl
      (decodeString_toJson h₆),
    wireStruct.decodeMembers_cons_ok _ "migrate_status" .migrateStatus
      (.str g.migrateStatus.toJson) rfl (decodeString_toJson h₇),
    wireStruct.decodeMembers_cons_ok _ "migrate_error" .migrateError
      (stringPtrJson g.migrateError) rfl (decodeStringPtr_stringPtrJson h₈)]
  simp only [GoStruct.decodeMembers, Decoded.ok_error, Decoded.ok_val]
  split
  · cases g; rfl
  · exact absurd rfl ‹_›

/-- **Round trip.** A gateway `UnmarshalJSON` returns without error is encoded and decoded
again as itself, except for its creation time, which comes back zero. -/
theorem unmarshalJSON_marshal_of_unmarshalJSON {g₀ g : InternetGateway} {v : Json}
    (h : unmarshalJSON g₀ v = (g, none)) (g₁ : InternetGateway) :
    unmarshalJSON g₁ (marshal g) = ({ g with createTime := .zero }, none) :=
  unmarshalJSON_marshal (unmarshalJSON_isText h) g₁

theorem unmarshalJSON_marshal_of_unmarshalJSON_on_gateway :
    unmarshalJSON zero (marshal { zero with id := GoString.ofString "igw-1" }) =
      ({ zero with id := GoString.ofString "igw-1" }, none) :=
  @unmarshalJSON_marshal_of_unmarshalJSON zero _ (.obj [("id", .str "igw-1")]) rfl zero

/-- A gateway decoded with a creation time comes back from its encoding with none. -/
theorem marshal_drops_createTime :
    unmarshalJSON zero (.obj [("create_time", .str "2024-02-13 10:45:57")]) =
      ({ zero with createTime := ⟨63843417957, 0, .utc⟩ }, none) ∧
    unmarshalJSON zero (marshal { zero with createTime := ⟨63843417957, 0, .utc⟩ }) =
      (zero, none) :=
  ⟨rfl, rfl⟩

/-- Decoding a JSON value into an `InternetGateway`, through its `UnmarshalJSON`. -/
def decode : InternetGateway → Json → Decoded InternetGateway := decodeWith unmarshalJSON

end InternetGateway

/-- `GetResult.Extract` and `CreateResult.Extract` of internet gateways. -/
def InternetGatewayResult.extract (r : Result) : Option InternetGateway × Option GoError :=
  match r.err with
  | some e => (none, some e)
  | none =>
    let s := (envelope "internetgateway" (decodePtr InternetGateway.decode .zero)).decode
      (envelopeType "InternetGateway" "*internetgateways.InternetGateway" "internetgateway")
      none r.body
    (s.val, s.error)

/-- `ExtractInternetGateways`. -/
def extractInternetGateways : Result → List InternetGateway × Option GoError :=
  extractList "internetgateways" "InternetGateways" "[]internetgateways.InternetGateway"
    InternetGateway.decode .zero

/-- `InternetGatewayPage.IsEmpty`. -/
def InternetGatewayPage.isEmpty (r : Result) : Bool × Option GoError :=
  ((extractInternetGateways r).1.isEmpty, (extractInternetGateways r).2)

/-- **A page of gateways stops at the first that fails.** On a page whose `internetgateways`
member is an array, if the gateways before `x` decode and the `UnmarshalJSON` of `x` fails,
`ExtractInternetGateways` returns the gateways before it, then `x` as that method left it, and
none of those after it, with the error of `x`; the page is then not empty, and has that
error. -/
theorem extractInternetGateways_stops_at_error (r : Result) (kvs : List (String × Json))
    (k : String) (xs : List Json) (x : Json) (ys : List Json) (e : GoError) (herr : r.err = none)
    (hbody : r.body = .obj kvs)
    (hkey : kvs.filter (fun kv => foldName kv.1 = foldName "internetgateways") =
      [(k, .arr (xs ++ x :: ys))])
    (hok : ∀ y ∈ xs, (InternetGateway.unmarshalJSON .zero y).2 = none)
    (hx : (InternetGateway.unmarshalJSON .zero x).2 = some e) :
    extractInternetGateways r =
      (xs.map (fun y => (InternetGateway.unmarshalJSON .zero y).1) ++
          [(InternetGateway.unmarshalJSON .zero x).1],
        some (e.fromUnmarshaler.inField "" "internetgateways")) ∧
    InternetGatewayPage.isEmpty r = (false, some (e.fromUnmarshaler.inField "" "internetgateways")) := by
  rw [InternetGatewayPage.isEmpty, extractInternetGateways, extractList_of_member herr hbody hkey,
    InternetGateway.decode, decodeElems_nil_decodeWith_of_error hx ys xs hok]
  exact ⟨rfl, by simp⟩

theorem extractInternetGateways_stops_at_error_on_date_only :
    extractInternetGateways
        ⟨.obj [("internetgateways", .arr [.obj [("id", .str "igw-1")],
          .obj [("create_time", .str "2024-02-13")], .obj [("id", .str "igw-3")]])], none,
          by simp [Json.sorted, Json.sortedMembers, Json.sortedAll], by decide⟩ =
      ([(InternetGateway.unmarshalJSON .zero (.obj [("id", .str "igw-1")])).1] ++
          [(InternetGateway.unmarshalJSON .zero (.obj [("create_time", .str "2024-02-13")])).1],
        some ((GoError.timeParse "2006-01-02 15:04:05" (.ofString "2024-02-13") "15" .empty
          "").fromUnmarshaler.inField "" "internetgateways")) ∧
    InternetGatewayPage.isEmpty
        ⟨.obj [("internetgateways", .arr [.obj [("id", .str "igw-1")],
          .obj [("create_time", .str "2024-02-13")], .obj [("id", .str "igw-3")]])], none,
          by simp [Json.sorted, Json.sortedMembers, Json.sortedAll], by decide⟩ =
      (false, some ((GoError.timeParse "2006-01-02 15:04:05" (.ofString "2024-02-13") "15" .empty
          "").fromUnmarshaler.inField "" "internetgateways")) :=
  extractInternetGateways_stops_at_error _ [("internetgateways", .arr [.obj [("id", .str "igw-1")],
      .obj [("create_time", .str "2024-02-13")], .obj [("id", .str "igw-3")]])] "internetgateways"
    [.obj [("id", .str "igw-1")]] (.obj [("create_time", .str "2024-02-13")])
    [.obj [("id", .str "igw-3")]] _ rfl rfl (by simp) (by decide) rfl

end NhnCloudLayer3
