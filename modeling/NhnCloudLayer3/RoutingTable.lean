/-
The records of the routing-table API, `Route` and `RoutingTable`, and how `encoding/json`
decodes them (the strict path of `RoutingTableResult.Extract`).

Each record is a `GoStruct`: its fields with their JSON names and Go types. A `RoutingTable`
holds its creation time as an `NHNCloudTime`, whose `UnmarshalJSON` receives the raw text of
the member, and its VPCs and subnets as slices of references, whose `UnmarshalJSON` receives
each element; an error from either stops the decoding, where a mismatched plain field only
saves its error and decoding goes on.

* `getNames_aligned` — the names a routing table lists for its VPCs and subnets line up with
  their IDs only when every reference has a name.
-/
import NhnCloudLayer3.Flexible
import NhnCloudLayer3.NhnCloudTime

namespace NhnCloudLayer3

/-- `NHNCloudTime.UnmarshalJSON` on the raw text of a member. -/
def NHNCloudTime.unmarshalValue (ct : NHNCloudTime) (v : Json) : NHNCloudTime × Option GoError :=
  NHNCloudTime.unmarshalJSON ct (GoString.ofString v.rawText)

/-- `Route`: a route of a routing table. -/
structure Route where
  id : GoString
  cidr : GoString
  mask : Int
  gateway : GoString
  gatewayId : GoString
  description : Option GoString
  routingTableId : GoString
  tenantId : GoString
  hidden : Bool
  deriving DecidableEq, Repr

namespace Route

/-- The zero value. -/
def zero : Route := ⟨.empty, .empty, 0, .empty, .empty, none, .empty, .empty, false⟩

/-- The fields of `Route`. -/
inductive Field
  | id | cidr | mask | gateway | gatewayId | description | routingTableId | tenantId | hidden
  deriving DecidableEq

/-- The Go type of each field. -/
def Field.Ty : Field → Type
  | .mask => Int
  | .description => Option GoString
  | .hidden => Bool
  | _ => GoString

/-- `Route` as `encoding/json` sees it. -/
def goStruct : GoStruct Route where
  Field := Field
  structName := "Route"
  fields := [.id, .cidr, .mask, .gateway, .gatewayId, .description, .routingTableId, .tenantId,
    .hidden]
  name
    | .id => "id" | .cidr => "cidr" | .mask => "mask" | .gateway => "gateway"
    | .gatewayId => "gateway_id" | .description => "description"
    | .routingTableId => "routingtable_id" | .tenantId => "tenant_id" | .hidden => "hidden"
  Ty := Field.Ty
  get a
    | .id => a.id | .cidr => a.cidr | .mask => a.mask | .gateway => a.gateway
    | .gatewayId => a.gatewayId | .description => a.description
    | .routingTableId => a.routingTableId | .tenantId => a.tenantId | .hidden => a.hidden
  set a
    | .id => fun x => { a with id := x }
    | .cidr => fun x => { a with cidr := x }
    | .mask => fun x => { a with mask := x }
    | .gateway => fun x => { a with gateway := x }
    | .gatewayId => fun x => { a with gatewayId := x }
    | .description => fun x => { a with description := x }
    | .routingTableId => fun x => { a with routingTableId := x }
    | .tenantId => fun x => { a with tenantId := x }
    | .hidden => fun x => { a with hidden := x }
  decodeField
    | .mask => decodeInt
    | .description => decodeStringPtr
    | .hidden => decodeBool
    | .id => decodeString | .cidr => decodeString | .gateway => decodeString
    | .gatewayId => decodeString | .routingTableId => decodeString | .tenantId => decodeString
  get_set a f x := by cases f <;> rfl
  get_set_of_ne a f g x h := by cases f <;> cases g <;> first | rfl | exact absurd rfl h

/-- Decoding a JSON value into a `Route`. -/
def decode : Route → Json → Decoded Route := goStruct.decode "routingtables.Route"

theorem goStruct_fieldOf_name (f : Field) : goStruct.fieldOf (goStruct.name f) = some f := by
  cases f <;> rfl

/-- A route is determined by its fields. -/
theorem ext_get {a b : Route} (h : ∀ f, goStruct.get a f = goStruct.get b f) : a = b := by
  obtain ⟨⟩ := a; obtain ⟨⟩ := b
  simp only [Route.mk.injEq]
  exact ⟨h .id, h .cidr, h .mask, h .gateway, h .gatewayId, h .description, h .routingTableId,
    h .tenantId, h .hidden⟩

end Route

/-- `RoutingTable`: a routing table. -/
structure RoutingTable where
  id : GoString
  name : GoString
  defaultTable : Bool
  distributed : Bool
  gatewayId : GoString
  gatewayName : GoString
  tenantId : GoString
  state : GoString
  createTime : NHNCloudTime
  vpcs : List FlexibleVPCInfo
  subnets : List FlexibleSubnetInfo
  routes : List Route
  deriving DecidableEq, Repr

namespace RoutingTable

/-- The zero value. -/
def zero : RoutingTable :=
  ⟨.empty, .empty, false, false, .empty, .empty, .empty, .empty, .zero, [], [], []⟩

/-- The fields of `RoutingTable`. -/
inductive Field
  | id | name | defaultTable | distributed | gatewayId | gatewayName | tenantId | state
  | createTime | vpcs | subnets | routes
  deriving DecidableEq

/-- The Go type of each field. -/
def Field.Ty : Field → Type
  | .defaultTable => Bool
  | .distributed => Bool
  | .createTime => NHNCloudTime
  | .vpcs => List FlexibleVPCInfo
  | .subnets => List FlexibleSubnetInfo
  | .routes => List Route
  | _ => GoString

/-- `RoutingTable` as `encoding/json` sees it. -/
def goStruct : GoStruct RoutingTable where
  Field := Field
  structName := "RoutingTable"
  fields := [.id, .name, .defaultTable, .distributed, .gatewayId, .gatewayName, .tenantId, .state,
    .createTime, .vpcs, .subnets, .routes]
  name
    | .id => "id" | .name => "name" | .defaultTable => "default_table"
    | .distributed => "distributed" | .gatewayId => "gateway_id"
    | .gatewayName => "gateway_name" | .tenantId => "tenant_id" | .state => "state"
    | .createTime => "create_time" | .vpcs => "vpcs" | .subnets => "subnets"
    | .routes => "routes"
  Ty := Field.Ty
  get a
    | .id => a.id | .name => a.name | .defaultTable => a.defaultTable
    | .distributed => a.distributed | .gatewayId => a.gatewayId
    | .gatewayName => a.gatewayName | .tenantId => a.tenantId | .state => a.state
    | .createTime => a.createTime | .vpcs => a.vpcs | .subnets => a.subnets
    | .routes => a.routes
  set a
    | .id => fun x => { a with id := x }
    | .name => fun x => { a with name := x }
    | .defaultTable => fun x => { a with defaultTable := x }
    | .distributed => fun x => { a with distributed := x }
    | .gatewayId => fun x => { a with gatewayId := x }
    | .gatewayName => fun x => { a with gatewayName := x }
    | .tenantId => fun x => { a with tenantId := x }
    | .state => fun x => { a with state := x }
    | .createTime => fun x => { a with createTime := x }
    | .vpcs => fun x => { a with vpcs := x }
    | .subnets => fun x => { a with subnets := x }
    | .routes => fun x => { a with routes := x }
  decodeField
    | .defaultTable => decodeBool
    | .distributed => decodeBool
    | .createTime => decodeWith NHNCloudTime.unmarshalValue
    | .vpcs => decodeSlice (decodeWith FlexibleVPCInfo.unmarshalJSON) FlexibleInfo.zero
        "[]routingtables.FlexibleVPCInfo"
    | .subnets => decodeSlice (decodeWith FlexibleSubnetInfo.unmarshalJSON) FlexibleInfo.zero
        "[]routingtables.FlexibleSubnetInfo"
    | .routes => decodeSlice Route.decode Route.zero "[]routingtables.Route"
    | .id => decodeString | .name => decodeString | .gatewayId => decodeString
    | .gatewayName => decodeString | .tenantId => decodeString | .state => decodeString
  get_set a f x := by cases f <;> rfl
  get_set_of_ne a f g x h := by cases f <;> cases g <;> first | rfl | exact absurd rfl h

/-- Decoding a JSON value into a `RoutingTable`. -/
def decode : RoutingTable → Json → Decoded RoutingTable :=
  goStruct.decode "routingtables.RoutingTable"

theorem goStruct_fieldOf_name (f : Field) : goStruct.fieldOf (goStruct.name f) = some f := by
  cases f <;> rfl

/-- A routing table is determined by its fields. -/
theorem ext_get {a b : RoutingTable} (h : ∀ f, goStruct.get a f = goStruct.get b f) : a = b := by
  obtain ⟨⟩ := a; obtain ⟨⟩ := b
  simp only [RoutingTable.mk.injEq]
  exact ⟨h .id, h .name, h .defaultTable, h .distributed, h .gatewayId, h .gatewayName,
    h .tenantId, h .state, h .createTime, h .vpcs, h .subnets, h .routes⟩

/-- The loop of `GetVPCIDs` and `GetSubnetIDs`: the ID of each reference, in order. -/
def referenceIDs (refs : List FlexibleInfo) : List GoString := refs.map (·.id)

/-- The loop of `GetVPCNames` and `GetSubnetNames`: the names that are not empty, in order. -/
def referenceNames (refs : List FlexibleInfo) : List GoString :=
  (refs.map (·.name)).filter (· ≠ .empty)

/-- `GetVPCIDs`. -/
def getVPCIDs (rt : RoutingTable) : List GoString := referenceIDs rt.vpcs

/-- `GetSubnetIDs`. -/
def getSubnetIDs (rt : RoutingTable) : List GoString := referenceIDs rt.subnets

/-- `GetVPCNames`. -/
def getVPCNames (rt : RoutingTable) : List GoString := referenceNames rt.vpcs

/-- `GetSubnetNames`. -/
def getSubnetNames (rt : RoutingTable) : List GoString := referenceNames rt.subnets

/-- The names line up with the IDs exactly when every reference has a name: only then are there
as many, and the `i`-th name is then that of the `i`-th ID. -/
theorem referenceNames_aligned (refs : List FlexibleInfo) :
    ((referenceNames refs).length = (referenceIDs refs).length ↔
      ∀ r ∈ refs, r.name ≠ .empty) ∧
    ((∀ r ∈ refs, r.name ≠ .empty) →
      (referenceIDs refs).zip (referenceNames refs) = refs.map fun r => (r.id, r.name)) := by
  have hlen : (referenceIDs refs).length = (refs.map (·.name)).length := by
    simp only [referenceIDs, List.length_map]
  refine ⟨?_, fun h => ?_⟩
  · rw [hlen, referenceNames, List.filter_length_eq_length]
    simp
  · have hall : referenceNames refs = refs.map (·.name) :=
      List.filter_eq_self.mpr (by simpa using h)
    rw [hall, referenceIDs, List.zip_map']

/-- **IDs and names of a routing table.** `GetVPCNames` has as many entries as `GetVPCIDs`
exactly when every VPC reference has a name, and they then pair up as the references do; the
same holds of `GetSubnetNames` and `GetSubnetIDs`. -/
theorem getNames_aligned (rt : RoutingTable) :
    (rt.getVPCNames.length = rt.getVPCIDs.length ↔ ∀ v ∈ rt.vpcs, v.name ≠ .empty) ∧
    ((∀ v ∈ rt.vpcs, v.name ≠ .empty) →
      rt.getVPCIDs.zip rt.getVPCNames = rt.vpcs.map fun v => (v.id, v.name)) ∧
    (rt.getSubnetNames.length = rt.getSubnetIDs.length ↔ ∀ s ∈ rt.subnets, s.name ≠ .empty) ∧
    ((∀ s ∈ rt.subnets, s.name ≠ .empty) →
      rt.getSubnetIDs.zip rt.getSubnetNames = rt.subnets.map fun s => (s.id, s.name)) :=
  ⟨(referenceNames_aligned rt.vpcs).1, (referenceNames_aligned rt.vpcs).2,
    (referenceNames_aligned rt.subnets).1, (referenceNames_aligned rt.subnets).2⟩

end RoutingTable

end NhnCloudLayer3
