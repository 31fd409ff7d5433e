/-
The permissive path of `RoutingTableResult.Extract`: `parseRoutingTableFromMap` and its helpers,
which read a routing table out of a `map[string]interface{}` by type assertions and never
fail.

A map holds, under each key, the value of the last member with exactly that name
(`Json.lookup`). A member of the wrong type is skipped and its field keeps its zero value;
array elements of the wrong type are dropped. Numbers are `float64`s here, and a route's mask
is their conversion to `int`. The creation time is read by wrapping the string in double
quotes, unescaped, and decoding that text as an `NHNCloudTime`.
-/
import NhnCloudLayer3.RoutingTable

namespace NhnCloudLayer3

/-- `data[key].(string)`. -/
def stringAt (kvs : List (String × Json)) (key : String) : Option GoString :=
  match Json.lookup kvs key with
  | some (.str s) => some (GoString.ofString s)
  | _ => none

/-- `data[key].(bool)`. -/
def boolAt (kvs : List (String × Json)) (key : String) : Option Bool :=
  match Json.lookup kvs key with
  | some (.bool b) => some b
  | _ => none

/-- `data[key].(float64)`. -/
def float64At (kvs : List (String × Json)) (key : String) : Option ℚ :=
  match Json.lookup kvs key with
  | some (.num n) => n.float64
  | _ => none

/-- A hexadecimal digit byte. -/
def isHexByte (b : UInt8) : Bool :=
  isDigit b || (byte 'a' ≤ b && b ≤ byte 'f') || (byte 'A' ≤ b && b ≤ byte 'F')

/-- The bytes between the quotes of a valid JSON string literal, as the scanner of
`json.Unmarshal` checks them: no control byte, no unescaped `"`, and a valid escape after
each `\`. -/
def validStringBody : List UInt8 → Bool
  | [] => true
  | b :: rest =>
    if b = byte '\\' then
      match rest with
      | e :: rest =>
        if e = byte 'u' then
          match rest with
          | h₁ :: h₂ :: h₃ :: h₄ :: rest' =>
            isHexByte h₁ && isHexByte h₂ && isHexByte h₃ && isHexByte h₄ && validStringBody rest'
          | _ => false
        else
          (e = byte '"' || e = byte '\\' || e = byte '/' || e = byte 'b' || e = byte 'f' ||
            e = byte 'n' || e = byte 'r' || e = byte 't') && validStringBody rest
      | [] => false
    else b ≠ byte '"' && 0x20 ≤ b.toNat && validStringBody rest

/-- The creation time the permissive path reads from the string `s`: `json.Unmarshal` of
`"` + `s` + `"` into a zero `NHNCloudTime`, kept only without error. -/
def createTimeOf (s : GoString) : NHNCloudTime :=
  if validStringBody s.bytes then
    match NHNCloudTime.unmarshalJSON .zero ⟨byte '"' :: s.bytes ++ [byte '"']⟩ with
    | (ct, none) => ct
    | (_, some _) => .zero
  else .zero

/-- A reference from one element of `vpcs` or `subnets`: a string is an ID, an object gives its
string `id` and `name`, and anything else is dropped. -/
def flexibleOf : Json → Option FlexibleInfo
  | .str s => some ⟨GoString.ofString s, .empty⟩
  | .obj kvs => some ⟨(stringAt kvs "id").getD .empty, (stringAt kvs "name").getD .empty⟩
  | _ => none

/-- `parseFlexibleVPCs` and `parseFlexibleSubnets`: the references of an array, none for any
other value. (Their `[]string` case never occurs: `encoding/json` gives `[]interface{}`.) -/
def parseFlexible : Json → List FlexibleInfo
  | .arr xs => xs.filterMap flexibleOf
  | _ => []

/-- `parseFlexibleVPCs`. -/
def parseFlexibleVPCs : Json → List FlexibleVPCInfo := parseFlexible

/-- `parseFlexibleSubnets`. -/
def parseFlexibleSubnets : Json → List FlexibleSubnetInfo := parseFlexible

/-- A route from one element of `routes`: an object gives the members of the right type, and
anything else is dropped. -/
def routeOf : Json → Option Route
  | .obj kvs => some
    { id := (stringAt kvs "id").getD .empty
      cidr := (stringAt kvs "cidr").getD .empty
      mask := ((float64At kvs "mask").map floatToInt).getD 0
      gateway := (stringAt kvs "gateway").getD .empty
      gatewayId := (stringAt kvs "gateway_id").getD .empty
      description := stringAt kvs "description"
      routingTableId := (stringAt kvs "routingtable_id").getD .empty
      tenantId := (stringAt kvs "tenant_id").getD .empty
      hidden := (boolAt kvs "hidden").getD false }
  | _ => none

/-- `parseRoutes`. -/
def parseRoutes (routes : List Json) : List Route := routes.filterMap routeOf

/-- `parseRoutingTableFromMap`, on the members of the map. It returns no error. -/
def parseRoutingTableFromMap (data : List (String × Json)) : RoutingTable where
  id := (stringAt data "id").getD .empty
  name := (stringAt data "name").getD .empty
  defaultTable := (boolAt data "default_table").getD false
  distributed := (boolAt data "distributed").getD false
  gatewayId := (stringAt data "gateway_id").getD .empty
  gatewayName := (stringAt data "gateway_name").getD .empty
  tenantId := (stringAt data "tenant_id").getD .empty
  state := (stringAt data "state").getD .empty
  createTime := ((stringAt data "create_time").map createTimeOf).getD .zero
  vpcs := ((Json.lookup data "vpcs").map parseFlexibleVPCs).getD []
  subnets := ((Json.lookup data "subnets").map parseFlexibleSubnets).getD []
  routes :=
    match Json.lookup data "routes" with
    | some (.arr xs) => parseRoutes xs
    | _ => []

theorem parseRoutingTableFromMap_vpcs (data : List (String × Json)) :
    (parseRoutingTableFromMap data).vpcs = (Json.lookup data "vpcs").elim [] parseFlexibleVPCs := by
  show ((Json.lookup data "vpcs").map parseFlexibleVPCs).getD [] = _
  cases Json.lookup data "vpcs" <;> rfl

theorem parseRoutingTableFromMap_subnets (data : List (String × Json)) :
    (parseRoutingTableFromMap data).subnets =
      (Json.lookup data "subnets").elim [] parseFlexibleSubnets := by
  show ((Json.lookup data "subnets").map parseFlexibleSubnets).getD [] = _
  cases Json.lookup data "subnets" <;> rfl

theorem parseRoutingTableFromMap_routes (data : List (String × Json)) :
    (parseRoutingTableFromMap data).routes =
      (Json.lookup data "routes").elim [] fun v =>
        match v with
        | .arr xs => parseRoutes xs
        | _ => [] := by
  show (match Json.lookup data "routes" with
    | some (.arr xs) => parseRoutes xs
    | _ => []) = _
  cases Json.lookup data "routes" with
  | none => rfl
  | some v => cases v <;> rfl

end NhnCloudLayer3
