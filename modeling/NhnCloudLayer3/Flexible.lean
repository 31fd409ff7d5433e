/-
`FlexibleVPCInfo` and `FlexibleSubnetInfo`: a reference to a VPC or a subnet, which the API
gives either as a bare ID string or as an object with `id` and `name`.

The two types are the same code over different alias types, which appear only in error
messages; each is `flexibleUnmarshalJSON` and `flexibleMarshalJSON` at its own alias.
`UnmarshalJSON` reads a string as an ID (and `null` as the empty ID) and anything else as the
alias struct, in place; `MarshalJSON` writes the bare ID when there is no name and an ID, and
the object with its non-empty members otherwise.

* `flexibleUnmarshalJSON_marshalJSON` — a reference whose ID and name are UTF-8 text reads back
  as itself, in either form (`flexibleInfo_roundtrip` for both types).

A Go string that is not UTF-8 does not: the encoder writes each such byte as U+FFFD.
-/
import NhnCloudLayer3.Decode

namespace NhnCloudLayer3

/-- The fields of `FlexibleVPCInfo` and `FlexibleSubnetInfo`. -/
structure FlexibleInfo where
  id : GoString
  name : GoString
  deriving DecidableEq, Repr

/-- `FlexibleVPCInfo`. -/
abbrev FlexibleVPCInfo := FlexibleInfo

/-- `FlexibleSubnetInfo`. -/
abbrev FlexibleSubnetInfo := FlexibleInfo

namespace FlexibleInfo

/-- The zero value. -/
def zero : FlexibleInfo := ⟨.empty, .empty⟩

/-- The struct fields `ID` and `Name`. -/
inductive Field
  | id
  | name
  deriving DecidableEq

/-- The alias type `aliasName` (`vpcAlias`, `subnetAlias`), as `encoding/json` decodes it. -/
def aliasStruct (aliasName : String) : GoStruct FlexibleInfo where
  Field := Field
  structName := aliasName
  fields := [.id, .name]
  name | .id => "id" | .name => "name"
  Ty _ := GoString
  get a | .id => a.id | .name => a.name
  set a
    | .id => fun x => { a with id := x }
    | .name => fun x => { a with name := x }
  decodeField _ := decodeString
  get_set a f x := by cases f <;> rfl
  get_set_of_ne a f g x h := by cases f <;> cases g <;> first | rfl | exact absurd rfl h

section
variable (aliasName : String) (a : FlexibleInfo) (f : Field) (x : GoString)

@[simp] theorem aliasStruct_fieldOf_id : (aliasStruct aliasName).fieldOf "id" = some .id := rfl
@[simp] theorem aliasStruct_fieldOf_name : (aliasStruct aliasName).fieldOf "name" = some .name :=
  rfl
@[simp] theorem aliasStruct_get_id : (aliasStruct aliasName).get a .id = a.id := rfl
@[simp] theorem aliasStruct_get_name : (aliasStruct aliasName).get a .name = a.name := rfl
@[simp] theorem aliasStruct_set_id : (aliasStruct aliasName).set a .id x = { a with id := x } :=
  rfl
@[simp] theorem aliasStruct_set_name :
    (aliasStruct aliasName).set a .name x = { a with name := x } := rfl
@[simp] theorem aliasStruct_decodeField (v : Json) :
    (aliasStruct aliasName).decodeField f x v = decodeString x v := rfl

theorem aliasStruct_fieldOf_self :
    (aliasStruct aliasName).fieldOf ((aliasStruct aliasName).name f) = some f := by
  cases f <;> rfl

end

end FlexibleInfo

/-- `UnmarshalJSON` of the reference type whose alias is `aliasName`: a string (or `null`,
which `json.Unmarshal` leaves as the empty string) is the ID with no name; anything else is
decoded into the receiver as the alias struct. -/
def flexibleUnmarshalJSON (aliasName : String) (fi : FlexibleInfo) :
    Json → FlexibleInfo × Option GoError
  | .str s => (⟨GoString.ofString s, .empty⟩, none)
  | .null => (⟨.empty, .empty⟩, none)
  | v =>
    let d := (FlexibleInfo.aliasStruct aliasName).decode ("routingtables." ++ aliasName) fi v
    (d.val, d.error)

/-- `MarshalJSON`: the bare ID when there is no name and an ID, else the alias struct with
its `omitempty` members. -/
def flexibleMarshalJSON (fi : FlexibleInfo) : Json :=
  if fi.name = .empty ∧ fi.id ≠ .empty then .str fi.id.toJson
  else .obj ((if fi.id = .empty then [] else [("id", .str fi.id.toJson)]) ++
    (if fi.name = .empty then [] else [("name", .str fi.name.toJson)]))

/-- `FlexibleVPCInfo.UnmarshalJSON`. -/
def FlexibleVPCInfo.unmarshalJSON : FlexibleInfo → Json → FlexibleInfo × Option GoError :=
  flexibleUnmarshalJSON "vpcAlias"

/-- `FlexibleSubnetInfo.UnmarshalJSON`. -/
def FlexibleSubnetInfo.unmarshalJSON : FlexibleInfo → Json → FlexibleInfo × Option GoError :=
  flexibleUnmarshalJSON "subnetAlias"

/-- `FlexibleVPCInfo.MarshalJSON`. -/
def FlexibleVPCInfo.marshalJSON : FlexibleInfo → Json := flexibleMarshalJSON

/-- `FlexibleSubnetInfo.MarshalJSON`. -/
def FlexibleSubnetInfo.marshalJSON : FlexibleInfo → Json := flexibleMarshalJSON

/-- **Round trip.** A reference whose ID and name are UTF-8 text is written, and read back
into a zero value, as itself: as the bare ID when it has no name, as an object otherwise. -/
theorem flexibleUnmarshalJSON_marshalJSON (aliasName s t : String) :
    flexibleUnmarshalJSON aliasName FlexibleInfo.zero
        (flexibleMarshalJSON ⟨GoString.ofString s, GoString.ofString t⟩) =
      (⟨GoString.ofString s, GoString.ofString t⟩, none) := by
  by_cases ht : t = "" <;> by_cases hs : s = ""
  all_goals
    simp [flexibleMarshalJSON, flexibleUnmarshalJSON, ht, hs, GoString.toJson_ofString,
      GoStruct.decode, GoStruct.decodeMembers, decodeString, Decoded.andThen, Decoded.map,
      Decoded.mapError, Decoded.ok, Decoded.error, FlexibleInfo.zero]

/-- Both reference types read back every reference whose ID and name are UTF-8 text. -/
theorem flexibleInfo_roundtrip (s t : String) :
    FlexibleVPCInfo.unmarshalJSON FlexibleInfo.zero
        (FlexibleVPCInfo.marshalJSON ⟨GoString.ofString s, GoString.ofString t⟩) =
      (⟨GoString.ofString s, GoString.ofString t⟩, none) ∧
    FlexibleSubnetInfo.unmarshalJSON FlexibleInfo.zero
        (FlexibleSubnetInfo.marshalJSON ⟨GoString.ofString s, GoString.ofString t⟩) =
      (⟨GoString.ofString s, GoString.ofString t⟩, none) :=
  ⟨flexibleUnmarshalJSON_marshalJSON _ s t, flexibleUnmarshalJSON_marshalJSON _ s t⟩

/-- An ID holding the byte `0xFF`, which is not UTF-8, is written as U+FFFD and read back as
that rune's three bytes. -/
theorem flexibleVPCInfo_invalid_utf8_changes :
    FlexibleVPCInfo.unmarshalJSON FlexibleInfo.zero (FlexibleVPCInfo.marshalJSON ⟨⟨[0xFF]⟩, .empty⟩) =
      (⟨⟨[0xEF, 0xBF, 0xBD]⟩, .empty⟩, none) ∧
    (⟨⟨[0xEF, 0xBF, 0xBD]⟩, .empty⟩ : FlexibleInfo) ≠ ⟨⟨[0xFF]⟩, .empty⟩ := by
  decide

end NhnCloudLayer3
