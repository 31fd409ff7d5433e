/-
`encoding/json` decoding, as far as the package's types need it.

Go decodes into a target in place (`decodeState`): a type mismatch is saved and decoding goes
on (`saveError`), an error from a `json.Unmarshaler` stops it where it stands, and
`json.Unmarshal` returns the stopping error, else the first saved one. `Decoded` is that state
after one value: the target as far as decoding got, and the two errors.

Each Go struct the package decodes is described by a `GoStruct`: its fields with their JSON
names, read and written through `get` and `set`, and how a value decodes into each (what
`reflect` hands the decoder). `GoStruct.decode` is `decodeState.object` on a struct:

* `GoStruct.decodeMembers_get` — when no two members go to the same field and decoding
  succeeds, each field holds what its own member decodes to, or its old value;
* `GoStruct.decodeMembers_error_eq_none` — and decoding succeeds exactly when each member
  decodes without error into the field it goes to;
* `GoStruct.get_decode_obj` — where the keys are distinct and none names a field other than by
  its exact name (`GoStruct.exactKeys`), each field holds what the member of its own name
  decodes to, the member a map holds under that name, or its old value.
-/
import NhnCloudLayer3.Json

namespace NhnCloudLayer3

/-- The errors the modelled code returns, each with the text it prints. -/
inductive GoError where
  /-- `*json.UnmarshalTypeError`: "json: cannot unmarshal `value` into Go struct field
  `structName.field` of type `goType`", or "into Go value of type `goType`" outside a struct;
  `structName` is none until the error has passed a struct of its decoding. -/
  | unmarshalType (value goType : String) (structName : Option String) (field : String)
  /-- The `*json.SyntaxError` of an empty input: "unexpected end of JSON input". -/
  | unexpectedEnd
  /-- A `*json.SyntaxError` of a text that is not JSON. -/
  | invalidJSON
  /-- `*time.ParseError`: "parsing time `value` as `layout`: cannot parse `valueElem`
  as `layoutElem`", or the range message instead. -/
  | timeParse (layout : String) (value : GoString) (layoutElem : String) (valueElem : GoString)
      (message : String)
  /-- A nil `error`, printed by `%v` as `<nil>`. -/
  | nilError
  /-- `NHNCloudTime.UnmarshalJSON`: "unable to parse time %q with any known format: %v". -/
  | unparsableTime (s : GoString) (last : GoError)
  /-- `fmt.Errorf("failed to extract response: %w", err)`. -/
  | failedToExtractResponse (err : GoError)
  /-- `fmt.Errorf("failed to unmarshal routing table: %w", err)`. -/
  | failedToUnmarshalRoutingTable (err : GoError)
  /-- `fmt.Errorf("failed to unmarshal route: %w", err)`. -/
  | failedToUnmarshalRoute (err : GoError)
  /-- The error of the request itself, left in `Result.Err` by the transport. -/
  | request (message : String)
  deriving DecidableEq, Repr

/-- The `UnmarshalTypeError` for a value that cannot go into a target of type `goType`. -/
def typeError (v : Json) (goType : String) : GoError := .unmarshalType v.kind goType none ""

namespace GoError

/-- `addErrorContext` for a type error passing up through field `fieldName` of struct
`structName`: the field's name goes in front of its path, and the struct is named if no
struct nearer the error was. -/
def inField (structName fieldName : String) : GoError → GoError
  | .unmarshalType v t s f =>
    .unmarshalType v t (s.getD structName) (if f = "" then fieldName else fieldName ++ "." ++ f)
  | e => e

/-- A type error returned by a `json.Unmarshaler`: the decoder that called it names the struct
anew and keeps the path. -/
def fromUnmarshaler : GoError → GoError
  | .unmarshalType v t _ f => .unmarshalType v t none f
  | e => e

end GoError

/-- Where `decodeState` stands after decoding one value: the target as far as decoding got,
the first error saved by a type mismatch, and the error that stopped decoding. -/
structure Decoded (α : Type) where
  val : α
  saved : Option GoError
  stop : Option GoError

namespace Decoded

variable {α β : Type}

/-- Decoded without error. -/
def ok (a : α) : Decoded α := ⟨a, none, none⟩

/-- A type mismatch: saved, and decoding goes on. -/
def mismatch (a : α) (e : GoError) : Decoded α := ⟨a, some e, none⟩

/-- An error from a `json.Unmarshaler`: decoding stops. -/
def stopped (a : α) (e : GoError) : Decoded α := ⟨a, none, some e⟩

/-- The same state, seen through a change of target. -/
def map (f : α → β) (d : Decoded α) : Decoded β := ⟨f d.val, d.saved, d.stop⟩

/-- Decode on after `d`, unless `d` stopped; the first saved error stays the first. -/
def andThen (d : Decoded α) (f : α → Decoded α) : Decoded α :=
  match d.stop with
  | some _ => d
  | none => let d' := f d.val; ⟨d'.val, d.saved.or d'.saved, d'.stop⟩

/-- What `json.Unmarshal` returns: the stopping error, else the first saved one. -/
def error (d : Decoded α) : Option GoError := d.stop.or d.saved

/-- The same state with `f` applied to its errors. -/
def mapError (f : GoError → GoError) (d : Decoded α) : Decoded α :=
  ⟨d.val, d.saved.map f, d.stop.map f⟩

@[simp] theorem ok_val (a : α) : (ok a).val = a := rfl
@[simp] theorem ok_error (a : α) : (ok a).error = none := rfl
@[simp] theorem mismatch_val (a : α) (e : GoError) : (mismatch a e).val = a := rfl
@[simp] theorem mismatch_error (a : α) (e : GoError) : (mismatch a e).error = some e := rfl
@[simp] theorem stopped_val (a : α) (e : GoError) : (stopped a e).val = a := rfl
@[simp] theorem stopped_error (a : α) (e : GoError) : (stopped a e).error = some e := rfl
@[simp] theorem map_val (f : α → β) (d : Decoded α) : (d.map f).val = f d.val := rfl
@[simp] theorem map_error (f : α → β) (d : Decoded α) : (d.map f).error = d.error := rfl
@[simp] theorem mapError_val (f : GoError → GoError) (d : Decoded α) :
    (d.mapError f).val = d.val := rfl

theorem error_eq_none {d : Decoded α} : d.error = none ↔ d.saved = none ∧ d.stop = none := by
  simp [error, and_comm]

/-- A decoding without error is `ok` of its value. -/
theorem eq_ok_of_error_eq_none {d : Decoded α} (h : d.error = none) : d = ok d.val := by
  obtain ⟨hs, ht⟩ := error_eq_none.mp h
  cases d; cases hs; cases ht; rfl

@[simp] theorem mapError_error (f : GoError → GoError) (d : Decoded α) :
    (d.mapError f).error = d.error.map f := by
  cases d with
  | mk val saved stop => cases stop <;> rfl

theorem mapError_error_eq_none {f : GoError → GoError} {d : Decoded α} :
    (d.mapError f).error = none ↔ d.error = none := by
  simp

/-- A sequence decodes without error exactly when both parts do. -/
theorem andThen_error_eq_none {d : Decoded α} {f : α → Decoded α} :
    (d.andThen f).error = none ↔ d.error = none ∧ (f d.val).error = none := by
  unfold andThen
  cases hs : d.stop with
  | some e => simp [error, hs]
  | none => simp [error, hs, and_assoc, and_comm, and_left_comm]

@[simp] theorem andThen_ok (d : Decoded α) : d.andThen ok = d := by
  unfold andThen
  cases hs : d.stop with
  | some _ => rfl
  | none => cases d; simp_all [ok]

theorem andThen_val_of_error_eq_none {d : Decoded α} {f : α → Decoded α} (h : d.error = none) :
    (d.andThen f).val = (f d.val).val := by
  simp only [error_eq_none] at h
  simp [andThen, h.2]

end Decoded

/-- Decoding into a Go `string`: a string is stored, `null` leaves the target as it was. -/
def decodeString (cur : GoString) : Json → Decoded GoString
  | .str s => .ok (GoString.ofString s)
  | .null => .ok cur
  | v => .mismatch cur (typeError v "string")

/-- Decoding into a Go `bool`. -/
def decodeBool (cur : Bool) : Json → Decoded Bool
  | .bool b => .ok b
  | .null => .ok cur
  | v => .mismatch cur (typeError v "bool")

/-- Decoding into a Go `int`: the number's text must read as a 64-bit integer. -/
def decodeInt (cur : Int) : Json → Decoded Int
  | .num n =>
    match n.parseInt with
    | some k => .ok k
    | none => .mismatch cur (.unmarshalType ("number " ++ n.text) "int" none "")
  | .null => .ok cur
  | v => .mismatch cur (typeError v "int")

/-- Decoding into a Go `*string`: `null` clears the pointer; any other value first allocates
it (`indirect`), then is stored if it is a string. -/
def decodeStringPtr (cur : Option GoString) : Json → Decoded (Option GoString)
  | .null => .ok none
  | .str s => .ok (some (GoString.ofString s))
  | v => .mismatch (some (cur.getD .empty)) (typeError v "string")

theorem decodeString_isText {cur : GoString} (h : cur.IsText) (v : Json) :
    (decodeString cur v).val.IsText := by
  cases v <;> first | exact h | exact GoString.isText_ofString _

theorem decodeStringPtr_isText {cur : Option GoString} (h : ∀ s ∈ cur, s.IsText) (v : Json) :
    ∀ s ∈ (decodeStringPtr cur v).val, s.IsText := by
  cases v
  case null => intro s hs; cases hs
  case str t => intro s hs; cases hs; exact GoString.isText_ofString t
  all_goals
    intro s hs
    cases hs
    cases cur with
    | none => exact GoString.isText_empty
    | some c => exact h c rfl

/-- Decoding into a value whose pointer implements `json.Unmarshaler`: its `UnmarshalJSON`
runs on the value, `null` included, and an error from it stops decoding. -/
def decodeWith {α : Type} (unmarshalJSON : α → Json → α × Option GoError) (cur : α)
    (v : Json) : Decoded α :=
  match unmarshalJSON cur v with
  | (a, none) => .ok a
  | (a, some e) => .stopped a e.fromUnmarshaler

@[simp] theorem decodeWith_val {α : Type} (unmarshalJSON : α → Json → α × Option GoError)
    (cur : α) (v : Json) : (decodeWith unmarshalJSON cur v).val = (unmarshalJSON cur v).1 := by
  unfold decodeWith; split <;> simp_all

@[simp] theorem decodeWith_error_eq_none {α : Type} (unmarshalJSON : α → Json → α × Option GoError)
    (cur : α) (v : Json) :
    (decodeWith unmarshalJSON cur v).error = none ↔ (unmarshalJSON cur v).2 = none := by
  unfold decodeWith; split <;> simp_all

/-- Decoding into a pointer to `α`: `null` clears it; any other value is decoded into the
value it points to, allocated as the zero value if the pointer was nil. -/
def decodePtr {α : Type} (dec : α → Json → Decoded α) (zero : α) (cur : Option α) :
    Json → Decoded (Option α)
  | .null => .ok none
  | v => (dec (cur.getD zero) v).map some

theorem decodePtr_of_ne_null {α : Type} {dec : α → Json → Decoded α} {zero : α} {cur : Option α}
    {v : Json} (hv : v ≠ .null) : decodePtr dec zero cur v = (dec (cur.getD zero) v).map some := by
  cases v <;> first | exact absurd rfl hv | rfl

/-- `decodeState.array` into a slice: element `i` is decoded into the slice's element `i`, or a
zero value past its end, and the slice ends where the array does. Where an element stops
decoding, the slice keeps that element as far as it got, and its old elements after it. -/
def decodeElems {α : Type} (dec : α → Json → Decoded α) (zero : α) :
    List α → List Json → Decoded (List α)
  | _, [] => .ok []
  | cur, x :: xs =>
    let d := dec (cur.headD zero) x
    (d.map (· :: cur.tail)).andThen fun _ => (decodeElems dec zero cur.tail xs).map (d.val :: ·)

/-- Decoding into a slice: `null` clears it, an array is decoded element by element. -/
def decodeSlice {α : Type} (dec : α → Json → Decoded α) (zero : α) (goType : String)
    (cur : List α) : Json → Decoded (List α)
  | .null => .ok []
  | .arr xs => decodeElems dec zero cur xs
  | v => .mismatch cur (typeError v goType)

/-- Decoding an array into an empty slice succeeds exactly when every element decodes into a
zero value; the slice is then the list of those values. -/
theorem decodeElems_nil_error_eq_none {α : Type} (dec : α → Json → Decoded α) (zero : α)
    (xs : List Json) :
    (decodeElems dec zero [] xs).error = none ↔ ∀ x ∈ xs, (dec zero x).error = none := by
  induction xs with
  | nil => simp [decodeElems]
  | cons x xs ih =>
    simp [decodeElems, Decoded.andThen_error_eq_none, ih]

theorem decodeElems_nil_val {α : Type} (dec : α → Json → Decoded α) (zero : α)
    (xs : List Json) (h : (decodeElems dec zero [] xs).error = none) :
    (decodeElems dec zero [] xs).val = xs.map fun x => (dec zero x).val := by
  induction xs with
  | nil => rfl
  | cons x xs ih =>
    simp only [decodeElems, List.headD_nil, List.tail_nil] at h ⊢
    rw [Decoded.andThen_error_eq_none] at h
    rw [Decoded.andThen_val_of_error_eq_none h.1, Decoded.map_val, ih h.2]
    rfl

/-- An element that fails to decode, from any value, fails the array, into any slice. -/
theorem decodeElems_error_of_mem {α : Type} (dec : α → Json → Decoded α) (zero : α) {x : Json}
    (hx : ∀ c, (dec c x).error ≠ none) :
    ∀ {xs : List Json}, x ∈ xs → ∀ cur, (decodeElems dec zero cur xs).error ≠ none
  | y :: ys, hm, cur => by
    simp only [decodeElems, ne_eq, Decoded.andThen_error_eq_none, Decoded.map_error, not_and]
    rcases List.mem_cons.mp hm with rfl | hm
    · exact fun h => absurd h (hx _)
    · exact fun _ => decodeElems_error_of_mem dec zero hx hm cur.tail

/-- The slice decoded from an array into an empty slice is empty only for the empty array,
whatever errors its elements give. -/
theorem decodeElems_nil_val_eq_nil {α : Type} (dec : α → Json → Decoded α) (zero : α)
    (xs : List Json) : (decodeElems dec zero [] xs).val = [] ↔ xs = [] := by
  cases xs with
  | nil => simp [decodeElems]
  | cons x xs =>
    simp only [decodeElems, Decoded.andThen, List.headD_nil, List.tail_nil, reduceCtorEq,
      iff_false]
    split <;> simp

/-- Where no element stops the decoding, an array decodes into an empty slice as all its
elements, each decoded into a zero value, whatever type mismatches they save. -/
theorem decodeElems_nil_val_of_stop {α : Type} (dec : α → Json → Decoded α) (zero : α)
    (hstop : ∀ c x, (dec c x).stop = none) :
    ∀ xs : List Json, (decodeElems dec zero [] xs).val = xs.map fun x => (dec zero x).val
  | [] => rfl
  | x :: xs => by
    simp only [decodeElems, List.headD_nil, List.tail_nil, Decoded.andThen, Decoded.map,
      hstop zero x, decodeElems_nil_val_of_stop dec zero hstop xs, List.map_cons]

theorem decodeWith_of_eq {α : Type} {u : α → Json → α × Option GoError} {cur a : α} {v : Json}
    (h : u cur v = (a, none)) : decodeWith u cur v = .ok a := by
  simp only [decodeWith, h]

theorem decodeWith_of_error {α : Type} {u : α → Json → α × Option GoError} {cur : α} {v : Json}
    {e : GoError} (h : (u cur v).2 = some e) :
    decodeWith u cur v = .stopped (u cur v).1 e.fromUnmarshaler := by
  unfold decodeWith; split <;> simp_all

theorem decodeWith_of_ok {α : Type} {u : α → Json → α × Option GoError} {cur : α} {v : Json}
    (h : (u cur v).2 = none) : decodeWith u cur v = .ok (u cur v).1 :=
  decodeWith_of_eq (Prod.ext rfl h)

/-- Where the elements have an `UnmarshalJSON` of their own, an array decodes into an empty
slice up to the first element whose method fails: the slice ends with that element as the
method left it, the elements after it are not read, and its error stops the decoding. -/
theorem decodeElems_nil_decodeWith_of_error {α : Type} {u : α → Json → α × Option GoError}
    {zero : α} {x : Json} {e : GoError} (hx : (u zero x).2 = some e) (ys : List Json) :
    ∀ xs : List Json, (∀ y ∈ xs, (u zero y).2 = none) →
      decodeElems (decodeWith u) zero [] (xs ++ x :: ys) =
        .stopped (xs.map (fun y => (u zero y).1) ++ [(u zero x).1]) e.fromUnmarshaler
  | [], _ => by
    simp only [List.nil_append, decodeElems, List.headD_nil, List.tail_nil, decodeWith_of_error hx]
    rfl
  | y :: xs, hok => by
    have hrest := decodeElems_nil_decodeWith_of_error hx ys xs fun z hz =>
      hok z (List.mem_cons_of_mem y hz)
    simp only [List.cons_append, decodeElems, List.headD_nil, List.tail_nil, List.append_eq,
      decodeWith_of_ok (hok y (List.mem_cons_self y xs)), hrest]
    rfl

theorem decodeString_stop (cur : GoString) (v : Json) : (decodeString cur v).stop = none := by
  cases v <;> rfl

theorem decodeBool_stop (cur : Bool) (v : Json) : (decodeBool cur v).stop = none := by
  cases v <;> rfl

theorem decodeInt_stop (cur : Int) (v : Json) : (decodeInt cur v).stop = none := by
  cases v
  case num n => simp only [decodeInt]; split <;> rfl
  all_goals rfl

theorem decodeStringPtr_stop (cur : Option GoString) (v : Json) :
    (decodeStringPtr cur v).stop = none := by
  cases v <;> rfl

/-- A Go struct type as `encoding/json` sees it through reflection: its fields in declaration
order with their JSON names, the value of each, and how a JSON value decodes into each. -/
structure GoStruct (α : Type) where
  /-- The fields the decoder fills. -/
  Field : Type
  [decEq : DecidableEq Field]
  /-- The name of the struct type in errors (`reflect.Type.Name`, empty when anonymous). -/
  structName : String
  fields : List Field
  name : Field → String
  /-- The field's path in errors: its name, after the Go names of the embedded structs it is
  promoted from. -/
  path : Field → String := name
  Ty : Field → Type
  get : α → (f : Field) → Ty f
  set : α → (f : Field) → Ty f → α
  decodeField : (f : Field) → Ty f → Json → Decoded (Ty f)
  get_set : ∀ a f x, get (set a f x) f = x
  get_set_of_ne : ∀ a f g x, f ≠ g → get (set a f x) g = get a g

namespace GoStruct

variable {α : Type} (S : GoStruct α)

attribute [instance] GoStruct.decEq

/-- The field a member named `key` is decoded into, if any. -/
def fieldOf (key : String) : Option S.Field := matchField (S.fields.map fun f => (f, S.name f)) key

/-- `decodeState.object` on a struct: each member in turn is decoded into the field it goes
to, and members that go to no field are skipped. -/
def decodeMembers : α → List (String × Json) → Decoded α
  | a, [] => .ok a
  | a, (k, v) :: rest =>
    match S.fieldOf k with
    | some f =>
      (((S.decodeField f (S.get a f) v).mapError (.inField S.structName (S.path f))).map
        (S.set a f)).andThen (decodeMembers · rest)
    | none => decodeMembers a rest

/-- Decoding into a struct of Go type `goType`. -/
def decode (goType : String) (a : α) : Json → Decoded α
  | .obj kvs => S.decodeMembers a kvs
  | .null => .ok a
  | v => .mismatch a (typeError v goType)

/-- A member goes to a field whose name it matches under case folding. -/
theorem fieldOf_fold {k : String} {f : S.Field} (h : S.fieldOf k = some f) :
    foldName (S.name f) = foldName k := by
  obtain ⟨p, hp, rfl, hf⟩ := matchField_fold h
  obtain ⟨g, -, rfl⟩ := List.mem_map.mp hp
  exact hf

/-- The fields the members of `kvs` go to, in order. -/
def targets (kvs : List (String × Json)) : List S.Field := kvs.filterMap fun kv => S.fieldOf kv.1

/-- The member of `kvs` that goes to field `f`, if any. -/
def memberFor (f : S.Field) (kvs : List (String × Json)) : Option Json :=
  (kvs.find? fun kv => S.fieldOf kv.1 = some f).map Prod.snd

theorem memberFor_cons_of_ne {f g : S.Field} {k : String} {v : Json}
    {kvs : List (String × Json)} (hk : S.fieldOf k = some g) (hne : g ≠ f) :
    S.memberFor f ((k, v) :: kvs) = S.memberFor f kvs := by
  simp [memberFor, List.find?_cons, hk, hne]

theorem memberFor_cons_of_none {f : S.Field} {k : String} {v : Json}
    {kvs : List (String × Json)} (hk : S.fieldOf k = none) :
    S.memberFor f ((k, v) :: kvs) = S.memberFor f kvs := by
  simp [memberFor, List.find?_cons, hk]

theorem memberFor_eq_none_of_not_mem {f : S.Field} {kvs : List (String × Json)}
    (h : f ∉ S.targets kvs) : S.memberFor f kvs = none := by
  simp only [memberFor, Option.map_eq_none', List.find?_eq_none]
  intro kv hm hf
  exact h (List.mem_filterMap.mpr ⟨kv, hm, of_decide_eq_true hf⟩)

/-- A property of the value that decoding any member into any field keeps holds of the value
decoded from any object. -/
theorem decodeMembers_invariant (P : α → Prop)
    (hstep : ∀ a f v, P a → P (S.set a f (S.decodeField f (S.get a f) v).val)) :
    ∀ (a : α) (kvs : List (String × Json)), P a → P (S.decodeMembers a kvs).val
  | _, [], ha => ha
  | a, (k, v) :: rest, ha => by
    unfold decodeMembers
    split
    · rename_i f _
      have h₁ := hstep a f v ha
      unfold Decoded.andThen
      split
      · exact h₁
      · exact decodeMembers_invariant P hstep _ rest h₁
    · exact decodeMembers_invariant P hstep a rest ha

theorem decode_invariant (P : α → Prop)
    (hstep : ∀ a f v, P a → P (S.set a f (S.decodeField f (S.get a f) v).val))
    (goType : String) (a : α) (ha : P a) (v : Json) : P (S.decode goType a v).val := by
  cases v
  case obj kvs => exact S.decodeMembers_invariant P hstep a kvs ha
  all_goals exact ha

/-- A struct none of whose fields stops decoding never stops decoding either: only the error of
a `json.Unmarshaler` stops `json.Unmarshal`. -/
theorem decodeMembers_stop (h : ∀ f cur v, (S.decodeField f cur v).stop = none) :
    ∀ (a : α) (kvs : List (String × Json)), (S.decodeMembers a kvs).stop = none
  | _, [] => rfl
  | a, (k, v) :: rest => by
    unfold decodeMembers
    split
    · simp only [Decoded.andThen, Decoded.map, Decoded.mapError, h, Option.map_none']
      exact decodeMembers_stop h _ rest
    · exact decodeMembers_stop h a rest

theorem decode_stop (h : ∀ f cur v, (S.decodeField f cur v).stop = none) (goType : String)
    (a : α) (v : Json) : (S.decode goType a v).stop = none := by
  cases v
  case obj kvs => exact S.decodeMembers_stop h a kvs
  all_goals rfl

/-- Members that go to no field are skipped. -/
theorem decodeMembers_filter (a : α) (kvs : List (String × Json)) :
    S.decodeMembers a kvs = S.decodeMembers a (kvs.filter fun kv => (S.fieldOf kv.1).isSome) := by
  induction kvs generalizing a with
  | nil => rfl
  | cons kv kvs ih =>
    obtain ⟨k, v⟩ := kv
    cases hk : S.fieldOf k with
    | none => simp [decodeMembers, hk, ih]
    | some f => simp [decodeMembers, hk, ih]

/-- One member that goes to field `f` is that field's decoding, its errors placed in the
struct. -/
theorem decodeMembers_single (a : α) {k : String} {f : S.Field} (hk : S.fieldOf k = some f)
    (v : Json) :
    S.decodeMembers a [(k, v)] =
      ((S.decodeField f (S.get a f) v).mapError (.inField S.structName (S.path f))).map
        (S.set a f) := by
  simp only [decodeMembers, hk]
  exact Decoded.andThen_ok _

/-- A member that decodes, into any value of its field, to `x` without error sets the field
to `x`. -/
theorem decodeMembers_cons_ok (a : α) (k : String) (f : S.Field) (v : Json)
    (hk : S.fieldOf k = some f) {x : S.Ty f} (hv : ∀ cur, S.decodeField f cur v = .ok x)
    (rest : List (String × Json)) :
    S.decodeMembers a ((k, v) :: rest) = S.decodeMembers (S.set a f x) rest := by
  simp only [decodeMembers, hk, hv]
  rfl

/-- **Fields keep to themselves.** When no two members of `kvs` go to the same field and
decoding succeeds, each field holds what its own member decoded to from the field's old
value, and fields no member goes to are untouched. -/
theorem decodeMembers_get (a : α) (kvs : List (String × Json)) (hd : (S.targets kvs).Nodup)
    (hok : (S.decodeMembers a kvs).error = none) (f : S.Field) :
    S.get (S.decodeMembers a kvs).val f =
      match S.memberFor f kvs with
      | some v => (S.decodeField f (S.get a f) v).val
      | none => S.get a f := by
  induction kvs generalizing a with
  | nil => rfl
  | cons kv kvs ih =>
    obtain ⟨k, v⟩ := kv
    cases hk : S.fieldOf k with
    | none =>
      simp only [decodeMembers, hk] at hok ⊢
      simp only [targets, List.filterMap_cons, hk] at hd
      rw [ih a hd hok, memberFor_cons_of_none S hk]
    | some g =>
      simp only [decodeMembers, hk, Decoded.andThen_error_eq_none, Decoded.map_error,
        Decoded.map_val, Decoded.mapError_val, Decoded.mapError_error_eq_none] at hok ⊢
      simp only [targets, List.filterMap_cons, hk, List.nodup_cons] at hd
      rw [Decoded.andThen_val_of_error_eq_none (by simpa using hok.1), Decoded.map_val,
        Decoded.mapError_val, ih _ hd.2 hok.2]
      by_cases hgf : g = f
      · subst hgf
        rw [memberFor_eq_none_of_not_mem S hd.1, S.get_set]
        simp [memberFor, hk]
      · rw [memberFor_cons_of_ne S hk hgf, S.get_set_of_ne _ _ _ _ hgf]

/-- A member that fails to decode into its field, from any value, fails the object. -/
theorem decodeMembers_error_of_mem {k : String} {v : Json} {f : S.Field}
    (hk : S.fieldOf k = some f) (hv : ∀ cur, (S.decodeField f cur v).error ≠ none) :
    ∀ (a : α) {kvs : List (String × Json)}, (k, v) ∈ kvs → (S.decodeMembers a kvs).error ≠ none
  | a, (k', v') :: rest, hm => by
    unfold decodeMembers
    rcases List.mem_cons.mp hm with h | hm
    · cases h
      simp only [hk, ne_eq, Decoded.andThen_error_eq_none, Decoded.map_error,
        Decoded.mapError_error_eq_none, not_and]
      exact fun h => absurd h (hv _)
    · split
      · simp only [ne_eq, Decoded.andThen_error_eq_none, not_and]
        exact fun _ => decodeMembers_error_of_mem hk hv _ hm
      · exact decodeMembers_error_of_mem hk hv a hm

/-- A field no member goes to keeps its value. -/
theorem decodeMembers_get_of_unmatched {f : S.Field} :
    ∀ (a : α) (kvs : List (String × Json)), (∀ kv ∈ kvs, S.fieldOf kv.1 ≠ some f) →
      S.get (S.decodeMembers a kvs).val f = S.get a f
  | _, [], _ => rfl
  | a, (k, v) :: rest, h => by
    have ih := fun a => decodeMembers_get_of_unmatched a rest fun kv hkv => h kv (.tail _ hkv)
    unfold decodeMembers
    split
    · rename_i g hg
      have hne : g ≠ f := fun hgf => h (k, v) (.head _) (hgf ▸ hg)
      unfold Decoded.andThen
      split
      · exact S.get_set_of_ne _ _ _ _ hne
      · exact (ih _).trans (S.get_set_of_ne _ _ _ _ hne)
    · exact ih a

/-- When no two members go to the same field, decoding succeeds exactly when every member
decodes without error into the old value of the field it goes to. -/
theorem decodeMembers_error_eq_none (a : α) (kvs : List (String × Json))
    (hd : (S.targets kvs).Nodup) :
    (S.decodeMembers a kvs).error = none ↔
      ∀ k v f, (k, v) ∈ kvs → S.fieldOf k = some f →
        (S.decodeField f (S.get a f) v).error = none := by
  induction kvs generalizing a with
  | nil => simp [decodeMembers]
  | cons kv kvs ih =>
    obtain ⟨k, v⟩ := kv
    cases hk : S.fieldOf k with
    | none =>
      simp only [targets, List.filterMap_cons, hk] at hd
      simp only [decodeMembers, hk, ih a hd, List.mem_cons, Prod.mk.injEq]
      constructor
      · rintro h k' v' f (⟨rfl, rfl⟩ | hm) hf
        · simp [hk] at hf
        · exact h k' v' f hm hf
      · exact fun h k' v' f hm hf => h k' v' f (.inr hm) hf
    | some g =>
      simp only [targets, List.filterMap_cons, hk, List.nodup_cons] at hd
      simp only [decodeMembers, hk, Decoded.andThen_error_eq_none, Decoded.map_error,
        Decoded.map_val, Decoded.mapError_val, Decoded.mapError_error_eq_none, ih _ hd.2,
        List.mem_cons, Prod.mk.injEq]
      have frame : ∀ k' v' f, (k', v') ∈ kvs → S.fieldOf k' = some f →
          S.get (S.set a g (S.decodeField g (S.get a g) v).val) f = S.get a f := by
        intro k' v' f hm hf
        refine S.get_set_of_ne _ _ _ _ fun hgf => hd.1 ?_
        subst hgf
        exact List.mem_filterMap.mpr ⟨(k', v'), hm, hf⟩
      constructor
      · rintro ⟨h1, h2⟩ k' v' f (⟨rfl, rfl⟩ | hm) hf
        · rw [hk] at hf; cases hf; exact h1
        · rw [← frame k' v' f hm hf]; exact h2 k' v' f hm hf
      · intro h
        refine ⟨h k v g (.inl ⟨rfl, rfl⟩) hk, fun k' v' f hm hf => ?_⟩
        rw [frame k' v' f hm hf]; exact h k' v' f (.inr hm) hf

/-- Every member of `kvs` that goes to a field is named exactly as that field: no key differs
from a field's name only in case. -/
def exactKeys (kvs : List (String × Json)) : Bool :=
  kvs.all fun kv => (S.fieldOf kv.1).all fun f => kv.1 == S.name f

theorem exactKeys_iff {kvs : List (String × Json)} :
    S.exactKeys kvs = true ↔ ∀ kv ∈ kvs, ∀ f, S.fieldOf kv.1 = some f → kv.1 = S.name f := by
  simp only [exactKeys, List.all_eq_true]
  refine forall₂_congr fun kv _ => ?_
  cases S.fieldOf kv.1 <;> simp

section ExactKeys

/-! Where every member that goes to a field is named as it, each field takes exactly the member
of its own name: `Json.lookup`, the member a `map[string]interface{}` holds under that name. -/

variable {S} (hself : ∀ f, S.fieldOf (S.name f) = some f)
  {kvs : List (String × Json)} (hd : (kvs.map Prod.fst).Nodup) (hx : S.exactKeys kvs = true)

include hd hx in
theorem targets_nodup : (S.targets kvs).Nodup := by
  rw [exactKeys_iff] at hx
  induction kvs with
  | nil => exact List.nodup_nil
  | cons kv kvs ih =>
    obtain ⟨k, v⟩ := kv
    simp only [List.map_cons, List.nodup_cons] at hd
    have ih' := ih hd.2 (fun kv h => hx kv (List.mem_cons_of_mem _ h))
    simp only [targets, List.filterMap_cons] at ih' ⊢
    cases hf : S.fieldOf k with
    | none => exact ih'
    | some f =>
      refine List.nodup_cons.mpr ⟨fun hm => hd.1 ?_, ih'⟩
      obtain ⟨⟨k', v'⟩, hm', hf'⟩ := List.mem_filterMap.mp hm
      have e : k = k' := (hx _ (List.mem_cons_self _ _) f hf).trans
        (hx _ (List.mem_cons_of_mem _ hm') f hf').symm
      exact e ▸ List.mem_map_of_mem Prod.fst hm'

include hself hd hx in
theorem memberFor_eq_lookup (f : S.Field) : S.memberFor f kvs = Json.lookup kvs (S.name f) := by
  have hiff : ∀ kv ∈ kvs, (S.fieldOf kv.1 = some f ↔ kv.1 = S.name f) := fun kv hm =>
    ⟨(exactKeys_iff S).mp hx kv hm f, fun h => h ▸ hself f⟩
  cases hl : Json.lookup kvs (S.name f) with
  | none =>
    simp only [memberFor, Option.map_eq_none', List.find?_eq_none, decide_eq_true_eq]
    intro kv hm hf
    exact Json.lookup_eq_none.mp hl ((hiff kv hm).mp hf ▸ List.mem_map_of_mem _ hm)
  | some v =>
    have hm := Json.mem_of_lookup hl
    obtain ⟨p, hp⟩ : ∃ p, kvs.find? (fun kv => S.fieldOf kv.1 = some f) = some p :=
      Option.isSome_iff_exists.mp (List.find?_isSome.mpr ⟨_, hm, by simpa using hself f⟩)
    have hpm := List.mem_of_find?_eq_some hp
    have hpk := (hiff p hpm).mp (by simpa using List.find?_some hp)
    obtain ⟨k', v'⟩ := p
    cases hpk
    simp only [memberFor, hp, Option.map_some', Option.some.injEq]
    simpa [Json.lookup_of_mem hd hpm] using hl

include hself hd hx in
/-- **Fields by name.** Where decoding succeeds, each field holds what the member of its own
name decodes to. -/
theorem get_decode_obj {goType : String} {a : α}
    (hok : (S.decode goType a (.obj kvs)).error = none) (f : S.Field) :
    S.get (S.decode goType a (.obj kvs)).val f =
      (Json.lookup kvs (S.name f)).elim (S.get a f) fun v => (S.decodeField f (S.get a f) v).val := by
  have h := S.decodeMembers_get a kvs (targets_nodup hd hx) hok f
  rw [memberFor_eq_lookup hself hd hx] at h
  revert h
  cases Json.lookup kvs (S.name f) <;> exact id

include hself hd hx in
theorem decodeField_error_of_lookup {goType : String} {a : α}
    (hok : (S.decode goType a (.obj kvs)).error = none) (f : S.Field) (v : Json)
    (h : Json.lookup kvs (S.name f) = some v) : (S.decodeField f (S.get a f) v).error = none :=
  (S.decodeMembers_error_eq_none a kvs (targets_nodup hd hx)).mp hok _ v f
    (Json.mem_of_lookup h) (hself f)

include hself hd hx in
/-- **Decoding by name.** Where the member named after each field decodes into it without
error, the struct decodes without error to the record holding those values, and its starting
values where no member names a field. -/
theorem decode_obj_eq_ok {goType : String} {a b : α}
    (hext : ∀ x y, (∀ f, S.get x f = S.get y f) → x = y)
    (hfield : ∀ f v, Json.lookup kvs (S.name f) = some v →
      S.decodeField f (S.get a f) v = .ok (S.get b f))
    (hmissing : ∀ f, Json.lookup kvs (S.name f) = none → S.get a f = S.get b f) :
    S.decode goType a (.obj kvs) = .ok b := by
  have hok : (S.decode goType a (.obj kvs)).error = none :=
    (S.decodeMembers_error_eq_none a kvs (targets_nodup hd hx)).mpr fun k v f hm hf => by
      have hkf := (exactKeys_iff S).mp hx _ hm f hf
      subst hkf
      rw [hfield f v (Json.lookup_of_mem hd hm)]
      rfl
  rw [Decoded.eq_ok_of_error_eq_none hok]
  refine congrArg Decoded.ok (hext _ _ fun f => ?_)
  rw [get_decode_obj hself hd hx hok]
  cases hl : Json.lookup kvs (S.name f) with
  | none => exact hmissing f hl
  | some v => simp only [Option.elim, hfield f v hl, Decoded.ok_val]

end ExactKeys

end GoStruct

end NhnCloudLayer3
