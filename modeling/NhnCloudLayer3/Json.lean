/-
JSON values, as the package's decoders meet them.

Every extraction re-encodes the response body first: `gophercloud.Result.ExtractInto` writes
the `interface{}` value the transport decoded back out with `json.Marshal`, and decodes that
text into its target. A decoder therefore sees objects with their keys in increasing order and
no key twice, as Go writes a map (`Json.sorted`), and numbers in the notation Go writes a
`float64` in (`Number`); the raw bytes a `json.Unmarshaler` receives are that encoding
(`Json.rawText`).

`encoding/json` matches a member to a struct field by its exact name first and by Go's case
folding otherwise (`matchField`, `foldName`), so `"ID"` and even `"ıd"` fill the field `id`.

Design notes: objects are member lists rather than maps, so that the order in which Go decodes
members, and what happens to a key given twice, stay visible; `lookup` is what a decoded
`map[string]interface{}` holds under a key.
-/
import Mathlib.Data.Int.Log
import Mathlib.Data.List.Chain
import Mathlib.Data.Rat.Floor
import Mathlib.Data.String.Basic
import NhnCloudLayer3.GoString

namespace NhnCloudLayer3

/-- The natural number a list of decimal digits spells, most significant first. -/
def digitsValue (ds : List (Fin 10)) : Nat := ds.foldl (fun n d => 10 * n + d) 0

/-- The text of a list of decimal digits. -/
def digitsText (ds : List (Fin 10)) : String := ⟨ds.map fun d => Char.ofNat (48 + d)⟩

/-- A JSON number as `encoding/json` writes a `float64`: `strconv.FormatFloat` with format
`'f'` (`'e'` below `1e-6` and from `1e21` on) and the fewest digits that read back as the same
value, so a sign, integer digits, fraction digits and an exponent. -/
structure Number where
  neg : Bool
  int : List (Fin 10)
  frac : List (Fin 10)
  exp : Option Int
  deriving DecidableEq, Repr

namespace Number

/-- The text of the number, as the encoder writes it. -/
def text (n : Number) : String :=
  (if n.neg then "-" else "") ++ digitsText n.int ++
    (if n.frac = [] then "" else "." ++ digitsText n.frac) ++
    (match n.exp with
      | none => ""
      | some e => "e" ++ (if e < 0 then "-" else "+") ++ toString e.natAbs)

/-- `strconv.ParseInt(text, 10, 64)`, which `encoding/json` uses for an `int` target: an
integer literal within the range of a 64-bit `int`. -/
def parseInt (n : Number) : Option Int :=
  if n.frac = [] ∧ n.exp = none then
    let v : Int := if n.neg then -(digitsValue n.int : Int) else digitsValue n.int
    if -2 ^ 63 ≤ v ∧ v < 2 ^ 63 then some v else none
  else none

/-- The exact value of the text. -/
def value (n : Number) : ℚ :=
  (if n.neg then -1 else 1) * ((digitsValue (n.int ++ n.frac) : ℚ) / 10 ^ n.frac.length) *
    (10 : ℚ) ^ n.exp.getD 0

end Number

/-- A JSON value: an `interface{}` as `encoding/json` decodes one, with each object given as
its members in order. -/
inductive Json where
  | null
  | bool (b : Bool)
  | num (n : Number)
  | str (s : String)
  | arr (xs : List Json)
  | obj (kvs : List (String × Json))

namespace Json

/-- The word `UnmarshalTypeError` uses for the kind of a value. -/
def kind : Json → String
  | .null => "null"
  | .bool _ => "bool"
  | .num _ => "number"
  | .str _ => "string"
  | .arr _ => "array"
  | .obj _ => "object"

/-- The lowercase hexadecimal digit of `n < 16`. -/
def hexDigit (n : Nat) : String := (Char.ofNat (if n < 10 then 48 + n else 87 + n)).toString

/-- How `encodeState.string` writes one rune inside a string literal; `html` is the
encoder's `escapeHTML`, on for `json.Marshal` and off for `gophercloud`'s re-encoding. -/
def escapeRune (html : Bool) (c : Char) : String :=
  if c = '"' then "\\\"" else if c = '\\' then "\\\\"
  else if c = '\n' then "\\n" else if c = '\r' then "\\r" else if c = '\t' then "\\t"
  else if c.toNat = 8 then "\\b" else if c.toNat = 12 then "\\f"
  else if c.toNat < 0x20 then "\\u00" ++ hexDigit (c.toNat / 16) ++ hexDigit (c.toNat % 16)
  else if html ∧ (c = '<' ∨ c = '>' ∨ c = '&') then
    "\\u00" ++ hexDigit (c.toNat / 16) ++ hexDigit (c.toNat % 16)
  else if c = '\u2028' then "\\u2028" else if c = '\u2029' then "\\u2029"
  else c.toString

/-- The string literal the encoder writes for `s`. -/
def quote (html : Bool) (s : String) : String :=
  "\"" ++ String.join (s.toList.map (escapeRune html)) ++ "\""

mutual
/-- The text `json.Marshal` writes for a value, with HTML escaping off: the raw bytes a
`json.Unmarshaler` receives when the body is re-encoded. -/
def rawText : Json → String
  | .null => "null"
  | .bool b => if b then "true" else "false"
  | .num n => n.text
  | .str s => quote false s
  | .arr xs => "[" ++ rawTexts xs ++ "]"
  | .obj kvs => "\x7b" ++ rawMembers kvs ++ "\x7d"

/-- The elements of an array, separated by commas. -/
def rawTexts : List Json → String
  | [] => ""
  | [x] => rawText x
  | x :: xs => rawText x ++ "," ++ rawTexts xs

/-- The members of an object, separated by commas. -/
def rawMembers : List (String × Json) → String
  | [] => ""
  | [(k, v)] => quote false k ++ ":" ++ rawText v
  | (k, v) :: kvs => quote false k ++ ":" ++ rawText v ++ "," ++ rawMembers kvs
end

mutual
/-- Every object in the value lists its keys in strictly increasing order, as Go writes a
map: the shape of a re-encoded response body. -/
def sorted : Json → Bool
  | .arr xs => sortedAll xs
  | .obj kvs => decide ((kvs.map Prod.fst).Chain' (· < ·)) && sortedMembers kvs
  | _ => true

/-- Every element is `sorted`. -/
def sortedAll : List Json → Bool
  | [] => true
  | x :: xs => sorted x && sortedAll xs

/-- Every member's value is `sorted`. -/
def sortedMembers : List (String × Json) → Bool
  | [] => true
  | (_, v) :: kvs => sorted v && sortedMembers kvs
end

theorem sortedMembers_of_mem {kvs : List (String × Json)} (h : sortedMembers kvs = true)
    {k : String} {v : Json} (hm : (k, v) ∈ kvs) : sorted v = true := by
  induction kvs with
  | nil => cases hm
  | cons kv kvs ih =>
    obtain ⟨k', v'⟩ := kv
    simp only [sortedMembers, Bool.and_eq_true] at h
    rcases List.mem_cons.mp hm with h' | h'
    · cases h'; exact h.1
    · exact ih h.2 h'

/-- The keys of a sorted object are distinct. -/
theorem nodup_keys_of_sorted {kvs : List (String × Json)} (h : sorted (.obj kvs) = true) :
    (kvs.map Prod.fst).Nodup := by
  simp only [sorted, Bool.and_eq_true, decide_eq_true_eq] at h
  exact (List.chain'_iff_pairwise.mp h.1).imp ne_of_lt

/-- The members' values of a sorted object are sorted. -/
theorem sorted_of_mem {kvs : List (String × Json)} (h : sorted (.obj kvs) = true)
    {k : String} {v : Json} (hm : (k, v) ∈ kvs) : sorted v = true := by
  simp only [sorted, Bool.and_eq_true] at h
  exact sortedMembers_of_mem h.2 hm

/-- The value a `map[string]interface{}` decoded from the members `kvs` holds under `k`:
the last member named `k`. -/
def lookup (kvs : List (String × Json)) (k : String) : Option Json :=
  match kvs with
  | [] => none
  | (k', v) :: rest => (lookup rest k).or (if k' = k then some v else none)

@[simp] theorem lookup_nil (k : String) : lookup [] k = none := rfl

theorem lookup_cons (k' k : String) (v : Json) (rest : List (String × Json)) :
    lookup ((k', v) :: rest) k = (lookup rest k).or (if k' = k then some v else none) := rfl

theorem lookup_eq_none {kvs : List (String × Json)} {k : String} :
    lookup kvs k = none ↔ k ∉ kvs.map Prod.fst := by
  induction kvs with
  | nil => simp
  | cons kv kvs ih =>
    obtain ⟨k', v⟩ := kv
    rw [lookup_cons, Option.or_eq_none, ih]
    by_cases h : k' = k
    · simp [h]
    · simp [h, Ne.symm h]

/-- With distinct keys, `lookup` finds the one member named `k`. -/
theorem lookup_of_mem {kvs : List (String × Json)} (hd : (kvs.map Prod.fst).Nodup)
    {k : String} {v : Json} (hm : (k, v) ∈ kvs) : lookup kvs k = some v := by
  induction kvs with
  | nil => cases hm
  | cons kv kvs ih =>
    obtain ⟨k', v'⟩ := kv
    simp only [List.map_cons, List.nodup_cons] at hd
    rw [lookup_cons]
    rcases List.mem_cons.mp hm with h | h
    · cases h
      rw [lookup_eq_none.mpr hd.1]; simp
    · rw [ih hd.2 h]; rfl

theorem mem_of_lookup {kvs : List (String × Json)} {k : String} {v : Json}
    (h : lookup kvs k = some v) : (k, v) ∈ kvs := by
  induction kvs with
  | nil => cases h
  | cons kv kvs ih =>
    obtain ⟨k', v'⟩ := kv
    rw [lookup_cons] at h
    cases hl : lookup kvs k with
    | some w =>
      rw [hl] at h; cases h; exact List.mem_cons_of_mem _ (ih hl)
    | none =>
      rw [hl] at h
      by_cases hk : k' = k
      · subst hk; simp only [if_true, Option.none_or, Option.some.injEq] at h
        subst h; exact List.mem_cons_self _ _
      · simp [hk] at h

/-- Every number in the value satisfies `p`. -/
def allNumbers (p : Number → Bool) : Json → Bool
  | .num n => p n
  | .arr xs => allNumbersList p xs
  | .obj kvs => allNumbersMembers p kvs
  | _ => true
where
  /-- Every number in the elements satisfies `p`. -/
  allNumbersList (p : Number → Bool) : List Json → Bool
    | [] => true
    | x :: xs => allNumbers p x && allNumbersList p xs
  /-- Every number in the members' values satisfies `p`. -/
  allNumbersMembers (p : Number → Bool) : List (String × Json) → Bool
    | [] => true
    | (_, v) :: kvs => allNumbers p v && allNumbersMembers p kvs

theorem allNumbers_obj {p : Number → Bool} {kvs : List (String × Json)} :
    allNumbers p (.obj kvs) = true ↔ ∀ kv ∈ kvs, allNumbers p kv.2 = true := by
  simp only [allNumbers]
  induction kvs with
  | nil => simp [allNumbers.allNumbersMembers]
  | cons kv kvs ih => simp [allNumbers.allNumbersMembers, ih]

theorem allNumbers_arr {p : Number → Bool} {xs : List Json} :
    allNumbers p (.arr xs) = true ↔ ∀ x ∈ xs, allNumbers p x = true := by
  simp only [allNumbers]
  induction xs with
  | nil => simp [allNumbers.allNumbersList]
  | cons x xs ih => simp [allNumbers.allNumbersList, ih]

/-- A property of numbers that implies another carries over to every number of a value. -/
theorem allNumbers_mono {p q : Number → Bool} (h : ∀ n, p n = true → q n = true) :
    ∀ v : Json, allNumbers p v = true → allNumbers q v = true
  | .num n, hv => h n hv
  | .arr xs, hv => allNumbers_arr.mpr fun x hx => allNumbers_mono h x (allNumbers_arr.mp hv x hx)
  | .obj kvs, hv =>
    allNumbers_obj.mpr fun kv hkv => allNumbers_mono h kv.2 (allNumbers_obj.mp hv kv hkv)
  | .null, _ => rfl
  | .bool _, _ => rfl
  | .str _, _ => rfl
termination_by v => sizeOf v
decreasing_by
  all_goals simp_wf
  · have := List.sizeOf_lt_of_mem hx; omega
  · have := List.sizeOf_lt_of_mem hkv; cases kv; simp at this ⊢; omega

theorem sorted_arr {xs : List Json} : sorted (.arr xs) = true ↔ ∀ x ∈ xs, sorted x = true := by
  simp only [sorted]
  induction xs with
  | nil => simp [sortedAll]
  | cons x xs ih => simp [sortedAll, ih]

end Json

/-- Rounding to the nearest integer, ties to the even one. -/
def roundHalfEven (q : ℚ) : Int :=
  let f := ⌊q⌋
  if q - f < 1 / 2 then f else if 1 / 2 < q - f then f + 1 else if f % 2 = 0 then f else f + 1

/-- The binary64 value nearest `q`, ties to even, or none where it overflows: what
`strconv.ParseFloat(s, 64)` gives for a text `s` whose value is `q`. -/
def roundBinary64 (q : ℚ) : Option ℚ :=
  if q = 0 then some 0
  else
    let e := max (Int.log 2 |q| - 52) (-1074)
    let v := (roundHalfEven (q / 2 ^ e) : ℚ) * 2 ^ e
    if 2 ^ 1024 ≤ |v| then none else some v

/-- The `float64` `encoding/json` decodes a number into, for an `interface{}` target. -/
def Number.float64 (n : Number) : Option ℚ := roundBinary64 n.value

/-- `int(f)` as amd64 computes it: truncation toward zero, and `math.MinInt64` where the result
does not fit. -/
def floatToInt (f : ℚ) : Int :=
  let t := if 0 ≤ f then ⌊f⌋ else ⌈f⌉
  if -2 ^ 63 ≤ t ∧ t < 2 ^ 63 then t else -2 ^ 63

/-- Every number of the value is within the range of a `float64`, so that it decodes into an
`interface{}`. -/
def Json.finiteNumbers : Json → Bool := Json.allNumbers fun n => n.float64.isSome

/-- Go's `foldName` on one rune, `unicode.ToUpper(unicode.ToLower(r))`, exactly where the
result is ASCII: the ASCII letters, and the four runes Unicode folds onto one (`İ` and `ı`
onto `I`, `ſ` onto `S`, the Kelvin sign onto `K`). Go folds every other rune onto a
non-ASCII rune; it is kept here, so a key matches an ASCII name here exactly when it does
in Go. -/
def foldRune (c : Char) : Char :=
  if 'a' ≤ c ∧ c ≤ 'z' then Char.ofNat (c.toNat - 32)
  else if c = '\u0130' ∨ c = '\u0131' then 'I'
  else if c = '\u017F' then 'S'
  else if c = '\u212A' then 'K'
  else c

/-- Go's `foldName`: the key under which `encoding/json` looks a member up case-insensitively. -/
def foldName (s : String) : String := s.map foldRune

/-- The field `decodeState.object` decodes a member named `key` into: the field named `key`,
else the first field whose name `key` matches under `foldName`. -/
def matchField {F : Type} (names : List (F × String)) (key : String) : Option F :=
  match names.find? (fun p => p.2 == key) with
  | some p => some p.1
  | none => (names.find? (fun p => foldName p.2 == foldName key)).map Prod.fst

/-- The field a key goes to has a name the key matches under case folding. -/
theorem matchField_fold {F : Type} {names : List (F × String)} {key : String} {f : F}
    (h : matchField names key = some f) : ∃ p ∈ names, p.1 = f ∧ foldName p.2 = foldName key := by
  unfold matchField at h
  split at h
  · rename_i p hp
    cases h
    have hk := List.find?_some hp
    rw [beq_iff_eq] at hk
    exact ⟨p, List.mem_of_find?_eq_some hp, rfl, by rw [hk]⟩
  · obtain ⟨p, hp, rfl⟩ := Option.map_eq_some'.mp h
    have hk := List.find?_some hp
    rw [beq_iff_eq] at hk
    exact ⟨p, List.mem_of_find?_eq_some hp, rfl, hk⟩

end NhnCloudLayer3
