/-
Go strings, as the package holds them: sequences of bytes.

A record field decoded from a JSON string holds its UTF-8 encoding (`GoString.ofString`);
`encoding/json` writes a Go string back as the JSON string of its runes, where each byte that
starts no valid encoding becomes U+FFFD (`GoString.toJson`, after `utf8.DecodeRune`).

* `decodeRune_encodeRune` — `utf8.DecodeRune` reads back the rune `utf8.EncodeRune` wrote;
* `toJson_ofString` — every UTF-8 encoded string is written back as the string it encodes.

Bytes that are not UTF-8 are not written back as they were: that is the one way a Go string
can fail to survive a JSON round trip.
-/
import Mathlib.Data.List.Basic

namespace NhnCloudLayer3

/-- A Go `string`: a sequence of bytes, valid UTF-8 or not. -/
structure GoString where
  bytes : List UInt8
  deriving DecidableEq, Repr

namespace GoString

/-- The empty string, the zero value of a Go `string`. -/
def empty : GoString := ⟨[]⟩

/-- `utf8.EncodeRune`: the one to four bytes that encode a rune (RFC 3629). -/
def encodeRune (c : Char) : List UInt8 :=
  let n := c.toNat
  if n < 0x80 then [UInt8.ofNat n]
  else if n < 0x800 then [UInt8.ofNat (0xC0 + n / 64), UInt8.ofNat (0x80 + n % 64)]
  else if n < 0x10000 then
    [UInt8.ofNat (0xE0 + n / 4096), UInt8.ofNat (0x80 + n / 64 % 64),
      UInt8.ofNat (0x80 + n % 64)]
  else
    [UInt8.ofNat (0xF0 + n / 262144), UInt8.ofNat (0x80 + n / 4096 % 64),
      UInt8.ofNat (0x80 + n / 64 % 64), UInt8.ofNat (0x80 + n % 64)]

/-- The least and the greatest byte `utf8.DecodeRune` accepts right after lead byte `x`
(its `acceptRanges` table). -/
def secondRange (x : Nat) : Nat × Nat :=
  if x = 0xE0 then (0xA0, 0xBF) else if x = 0xED then (0x80, 0x9F)
  else if x = 0xF0 then (0x90, 0xBF) else if x = 0xF4 then (0x80, 0x8F) else (0x80, 0xBF)

/-- A continuation byte, `0x80`–`0xBF`. -/
def isCont (b : UInt8) : Bool := 0x80 ≤ b.toNat && b.toNat ≤ 0xBF

/-- `utf8.DecodeRune` on the bytes `b0 :: rest`: the rune their first bytes encode and the
bytes after it, or `none` where Go returns `(RuneError, 1)`. -/
def decodeRune (b0 : UInt8) (rest : List UInt8) : Option (Char × List UInt8) :=
  let x := b0.toNat
  let second (b : UInt8) : Bool := (secondRange x).1 ≤ b.toNat && b.toNat ≤ (secondRange x).2
  if x < 0x80 then some (Char.ofNat x, rest)
  else if 0xC2 ≤ x ∧ x ≤ 0xDF then
    match rest with
    | b1 :: rest =>
      if second b1 then some (Char.ofNat ((x - 0xC0) * 64 + (b1.toNat - 0x80)), rest) else none
    | [] => none
  else if 0xE0 ≤ x ∧ x ≤ 0xEF then
    match rest with
    | b1 :: b2 :: rest =>
      if second b1 && isCont b2 then
        some (Char.ofNat ((x - 0xE0) * 4096 + (b1.toNat - 0x80) * 64 + (b2.toNat - 0x80)), rest)
      else none
    | _ => none
  else if 0xF0 ≤ x ∧ x ≤ 0xF4 then
    match rest with
    | b1 :: b2 :: b3 :: rest =>
      if second b1 && isCont b2 && isCont b3 then
        some (Char.ofNat ((x - 0xF0) * 262144 + (b1.toNat - 0x80) * 4096
          + (b2.toNat - 0x80) * 64 + (b3.toNat - 0x80)), rest)
      else none
    | _ => none
  else none

private theorem toNat_ofNat {n : Nat} (h : n < 256) : (UInt8.ofNat n).toNat = n :=
  UInt8.toNat_ofNat_of_lt h


private theorem char_toNat_valid (c : Char) :
    c.toNat < 0xD800 ∨ (0xDFFF < c.toNat ∧ c.toNat < 0x110000) := c.valid

private theorem ofNat_eq {c : Char} {n : Nat} (h : n = c.toNat) : Char.ofNat n = c := by
  rw [h, Char.ofNat_toNat]

/-- Membership in `secondRange x`, one lead byte at a time. -/
private theorem secondRange_spec (x b : Nat) :
    (secondRange x).1 ≤ b ∧ b ≤ (secondRange x).2 ↔
      (if x = 0xE0 then 0xA0 ≤ b ∧ b ≤ 0xBF else if x = 0xED then 0x80 ≤ b ∧ b ≤ 0x9F
      else if x = 0xF0 then 0x90 ≤ b ∧ b ≤ 0xBF else if x = 0xF4 then 0x80 ≤ b ∧ b ≤ 0x8F
      else 0x80 ≤ b ∧ b ≤ 0xBF) := by
  unfold secondRange; split_ifs <;> rfl

/-- `utf8.DecodeRune` reads back the rune `utf8.EncodeRune` wrote, and nothing after it. -/
theorem decodeRune_encodeRune (c : Char) (rest : List UInt8) :
    ∃ b bs, encodeRune c = b :: bs ∧ decodeRune b (bs ++ rest) = some (c, rest) := by
  have hv := char_toNat_valid c
  have e0 : ∀ k, k < 0x40 → (UInt8.ofNat (0x80 + k)).toNat = 0x80 + k :=
    fun k hk => toNat_ofNat (by omega)
  dsimp only [encodeRune]
  split_ifs with h1 h2 h3 <;> refine ⟨_, _, rfl, ?_⟩ <;>
    simp only [decodeRune, List.cons_append, List.nil_append, isCont, Bool.and_eq_true,
      decide_eq_true_eq, secondRange_spec]
  · rw [toNat_ofNat (by omega), if_pos (by omega)]
    exact congrArg _ (Prod.ext (ofNat_eq rfl) rfl)
  · have hl : (UInt8.ofNat (0xC0 + c.toNat / 64)).toNat = 0xC0 + c.toNat / 64 :=
      toNat_ofNat (by omega)
    rw [hl, e0 _ (by omega), if_neg (by omega), if_pos (by omega), if_pos (by split_ifs <;> omega)]
    simp only [Option.some.injEq, Prod.mk.injEq, and_true]; exact ofNat_eq (by omega)
  · have hl : (UInt8.ofNat (0xE0 + c.toNat / 4096)).toNat = 0xE0 + c.toNat / 4096 :=
      toNat_ofNat (by omega)
    rw [hl, e0 (c.toNat / 64 % 64) (by omega), e0 (c.toNat % 64) (by omega), if_neg (by omega),
      if_neg (by omega), if_pos (by omega), if_pos (by split_ifs <;> omega)]
    simp only [Option.some.injEq, Prod.mk.injEq, and_true]; exact ofNat_eq (by omega)
  · have hl : (UInt8.ofNat (0xF0 + c.toNat / 262144)).toNat = 0xF0 + c.toNat / 262144 :=
      toNat_ofNat (by omega)
    rw [hl, e0 (c.toNat / 4096 % 64) (by omega), e0 (c.toNat / 64 % 64) (by omega),
      e0 (c.toNat % 64) (by omega), if_neg (by omega), if_neg (by omega), if_neg (by omega),
      if_pos (by omega), if_pos (by split_ifs <;> omega)]
    simp only [Option.some.injEq, Prod.mk.injEq, and_true]; exact ofNat_eq (by omega)

/-- A byte below `0x80` in the encoding of a rune is the rune itself: every byte of a longer
encoding is `0x80` or above. -/
theorem encodeRune_ascii {c : Char} {b : UInt8} (hb : b ∈ encodeRune c) (h : b.toNat < 0x80) :
    b.toNat = c.toNat := by
  have hv := char_toNat_valid c
  dsimp only [encodeRune] at hb
  split_ifs at hb with h1 h2 h3
  · rw [List.mem_singleton.mp hb, toNat_ofNat (by omega)]
  all_goals
    exfalso
    simp only [List.mem_cons, List.not_mem_nil, or_false] at hb
    rcases hb with rfl | rfl | rfl | rfl <;> rw [toNat_ofNat (by omega)] at h <;> omega

/-- The runes `encoding/json` writes for a byte sequence: each valid encoding as its rune and
U+FFFD for each byte that starts none; `fuel` bounds their number. -/
def runes : Nat → List UInt8 → List Char
  | 0, _ => []
  | _ + 1, [] => []
  | fuel + 1, b :: rest =>
    match decodeRune b rest with
    | some (c, rest') => c :: runes fuel rest'
    | none => '\uFFFD' :: runes fuel rest

/-- The UTF-8 encoding of a string: the Go string a JSON string decodes to. -/
def ofString (s : String) : GoString := ⟨s.toList.flatMap encodeRune⟩

/-- The JSON string `json.Marshal` writes for a Go string. -/
def toJson (g : GoString) : String := ⟨runes g.bytes.length g.bytes⟩

@[simp] theorem ofString_empty : ofString "" = empty := rfl

theorem ofString_append (s t : String) :
    (ofString (s ++ t)).bytes = (ofString s).bytes ++ (ofString t).bytes := by
  simp [ofString, String.toList, String.append]

/-- Only the empty string encodes to no bytes. -/
@[simp] theorem ofString_eq_empty {s : String} : ofString s = empty ↔ s = "" := by
  refine ⟨fun h => ?_, fun h => h ▸ rfl⟩
  obtain ⟨_ | ⟨c, cs⟩⟩ := s
  · rfl
  · obtain ⟨b, bs, he, -⟩ := decodeRune_encodeRune c []
    simp [ofString, empty, List.flatMap_cons, he] at h

theorem runes_flatMap_encodeRune (cs : List Char) :
    ∀ fuel, cs.length ≤ fuel → runes fuel (cs.flatMap encodeRune) = cs := by
  induction cs with
  | nil => intro fuel _; cases fuel <;> rfl
  | cons c cs ih =>
    intro fuel h
    obtain ⟨b, bs, he, hd⟩ := decodeRune_encodeRune c (cs.flatMap encodeRune)
    obtain ⟨fuel, rfl⟩ : ∃ f, fuel = f + 1 := ⟨fuel - 1, by simp at h; omega⟩
    rw [List.flatMap_cons, he, List.cons_append, runes, hd]
    exact congrArg _ (ih fuel (by simpa using h))

private theorem length_le_flatMap_encodeRune (cs : List Char) :
    cs.length ≤ (cs.flatMap encodeRune).length := by
  induction cs with
  | nil => simp
  | cons c cs ih =>
    obtain ⟨b, bs, he, -⟩ := decodeRune_encodeRune c []
    simp only [List.flatMap_cons, he, List.length_append, List.length_cons]
    omega

/-- **Round trip.** A UTF-8 encoded string is written back as the string it encodes. -/
theorem toJson_ofString (s : String) : toJson (ofString s) = s :=
  congrArg String.mk
    (runes_flatMap_encodeRune s.toList _ (length_le_flatMap_encodeRune s.toList))

/-- The string is UTF-8 text: written as JSON and read back, it is itself. Every string decoded
from JSON is. -/
def IsText (g : GoString) : Prop := ofString g.toJson = g

instance : DecidablePred IsText := fun g => inferInstanceAs (Decidable (ofString g.toJson = g))

theorem isText_ofString (s : String) : (ofString s).IsText := by
  rw [IsText, toJson_ofString]

theorem isText_empty : empty.IsText := isText_ofString ""

end GoString

end NhnCloudLayer3
