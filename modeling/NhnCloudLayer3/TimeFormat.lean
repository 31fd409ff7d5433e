/-
`Time.Format` read back by `time.Parse`: the round trip of `NHNCloudTime`.

`MarshalJSON` writes the wall clock of a time, in its own location, in the layout
`2006-01-02 15:04:05`, and `UnmarshalJSON` tries that layout first. The calendar of `Format`
(`civilFromDays`) and the one of `Parse` (`daysFromCivil`) are inverse, every date `Format`
writes exists, and each number is written zero-padded in as many digits as the element that
reads it takes; so the text reads back as the same wall clock, in UTC and to the second.

* `daysFromCivil_civilFromDays`, `civilFromDays_valid` — the two calendars agree, and
  `civilFromDays` gives only dates that exist;
* `appendInt_of_lt` — a number in range is written as its digits, zero-padded to the width;
* `parse_format` — `time.Parse("2006-01-02 15:04:05", t.Format("2006-01-02 15:04:05"))` is the
  wall clock of `t` in UTC, for every year from 0 to 9999;
* `NHNCloudTime.unmarshalJSON_marshalJSON` — `UnmarshalJSON` of what `MarshalJSON` writes.

The calendar proof splits the 146097 days of a 400-year era into centuries of 36524 days,
cycles of 1461 days and years of 365 days (`era_split`), the last day of the era and of a
leap cycle being the leap days.
-/
import Mathlib.Tactic.IntervalCases
import NhnCloudLayer3.CreateTime

namespace NhnCloudLayer3

section Calendar

/-- `a / b` for `a` written as `b * k` plus a remainder in range. -/
theorem ediv_of_split {a b k r : Int} (h : a = r + b * k) (h0 : 0 ≤ r) (h1 : r < b) :
    a / b = k := by
  subst h
  rw [Int.add_mul_ediv_left _ _ (by omega), Int.ediv_eq_zero_of_lt h0 h1, Int.zero_add]

/-- A day of an era but its last one: a century, a four-year cycle of the century, a year of
the cycle and a day of the year, the 366th only in the cycle's last year. -/
theorem era_split {N : Int} (h0 : 0 ≤ N) (h1 : N < 146096) :
    ∃ c q t u, N = 36524 * c + 1461 * q + 365 * t + u ∧ 0 ≤ c ∧ 0 ≤ q ∧ 0 ≤ t ∧ t ≤ 3 ∧
      0 ≤ u ∧ (u < 365 ∨ u = 365 ∧ t = 3) ∧ 1461 * q + 365 * t + u < 36524 :=
  ⟨N / 36524, N % 36524 / 1461, min (N % 36524 % 1461 / 365) 3,
    N % 36524 % 1461 - 365 * min (N % 36524 % 1461 / 365) 3, by omega, by omega, by omega,
    by omega, by omega, by omega, by omega, by omega⟩

/-- The year of the era `civilFromDays` computes for such a day. -/
theorem yearOfEra_of_split {c q t u : Int} (hc : 0 ≤ c) (hq : 0 ≤ q) (ht : 0 ≤ t) (ht3 : t ≤ 3)
    (hu : 0 ≤ u) (hu' : u < 365 ∨ u = 365 ∧ t = 3) (hr : 1461 * q + 365 * t + u < 36524)
    (h1 : 36524 * c + 1461 * q + 365 * t + u < 146096) :
    (36524 * c + 1461 * q + 365 * t + u - (36524 * c + 1461 * q + 365 * t + u) / 1460 +
      (36524 * c + 1461 * q + 365 * t + u) / 36524 -
      (36524 * c + 1461 * q + 365 * t + u) / 146096) / 365 = 100 * c + 4 * q + t := by
  rw [Int.ediv_eq_zero_of_lt (by omega) h1,
    @ediv_of_split _ 36524 c (1461 * q + 365 * t + u) (by omega) (by omega) hr]
  by_cases hd : 1460 ≤ 24 * c + q + 365 * t + u
  · rw [@ediv_of_split _ 1460 (25 * c + q + 1) (24 * c + q + 365 * t + u - 1460) (by omega)
      (by omega) (by omega)]
    exact ediv_of_split (by omega) (by omega : 0 ≤ u - 1) (by omega)
  · rw [@ediv_of_split _ 1460 (25 * c + q) (24 * c + q + 365 * t + u) (by omega) (by omega)
      (by omega)]
    exact ediv_of_split (by omega) hu (by omega : u < 365)

/-- The year of the era and the day of the year `civilFromDays` computes from a day of the era:
a year from 0 to 399, a day from 0 to 365, and the 366th day only in a year that has one. -/
theorem yearOfEra_bounds {N yoe doy : Int} (h0 : 0 ≤ N) (h1 : N ≤ 146096)
    (hyoe : yoe = (N - N / 1460 + N / 36524 - N / 146096) / 365)
    (hdoy : doy = N - (365 * yoe + yoe / 4 - yoe / 100)) :
    0 ≤ yoe ∧ yoe < 400 ∧ 0 ≤ doy ∧ doy ≤ 365 ∧
      (doy = 365 → (yoe + 1) % 4 = 0 ∧ ((yoe + 1) % 100 ≠ 0 ∨ (yoe + 1) % 400 = 0)) := by
  rcases (by omega : N = 146096 ∨ N < 146096) with rfl | h1
  · subst hyoe; subst hdoy; decide
  obtain ⟨c, q, t, u, rfl, hc, hq, ht, ht3, hu, hu', hr⟩ := era_split h0 h1
  rw [yearOfEra_of_split hc hq ht ht3 hu hu' hr h1] at hyoe
  subst hyoe
  have h4 : (100 * c + 4 * q + t) / 4 = 25 * c + q :=
    @ediv_of_split _ 4 _ t (by omega) ht (by omega)
  have h100 : (100 * c + 4 * q + t) / 100 = c :=
    @ediv_of_split _ 100 _ (4 * q + t) (by omega) (by omega) (by omega)
  rw [h4, h100] at hdoy
  refine ⟨by omega, by omega, by omega, by omega, fun h => ?_⟩
  obtain ⟨rfl, hq'⟩ : t = 3 ∧ q < 24 := by omega
  omega

theorem isLeap_iff (y : Int) : isLeap y = true ↔ y % 4 = 0 ∧ (y % 100 ≠ 0 ∨ y % 400 = 0) := by
  simp [isLeap]

/-- The month of the March-based year `civilFromDays` computes from the day of that year, and
where that month starts and ends. -/
theorem monthDay_bounds {doy m : Int} (h0 : 0 ≤ doy) (h1 : doy ≤ 365)
    (hm : m = (5 * doy + 2) / 153) :
    0 ≤ m ∧ m ≤ 11 ∧ (153 * m + 2) / 5 ≤ doy ∧ doy < (153 * (m + 1) + 2) / 5 := by
  subst hm; omega

/-- `daysFromCivil` of the date `civilFromDays` builds from an era, a year of the era and a day
of that year. -/
theorem daysFromCivil_of_yearOfEra {era yoe doy m : Int} (hy : 0 ≤ yoe) (hy' : yoe < 400)
    (h0 : 0 ≤ doy) (h1 : doy ≤ 365) (hm : m = (5 * doy + 2) / 153) :
    let month := if m < 10 then m + 3 else m - 9
    daysFromCivil (yoe + era * 400 + (if month ≤ 2 then 1 else 0)) month
      (doy - (153 * m + 2) / 5 + 1) =
      era * 146097 + (365 * yoe + yoe / 4 - yoe / 100 + doy) - 306 := by
  intro month
  obtain ⟨hm0, hm1, -, -⟩ := monthDay_bounds h0 h1 hm
  have he : (yoe + era * 400) / 400 = era := ediv_of_split (by omega) hy hy'
  unfold daysFromCivil
  simp only [month]
  split_ifs <;> simp only [Int.add_sub_cancel, Int.add_zero, he] <;> omega

/-- The date `civilFromDays` builds from an era, a year of the era and a day of that year
exists. -/
theorem civil_valid_of_yearOfEra {era yoe doy m : Int} (h0 : 0 ≤ doy) (h1 : doy ≤ 365)
    (hleap : doy = 365 → (yoe + 1) % 4 = 0 ∧ ((yoe + 1) % 100 ≠ 0 ∨ (yoe + 1) % 400 = 0))
    (hm : m = (5 * doy + 2) / 153) :
    let month := if m < 10 then m + 3 else m - 9
    let day := doy - (153 * m + 2) / 5 + 1
    1 ≤ month ∧ month ≤ 12 ∧ 1 ≤ day ∧
      day ≤ daysIn month (yoe + era * 400 + (if month ≤ 2 then 1 else 0)) := by
  intro month day
  obtain ⟨hm0, hm1, hlo, hhi⟩ := monthDay_bounds h0 h1 hm
  clear hm
  have hmonth : 1 ≤ month ∧ month ≤ 12 := by simp only [month]; split_ifs <;> omega
  refine ⟨hmonth.1, hmonth.2, by omega, ?_⟩
  simp only [month, day, daysIn]
  by_cases h10 : m < 10
  · simp only [if_pos h10, if_neg (by omega : m + 3 ≠ 2)]
    split_ifs <;> omega
  · -- January and February belong to the next year, whose leap day is the era's last day
    simp only [if_neg h10, if_pos (by omega : m - 9 ≤ 2)]
    split_ifs with h2 hl <;> first | omega | (rw [isLeap_iff] at hl; omega)

/-- The day of the era of a day, and the bounds `civilFromDays` relies on. -/
theorem dayOfEra_bounds (D : Int) :
    let doe := D + 306 - (D + 306) / 146097 * 146097
    let yoe := (doe - doe / 1460 + doe / 36524 - doe / 146096) / 365
    let doy := doe - (365 * yoe + yoe / 4 - yoe / 100)
    0 ≤ yoe ∧ yoe < 400 ∧ 0 ≤ doy ∧ doy ≤ 365 ∧
      (doy = 365 → (yoe + 1) % 4 = 0 ∧ ((yoe + 1) % 100 ≠ 0 ∨ (yoe + 1) % 400 = 0)) :=
  yearOfEra_bounds (by omega) (by omega) rfl rfl

/-- **Calendar inverse.** `daysFromCivil`, the calendar of `time.Date`, undoes `civilFromDays`,
the calendar of `Time.Format`, on every day. -/
theorem daysFromCivil_civilFromDays (D : Int) :
    daysFromCivil (civilFromDays D).1 (civilFromDays D).2.1 (civilFromDays D).2.2 = D := by
  obtain ⟨hy, hy', h0, h1, -⟩ := dayOfEra_bounds D
  have h := @daysFromCivil_of_yearOfEra ((D + 306) / 146097) _ _ _ hy hy' h0 h1 rfl
  dsimp only at h
  simp only [civilFromDays]
  rw [h]
  omega

/-- **Valid dates.** Every date `civilFromDays` builds exists: a month from 1 to 12, and a day
of that month, February 29 only in a leap year. -/
theorem civilFromDays_valid (D : Int) :
    1 ≤ (civilFromDays D).2.1 ∧ (civilFromDays D).2.1 ≤ 12 ∧ 1 ≤ (civilFromDays D).2.2 ∧
      (civilFromDays D).2.2 ≤ daysIn (civilFromDays D).2.1 (civilFromDays D).1 :=
  have h := dayOfEra_bounds D
  @civil_valid_of_yearOfEra ((D + 306) / 146097) _ _ _ h.2.2.1 h.2.2.2.1 h.2.2.2.2 rfl

end Calendar

section Digits

/-- The last `w` decimal digits of `n`, most significant first: `n` zero-padded to width `w`. -/
def digitChars : Nat → Nat → List Char
  | 0, _ => []
  | w + 1, n => digitChars w (n / 10) ++ [Nat.digitChar (n % 10)]

@[simp] theorem length_digitChars : ∀ w n, (digitChars w n).length = w
  | 0, _ => rfl
  | w + 1, n => by simp [digitChars, length_digitChars w]

theorem digitChars_zero : ∀ w, digitChars w 0 = List.replicate w '0'
  | 0 => rfl
  | w + 1 => by rw [digitChars, digitChars_zero w, List.replicate_succ']; rfl

theorem mem_digitChars {c : Char} : ∀ {w n}, c ∈ digitChars w n → ∃ d < 10, c = Nat.digitChar d
  | w + 1, n, h => by
    rcases List.mem_append.mp h with h | h
    · exact mem_digitChars h
    · exact ⟨n % 10, Nat.mod_lt _ (by decide), List.mem_singleton.mp h⟩

/-- One step of `Nat.toDigitsCore` in base ten: the last digit goes in front of those found. -/
theorem toDigitsCore_succ (fuel n : Nat) (ds : List Char) :
    Nat.toDigitsCore 10 (fuel + 1) n ds =
      if n / 10 = 0 then Nat.digitChar (n % 10) :: ds
      else Nat.toDigitsCore 10 fuel (n / 10) (Nat.digitChar (n % 10) :: ds) :=
  rfl

theorem toDigitsCore_append : ∀ (fuel n : Nat) (ds : List Char),
    Nat.toDigitsCore 10 fuel n ds = Nat.toDigitsCore 10 fuel n [] ++ ds
  | 0, _, _ => rfl
  | fuel + 1, n, ds => by
    simp only [toDigitsCore_succ]
    split
    · rfl
    · rw [toDigitsCore_append fuel _ (_ :: ds), toDigitsCore_append fuel _ [_],
        List.append_assoc]
      rfl

/-- Enough fuel gives the same digits. -/
theorem toDigitsCore_fuel : ∀ {f₁ f₂ n : Nat} (ds : List Char), n < f₁ → n < f₂ →
    Nat.toDigitsCore 10 f₁ n ds = Nat.toDigitsCore 10 f₂ n ds
  | f₁ + 1, f₂ + 1, n, ds, h₁, h₂ => by
    simp only [toDigitsCore_succ]
    split
    · rfl
    · exact toDigitsCore_fuel _ (by omega) (by omega)

/-- `Nat.toDigits 10`: the digits of `n / 10`, then the last digit. -/
theorem toDigits_ten (n : Nat) : Nat.toDigits 10 n =
    if n < 10 then [Nat.digitChar n] else Nat.toDigits 10 (n / 10) ++ [Nat.digitChar (n % 10)] := by
  show Nat.toDigitsCore 10 (n + 1) n [] = _
  rw [toDigitsCore_succ]
  split_ifs with h₁ h₂ h₂
  · rw [Nat.mod_eq_of_lt h₂]
  · omega
  · omega
  · rw [toDigitsCore_append, toDigitsCore_fuel [] (by omega : n / 10 < n) (Nat.lt_succ_self _)]
    rfl

/-- Zero-padding the digits of `n < 10 ^ w` to width `w`. -/
theorem padded_toDigits : ∀ {w n : Nat}, 0 < w → n < 10 ^ w →
    List.replicate (w - (Nat.toDigits 10 n).length) '0' ++ Nat.toDigits 10 n = digitChars w n
  | w + 1, n, _, h => by
    rw [toDigits_ten]
    split_ifs with hn
    · rw [digitChars, Nat.div_eq_of_lt hn, digitChars_zero, Nat.mod_eq_of_lt hn]
      rfl
    · have hw : 0 < w := Nat.pos_of_ne_zero fun e => by subst e; omega
      have hd : n / 10 < 10 ^ w := by rw [pow_succ] at h; omega
      rw [digitChars, ← padded_toDigits hw hd, List.length_append, List.length_singleton,
        Nat.add_sub_add_right, List.append_assoc]

/-- `appendInt` of a number in range: its digits, zero-padded to the width. -/
theorem appendInt_of_lt {x : Int} {w : Nat} (hw : 0 < w) (h0 : 0 ≤ x) (h : x < 10 ^ w) :
    appendInt x w = ⟨digitChars w x.toNat⟩ := by
  have hx : x.natAbs = x.toNat := by omega
  have hlt : x.toNat < 10 ^ w := by exact_mod_cast (show (x.toNat : Int) < 10 ^ w by omega)
  rw [appendInt, if_neg (by omega), hx, padded_toDigits hw hlt]
  rfl

theorem toNat_digitChar {d : Nat} (h : d < 10) : (Nat.digitChar d).toNat = 48 + d := by
  interval_cases d <;> rfl

theorem byte_digitChar {d : Nat} (h : d < 10) : (byte (Nat.digitChar d)).toNat = 48 + d := by
  interval_cases d <;> rfl

theorem isDigit_byte_digitChar {d : Nat} (h : d < 10) : isDigit (byte (Nat.digitChar d)) = true := by
  interval_cases d <;> rfl

theorem isDigit_of_mem_digitChars {w n : Nat} {b : UInt8} (h : b ∈ (digitChars w n).map byte) :
    isDigit b = true := by
  obtain ⟨c, hc, rfl⟩ := List.mem_map.mp h
  obtain ⟨d, hd, rfl⟩ := mem_digitChars hc
  exact isDigit_byte_digitChar hd

/-- The digits read back: the number modulo `10 ^ w`. -/
theorem digitsNat_digitChars : ∀ w n, digitsNat ((digitChars w n).map byte) = n % 10 ^ w
  | 0, n => by simp [digitChars, digitsNat, Nat.mod_one]
  | w + 1, n => by
    have ih := digitsNat_digitChars w (n / 10)
    simp only [digitsNat] at ih ⊢
    rw [digitChars, List.map_append, List.foldl_append, ih, List.map_singleton, List.foldl_cons,
      List.foldl_nil, byte_digitChar (Nat.mod_lt _ (by decide)), pow_succ', Nat.mod_mul]
    omega

end Digits

section Elements

/-! Each element of the layout `2006-01-02 15:04:05` reads what `Format` writes for it and leaves
the rest of the input. -/

variable {next : Option Chunk} {st : Fields} {rest : List UInt8}

theorem runChunks_cons_of_ok {c : Chunk} {cs : List Chunk} {st' : Fields} {value : List UInt8}
    (h : c.parse (nextStd cs) st value = .ok (st', rest)) :
    runChunks (c :: cs) st value = runChunks cs st' rest := by
  simp only [runChunks, h]

/-- Two digits, as `getnum` reads them, fixed width or not. -/
theorem getnum_digitChars (n : Nat) (fixed : Bool) (rest : List UInt8) :
    getnum ((digitChars 2 n).map byte ++ rest) fixed = some (((n % 100 : Nat) : Int), rest) := by
  have hd : (digitChars 2 n).map byte =
      [byte (Nat.digitChar (n / 10 % 10)), byte (Nat.digitChar (n % 10))] := rfl
  have h₀ := isDigit_byte_digitChar (Nat.mod_lt (n / 10) (by decide : 10 > 0))
  have h₁ := isDigit_byte_digitChar (Nat.mod_lt n (by decide : 10 > 0))
  rw [hd, List.cons_append, List.cons_append, List.nil_append, getnum, if_pos h₀, if_pos h₁, ← hd,
    digitsNat_digitChars]
  rfl

theorem exists_cons_digitChars (w n : Nat) :
    ∃ b bs, (digitChars (w + 1) n).map byte = b :: bs ∧ isDigit b = true := by
  obtain ⟨b, bs, hb⟩ := List.exists_cons_of_ne_nil
    (List.ne_nil_of_length_pos (by simp : 0 < ((digitChars (w + 1) n).map byte).length))
  exact ⟨b, bs, hb, isDigit_of_mem_digitChars (hb ▸ List.mem_cons_self _ _)⟩

theorem atoi_digitChars (n : Nat) :
    atoi ((digitChars 4 n).map byte) = some ((n % 10000 : Nat) : Int) := by
  have hall : ((digitChars 4 n).map byte).all isDigit = true :=
    List.all_eq_true.mpr fun b hb => isDigit_of_mem_digitChars hb
  have hv := digitsNat_digitChars 4 n
  obtain ⟨b, bs, hb, hd⟩ := exists_cons_digitChars 3 n
  have hne : ∀ c, isDigit (byte c) = false → b ≠ byte c :=
    fun c hc he => by rw [he] at hd; rw [hd] at hc; cases hc
  rw [hb] at hall hv
  unfold atoi
  rw [hb]
  simp only [if_neg (hne '-' rfl), if_neg (hne '+' rfl), hall, if_true, Bool.false_eq_true,
    if_false, hv]
  rfl

theorem parse_longYear_digitChars {y : Nat} (hy : y < 10000) :
    Chunk.longYear.parse next st ((digitChars 4 y).map byte ++ rest) =
      .ok ({ st with year := y }, rest) := by
  have hl : ((digitChars 4 y).map byte).length = 4 := by simp
  obtain ⟨b, bs, hb, hd⟩ := exists_cons_digitChars 3 y
  have hhead : ((digitChars 4 y).map byte ++ rest).head? = some b := by rw [hb]; rfl
  simp only [Chunk.parse, List.length_append, hl, hhead, Option.any_some, hd, List.take_left' hl,
    List.drop_left' hl, atoi_digitChars, Nat.mod_eq_of_lt hy]
  rw [if_neg (by simp)]

theorem parse_lit_of_skip {p : String} {value : List UInt8}
    (h : skip value (GoString.ofString p).bytes = .ok rest) :
    (Chunk.lit p).parse next st value = .ok (st, rest) := by
  simp only [Chunk.parse, h]

/-- A literal byte other than a space. -/
theorem parse_lit_byte {p : String} {b : UInt8} (hp : (GoString.ofString p).bytes = [b])
    (hb : b ≠ byte ' ') : (Chunk.lit p).parse next st (b :: rest) = .ok (st, rest) :=
  parse_lit_of_skip (by simp only [hp, skip, skipFrom, if_neg hb, if_true])

/-- The space between the date and the clock, before a byte other than a space. -/
theorem parse_lit_space (hr : rest.head? ≠ some (byte ' ')) :
    (Chunk.lit " ").parse next st (byte ' ' :: rest) = .ok (st, rest) := by
  have hd : (byte ' ' :: rest).dropWhile (· = byte ' ') = rest := by
    rw [List.dropWhile_cons_of_pos (by simp)]
    cases rest with
    | nil => rfl
    | cons r rs =>
      rw [List.dropWhile_cons_of_neg]
      simpa using hr
  refine parse_lit_of_skip ?_
  show skipFrom false [byte ' '] (byte ' ' :: rest) = .ok rest
  simp [skipFrom, hd]

theorem parse_zeroMonth_digitChars {m : Nat} (h₁ : 1 ≤ m) (h₂ : m ≤ 12) :
    Chunk.zeroMonth.parse next st ((digitChars 2 m).map byte ++ rest) =
      .ok ({ st with month := m }, rest) := by
  simp only [Chunk.parse, getnum_digitChars, Nat.mod_eq_of_lt (by omega : m < 100)]
  rw [if_neg (by omega)]

theorem parse_zeroDay_digitChars {d : Nat} (h : d < 100) :
    Chunk.zeroDay.parse next st ((digitChars 2 d).map byte ++ rest) =
      .ok ({ st with day := d }, rest) := by
  simp only [Chunk.parse, getnum_digitChars, Nat.mod_eq_of_lt h]

theorem parse_hour_digitChars {h : Nat} (hh : h < 24) :
    Chunk.hour.parse next st ((digitChars 2 h).map byte ++ rest) =
      .ok ({ st with hour := h }, rest) := by
  simp only [Chunk.parse, getnum_digitChars, Nat.mod_eq_of_lt (by omega : h < 100)]
  rw [if_neg (by omega)]

theorem parse_zeroMinute_digitChars {m : Nat} (h : m < 60) :
    Chunk.zeroMinute.parse next st ((digitChars 2 m).map byte ++ rest) =
      .ok ({ st with min := m }, rest) := by
  simp only [Chunk.parse, getnum_digitChars, Nat.mod_eq_of_lt (by omega : m < 100)]
  rw [if_neg (by omega)]

/-- The seconds at the end of the input: no fraction follows. -/
theorem parse_zeroSecond_digitChars {s : Nat} (h : s < 60) :
    Chunk.zeroSecond.parse next st ((digitChars 2 s).map byte) = .ok ({ st with sec := s }, []) := by
  have e := getnum_digitChars s true []
  rw [List.append_nil] at e
  simp only [Chunk.parse, e, Nat.mod_eq_of_lt (by omega : s < 100)]
  rw [if_neg (by omega)]
  rfl

end Elements

section RoundTrip

/-- `Time.Year`: the year of the wall clock of `t` in its location. -/
def GoTime.year (t : GoTime) : Int := (civilFromDays ((t.sec + t.zone.seconds) / 86400)).1

/-- The text `Format("2006-01-02 15:04:05")` writes for the fields of a wall clock, each
zero-padded to the width of its element. -/
def clockChars (y mo d h mi s : Nat) : List Char :=
  digitChars 4 y ++ '-' :: digitChars 2 mo ++ '-' :: digitChars 2 d ++ ' ' :: digitChars 2 h ++
    ':' :: digitChars 2 mi ++ ':' :: digitChars 2 s

/-- A character of that text: a digit or one of the three separators. -/
def IsClockChar (c : Char) : Prop := c = '-' ∨ c = ' ' ∨ c = ':' ∨ ∃ d < 10, c = Nat.digitChar d

theorem mem_clockChars {c : Char} {y mo d h mi s : Nat} (hc : c ∈ clockChars y mo d h mi s) :
    IsClockChar c := by
  have hd : ∀ {w n}, c ∈ digitChars w n → IsClockChar c :=
    fun h => .inr (.inr (.inr (mem_digitChars h)))
  simp only [clockChars, List.mem_append, List.mem_cons, or_assoc] at hc
  rcases hc with h | h | h | h | h | h | h | h | h | h | h
  all_goals first | exact hd h | (subst h; unfold IsClockChar; simp)

namespace IsClockChar

variable {c : Char} (hc : IsClockChar c)
include hc

theorem toNat_lt : c.toNat < 0x80 := by
  rcases hc with rfl | rfl | rfl | ⟨d, hd, rfl⟩
  any_goals decide
  rw [toNat_digitChar hd]; omega

theorem isTimeByte_byte : isTimeByte (byte c) = true := by
  rcases hc with rfl | rfl | rfl | ⟨d, hd, rfl⟩
  any_goals decide
  exact isTimeByte_of_isDigit (isDigit_byte_digitChar hd)

/-- `json.Marshal` writes such a character as itself. -/
theorem escapeRune (html : Bool) : Json.escapeRune html c = c.toString := by
  rcases hc with rfl | rfl | rfl | ⟨d, hd, rfl⟩
  all_goals cases html
  any_goals rfl
  all_goals interval_cases d <;> rfl

end IsClockChar

/-- The bytes of a text in ASCII are its characters. -/
theorem ofString_ascii {cs : List Char} (h : ∀ c ∈ cs, c.toNat < 0x80) :
    (GoString.ofString ⟨cs⟩).bytes = cs.map byte := by
  show cs.flatMap GoString.encodeRune = _
  induction cs with
  | nil => rfl
  | cons c cs ih =>
    rw [List.flatMap_cons, List.map_cons, ih fun c' hc' => h c' (List.mem_cons_of_mem _ hc')]
    simp [GoString.encodeRune, h c (List.mem_cons_self _ _), byte]

/-- What `json.Marshal` writes for the text: the bytes of its characters between quotes. -/
theorem ofString_quote_clock {cs : List Char} (h : ∀ c ∈ cs, IsClockChar c) (html : Bool) :
    (GoString.ofString (Json.quote html ⟨cs⟩)).bytes = byte '"' :: cs.map byte ++ [byte '"'] := by
  rw [Json.quote, GoString.ofString_append, GoString.ofString_append, ofString_join_map]
  have hm : ((⟨cs⟩ : String).toList.flatMap fun c =>
      (GoString.ofString (Json.escapeRune html c)).bytes) = cs.map byte := by
    rw [← ofString_ascii fun c hc => (h c hc).toNat_lt]
    exact List.flatMap_congr fun c hc => by rw [(h c hc).escapeRune]; exact List.append_nil _
  rw [hm]
  rfl

/-- `strings.Trim(s, "\"")` of a text between quotes that has none itself. -/
theorem trimQuotes_quoted {bs : List UInt8} (h : ∀ b ∈ bs, b ≠ byte '"') :
    NHNCloudTime.trimQuotes ⟨byte '"' :: bs ++ [byte '"']⟩ = ⟨bs⟩ := by
  simp only [NHNCloudTime.trimQuotes, GoString.mk.injEq]
  rw [List.cons_append, List.dropWhile_cons_of_pos (by simp)]
  cases bs with
  | nil => rfl
  | cons b bs =>
    rw [List.cons_append, List.dropWhile_cons_of_neg (by simpa using h b (List.mem_cons_self _ _)),
      ← List.cons_append, List.rdropWhile_concat_pos (fun x => decide (x = byte '"')) (b :: bs)
        (byte '"') (by simp), List.rdropWhile_eq_self_iff]
    intro hne
    simpa using h _ (List.getLast_mem hne)

theorem clock_string (a b c d e f : Nat) :
    (⟨digitChars 4 a⟩ : String) ++ "-" ++ ⟨digitChars 2 b⟩ ++ "-" ++ ⟨digitChars 2 c⟩ ++ " " ++
      ⟨digitChars 2 d⟩ ++ ":" ++ ⟨digitChars 2 e⟩ ++ ":" ++ ⟨digitChars 2 f⟩ =
      ⟨clockChars a b c d e f⟩ := by
  simp only [String.ext_iff, String.data_append, clockChars, List.append_assoc, List.cons_append]
  rfl

/-- `Format("2006-01-02 15:04:05")`, with the fields of the wall clock named. -/
theorem GoTime.format_eq (t : GoTime) : t.format =
    appendInt t.year 4 ++ "-" ++ appendInt (civilFromDays ((t.sec + t.zone.seconds) / 86400)).2.1 2 ++
      "-" ++ appendInt (civilFromDays ((t.sec + t.zone.seconds) / 86400)).2.2 2 ++ " " ++
      appendInt ((t.sec + t.zone.seconds) % 86400 / 3600) 2 ++ ":" ++
      appendInt ((t.sec + t.zone.seconds) % 86400 / 60 % 60) 2 ++ ":" ++
      appendInt ((t.sec + t.zone.seconds) % 86400 % 60) 2 := rfl

/-- What `Format("2006-01-02 15:04:05")` writes for a time whose year has four digits: the
fields of its wall clock, each zero-padded. -/
theorem GoTime.format_eq_clockChars (t : GoTime) (hy : 0 ≤ t.year) (hy' : t.year ≤ 9999) :
    t.format = ⟨clockChars t.year.toNat (civilFromDays ((t.sec + t.zone.seconds) / 86400)).2.1.toNat
      (civilFromDays ((t.sec + t.zone.seconds) / 86400)).2.2.toNat
      ((t.sec + t.zone.seconds) % 86400 / 3600).toNat
      ((t.sec + t.zone.seconds) % 86400 / 60 % 60).toNat
      ((t.sec + t.zone.seconds) % 86400 % 60).toNat⟩ := by
  rw [GoTime.format_eq]
  unfold GoTime.year at hy hy' ⊢
  obtain ⟨hm, hm', hd, hd'⟩ := civilFromDays_valid ((t.sec + t.zone.seconds) / 86400)
  generalize t.sec + t.zone.seconds = wall at *
  have hd31 : (civilFromDays (wall / 86400)).2.2 ≤ 31 :=
    hd'.trans (by unfold daysIn; split_ifs <;> omega)
  rw [appendInt_of_lt (by decide) hy (by omega), appendInt_of_lt (by decide) (by omega) (by omega),
    appendInt_of_lt (by decide) (by omega) (by omega),
    appendInt_of_lt (by decide) (by omega) (by omega : wall % 86400 / 3600 < 10 ^ 2),
    appendInt_of_lt (by decide) (by omega) (by omega : wall % 86400 / 60 % 60 < 10 ^ 2),
    appendInt_of_lt (by decide) (by omega) (by omega : wall % 86400 % 60 < 10 ^ 2), clock_string]

/-- `time.Parse("2006-01-02 15:04:05", _)` of that text: the fields, read in turn. -/
theorem runChunks_clock {y mo d h mi s : Nat} (hy : y < 10000) (hm : 1 ≤ mo) (hm' : mo ≤ 12)
    (hd : d < 100) (hh : h < 24) (hmi : mi < 60) (hs : s < 60) :
    runChunks layoutDateTime.chunks {} ((clockChars y mo d h mi s).map byte) =
      .ok ({ year := y, month := mo, day := d, hour := h, min := mi, sec := s }, []) := by
  obtain ⟨b, bs, hb, hbd⟩ := exists_cons_digitChars 1 h
  have hsp : ((digitChars 2 h).map byte ++ byte ':' :: ((digitChars 2 mi).map byte ++
      byte ':' :: (digitChars 2 s).map byte)).head? ≠ some (byte ' ') := by
    rw [hb]; rintro ⟨⟩; exact absurd hbd (by decide)
  simp only [clockChars, List.map_append, List.map_cons, List.append_assoc, List.cons_append]
  rw [show layoutDateTime.chunks = [.longYear, .lit "-", .zeroMonth, .lit "-", .zeroDay, .lit " ",
      .hour, .lit ":", .zeroMinute, .lit ":", .zeroSecond] from rfl,
    runChunks_cons_of_ok (parse_longYear_digitChars hy),
    runChunks_cons_of_ok (@parse_lit_byte _ _ _ "-" (byte '-') rfl (by decide)),
    runChunks_cons_of_ok (parse_zeroMonth_digitChars hm hm'),
    runChunks_cons_of_ok (@parse_lit_byte _ _ _ "-" (byte '-') rfl (by decide)),
    runChunks_cons_of_ok (parse_zeroDay_digitChars hd),
    runChunks_cons_of_ok (parse_lit_space hsp),
    runChunks_cons_of_ok (parse_hour_digitChars hh),
    runChunks_cons_of_ok (@parse_lit_byte _ _ _ ":" (byte ':') rfl (by decide)),
    runChunks_cons_of_ok (parse_zeroMinute_digitChars hmi),
    runChunks_cons_of_ok (@parse_lit_byte _ _ _ ":" (byte ':') rfl (by decide)),
    runChunks_cons_of_ok (parse_zeroSecond_digitChars hs)]
  rfl

/-- **Format, then Parse.** `time.Parse("2006-01-02 15:04:05", t.Format("2006-01-02 15:04:05"))`
succeeds for every time whose year has four digits, and gives its wall clock in UTC, to the
second: the location and the fraction of a second are not written. -/
theorem parse_format (t : GoTime) (hy : 0 ≤ t.year) (hy' : t.year ≤ 9999) :
    parse layoutDateTime (GoString.ofString t.format) = .ok ⟨t.sec + t.zone.seconds, 0, .utc⟩ := by
  rw [GoTime.format_eq_clockChars t hy hy', parse_eq_ok]
  have hinv := daysFromCivil_civilFromDays ((t.sec + t.zone.seconds) / 86400)
  obtain ⟨hm, hm', hd, hd'⟩ := civilFromDays_valid ((t.sec + t.zone.seconds) / 86400)
  unfold GoTime.year at hy hy' ⊢
  generalize t.sec + t.zone.seconds = wall at *
  generalize civilFromDays (wall / 86400) = ymd at *
  obtain ⟨y, mo, d⟩ := ymd
  dsimp only at *
  have hd31 : d ≤ 31 := hd'.trans (by unfold daysIn; split_ifs <;> omega)
  refine ⟨_, (ofString_ascii fun c hc => (mem_clockChars hc).toNat_lt) ▸
    runChunks_clock (by omega) (by omega) (by omega) (by omega) (by omega) (by omega) (by omega),
    ?_, ?_⟩
  · simp only [Fields.dayValid, Fields.monthDay]
    rw [if_neg (by omega), if_neg (by omega)]
    simp only [Int.toNat_of_nonneg (by omega : 0 ≤ y), Int.toNat_of_nonneg (by omega : 0 ≤ mo),
      Int.toNat_of_nonneg (by omega : 0 ≤ d)]
    omega
  · simp only [Fields.toTime, Fields.monthDay, Fields.zone, date, Zone.seconds]
    rw [if_neg (by omega), if_neg (by omega)]
    simp only [Int.toNat_of_nonneg (by omega : 0 ≤ y), Int.toNat_of_nonneg (by omega : 0 ≤ mo),
      Int.toNat_of_nonneg (by omega : 0 ≤ d), hinv, GoTime.mk.injEq, and_true]
    refine ⟨by omega, rfl⟩

/-- `UnmarshalJSON` of a clock text between quotes, where the first layout parses the text. -/
theorem NHNCloudTime.unmarshalJSON_quoted {ct : NHNCloudTime} {cs : List Char} {t : GoTime}
    (hclock : ∀ c ∈ cs, IsClockChar c)
    (hparse : parse layoutDateTime (GoString.ofString ⟨cs⟩) = .ok t) :
    NHNCloudTime.unmarshalJSON ct ⟨byte '"' :: cs.map byte ++ [byte '"']⟩ = (⟨t⟩, none) := by
  have hbytes : GoString.ofString ⟨cs⟩ = ⟨cs.map byte⟩ :=
    congrArg GoString.mk (ofString_ascii fun c hc => (hclock c hc).toNat_lt)
  have htime : ∀ b ∈ cs.map byte, isTimeByte b = true := fun b hb => by
    obtain ⟨c, hc, rfl⟩ := List.mem_map.mp hb
    exact (hclock c hc).isTimeByte_byte
  have htrim : NHNCloudTime.trimQuotes ⟨byte '"' :: cs.map byte ++ [byte '"']⟩ =
      GoString.ofString ⟨cs⟩ := by
    rw [trimQuotes_quoted fun b hb e => absurd (e ▸ htime b hb) (by decide), hbytes]
  have hnull : GoString.ofString ⟨cs⟩ ≠ GoString.ofString "null" := fun e => by
    have hn : byte 'n' ∈ (GoString.ofString ⟨cs⟩).bytes := by rw [e]; decide
    rw [hbytes] at hn
    cases htime _ hn
  have hempty : GoString.ofString ⟨cs⟩ ≠ .empty := fun e => by
    rw [e] at hparse; cases hparse
  simp only [NHNCloudTime.unmarshalJSON, NHNCloudTime.unmarshalWith, htrim, hnull, hempty,
    or_self, if_false, formats, NHNCloudTime.parseFirst, hparse]

/-- The wall clock `Format` writes, as a clock text that the first layout parses. -/
theorem GoTime.format_clock (t : GoTime) (hy : 0 ≤ t.year) (hy' : t.year ≤ 9999) :
    ∃ cs, t.format = ⟨cs⟩ ∧ (∀ c ∈ cs, IsClockChar c) ∧
      parse layoutDateTime (GoString.ofString ⟨cs⟩) = .ok ⟨t.sec + t.zone.seconds, 0, .utc⟩ :=
  ⟨_, GoTime.format_eq_clockChars t hy hy', fun _ hc => mem_clockChars hc,
    GoTime.format_eq_clockChars t hy hy' ▸ parse_format t hy hy'⟩

/-- **Timestamp round trip.** `UnmarshalJSON` of what `MarshalJSON` writes, into any receiver,
for every time whose year has four digits. The zero time is written `null`, which leaves the
receiver as it was. Any other time comes back as its wall clock read as UTC, to the second: the
same time exactly when it was in UTC and whole seconds, and the zero time when its wall clock is
the first second of year 1. -/
theorem NHNCloudTime.unmarshalJSON_marshalJSON (ct : NHNCloudTime) (t : GoTime)
    (hy : 0 ≤ t.year) (hy' : t.year ≤ 9999) :
    NHNCloudTime.unmarshalJSON ct (GoString.ofString (NHNCloudTime.marshalJSON ⟨t⟩)) =
      if t.isZero then (ct, none) else (⟨⟨t.sec + t.zone.seconds, 0, .utc⟩⟩, none) := by
  unfold NHNCloudTime.marshalJSON
  split_ifs with hz
  · rfl
  obtain ⟨cs, hfmt, hclock, hparse⟩ := GoTime.format_clock t hy hy'
  rw [hfmt, show GoString.ofString (Json.quote true ⟨cs⟩) = ⟨_⟩ from
    congrArg GoString.mk (ofString_quote_clock hclock true)]
  exact NHNCloudTime.unmarshalJSON_quoted hclock hparse

theorem NHNCloudTime.unmarshalJSON_marshalJSON_on_offset :
    (0 ≤ GoTime.year ⟨63843385557, 0, .offset 32400⟩ ∧
      GoTime.year ⟨63843385557, 0, .offset 32400⟩ ≤ 9999) ∧
    NHNCloudTime.unmarshalJSON .zero
        (GoString.ofString (NHNCloudTime.marshalJSON ⟨⟨63843385557, 0, .offset 32400⟩⟩)) =
      if GoTime.isZero ⟨63843385557, 0, .offset 32400⟩ then (.zero, none)
      else (⟨⟨63843385557 + Zone.seconds (.offset 32400), 0, .utc⟩⟩, none) :=
  ⟨⟨by decide, by decide⟩, NHNCloudTime.unmarshalJSON_marshalJSON _ _ (by decide) (by decide)⟩

end RoundTrip

end NhnCloudLayer3
