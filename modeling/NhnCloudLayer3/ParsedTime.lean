/-
The times `time.Parse` builds, and the other half of the calendar.

Every element of a layout reads its field within range: four digits for the year, a month from
1 to 12, an hour below 24, a minute and a second below 60, and a fraction below one second; and
`finish` checks the day against the month. The time `time.Date` builds from such fields has the
wall clock that was read, in the location read, so its year is the year read.

* `civilFromDays_daysFromCivil` — `civilFromDays` undoes `daysFromCivil` on every date that
  exists (with `daysFromCivil_civilFromDays`, the two calendars are inverse bijections);
* `runChunks_inRange` — every layout keeps the fields it reads in range;
* `parse_year` — every time `time.Parse` returns has the year it read, of four digits;
* `NHNCloudTime.unmarshalJSON_year` — so has every time `UnmarshalJSON` stores.
-/
import NhnCloudLayer3.TimeFormat

namespace NhnCloudLayer3

section Calendar

/-- The days of an era before its year `a`, counting from March 1, grow with the year. -/
theorem yearStart_mono {a b : Int} (h : a ≤ b) :
    365 * a + a / 4 - a / 100 ≤ 365 * b + b / 4 - b / 100 := by
  omega

/-- A year of an era has at least 365 days. -/
theorem yearStart_succ (a : Int) :
    365 * a + a / 4 - a / 100 + 365 ≤ 365 * (a + 1) + (a + 1) / 4 - (a + 1) / 100 := by
  omega

/-- A year of an era has 366 days when the calendar year of its February is a leap year,
other than the last year of the era. -/
theorem yearStart_succ_leap {a : Int} (h4 : (a + 1) % 4 = 0) (h100 : (a + 1) % 100 ≠ 0) :
    365 * a + a / 4 - a / 100 + 366 = 365 * (a + 1) + (a + 1) / 4 - (a + 1) / 100 := by
  omega

/-- The year of the era `civilFromDays` computes is the one whose days hold the day: the years
of an era are consecutive runs of days. -/
theorem yearOfEra_unique {N Y : Int} (hY : 0 ≤ Y) (hY' : Y < 400)
    (hN : 365 * Y + Y / 4 - Y / 100 ≤ N) (hN' : N ≤ 146096)
    (hnext : Y < 399 → N < 365 * (Y + 1) + (Y + 1) / 4 - (Y + 1) / 100) :
    (N - N / 1460 + N / 36524 - N / 146096) / 365 = Y := by
  obtain ⟨h0, h1, h2, h3, h4⟩ := yearOfEra_bounds (by omega) hN' rfl rfl
  generalize (N - N / 1460 + N / 36524 - N / 146096) / 365 = Y' at *
  rcases lt_trichotomy Y' Y with h | h | h
  · have := yearStart_mono (by omega : Y' + 1 ≤ Y)
    have := yearStart_succ Y'
    by_cases h365 : N - (365 * Y' + Y' / 4 - Y' / 100) = 365
    · obtain ⟨h4, h100⟩ := h4 h365
      have := yearStart_succ_leap h4 (h100.resolve_right (by omega))
      omega
    · omega
  · exact h
  · have := yearStart_mono (by omega : Y + 1 ≤ Y')
    omega

/-- A month has at most as many days as `civilFromDays` gives its index in the March-based
year. -/
theorem daysIn_le_monthLength {m y : Int} (hm : 1 ≤ m) (hm' : m ≤ 12) :
    daysIn m y ≤ (153 * ((if m > 2 then m - 3 else m + 9) + 1) + 2) / 5 -
      (153 * (if m > 2 then m - 3 else m + 9) + 2) / 5 := by
  have h30 : (if isLeap y then (29 : Int) else 28) ≤ 30 := by split_ifs <;> decide
  unfold daysIn
  interval_cases m <;> simp [h30]

/-- The month index and the day of the March-based year that `daysFromCivil` computes for a date
that exists, and how `civilFromDays` reads them back. -/
theorem marchDay_of_valid {y m d mp doy : Int} (hm : 1 ≤ m) (hm' : m ≤ 12) (hd : 1 ≤ d)
    (hd' : d ≤ daysIn m y) (hmp : mp = if m > 2 then m - 3 else m + 9)
    (hdoy : doy = (153 * mp + 2) / 5 + d - 1) :
    0 ≤ doy ∧ doy ≤ 365 ∧ (5 * doy + 2) / 153 = mp ∧ (if mp < 10 then mp + 3 else mp - 9) = m ∧
      doy - (153 * mp + 2) / 5 + 1 = d ∧
      (doy = 365 → m = 2 ∧ y % 4 = 0 ∧ (y % 100 ≠ 0 ∨ y % 400 = 0)) := by
  have hlen : d ≤ (153 * (mp + 1) + 2) / 5 - (153 * mp + 2) / 5 :=
    hmp ▸ hd'.trans (daysIn_le_monthLength hm hm')
  -- February is the last month of the March-based year, and the only one of 29 days or fewer
  have hfeb : m = 2 → d ≤ 28 ∨ d = 29 ∧ y % 4 = 0 ∧ (y % 100 ≠ 0 ∨ y % 400 = 0) := by
    rintro rfl
    simp only [daysIn, if_true, isLeap_iff] at hd'
    split_ifs at hd' <;> omega
  subst hdoy
  split_ifs at hmp ⊢ <;> omega

/-- `civilFromDays` of a day given as an era and a day of the era, whose year of the era, day of
that year and month index are known. -/
theorem civilFromDays_of_parts {D era doe yoe doy mp : Int} (hD : D = era * 146097 + doe - 306)
    (h0 : 0 ≤ doe) (h1 : doe ≤ 146096)
    (hyoe : (doe - doe / 1460 + doe / 36524 - doe / 146096) / 365 = yoe)
    (hdoy : doe - (365 * yoe + yoe / 4 - yoe / 100) = doy) (hmp : (5 * doy + 2) / 153 = mp) :
    civilFromDays D =
      (yoe + era * 400 + (if (if mp < 10 then mp + 3 else mp - 9) ≤ 2 then 1 else 0),
        if mp < 10 then mp + 3 else mp - 9, doy - (153 * mp + 2) / 5 + 1) := by
  have hera : (D + 306) / 146097 = era := ediv_of_split (by omega) h0 (by omega)
  have hdoe : D + 306 - era * 146097 = doe := by omega
  simp only [civilFromDays, hera, hdoe, hyoe, hdoy, hmp]

/-- The day of the era `daysFromCivil` computes for the day `doy` of the March-based year `y'`,
from which `civilFromDays` reads back the year of the era. -/
theorem dayOfEra_of_march {y' yoe doy doe : Int} (h0 : 0 ≤ doy) (h1 : doy ≤ 365)
    (hleap : doy = 365 → (y' + 1) % 4 = 0 ∧ ((y' + 1) % 100 ≠ 0 ∨ (y' + 1) % 400 = 0))
    (hyoe : yoe = y' - y' / 400 * 400) (hdoe : doe = 365 * yoe + yoe / 4 - yoe / 100 + doy) :
    0 ≤ doe ∧ doe ≤ 146096 ∧ (doe - doe / 1460 + doe / 36524 - doe / 146096) / 365 = yoe := by
  have hY : 0 ≤ yoe ∧ yoe < 400 := by omega
  refine ⟨by omega, by omega, yearOfEra_unique hY.1 hY.2 (by omega) (by omega) fun hlt => ?_⟩
  have := yearStart_succ yoe
  by_cases h365 : doy = 365
  · obtain ⟨h4, h100⟩ := hleap h365
    have := @yearStart_succ_leap yoe (by omega) (by omega)
    omega
  · omega

/-- **Calendar inverse.** `civilFromDays`, the calendar of `Time.Format`, undoes
`daysFromCivil`, the calendar of `time.Date`, on every date that exists. -/
theorem civilFromDays_daysFromCivil {y m d : Int} (hm : 1 ≤ m) (hm' : m ≤ 12) (hd : 1 ≤ d)
    (hd' : d ≤ daysIn m y) : civilFromDays (daysFromCivil y m d) = (y, m, d) := by
  obtain ⟨mp, hmp⟩ : ∃ mp, mp = if m > 2 then m - 3 else m + 9 := ⟨_, rfl⟩
  obtain ⟨doy, hdoy⟩ : ∃ doy, doy = (153 * mp + 2) / 5 + d - 1 := ⟨_, rfl⟩
  obtain ⟨h0, h365, hmp', hmonth, hday, hleap⟩ := marchDay_of_valid hm hm' hd hd' hmp hdoy
  -- January and February belong to the March-based year before
  obtain ⟨y', hy'⟩ : ∃ y', y' = if m ≤ 2 then y - 1 else y := ⟨_, rfl⟩
  have hyear : y' + (if m ≤ 2 then 1 else 0) = y ∧ (m = 2 → y' + 1 = y) := by
    split_ifs at hy' ⊢ <;> omega
  obtain ⟨hdoe0, hdoe1, hyoe⟩ := dayOfEra_of_march h0 h365
    (fun h => (hyear.2 (hleap h).1).symm ▸ (hleap h).2) rfl rfl
  have hdays : daysFromCivil y m d =
      y' / 400 * 146097 + (365 * (y' - y' / 400 * 400) + (y' - y' / 400 * 400) / 4 -
        (y' - y' / 400 * 400) / 100 + doy) - 306 := by
    simp only [daysFromCivil, ← hy', ← hmp, ← hdoy]
    omega
  rw [@civilFromDays_of_parts _ _ _ _ doy mp hdays hdoe0 hdoe1 hyoe (by omega) hmp', hmonth, hday]
  simp only [Prod.mk.injEq, and_true]
  omega

end Calendar

section Ranges

theorem toNat_of_isDigit {b : UInt8} (h : isDigit b = true) : 48 ≤ b.toNat ∧ b.toNat ≤ 57 := by
  simp only [isDigit, Bool.and_eq_true, decide_eq_true_eq] at h
  exact h

theorem foldl_digits_lt {bs : List UInt8} (h : ∀ b ∈ bs, isDigit b = true) :
    ∀ acc : Nat, bs.foldl (fun n b => 10 * n + (b.toNat - 48)) acc < (acc + 1) * 10 ^ bs.length := by
  induction bs with
  | nil => intro acc; simp
  | cons b bs ih =>
    intro acc
    have hb := toNat_of_isDigit (h b (List.mem_cons_self _ _))
    calc List.foldl _ (10 * acc + (b.toNat - 48)) bs
        < (10 * acc + (b.toNat - 48) + 1) * 10 ^ bs.length :=
          ih (fun b' hb' => h b' (List.mem_cons_of_mem _ hb')) _
      _ ≤ (10 * (acc + 1)) * 10 ^ bs.length := Nat.mul_le_mul_right _ (by omega)
      _ = (acc + 1) * 10 ^ (b :: bs).length := by
          rw [List.length_cons, pow_succ]; ring

/-- Digits spell a number below ten to the power of their count. -/
theorem digitsNat_lt {bs : List UInt8} (h : ∀ b ∈ bs, isDigit b = true) :
    digitsNat bs < 10 ^ bs.length := by
  simpa using foldl_digits_lt h 0

/-- `atoi` reads a number below ten to the power of the length of its input. -/
theorem atoi_lt {s : List UInt8} {k : Int} (h : atoi s = some k) : k < 10 ^ s.length := by
  have hd : ∀ {r : List UInt8}, r.all isDigit = true → (digitsNat r : Int) < 10 ^ r.length :=
    fun hr => by exact_mod_cast digitsNat_lt fun b hb => List.all_eq_true.mp hr b hb
  cases s with
  | nil => cases h; decide
  | cons b r =>
    simp only [atoi] at h
    have hpow : (10 : Int) ^ r.length ≤ 10 ^ (b :: r).length :=
      pow_le_pow_right₀ (by norm_num) (by simp)
    have hpos : (0 : Int) < 10 ^ (b :: r).length := by positivity
    split_ifs at h with h₁ h₂ h₃ h₄ h₅ <;> cases h <;> simp only at * <;>
      first | contradiction | (have h := hd ‹_›; omega)

/-- `atoi` of an input that starts with a digit, hence with no sign, is not negative. -/
theorem atoi_nonneg {s : List UInt8} {k : Int} (hs : ∀ b ∈ s.head?, isDigit b = true)
    (h : atoi s = some k) : 0 ≤ k := by
  cases s with
  | nil => cases h; decide
  | cons b r =>
    simp only [atoi] at h
    have hb := hs b rfl
    split_ifs at h with h₁ h₂ h₃ h₄ h₅ <;> cases h <;> simp only at * <;>
      first | contradiction | omega | (subst h₁; cases hb)

/-- A fraction `parseNanoseconds` reads is less than a second. -/
theorem parseNanoseconds_lt {value : List UInt8} {n ns : Nat}
    (h : parseNanoseconds value n = .ok ns) : ns < 10 ^ 9 := by
  unfold parseNanoseconds at h
  split_ifs at h with hhead
  dsimp only at h
  split at h
  · rename_i k hk
    split_ifs at h with hneg
    cases h
    have hlt := atoi_lt hk
    have hlen : ((value.take (min n 10)).drop 1).length ≤ min n 10 - 1 := by
      simp only [List.length_drop, List.length_take]; omega
    have hk' : k.toNat < 10 ^ (min n 10 - 1) := by
      have : (10 : Int) ^ ((value.take (min n 10)).drop 1).length ≤ 10 ^ (min n 10 - 1) :=
        pow_le_pow_right₀ (by norm_num) hlen
      zify; omega
    rcases Nat.eq_zero_or_pos (min n 10) with h0 | h0
    · have hz : k.toNat = 0 := by rw [h0] at hk'; simpa using hk'
      rw [hz, Nat.zero_mul]
      positivity
    · calc k.toNat * 10 ^ (10 - min n 10) < 10 ^ (min n 10 - 1) * 10 ^ (10 - min n 10) :=
            Nat.mul_lt_mul_of_pos_right hk' (by positivity)
        _ = 10 ^ 9 := by rw [← pow_add]; congr 1; omega
  · cases h

/-- The fields `time.parse` has read are in range: a year of four digits, a month from 1 to 12
once one is read, an hour, a minute and a second of the clock, and nanoseconds below one
second. -/
structure Fields.InRange (st : Fields) : Prop where
  year : 0 ≤ st.year ∧ st.year ≤ 9999
  month : st.month < 0 ∨ 1 ≤ st.month ∧ st.month ≤ 12
  hour : 0 ≤ st.hour ∧ st.hour < 24
  min : 0 ≤ st.min ∧ st.min < 60
  sec : 0 ≤ st.sec ∧ st.sec < 60
  nsec : st.nsec < 10 ^ 9

theorem Fields.inRange_empty : ({} : Fields).InRange :=
  ⟨by decide, by decide, by decide, by decide, by decide, by decide⟩

/-- After `05`, the fraction read, if any, is less than a second. -/
theorem fractionAfterSeconds_inRange {next : Option Chunk} {st st' : Fields}
    {value rest : List UInt8} (h : fractionAfterSeconds next st value = .ok (st', rest))
    (hst : st.InRange) : st'.InRange := by
  rcases fractionAfterSeconds_ok h with ⟨rfl, -⟩ | ⟨ns, -, hns, rfl, -⟩
  · exact hst
  · exact ⟨hst.year, hst.month, hst.hour, hst.min, hst.sec, parseNanoseconds_lt hns⟩

/-- **Step.** Every element of a layout keeps the fields in range: each checks the range of
what it reads, or reads no more digits than the range has. -/
theorem Chunk.parse_inRange {next : Option Chunk} {c : Chunk} {st st' : Fields}
    {value rest : List UInt8} (h : c.parse next st value = .ok (st', rest)) (hst : st.InRange) :
    st'.InRange := by
  obtain ⟨hy, hmo, hh, hmi, hs, hns⟩ := hst
  cases c
  case lit => obtain ⟨rfl, -⟩ := parse_lit_ok h; exact ⟨hy, hmo, hh, hmi, hs, hns⟩
  case fracSecond0 =>
    obtain ⟨-, ns, hp, rfl, -⟩ := parse_fracSecond0_ok h
    exact ⟨hy, hmo, hh, hmi, hs, parseNanoseconds_lt hp⟩
  case iso8601ColonTZ =>
    rcases isoOffset_ok h with ⟨-, rfl, -⟩ | ⟨-, -, -, o, rfl⟩ <;> exact ⟨hy, hmo, hh, hmi, hs, hns⟩
  case longYear =>
    simp only [Chunk.parse] at h
    split_ifs at h with hl
    split at h
    · rename_i y hyv
      cases h
      have hhead : ∀ b ∈ (value.take 4).head?, isDigit b = true := fun b hb => by
        rw [List.head?_take, if_neg (by decide)] at hb
        exact (by simpa [Option.mem_def.mp hb] using hl : 4 ≤ value.length ∧ isDigit b = true).2
      have hlt : y < 10 ^ 4 := (atoi_lt hyv).trans_le
        (pow_le_pow_right₀ (by norm_num) (List.length_take_le _ _))
      exact ⟨⟨atoi_nonneg hhead hyv, by dsimp only; omega⟩, hmo, hh, hmi, hs, hns⟩
    · cases h
  case zeroSecond =>
    simp only [Chunk.parse] at h
    split at h
    · split_ifs at h with hr
      exact fractionAfterSeconds_inRange h ⟨hy, hmo, hh, hmi, by dsimp only; omega, hns⟩
    · cases h
  all_goals
    simp only [Chunk.parse] at h
    split at h
    all_goals first | cases h | skip
    try split_ifs at h
    all_goals first | cases h | skip
  · exact ⟨hy, .inr (by dsimp only; omega), hh, hmi, hs, hns⟩
  · exact ⟨hy, hmo, hh, hmi, hs, hns⟩
  · exact ⟨hy, hmo, by dsimp only; omega, hmi, hs, hns⟩
  · exact ⟨hy, hmo, hh, by dsimp only; omega, hs, hns⟩

/-- **Run.** A whole layout keeps the fields in range. -/
theorem runChunks_inRange : ∀ {cs : List Chunk} {st st' : Fields} {value rest : List UInt8},
    runChunks cs st value = .ok (st', rest) → st.InRange → st'.InRange
  | [], _, _, _, _, h, hst => by cases h; exact hst
  | _ :: _, _, _, _, _, h, hst => by
    obtain ⟨_, _, hc, hrest⟩ := runChunks_cons_ok h
    exact runChunks_inRange hrest (Chunk.parse_inRange hc hst)

/-- The time built from fields in range, whose day exists, has the date read as the date of its
wall clock. -/
theorem Fields.civil_toTime {st : Fields} (h : st.InRange) (hv : st.dayValid) :
    civilFromDays ((st.toTime.sec + st.toTime.zone.seconds) / 86400) =
      (st.year, st.monthDay.1, st.monthDay.2) := by
  have hmd : 1 ≤ st.monthDay.1 ∧ st.monthDay.1 ≤ 12 := by
    have := h.month
    simp only [Fields.monthDay]
    split_ifs <;> omega
  have hns : (st.nsec : Int) < 1000000000 := by exact_mod_cast h.nsec
  have hh := h.hour
  have hmi := h.min
  have hs := h.sec
  have hwall : (st.toTime.sec + st.toTime.zone.seconds) / 86400 =
      daysFromCivil st.year st.monthDay.1 st.monthDay.2 := by
    simp only [Fields.toTime, date]
    exact @ediv_of_split _ 86400 _ (st.hour * 3600 + st.min * 60 + st.sec) (by omega) (by omega)
      (by omega)
  rw [hwall]
  exact civilFromDays_daysFromCivil hmd.1 hmd.2 hv.1 hv.2

/-- **Parsed years.** Every time `time.Parse` returns has the year it read as the year of its
wall clock, of four digits. -/
theorem parse_year {layout : Layout} {value : GoString} {t : GoTime}
    (h : parse layout value = .ok t) : 0 ≤ t.year ∧ t.year ≤ 9999 := by
  obtain ⟨st, hrun, hv, rfl⟩ := parse_eq_ok.mp h
  have hst := runChunks_inRange hrun Fields.inRange_empty
  unfold GoTime.year
  rw [Fields.civil_toTime hst hv]
  exact hst.year

/-- Every time `UnmarshalJSON` stores has a four-digit year: it keeps the receiver's time, or
stores one `time.Parse` returned. -/
theorem NHNCloudTime.unmarshalJSON_year {ct : NHNCloudTime}
    (h : 0 ≤ ct.time.year ∧ ct.time.year ≤ 9999) (data : GoString) :
    0 ≤ (NHNCloudTime.unmarshalJSON ct data).1.time.year ∧
      (NHNCloudTime.unmarshalJSON ct data).1.time.year ≤ 9999 := by
  simp only [NHNCloudTime.unmarshalJSON, NHNCloudTime.unmarshalWith]
  split_ifs
  · exact h
  · split
    · obtain ⟨l, -, hp⟩ := NHNCloudTime.parseFirst_ok ‹_›
      exact parse_year hp
    · exact h

end Ranges

end NhnCloudLayer3
