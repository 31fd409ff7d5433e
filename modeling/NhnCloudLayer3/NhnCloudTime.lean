/-
`NHNCloudTime`: the timestamp of a routing table.

`NHNCloudTime.UnmarshalJSON` strips the double quotes around the raw value, leaves the time as
it was for `null` and for the empty string, and otherwise tries six layouts in turn, keeping
the first that parses (`unmarshalWith`); `MarshalJSON` writes `null` for the zero time and the
wall clock in the layout `2006-01-02 15:04:05` otherwise.

* `formats_agree` — wherever two of the six layouts both parse an input, they give the same
  time, so the order of the list does not matter (`unmarshalWith_perm`).

The offset is not written back: a time read with a non-zero offset comes back at the same wall
clock in UTC, a different instant.
-/
import Mathlib.Data.List.DropRight
import NhnCloudLayer3.Time

namespace NhnCloudLayer3

/-- `"2006-01-02 15:04:05"`, the most common format. -/
def layoutDateTime : Layout :=
  ⟨"2006-01-02 15:04:05", [.longYear, .lit "-", .zeroMonth, .lit "-", .zeroDay, .lit " ", .hour,
    .lit ":", .zeroMinute, .lit ":", .zeroSecond]⟩

/-- `"2006-01-02T15:04:05"`, without a time zone. -/
def layoutDateTimeT : Layout :=
  ⟨"2006-01-02T15:04:05", [.longYear, .lit "-", .zeroMonth, .lit "-", .zeroDay, .lit "T", .hour,
    .lit ":", .zeroMinute, .lit ":", .zeroSecond]⟩

/-- `"2006-01-02T15:04:05Z"`, with a literal `Z`. -/
def layoutDateTimeZ : Layout :=
  ⟨"2006-01-02T15:04:05Z", [.longYear, .lit "-", .zeroMonth, .lit "-", .zeroDay, .lit "T", .hour,
    .lit ":", .zeroMinute, .lit ":", .zeroSecond, .lit "Z"]⟩

/-- `"2006-01-02T15:04:05Z07:00"`, RFC 3339. -/
def layoutRFC3339 : Layout :=
  ⟨"2006-01-02T15:04:05Z07:00", [.longYear, .lit "-", .zeroMonth, .lit "-", .zeroDay, .lit "T",
    .hour, .lit ":", .zeroMinute, .lit ":", .zeroSecond, .iso8601ColonTZ]⟩

/-- `"2006-01-02 15:04:05.000000"`, with microseconds. -/
def layoutDateTimeMicro : Layout :=
  ⟨"2006-01-02 15:04:05.000000", [.longYear, .lit "-", .zeroMonth, .lit "-", .zeroDay, .lit " ",
    .hour, .lit ":", .zeroMinute, .lit ":", .zeroSecond, .fracSecond0 6]⟩

/-- `"2006-01-02T15:04:05.000000Z"`, with microseconds and a literal `Z`. -/
def layoutDateTimeMicroZ : Layout :=
  ⟨"2006-01-02T15:04:05.000000Z", [.longYear, .lit "-", .zeroMonth, .lit "-", .zeroDay, .lit "T",
    .hour, .lit ":", .zeroMinute, .lit ":", .zeroSecond, .fracSecond0 6, .lit "Z"]⟩

/-- `formats`, in the order `NHNCloudTime.UnmarshalJSON` tries them. -/
def formats : List Layout :=
  [layoutDateTime, layoutDateTimeT, layoutDateTimeZ, layoutRFC3339, layoutDateTimeMicro,
    layoutDateTimeMicroZ]

example : formats.all (fun l => String.join (l.chunks.map Chunk.text) == l.text) = true := by
  decide

/-- `NHNCloudTime`, a `time.Time` embedded in a struct. -/
structure NHNCloudTime where
  time : GoTime
  deriving DecidableEq, Repr

namespace NHNCloudTime

/-- The zero value. -/
def zero : NHNCloudTime := ⟨GoTime.zero⟩

/-- `strings.Trim(s, "\"")`: the bytes without the double quotes at either end. -/
def trimQuotes (s : GoString) : GoString :=
  ⟨(s.bytes.dropWhile (· = byte '"')).rdropWhile (· = byte '"')⟩

/-- The loop over the layouts: the first time one of them parses, else the error of the last
(`parseErr`, nil before the first). -/
def parseFirst (s : GoString) : List Layout → GoError → Except GoError GoTime
  | [], parseErr => .error parseErr
  | l :: ls, _ =>
    match parse l s with
    | .ok t => .ok t
    | .error err => parseFirst s ls err

/-- `UnmarshalJSON` with the format list `fs`. -/
def unmarshalWith (fs : List Layout) (ct : NHNCloudTime) (data : GoString) :
    NHNCloudTime × Option GoError :=
  let s := trimQuotes data
  if s = GoString.ofString "null" ∨ s = GoString.empty then (ct, none)
  else
    match parseFirst s fs .nilError with
    | .ok t => (⟨t⟩, none)
    | .error err => (ct, some (.unparsableTime s err))

/-- `NHNCloudTime.UnmarshalJSON`. -/
def unmarshalJSON (ct : NHNCloudTime) (data : GoString) : NHNCloudTime × Option GoError :=
  unmarshalWith formats ct data

/-- `NHNCloudTime.MarshalJSON`: `null` for the zero time, else `json.Marshal` of the wall
clock. -/
def marshalJSON (ct : NHNCloudTime) : String :=
  if ct.time.isZero then "null" else Json.quote true ct.time.format

/-- `NHNCloudTime.String`. -/
def string (ct : NHNCloudTime) : String := ct.time.format

end NHNCloudTime

section Tails

variable {st st' : Fields} {r : List UInt8} {res : Fields × List UInt8}

theorem runChunks_nil_ok (h : runChunks [] st r = .ok res) : res = (st, r) := by
  cases h; rfl

theorem runChunks_seconds_ok {cs : List Chunk} (h : runChunks (.zeroSecond :: cs) st r = .ok res) :
    ∃ s r₁ st₁ r₂, getnum r true = some (s, r₁) ∧
      fractionAfterSeconds (nextStd cs) { st with sec := s } r₁ = .ok (st₁, r₂) ∧
      runChunks cs st₁ r₂ = .ok res := by
  obtain ⟨st₁, r₂, hc, hrest⟩ := runChunks_cons_ok h
  obtain ⟨s, r₁, hg, hf⟩ := parse_zeroSecond_ok hc
  exact ⟨s, r₁, st₁, r₂, hg, hf, hrest⟩

theorem runChunks_frac6_ok {cs : List Chunk} (h : runChunks (.fracSecond0 6 :: cs) st r = .ok res) :
    7 ≤ r.length ∧ ∃ ns, parseNanoseconds r 7 = .ok ns ∧
      runChunks cs { st with nsec := ns } (r.drop 7) = .ok res := by
  obtain ⟨st₁, r₂, hc, hrest⟩ := runChunks_cons_ok h
  obtain ⟨hl, ns, hp, rfl, rfl⟩ := parse_fracSecond0_ok hc
  exact ⟨hl, ns, hp, hrest⟩

theorem skip_single {p : UInt8} (hp : p ≠ byte ' ') {rest : List UInt8}
    (h : skip r [p] = .ok rest) : r = p :: rest := by
  cases r with
  | nil => simp [skip, skipFrom, hp] at h
  | cons c r =>
    simp only [skip, skipFrom, if_neg hp] at h
    split_ifs at h with hc
    subst hc; cases h; rfl

theorem runChunks_Z_ok (h : runChunks [.lit "Z"] st r = .ok (st', [])) : st' = st ∧ r = [byte 'Z'] := by
  obtain ⟨st₁, r₂, hc, hrest⟩ := runChunks_cons_ok h
  obtain ⟨rfl, hs⟩ := parse_lit_ok hc
  cases runChunks_nil_ok hrest
  exact ⟨rfl, skip_single (by decide) hs⟩

theorem runChunks_iso_ok (h : runChunks [.iso8601ColonTZ] st r = .ok (st', [])) :
    isoOffset st r = .ok (st', []) := by
  obtain ⟨st₁, r₂, hc, hrest⟩ := runChunks_cons_ok h
  cases runChunks_nil_ok hrest
  exact hc

/-- A layout that reads a `T` after the date and one that reads a space there never both
succeed. -/
theorem runChunks_space_T {ta tb : List Chunk} {x y : Fields × List UInt8}
    (ha : runChunks (.lit " " :: ta) st r = .ok x) (hb : runChunks (.lit "T" :: tb) st r = .ok y) :
    False := by
  obtain ⟨_, _, hca, -⟩ := runChunks_cons_ok ha
  obtain ⟨_, _, hcb, -⟩ := runChunks_cons_ok hb
  obtain ⟨-, hsa⟩ := parse_lit_ok hca
  obtain ⟨-, hsb⟩ := parse_lit_ok hcb
  cases skip_single (by decide) hsb
  have e : (GoString.ofString " ").bytes = [byte ' '] := rfl
  simp only [e, skip, skipFrom, if_true, Bool.false_eq_true, if_false] at hsa
  rw [if_pos (by decide)] at hsa
  cases hsa

theorem fractionAfterSeconds_of_not_frac (next : Option Chunk) (hn : isFracSecond next = false)
    (st : Fields) (value : List UInt8) :
    fractionAfterSeconds next st value = fractionAfterSeconds none st value := by
  unfold fractionAfterSeconds
  simp only [hn]
  rfl

theorem fractionAfterSeconds_zone {next : Option Chunk} {st₁ : Fields} {r₂ : List UInt8}
    (h : fractionAfterSeconds next st r = .ok (st₁, r₂)) :
    st₁.z = st.z ∧ st₁.zoneOffset = st.zoneOffset := by
  rcases fractionAfterSeconds_ok h with ⟨rfl, -⟩ | ⟨_, -, -, rfl, -⟩ <;> exact ⟨rfl, rfl⟩

/-- `05` followed by elements other than a fraction. -/
theorem runChunks_seconds_plain_ok {cs : List Chunk}
    (h : runChunks (.zeroSecond :: cs) st r = .ok res) (hn : isFracSecond (nextStd cs) = false) :
    ∃ s r₁ st₁ r₂, getnum r true = some (s, r₁) ∧
      fractionAfterSeconds none { st with sec := s } r₁ = .ok (st₁, r₂) ∧
      runChunks cs st₁ r₂ = .ok res := by
  obtain ⟨s, r₁, st₁, r₂, hg, hf, hrest⟩ := runChunks_seconds_ok h
  rw [fractionAfterSeconds_of_not_frac _ hn] at hf
  exact ⟨s, r₁, st₁, r₂, hg, hf, hrest⟩

/-- `05.000000`: seconds, then exactly six fraction digits. -/
theorem runChunks_seconds_micro_ok {cs : List Chunk}
    (h : runChunks (.zeroSecond :: .fracSecond0 6 :: cs) st r = .ok res) :
    ∃ s r₁ ns, getnum r true = some (s, r₁) ∧ 7 ≤ r₁.length ∧ parseNanoseconds r₁ 7 = .ok ns ∧
      runChunks cs { st with sec := s, nsec := ns } (r₁.drop 7) = .ok res := by
  obtain ⟨s, r₁, st₁, r₂, hg, hf, hrest⟩ := runChunks_seconds_ok h
  rw [fractionAfterSeconds_of_isFrac (nextStd (.fracSecond0 6 :: cs)) rfl] at hf
  cases hf
  obtain ⟨hl, ns, hp, hrest⟩ := runChunks_frac6_ok hrest
  exact ⟨s, r₁, ns, hg, hl, hp, hrest⟩

theorem fraction_length_le (h : r ≠ []) : 1 + (r.tail.takeWhile isDigit).length ≤ r.length := by
  have : (r.tail.takeWhile isDigit).length ≤ r.tail.length := (List.takeWhile_prefix isDigit).length_le
  rw [List.length_tail] at this
  have := List.length_pos.mpr h
  omega

theorem parseNanoseconds_head {n ns : Nat} (h : parseNanoseconds r n = .ok ns) :
    r.head? = some (byte '.') ∨ r.head? = some (byte ',') := by
  unfold parseNanoseconds at h
  split_ifs at h with hc
  exact hc

end Tails

section Pairs

/-- `2006-01-02`, then the separator and `15:04:`, where every layout starts. -/
def dateClockChunks (sep : String) : List Chunk :=
  [.longYear, .lit "-", .zeroMonth, .lit "-", .zeroDay, .lit sep, .hour, .lit ":", .zeroMinute,
    .lit ":"]

/-- Two layouts give the same time wherever both parse. -/
structure LayoutsAgree (la lb : Layout) : Prop where
  agree : ∀ (v : GoString) (t₁ t₂ : GoTime), parse la v = .ok t₁ → parse lb v = .ok t₂ → t₁ = t₂

theorem LayoutsAgree.refl (l : Layout) : LayoutsAgree l l := ⟨fun _ _ _ h₁ h₂ => by
  rw [h₁] at h₂; cases h₂; rfl⟩

theorem LayoutsAgree.symm {la lb : Layout} (h : LayoutsAgree la lb) : LayoutsAgree lb la :=
  ⟨fun v _ _ h₁ h₂ => (h.agree v _ _ h₂ h₁).symm⟩

/-- A layout with a space after the date and one with a `T` never parse the same input. -/
theorem agree_space_T {la lb : Layout} {ta tb : List Chunk}
    (ha : la.chunks = [.longYear, .lit "-", .zeroMonth, .lit "-", .zeroDay] ++ .lit " " :: ta)
    (hb : lb.chunks = [.longYear, .lit "-", .zeroMonth, .lit "-", .zeroDay] ++ .lit "T" :: tb) :
    LayoutsAgree la lb := ⟨fun _ _ _ h₁ h₂ =>
  parse_agree_of_tails _ _ _ (by decide) (by decide) ha hb
    (fun _ _ _ _ _ _ hta htb => (runChunks_space_T hta htb).elim) h₁ h₂⟩

theorem agree_dateTime_micro : LayoutsAgree layoutDateTime layoutDateTimeMicro := by
  refine ⟨fun v t₁ t₂ h₁ h₂ => ?_⟩
  refine parse_agree_of_tails (dateClockChunks " ") [.zeroSecond] [.zeroSecond, .fracSecond0 6]
    (by decide) (by decide) rfl rfl ?_ h₁ h₂
  intro st r sta stb _ _ ha hb
  obtain ⟨s, r₁, st₁, r₂, hg, hf, hn⟩ := runChunks_seconds_plain_ok ha rfl
  obtain ⟨s', r₁', ns, hg', hl, hp, hrest⟩ := runChunks_seconds_micro_ok hb
  rw [hg] at hg'; cases hg'
  obtain ⟨rfl, rfl⟩ := Prod.mk.inj_iff.mp (runChunks_nil_ok hn)
  obtain ⟨rfl, h7⟩ := Prod.mk.inj_iff.mp (runChunks_nil_ok hrest)
  rcases fractionAfterSeconds_ok hf with ⟨-, rfl⟩ | ⟨ns', hne, hp', rfl, hr⟩
  · simp at hl
  · have := fraction_length_le hne
    have hn7 : 1 + (r₁.tail.takeWhile isDigit).length = 7 := by
      have := congrArg List.length hr
      have := congrArg List.length h7
      simp only [List.length_drop, List.length_nil] at *
      omega
    rw [hn7, hp] at hp'
    cases hp'
    rfl

theorem agree_dateTimeZ_microZ : LayoutsAgree layoutDateTimeZ layoutDateTimeMicroZ := by
  refine ⟨fun v t₁ t₂ h₁ h₂ => ?_⟩
  refine parse_agree_of_tails (dateClockChunks "T") [.zeroSecond, .lit "Z"]
    [.zeroSecond, .fracSecond0 6, .lit "Z"] (by decide) (by decide) rfl rfl ?_ h₁ h₂
  intro st r sta stb _ _ ha hb
  obtain ⟨s, r₁, st₁, r₂, hg, hf, hn⟩ := runChunks_seconds_plain_ok ha rfl
  obtain ⟨s', r₁', ns, hg', hl, hp, hrest⟩ := runChunks_seconds_micro_ok hb
  rw [hg] at hg'; cases hg'
  obtain ⟨rfl, rfl⟩ := runChunks_Z_ok hn
  obtain ⟨rfl, h7⟩ := runChunks_Z_ok hrest
  rcases fractionAfterSeconds_ok hf with ⟨-, rfl⟩ | ⟨ns', hne, hp', rfl, hr⟩
  · simp at hl
  · have hn7 : 1 + (r₁.tail.takeWhile isDigit).length = 7 := by
      have := congrArg List.length hr
      have := congrArg List.length h7
      simp only [List.length_drop, List.length_cons, List.length_nil] at *
      omega
    rw [hn7, hp] at hp'
    cases hp'
    rfl

theorem agree_dateTimeZ_rfc3339 : LayoutsAgree layoutDateTimeZ layoutRFC3339 := by
  refine ⟨fun v t₁ t₂ h₁ h₂ => ?_⟩
  refine parse_agree_of_tails (dateClockChunks "T") [.zeroSecond, .lit "Z"]
    [.zeroSecond, .iso8601ColonTZ] (by decide) (by decide) rfl rfl ?_ h₁ h₂
  intro st r sta stb hz ho ha hb
  obtain ⟨s, r₁, st₁, r₂, hg, hf, hn⟩ := runChunks_seconds_plain_ok ha rfl
  obtain ⟨s', r₁', st₁', r₂', hg', hf', hn'⟩ := runChunks_seconds_plain_ok hb rfl
  rw [hg] at hg'; cases hg'
  rw [hf] at hf'; cases hf'
  obtain ⟨rfl, rfl⟩ := runChunks_Z_ok hn
  obtain ⟨hz₁, ho₁⟩ := fractionAfterSeconds_zone hf
  rcases isoOffset_ok (runChunks_iso_ok hn') with ⟨-, rfl, -⟩ | ⟨hl, -⟩
  · exact (Fields.toTime_utc (hz₁.trans hz) (ho₁.trans ho)).symm
  · simp at hl

theorem agree_rfc3339_microZ : LayoutsAgree layoutRFC3339 layoutDateTimeMicroZ := by
  refine ⟨fun v t₁ t₂ h₁ h₂ => ?_⟩
  refine parse_agree_of_tails (dateClockChunks "T") [.zeroSecond, .iso8601ColonTZ]
    [.zeroSecond, .fracSecond0 6, .lit "Z"] (by decide) (by decide) rfl rfl ?_ h₁ h₂
  intro st r sta stb hz ho ha hb
  obtain ⟨s, r₁, st₁, r₂, hg, hf, hn⟩ := runChunks_seconds_plain_ok ha rfl
  obtain ⟨s', r₁', ns, hg', hl, hp, hrest⟩ := runChunks_seconds_micro_ok hb
  rw [hg] at hg'; cases hg'
  obtain ⟨rfl, h7⟩ := runChunks_Z_ok hrest
  have h8 : r₁.length = 8 := by
    have := congrArg List.length h7
    simp only [List.length_drop, List.length_cons, List.length_nil] at this
    omega
  obtain ⟨hz₁, ho₁⟩ := fractionAfterSeconds_zone hf
  have hiso := isoOffset_ok (runChunks_iso_ok hn)
  rcases fractionAfterSeconds_ok hf with ⟨rfl, rfl⟩ | ⟨ns', hne, hp', rfl, rfl⟩
  · rcases hiso with ⟨hZ, -, -⟩ | ⟨-, -, hr, -⟩
    · rcases parseNanoseconds_head hp with h | h <;> exact absurd (h.symm.trans hZ) (by decide)
    · have := congrArg List.length hr
      simp only [List.length_drop, List.length_nil] at this
      omega
  · rcases hiso with ⟨hZ, rfl, hr⟩ | ⟨h6, hsome, hr, -⟩
    · have hn7 : 1 + (r₁.tail.takeWhile isDigit).length = 7 := by
        have h1 : 0 < (r₁.drop (1 + (r₁.tail.takeWhile isDigit).length)).length :=
          List.length_pos.mpr fun e => by rw [e] at hZ; cases hZ
        have := congrArg List.length hr
        simp only [List.length_drop, List.length_nil] at *
        omega
      rw [hn7, hp] at hp'
      cases hp'
      exact Fields.toTime_utc (hz₁.trans hz) (ho₁.trans ho)
    · have hn2 : 1 + (r₁.tail.takeWhile isDigit).length = 2 := by
        have := congrArg List.length hr
        simp only [List.length_drop, List.length_nil] at *
        omega
      have hZd : isDigit (byte 'Z') = false := rfl
      rw [hn2, List.drop_drop, List.drop_eq_getElem_cons (by omega), h7] at hsome
      simp [List.take, getnum, hZd] at hsome

theorem agree_dateTimeT_dateTimeZ : LayoutsAgree layoutDateTimeT layoutDateTimeZ := by
  refine ⟨fun v t₁ t₂ h₁ h₂ => ?_⟩
  refine parse_agree_of_tails (dateClockChunks "T") [.zeroSecond] [.zeroSecond, .lit "Z"]
    (by decide) (by decide) rfl rfl ?_ h₁ h₂
  intro st r sta stb _ _ ha hb
  obtain ⟨s, r₁, st₁, r₂, hg, hf, hn⟩ := runChunks_seconds_plain_ok ha rfl
  obtain ⟨s', r₁', st₁', r₂', hg', hf', hn'⟩ := runChunks_seconds_plain_ok hb rfl
  rw [hg] at hg'; cases hg'
  rw [hf] at hf'; cases hf'
  obtain ⟨-, rfl⟩ := Prod.mk.inj_iff.mp (runChunks_nil_ok hn)
  obtain ⟨-, h⟩ := runChunks_Z_ok hn'
  cases h

theorem agree_dateTimeT_rfc3339 : LayoutsAgree layoutDateTimeT layoutRFC3339 := by
  refine ⟨fun v t₁ t₂ h₁ h₂ => ?_⟩
  refine parse_agree_of_tails (dateClockChunks "T") [.zeroSecond] [.zeroSecond, .iso8601ColonTZ]
    (by decide) (by decide) rfl rfl ?_ h₁ h₂
  intro st r sta stb _ _ ha hb
  obtain ⟨s, r₁, st₁, r₂, hg, hf, hn⟩ := runChunks_seconds_plain_ok ha rfl
  obtain ⟨s', r₁', st₁', r₂', hg', hf', hn'⟩ := runChunks_seconds_plain_ok hb rfl
  rw [hg] at hg'; cases hg'
  rw [hf] at hf'; cases hf'
  obtain ⟨-, rfl⟩ := Prod.mk.inj_iff.mp (runChunks_nil_ok hn)
  rcases isoOffset_ok (runChunks_iso_ok hn') with ⟨hZ, -⟩ | ⟨hl, -⟩
  · cases hZ
  · simp at hl

theorem agree_dateTimeT_microZ : LayoutsAgree layoutDateTimeT layoutDateTimeMicroZ := by
  refine ⟨fun v t₁ t₂ h₁ h₂ => ?_⟩
  refine parse_agree_of_tails (dateClockChunks "T") [.zeroSecond]
    [.zeroSecond, .fracSecond0 6, .lit "Z"] (by decide) (by decide) rfl rfl ?_ h₁ h₂
  intro st r sta stb _ _ ha hb
  obtain ⟨s, r₁, st₁, r₂, hg, hf, hn⟩ := runChunks_seconds_plain_ok ha rfl
  obtain ⟨s', r₁', ns, hg', hl, hp, hrest⟩ := runChunks_seconds_micro_ok hb
  rw [hg] at hg'; cases hg'
  obtain ⟨-, rfl⟩ := Prod.mk.inj_iff.mp (runChunks_nil_ok hn)
  obtain ⟨-, h7⟩ := runChunks_Z_ok hrest
  rcases fractionAfterSeconds_ok hf with ⟨-, rfl⟩ | ⟨ns', hne, hp', -, hr⟩
  · simp at hl
  · have h : (r₁.drop 1).drop 6 = [byte 'Z'] := by rw [List.drop_drop]; exact h7
    have hZ : byte 'Z' ∈ r₁.tail := by
      rw [← List.drop_one]; exact List.mem_of_mem_drop (h ▸ List.mem_singleton_self _)
    exact absurd (all_digits_of_drop_eq_nil hr.symm _ hZ) (by decide)

theorem formats_agree : ∀ l₁ ∈ formats, ∀ l₂ ∈ formats, LayoutsAgree l₁ l₂ := by
  have := agree_dateTime_micro
  have := agree_dateTimeZ_microZ
  have := agree_dateTimeZ_rfc3339
  have := agree_rfc3339_microZ
  have := agree_dateTimeT_dateTimeZ
  have := agree_dateTimeT_rfc3339
  have := agree_dateTimeT_microZ
  have : LayoutsAgree layoutDateTime layoutDateTimeT := agree_space_T rfl rfl
  have : LayoutsAgree layoutDateTime layoutDateTimeZ := agree_space_T rfl rfl
  have : LayoutsAgree layoutDateTime layoutRFC3339 := agree_space_T rfl rfl
  have : LayoutsAgree layoutDateTime layoutDateTimeMicroZ := agree_space_T rfl rfl
  have : LayoutsAgree layoutDateTimeMicro layoutDateTimeT := agree_space_T rfl rfl
  have : LayoutsAgree layoutDateTimeMicro layoutDateTimeZ := agree_space_T rfl rfl
  have : LayoutsAgree layoutDateTimeMicro layoutRFC3339 := agree_space_T rfl rfl
  have : LayoutsAgree layoutDateTimeMicro layoutDateTimeMicroZ := agree_space_T rfl rfl
  simp only [formats, List.mem_cons, List.mem_singleton, List.not_mem_nil, or_false]
  rintro l₁ (rfl | rfl | rfl | rfl | rfl | rfl) l₂ (rfl | rfl | rfl | rfl | rfl | rfl)
  all_goals first | exact LayoutsAgree.refl _ | assumption | exact LayoutsAgree.symm ‹_›

end Pairs

namespace NHNCloudTime

variable {s : GoString} {t : GoTime}

theorem parseFirst_ok {fs : List Layout} {e : GoError} (h : parseFirst s fs e = .ok t) :
    ∃ l ∈ fs, parse l s = .ok t := by
  induction fs generalizing e with
  | nil => cases h
  | cons l ls ih =>
    simp only [parseFirst] at h
    split at h
    · cases h; exact ⟨l, List.mem_cons_self _ _, ‹_›⟩
    · obtain ⟨l', hl', hp⟩ := ih h
      exact ⟨l', List.mem_cons_of_mem _ hl', hp⟩

/-- The loop fails with the error of the last layout. -/
theorem parseFirst_error {fs : List Layout} {e err : GoError} (h : parseFirst s fs e = .error err) :
    ∀ l ∈ fs.getLast?, parse l s = .error err := by
  induction fs generalizing e with
  | nil => simp
  | cons l ls ih =>
    simp only [parseFirst] at h
    split at h
    · cases h
    · rename_i e' he'
      cases ls with
      | nil => cases h; simpa using he'
      | cons l'' ls => simpa [List.getLast?_cons_cons] using ih h

/-- When the layouts agree, the loop finds the time any of them gives. -/
theorem parseFirst_of_mem {fs : List Layout} (hagree : ∀ l ∈ fs, ∀ l' ∈ fs, LayoutsAgree l l')
    {l : Layout} (hl : l ∈ fs) (ht : parse l s = .ok t) (e : GoError) :
    parseFirst s fs e = .ok t := by
  induction fs generalizing e with
  | nil => cases hl
  | cons l' ls ih =>
    simp only [parseFirst]
    split
    · rename_i t' ht'
      rw [(hagree l' (List.mem_cons_self _ _) l hl).agree s t' t ht' ht]
    · rename_i err herr
      have hl' : l ∈ ls := by
        rcases List.mem_cons.mp hl with rfl | h
        · rw [ht] at herr; cases herr
        · exact h
      exact ih (fun a ha b hb => hagree a (List.mem_cons_of_mem _ ha) b (List.mem_cons_of_mem _ hb))
        hl' err

theorem parseFirst_perm {fs : List Layout} (hfs : fs.Perm formats) (e e' : GoError) :
    parseFirst s fs e = .ok t ↔ parseFirst s formats e' = .ok t := by
  have hagree' : ∀ l ∈ fs, ∀ l' ∈ fs, LayoutsAgree l l' := fun l hl l' hl' =>
    formats_agree l (hfs.subset hl) l' (hfs.subset hl')
  constructor
  · intro h
    obtain ⟨l, hl, hp⟩ := parseFirst_ok h
    exact parseFirst_of_mem formats_agree (hfs.subset hl) hp e'
  · intro h
    obtain ⟨l, hl, hp⟩ := parseFirst_ok h
    exact parseFirst_of_mem hagree' (hfs.symm.subset hl) hp e

/-- Any order of the six layouts accepts the same inputs and gives the same times. -/
theorem unmarshalWith_perm {fs : List Layout} (hfs : fs.Perm formats) (ct : NHNCloudTime)
    (data : GoString) :
    ((unmarshalWith fs ct data).2 = none ↔ (unmarshalJSON ct data).2 = none) ∧
    ((unmarshalJSON ct data).2 = none → unmarshalWith fs ct data = unmarshalJSON ct data) := by
  unfold unmarshalJSON unmarshalWith
  dsimp only
  split_ifs
  · exact ⟨Iff.rfl, fun _ => rfl⟩
  · cases hf : parseFirst (trimQuotes data) fs .nilError with
    | ok t =>
      rw [(parseFirst_perm hfs .nilError .nilError).mp hf]
      exact ⟨Iff.rfl, fun _ => rfl⟩
    | error e =>
      cases hg : parseFirst (trimQuotes data) formats .nilError with
      | ok t =>
        exact absurd (hf.symm.trans ((parseFirst_perm hfs .nilError .nilError).mpr hg))
          (fun h => by cases h)
      | error e' => exact ⟨⟨fun h => (by cases h), fun h => (by cases h)⟩, fun h => (by cases h)⟩

end NHNCloudTime
/-- **Layout order.** Wherever two of the six layouts both parse an input they give the same
time, instant and location; so every order of the list accepts the same inputs and decodes
them to the same time. -/
theorem unmarshalJSON_layouts_agree :
    (∀ l₁ ∈ formats, ∀ l₂ ∈ formats, ∀ (s : GoString) (t₁ t₂ : GoTime),
      parse l₁ s = .ok t₁ → parse l₂ s = .ok t₂ → t₁ = t₂) ∧
    (∀ fs : List Layout, fs.Perm formats → ∀ (ct : NHNCloudTime) (data : GoString),
      ((NHNCloudTime.unmarshalWith fs ct data).2 = none ↔
        (NHNCloudTime.unmarshalJSON ct data).2 = none) ∧
      ((NHNCloudTime.unmarshalJSON ct data).2 = none →
        NHNCloudTime.unmarshalWith fs ct data = NHNCloudTime.unmarshalJSON ct data)) :=
  ⟨fun l₁ h₁ l₂ h₂ => (formats_agree l₁ h₁ l₂ h₂).agree,
    fun _ hfs => NHNCloudTime.unmarshalWith_perm hfs⟩

theorem unmarshalJSON_layouts_agree_on_utc :
    parse layoutDateTimeZ (GoString.ofString "2024-02-13T10:45:57Z") = .ok ⟨63843417957, 0, .utc⟩ ∧
    parse layoutRFC3339 (GoString.ofString "2024-02-13T10:45:57Z") = .ok ⟨63843417957, 0, .utc⟩ ∧
    NHNCloudTime.unmarshalWith formats.reverse .zero
        (GoString.ofString "\"2024-02-13T10:45:57Z\"") =
      NHNCloudTime.unmarshalJSON .zero (GoString.ofString "\"2024-02-13T10:45:57Z\"") :=
  ⟨rfl, rfl, (unmarshalJSON_layouts_agree.2 formats.reverse (List.reverse_perm _) .zero _).2 rfl⟩

/-- A time read with an offset of nine hours is written back as its wall clock without the
offset, which reads back as nine hours later; and it is written differently from the UTC time
of the same instant. -/
theorem marshalJSON_loses_offset :
    NHNCloudTime.unmarshalJSON .zero (GoString.ofString "\"2024-02-13T10:45:57+09:00\"") =
      (⟨⟨63843385557, 0, .offset 32400⟩⟩, none) ∧
    NHNCloudTime.marshalJSON ⟨⟨63843385557, 0, .offset 32400⟩⟩ = "\"2024-02-13 10:45:57\"" ∧
    NHNCloudTime.unmarshalJSON .zero (GoString.ofString "\"2024-02-13 10:45:57\"") =
      (⟨⟨63843417957, 0, .utc⟩⟩, none) ∧
    NHNCloudTime.unmarshalJSON .zero (GoString.ofString "\"2024-02-13 01:45:57\"") =
      (⟨⟨63843385557, 0, .utc⟩⟩, none) ∧
    NHNCloudTime.marshalJSON ⟨⟨63843385557, 0, .utc⟩⟩ = "\"2024-02-13 01:45:57\"" :=
  ⟨rfl, rfl, rfl, rfl, rfl⟩

end NhnCloudLayer3
