/-
`time.Parse` and `Time.Format`, for the layouts the package uses.

A layout is the list of elements `nextStdChunk` splits it into (`Chunk`): literal text, matched
by `skip`, and the standard elements `2006`, `01`, `02`, `15`, `04`, `05`, `.000000` and
`Z07:00`. `parse` runs them over the bytes of the input as `time.parse` does, with its quirks:
an hour of one digit passes, a fraction after the seconds is read even where the layout has
none (unless a fraction element follows), a fraction element reads its digits through `atoi`
(so a sign passes), and the day of the month is checked against the month only at the end.
A failure is the `*time.ParseError` Go builds, input position included.

A parsed time is an instant with a location (`GoTime`); `Time.Format` writes the wall clock of
the instant in that location (`GoTime.format`).

* `runChunks_append_ok` — a run over a layout splits after any prefix without `05`, the one
  element that looks ahead;
* `parse_eq_ok` — `time.Parse` succeeds exactly when the elements read the whole input and the
  day exists in the month;
* `parse_agree_of_tails` — two layouts with a common prefix give the same time wherever what
  follows the prefix does.

Design notes: `time.Parse` gives a time with a numeric offset the machine's `Local` location
when that zone has the offset at that instant, and an unnamed fixed zone otherwise; both
carry the offset and format alike, and `Zone.offset` stands for either. The calendar is
computed in 400-year eras counted from March 1 of year 0, rather than with Go's tables; the
two agree on every date.
-/
import NhnCloudLayer3.Decode

namespace NhnCloudLayer3

/-- The location of a parsed time. -/
inductive Zone where
  /-- `time.UTC`. -/
  | utc
  /-- A zone `seconds` east of UTC (`time.Local` or `time.FixedZone("", seconds)`). -/
  | offset (seconds : Int)
  deriving DecidableEq, Repr

/-- The offset of a zone from UTC, in seconds. -/
def Zone.seconds : Zone → Int
  | .utc => 0
  | .offset s => s

/-- A `time.Time` without a monotonic reading: the instant, in seconds since
0001-01-01 00:00:00 UTC and nanoseconds, and its location. -/
structure GoTime where
  sec : Int
  nsec : Fin 1000000000
  zone : Zone
  deriving DecidableEq, Repr

namespace GoTime

/-- The zero `time.Time`: January 1 of year 1, 00:00:00 UTC. -/
def zero : GoTime := ⟨0, 0, .utc⟩

/-- `Time.IsZero`: the time is the zero instant, whatever its location. -/
def isZero (t : GoTime) : Bool := t.sec == 0 && t.nsec == 0

end GoTime

/-- `isLeap`. -/
def isLeap (year : Int) : Bool := year % 4 == 0 && (year % 100 != 0 || year % 400 == 0)

/-- `daysIn(month, year)`: the number of days of a month. -/
def daysIn (month year : Int) : Int :=
  if month = 2 then (if isLeap year then 29 else 28)
  else if month = 4 ∨ month = 6 ∨ month = 9 ∨ month = 11 then 30 else 31

/-- The number of days from 0001-01-01 to `year-month-day` in the proleptic Gregorian
calendar. -/
def daysFromCivil (year month day : Int) : Int :=
  let y := if month ≤ 2 then year - 1 else year
  let era := y / 400
  let yoe := y - era * 400
  let doy := (153 * (if month > 2 then month - 3 else month + 9) + 2) / 5 + day - 1
  era * 146097 + (yoe * 365 + yoe / 4 - yoe / 100 + doy) - 306

/-- The civil date `(year, month, day)` of the day `days` after 0001-01-01. -/
def civilFromDays (days : Int) : Int × Int × Int :=
  let z := days + 306
  let era := z / 146097
  let doe := z - era * 146097
  let yoe := (doe - doe / 1460 + doe / 36524 - doe / 146096) / 365
  let doy := doe - (365 * yoe + yoe / 4 - yoe / 100)
  let mp := (5 * doy + 2) / 153
  let month := if mp < 10 then mp + 3 else mp - 9
  (yoe + era * 400 + (if month ≤ 2 then 1 else 0), month, doy - (153 * mp + 2) / 5 + 1)

/-- `time.Date` for fields in range: the instant of that wall clock in `zone`, the
nanoseconds carried into the seconds as `norm` does. -/
def date (year month day hour min sec : Int) (nsec : Nat) (zone : Zone) : GoTime :=
  ⟨daysFromCivil year month day * 86400 + hour * 3600 + min * 60 + sec + nsec / 1000000000
    - zone.seconds, ⟨nsec % 1000000000, Nat.mod_lt _ (by decide)⟩, zone⟩

/-- An element of a layout, as `nextStdChunk` finds it. -/
inductive Chunk where
  /-- Literal text, matched by `skip`. -/
  | lit (text : String)
  /-- `2006`, `stdLongYear`. -/
  | longYear
  /-- `01`, `stdZeroMonth`. -/
  | zeroMonth
  /-- `02`, `stdZeroDay`. -/
  | zeroDay
  /-- `15`, `stdHour`. -/
  | hour
  /-- `04`, `stdZeroMinute`. -/
  | zeroMinute
  /-- `05`, `stdZeroSecond`. -/
  | zeroSecond
  /-- `.000…0` with `digits` zeros, `stdFracSecond0`. -/
  | fracSecond0 (digits : Nat)
  /-- `Z07:00`, `stdISO8601ColonTZ`. -/
  | iso8601ColonTZ
  deriving DecidableEq, Repr

/-- The layout text of an element, the `stdstr` a `ParseError` quotes. -/
def Chunk.text : Chunk → String
  | .lit p => p
  | .longYear => "2006"
  | .zeroMonth => "01"
  | .zeroDay => "02"
  | .hour => "15"
  | .zeroMinute => "04"
  | .zeroSecond => "05"
  | .fracSecond0 k => "." ++ String.mk (List.replicate k '0')
  | .iso8601ColonTZ => "Z07:00"

/-- A layout: its text, and the elements `nextStdChunk` splits it into. -/
structure Layout where
  text : String
  chunks : List Chunk

/-- What `time.parse` has read so far. -/
structure Fields where
  year : Int := 0
  month : Int := -1
  day : Int := -1
  hour : Int := 0
  min : Int := 0
  sec : Int := 0
  nsec : Nat := 0
  /-- `z`: the location, set by a `Z` in place of an offset. -/
  z : Option Zone := none
  /-- `zoneOffset`: the offset read, in seconds. -/
  zoneOffset : Option Int := none
  deriving DecidableEq, Repr

/-- Why an element failed, and the rest of the input the `ParseError` shows. -/
inductive StepError where
  /-- `errBad`, shown at the input where the element began. -/
  | bad
  /-- Literal text that does not match, shown where matching stopped. -/
  | mismatch (rest : List UInt8)
  /-- `rangeErrString`, shown after the value read. -/
  | range (what : String) (rest : List UInt8)
  deriving DecidableEq, Repr

/-- The byte of an ASCII character. -/
def byte (c : Char) : UInt8 := c.toNat.toUInt8

/-- `isDigit` on one byte. -/
def isDigit (b : UInt8) : Bool := byte '0' ≤ b && b ≤ byte '9'

/-- The number spelled by a list of digit bytes. -/
def digitsNat (bs : List UInt8) : Nat := bs.foldl (fun n b => 10 * n + (b.toNat - 48)) 0

/-- `atoi`: an optional sign, then digits to the end (`leadingInt` with nothing left). The
package's inputs are never long enough for `leadingInt` to overflow. -/
def atoi (s : List UInt8) : Option Int :=
  let (neg, s) := match s with
    | b :: r => if b = byte '-' then (true, r) else if b = byte '+' then (false, r) else (false, s)
    | [] => (false, s)
  if s.all isDigit then some (if neg then -(digitsNat s : Int) else digitsNat s) else none

/-- `getnum`: the one or two digits at the front (two when `fixed`), and what follows. -/
def getnum (s : List UInt8) (fixed : Bool) : Option (Int × List UInt8) :=
  match s with
  | b0 :: b1 :: rest =>
    if isDigit b0 then
      if isDigit b1 then some (digitsNat [b0, b1], rest)
      else if fixed then none else some (digitsNat [b0], b1 :: rest)
    else none
  | [b0] => if isDigit b0 && !fixed then some (digitsNat [b0], []) else none
  | [] => none

/-- `skip`: the value after the literal prefix, a space of the prefix matching any run of
spaces of the value, none at its end included; `cut` is set after a space of the prefix,
whose following spaces `cutspace` has removed. A failure gives the value where it stopped. -/
def skipFrom (cut : Bool) : List UInt8 → List UInt8 → Except (List UInt8) (List UInt8)
  | [], value => .ok value
  | p :: pre, value =>
    if p = byte ' ' then
      if cut then skipFrom true pre value
      else if value.head?.any (· ≠ byte ' ') then .error value
      else skipFrom true pre (value.dropWhile (· = byte ' '))
    else
      match value with
      | c :: rest => if c = p then skipFrom false pre rest else .error value
      | [] => .error []

/-- `skip(value, prefix)`. -/
def skip (value pre : List UInt8) : Except (List UInt8) (List UInt8) := skipFrom false pre value

/-- `parseNanoseconds(value, nbytes)`: the fraction `value[1:nbytes]` (at most nine digits
read) in nanoseconds; `value[0]` must be a period or a comma. -/
def parseNanoseconds (value : List UInt8) (nbytes : Nat) : Except StepError Nat :=
  if value.head? = some (byte '.') ∨ value.head? = some (byte ',') then
    let nbytes := min nbytes 10
    match atoi ((value.take nbytes).drop 1) with
    | some ns =>
      if ns < 0 then .error (.range "fractional second" (value.drop nbytes))
      else .ok (ns.toNat * 10 ^ (10 - nbytes))
    | none => .error .bad
  else .error .bad

/-- The first element of a layout that is not literal text: what `nextStdChunk` finds after
the seconds. -/
def nextStd : List Chunk → Option Chunk
  | [] => none
  | .lit _ :: cs => nextStd cs
  | c :: _ => some c

/-- The element is a fraction of a second (`stdFracSecond0`). -/
def isFracSecond : Option Chunk → Bool
  | some (.fracSecond0 _) => true
  | _ => false

/-- A fraction of a second the layout does not spell out, read after `05` unless a fraction
element comes next: a period or comma, a digit, and all the digits after it. -/
def fractionAfterSeconds (next : Option Chunk) (st : Fields) (value : List UInt8) :
    Except StepError (Fields × List UInt8) :=
  match value with
  | c :: d :: _ =>
    if (c = byte '.' ∨ c = byte ',') ∧ isDigit d ∧ !isFracSecond next then
      let n := 1 + (value.tail.takeWhile isDigit).length
      match parseNanoseconds value n with
      | .ok ns => .ok ({ st with nsec := ns }, value.drop n)
      | .error e => .error e
    else .ok (st, value)
  | _ => .ok (st, value)

/-- The `Z07:00` element: `Z` for UTC, or a sign, two digits, a colon and two digits. Of two
offsets out of range, the minutes are reported, as Go sets `rangeErrString` twice. -/
def isoOffset (st : Fields) (value : List UInt8) : Except StepError (Fields × List UInt8) :=
  if value.head? = some (byte 'Z') then .ok ({ st with z := some .utc }, value.drop 1)
  else if value.length < 6 ∨ value.get? 3 ≠ some (byte ':') then .error .bad
  else
    let hr := getnum ((value.drop 1).take 2) true
    let mm := if hr.isSome then getnum ((value.drop 4).take 2) true else none
    let h := (hr.map (·.1)).getD 0
    let m := (mm.map (·.1)).getD 0
    let offset := (h * 60 + m) * 60
    if m > 60 then .error (.range "time zone offset minute" (value.drop 6))
    else if h > 24 then .error (.range "time zone offset hour" (value.drop 6))
    else if hr.isNone ∨ mm.isNone then .error .bad
    else if value.head? = some (byte '+') then
      .ok ({ st with zoneOffset := some offset }, value.drop 6)
    else if value.head? = some (byte '-') then
      .ok ({ st with zoneOffset := some (-offset) }, value.drop 6)
    else .error .bad

/-- One element of `time.parse`, given the next non-literal element of the layout. -/
def Chunk.parse (next : Option Chunk) : Chunk → Fields → List UInt8 →
    Except StepError (Fields × List UInt8)
  | .lit p, st, value =>
    match skip value (GoString.ofString p).bytes with
    | .ok rest => .ok (st, rest)
    | .error rest => .error (.mismatch rest)
  | .longYear, st, value =>
    if value.length < 4 ∨ !(value.head?.any isDigit) then .error .bad
    else
      match atoi (value.take 4) with
      | some y => .ok ({ st with year := y }, value.drop 4)
      | none => .error .bad
  | .zeroMonth, st, value =>
    match getnum value true with
    | some (m, rest) =>
      if m ≤ 0 ∨ 12 < m then .error (.range "month" rest) else .ok ({ st with month := m }, rest)
    | none => .error .bad
  | .zeroDay, st, value =>
    match getnum value true with
    | some (d, rest) => .ok ({ st with day := d }, rest)
    | none => .error .bad
  | .hour, st, value =>
    match getnum value false with
    | some (h, rest) =>
      if h < 0 ∨ 24 ≤ h then .error (.range "hour" rest) else .ok ({ st with hour := h }, rest)
    | none => .error .bad
  | .zeroMinute, st, value =>
    match getnum value true with
    | some (m, rest) =>
      if m < 0 ∨ 60 ≤ m then .error (.range "minute" rest) else .ok ({ st with min := m }, rest)
    | none => .error .bad
  | .zeroSecond, st, value =>
    match getnum value true with
    | some (s, rest) =>
      if s < 0 ∨ 60 ≤ s then .error (.range "second" rest)
      else fractionAfterSeconds next { st with sec := s } rest
    | none => .error .bad
  | .fracSecond0 digits, st, value =>
    if value.length < 1 + digits then .error .bad
    else
      match parseNanoseconds value (1 + digits) with
      | .ok ns => .ok ({ st with nsec := ns }, value.drop (1 + digits))
      | .error e => .error e
  | .iso8601ColonTZ, st, value => isoOffset st value

/-- The elements of a layout in turn; a failure names the element, why, and the input where
the element began. -/
def runChunks : List Chunk → Fields → List UInt8 →
    Except (Chunk × StepError × List UInt8) (Fields × List UInt8)
  | [], st, value => .ok (st, value)
  | c :: cs, st, value =>
    match c.parse (nextStd cs) st value with
    | .ok (st', rest) => runChunks cs st' rest
    | .error e => .error (c, e, value)

/-- `time.quote`, byte by byte: `"` and `\` escaped, and each byte outside printable ASCII
written as `\xHH`. Go escapes each byte of a rune that is not printable ASCII, and every byte
of such a rune, or of no rune, is outside ASCII, so the two agree. -/
def timeQuote (bs : List UInt8) : String :=
  "\"" ++ String.join (bs.map fun b =>
    if b.toNat < 0x20 ∨ 0x80 ≤ b.toNat then
      "\\x" ++ Json.hexDigit (b.toNat / 16) ++ Json.hexDigit (b.toNat % 16)
    else if b = byte '"' ∨ b = byte '\\' then "\\" ++ (Char.ofNat b.toNat).toString
    else (Char.ofNat b.toNat).toString) ++ "\""

/-- The month and the day read, January and the first where none was. -/
def Fields.monthDay (st : Fields) : Int × Int :=
  (if st.month < 0 then 1 else st.month, if st.day < 0 then 1 else st.day)

/-- The day read exists in the month read. -/
def Fields.dayValid (st : Fields) : Prop :=
  1 ≤ st.monthDay.2 ∧ st.monthDay.2 ≤ daysIn st.monthDay.1 st.year

instance (st : Fields) : Decidable st.dayValid := inferInstanceAs (Decidable (_ ∧ _))

/-- The location of the time built: the location read, else the offset read, else UTC. -/
def Fields.zone (st : Fields) : Zone :=
  match st.z, st.zoneOffset with
  | some z, _ => z
  | none, some o => .offset o
  | none, none => .utc

/-- The time `time.parse` builds from what it read. -/
def Fields.toTime (st : Fields) : GoTime :=
  date st.year st.monthDay.1 st.monthDay.2 st.hour st.min st.sec st.nsec st.zone

/-- The end of `time.parse`: no input may be left, and the day must exist in the month. -/
def finish (layout : String) (value : GoString) (st : Fields) (rest : List UInt8) :
    Except GoError GoTime :=
  if rest ≠ [] then
    .error (.timeParse layout value "" ⟨rest⟩ (": extra text: " ++ timeQuote rest))
  else if ¬st.dayValid then .error (.timeParse layout value "" ⟨rest⟩ ": day out of range")
  else .ok st.toTime

/-- `time.Parse(layout, value)`. -/
def parse (layout : Layout) (value : GoString) : Except GoError GoTime :=
  match runChunks layout.chunks {} value.bytes with
  | .ok (st, rest) => finish layout.text value st rest
  | .error (c, .bad, at_) => .error (.timeParse layout.text value c.text ⟨at_⟩ "")
  | .error (c, .mismatch rest, _) => .error (.timeParse layout.text value c.text ⟨rest⟩ "")
  | .error (c, .range what rest, _) =>
    .error (.timeParse layout.text value c.text ⟨rest⟩ (": " ++ what ++ " out of range"))

/-- `appendInt(b, x, width)`: the decimal digits of `x`, zero-padded to `width`, after a minus
sign when `x` is negative. -/
def appendInt (x : Int) (width : Nat) : String :=
  let ds := Nat.toDigits 10 x.natAbs
  (if x < 0 then "-" else "") ++ String.mk (List.replicate (width - ds.length) '0' ++ ds)

/-- `t.Format("2006-01-02 15:04:05")`: the wall clock of `t` in its own location. -/
def GoTime.format (t : GoTime) : String :=
  let wall := t.sec + t.zone.seconds
  let (y, m, d) := civilFromDays (wall / 86400)
  let s := wall % 86400
  appendInt y 4 ++ "-" ++ appendInt m 2 ++ "-" ++ appendInt d 2 ++ " " ++
    appendInt (s / 3600) 2 ++ ":" ++ appendInt (s / 60 % 60) 2 ++ ":" ++ appendInt (s % 60) 2

section Inversion

variable {next : Option Chunk} {st st' : Fields} {value rest : List UInt8}
  {res : Fields × List UInt8}

/-- Only `05` looks ahead in the layout. -/
theorem Chunk.parse_next {c : Chunk} (hc : c ≠ .zeroSecond) (next next' : Option Chunk) :
    c.parse next = c.parse next' := by
  cases c <;> first | rfl | exact absurd rfl hc

theorem runChunks_cons_ok {c : Chunk} {cs : List Chunk}
    (h : runChunks (c :: cs) st value = .ok res) :
    ∃ st' rest, c.parse (nextStd cs) st value = .ok (st', rest) ∧
      runChunks cs st' rest = .ok res := by
  simp only [runChunks] at h
  split at h
  · exact ⟨_, _, ‹_›, h⟩
  · cases h

/-- A run over a layout that does not contain `05` splits after any prefix. -/
theorem runChunks_append_ok {a b : List Chunk} (ha : .zeroSecond ∉ a)
    (h : runChunks (a ++ b) st value = .ok res) :
    ∃ st' rest, runChunks a st value = .ok (st', rest) ∧ runChunks b st' rest = .ok res := by
  induction a generalizing st value with
  | nil => exact ⟨st, value, rfl, h⟩
  | cons c a ih =>
    obtain ⟨st₁, r₁, hc, hrest⟩ := runChunks_cons_ok h
    obtain ⟨st₂, r₂, h₁, h₂⟩ := ih (fun m => ha (List.mem_cons_of_mem _ m)) hrest
    have hc' : c ≠ .zeroSecond := fun e => ha (e ▸ List.mem_cons_self _ _)
    rw [Chunk.parse_next hc' _ (nextStd a)] at hc
    exact ⟨st₂, r₂, by rw [runChunks, hc]; exact h₁, h₂⟩

theorem parse_lit_ok {p : String} (h : (Chunk.lit p).parse next st value = .ok (st', rest)) :
    st' = st ∧ skip value (GoString.ofString p).bytes = .ok rest := by
  simp only [Chunk.parse] at h
  split at h
  · cases h; exact ⟨rfl, ‹_›⟩
  · cases h

theorem parse_zeroSecond_ok (h : Chunk.zeroSecond.parse next st value = .ok (st', rest)) :
    ∃ s r, getnum value true = some (s, r) ∧
      fractionAfterSeconds next { st with sec := s } r = .ok (st', rest) := by
  simp only [Chunk.parse] at h
  split at h
  · rename_i s r hg
    split_ifs at h
    exact ⟨s, r, hg, h⟩
  · cases h

theorem parse_fracSecond0_ok {k : Nat}
    (h : (Chunk.fracSecond0 k).parse next st value = .ok (st', rest)) :
    1 + k ≤ value.length ∧ ∃ ns, parseNanoseconds value (1 + k) = .ok ns ∧
      st' = { st with nsec := ns } ∧ rest = value.drop (1 + k) := by
  simp only [Chunk.parse] at h
  split_ifs at h with hl
  split at h
  · cases h; exact ⟨by omega, _, ‹_›, rfl, rfl⟩
  · cases h

theorem fractionAfterSeconds_of_isFrac (next : Option Chunk) (hn : isFracSecond next = true) :
    fractionAfterSeconds next st value = .ok (st, value) := by
  unfold fractionAfterSeconds
  split
  · rw [if_neg (by simp [hn])]
  · rfl

/-- After `05`, either nothing more is read, or a fraction of `n` bytes: the period or comma
and all the digits that follow it. -/
theorem fractionAfterSeconds_ok (h : fractionAfterSeconds next st value = .ok (st', rest)) :
    (st' = st ∧ rest = value) ∨
    ∃ ns, value ≠ [] ∧
      parseNanoseconds value (1 + (value.tail.takeWhile isDigit).length) = .ok ns ∧
      st' = { st with nsec := ns } ∧ rest = value.drop (1 + (value.tail.takeWhile isDigit).length) := by
  unfold fractionAfterSeconds at h
  split at h
  · split_ifs at h
    · dsimp only at h
      split at h
      · cases h; exact .inr ⟨_, List.cons_ne_nil _ _, ‹_›, rfl, rfl⟩
      · cases h
    · cases h; exact .inl ⟨rfl, rfl⟩
  · cases h; exact .inl ⟨rfl, rfl⟩

/-- A fraction that reaches the end of the input is all digits after its period. -/
theorem all_digits_of_drop_eq_nil
    (h : value.drop (1 + (value.tail.takeWhile isDigit).length) = []) :
    ∀ b ∈ value.tail, isDigit b = true := by
  have hsplit := congrArg List.length (List.takeWhile_append_dropWhile isDigit value.tail)
  have hlen := List.length_eq_zero.mp (by
    rw [List.length_append, List.length_tail] at hsplit
    rw [List.drop_eq_nil_iff] at h
    omega : (value.tail.dropWhile isDigit).length = 0)
  exact List.dropWhile_eq_nil_iff.mp hlen

theorem getnum_true_some {s : List UInt8} {v : Int} {r : List UInt8}
    (h : getnum s true = some (v, r)) : ∃ b₀ b₁, s = b₀ :: b₁ :: r ∧ isDigit b₀ ∧ isDigit b₁ := by
  unfold getnum at h
  split at h
  · split_ifs at h with h₀ h₁
    · cases h; exact ⟨_, _, rfl, h₀, h₁⟩
    · exact absurd rfl ‹¬true = true›
  · simp at h
  · cases h

/-- The `Z07:00` element reads a `Z`, or six bytes whose last two are digits. -/
theorem isoOffset_ok (h : isoOffset st value = .ok (st', rest)) :
    (value.head? = some (byte 'Z') ∧ st' = { st with z := some .utc } ∧ rest = value.drop 1) ∨
    (6 ≤ value.length ∧ (getnum ((value.drop 4).take 2) true).isSome ∧ rest = value.drop 6 ∧
      ∃ o, st' = { st with zoneOffset := some o }) := by
  dsimp only [isoOffset] at h
  split_ifs at h with h₁ h₂ h₃ h₄ h₅ h₆ h₇
  · cases h; exact .inl ⟨h₁, rfl, rfl⟩
  all_goals
    cases h
    refine .inr ⟨Nat.le_of_not_lt fun hl => h₂ (.inl hl), ?_, rfl, _, rfl⟩
    simp_all [Option.isSome_iff_ne_none]

/-- Elements other than `Z07:00` leave the location and the offset alone. -/
theorem Chunk.parse_zone {c : Chunk} (hc : c ≠ .iso8601ColonTZ)
    (h : c.parse next st value = .ok (st', rest)) :
    st'.z = st.z ∧ st'.zoneOffset = st.zoneOffset := by
  cases c
  case lit => obtain ⟨rfl, -⟩ := parse_lit_ok h; exact ⟨rfl, rfl⟩
  case zeroSecond =>
    obtain ⟨s, r, -, hf⟩ := parse_zeroSecond_ok h
    rcases fractionAfterSeconds_ok hf with ⟨rfl, -⟩ | ⟨ns, -, -, rfl, -⟩ <;> exact ⟨rfl, rfl⟩
  case fracSecond0 => obtain ⟨-, ns, -, rfl, -⟩ := parse_fracSecond0_ok h; exact ⟨rfl, rfl⟩
  case iso8601ColonTZ => exact absurd rfl hc
  all_goals
    simp only [Chunk.parse] at h
    repeat' split at h
    all_goals first | (cases h; exact ⟨rfl, rfl⟩) | cases h

theorem runChunks_zone {cs : List Chunk} (hcs : .iso8601ColonTZ ∉ cs)
    (h : runChunks cs st value = .ok (st', rest)) :
    st'.z = st.z ∧ st'.zoneOffset = st.zoneOffset := by
  induction cs generalizing st value with
  | nil => cases h; exact ⟨rfl, rfl⟩
  | cons c cs ih =>
    obtain ⟨st₁, r₁, hc, hrest⟩ := runChunks_cons_ok h
    obtain ⟨hz₁, ho₁⟩ := Chunk.parse_zone (fun e => hcs (e ▸ List.mem_cons_self _ _)) hc
    obtain ⟨hz, ho⟩ := ih (fun m => hcs (List.mem_cons_of_mem _ m)) hrest
    exact ⟨hz.trans hz₁, ho.trans ho₁⟩

end Inversion

section Parse

variable {layout : Layout} {value : GoString} {st : Fields} {t : GoTime}

theorem finish_eq_ok {text : String} {rest : List UInt8} :
    finish text value st rest = .ok t ↔ rest = [] ∧ st.dayValid ∧ st.toTime = t := by
  unfold finish
  by_cases h₁ : rest = [] <;> by_cases h₂ : st.dayValid <;> simp [h₁, h₂]

/-- `time.Parse` succeeds when the elements read the whole input and the day exists. -/
theorem parse_eq_ok :
    parse layout value = .ok t ↔
      ∃ st, runChunks layout.chunks {} value.bytes = .ok (st, []) ∧ st.dayValid ∧ st.toTime = t := by
  unfold parse
  split
  · rename_i st rest h
    rw [finish_eq_ok, h]
    constructor
    · rintro ⟨rfl, hv, rfl⟩; exact ⟨st, rfl, hv, rfl⟩
    · rintro ⟨st', he, hv, rfl⟩; cases he; exact ⟨rfl, hv, rfl⟩
  all_goals
    rename_i h
    simp only [reduceCtorEq, false_iff, not_exists, not_and, h]
    intro _ he; cases he

/-- Reading a `Z` in place of an offset builds the time UTC would have given anyway. -/
theorem Fields.toTime_utc (hz : st.z = none) (ho : st.zoneOffset = none) :
    { st with z := some .utc }.toTime = st.toTime := by
  simp only [Fields.toTime, Fields.zone, hz, ho]
  rfl

/-- Two layouts with a common prefix that holds neither `05` nor `Z07:00` give the same time
wherever their remaining elements do, from every state the prefix can leave. -/
theorem parse_agree_of_tails {la lb : Layout} (p ta tb : List Chunk)
    (hp : .zeroSecond ∉ p) (hpz : .iso8601ColonTZ ∉ p)
    (ha : la.chunks = p ++ ta) (hb : lb.chunks = p ++ tb)
    (htail : ∀ st r sta stb, st.z = none → st.zoneOffset = none →
      runChunks ta st r = .ok (sta, []) → runChunks tb st r = .ok (stb, []) →
      sta.toTime = stb.toTime)
    {t₁ t₂ : GoTime} (h₁ : parse la value = .ok t₁) (h₂ : parse lb value = .ok t₂) : t₁ = t₂ := by
  obtain ⟨sta, hra, -, rfl⟩ := parse_eq_ok.mp h₁
  obtain ⟨stb, hrb, -, rfl⟩ := parse_eq_ok.mp h₂
  rw [ha] at hra
  rw [hb] at hrb
  obtain ⟨s₀, r₀, hp₁, hta⟩ := runChunks_append_ok hp hra
  obtain ⟨s₀', r₀', hp₂, htb⟩ := runChunks_append_ok hp hrb
  rw [hp₁] at hp₂
  cases hp₂
  obtain ⟨hz, ho⟩ := runChunks_zone hpz hp₁
  exact htail s₀ r₀ sta stb hz ho hta htb

end Parse

end NhnCloudLayer3
