/-
The creation time of a routing table on the two paths of `Extract`. The strict path hands
`NHNCloudTime.UnmarshalJSON` the raw text of the member, escapes included; the permissive path
takes a string member and wraps it in double quotes as it is, after checking that the result is
a valid JSON string.

A time that one of the six layouts parses is written in time bytes only (digits, signs,
separators, spaces, `T` and `Z`), and has a colon: each element reads only such bytes, and a run
of elements the bytes of each in turn.

* `parse_timeBytes`, `parse_colon` — what a successful `time.Parse` in the package's layouts
  has read;
* `NHNCloudTime.unmarshalJSON_accepts` — `UnmarshalJSON` accepts `null`, the empty string and
  such a time, and nothing else; any other text, with a byte that is not a time byte or with no
  colon, is refused with the error of the last layout (`NHNCloudTime.unmarshalJSON_error_of_not_time`);
* `NHNCloudTime.unmarshalValue_of_not_str` — a member that is not a string never changes the
  time;
* `createTimeOf_eq` — a string member that `UnmarshalJSON` accepts needs no escaping, so both
  paths read the same bytes and the same time.
-/
import NhnCloudLayer3.Permissive

namespace NhnCloudLayer3

section TimeBytes

/-- The bytes a time in the package's layouts is written with: digits, signs, the separators of
the date, the clock and the fraction, a space, `T` and `Z`. -/
def isTimeByte (b : UInt8) : Bool :=
  isDigit b || b = byte '-' || b = byte '+' || b = byte ':' || b = byte '.' || b = byte ',' ||
    b = byte ' ' || b = byte 'T' || b = byte 'Z'

theorem isTimeByte_of_isDigit {b : UInt8} (h : isDigit b = true) : isTimeByte b = true := by
  simp [isTimeByte, h]

/-- An element that went from `value` to `rest` read only time bytes. -/
def ReadsTimeBytes (value rest : List UInt8) : Prop :=
  ∃ pre, value = pre ++ rest ∧ ∀ b ∈ pre, isTimeByte b = true

namespace ReadsTimeBytes

theorem refl (value : List UInt8) : ReadsTimeBytes value value := ⟨[], rfl, nofun⟩

theorem trans {a b c : List UInt8} (h₁ : ReadsTimeBytes a b) (h₂ : ReadsTimeBytes b c) :
    ReadsTimeBytes a c := by
  obtain ⟨p₁, rfl, hp₁⟩ := h₁
  obtain ⟨p₂, rfl, hp₂⟩ := h₂
  exact ⟨p₁ ++ p₂, (List.append_assoc _ _ _).symm, fun x hx =>
    (List.mem_append.mp hx).elim (hp₁ x) (hp₂ x)⟩

theorem cons {b : UInt8} {value rest : List UInt8} (hb : isTimeByte b = true)
    (h : ReadsTimeBytes value rest) : ReadsTimeBytes (b :: value) rest := by
  obtain ⟨p, rfl, hp⟩ := h
  exact ⟨b :: p, rfl, fun x hx => (List.mem_cons.mp hx).elim (· ▸ hb) (hp x)⟩

theorem drop {value : List UInt8} (n : Nat) (h : ∀ b ∈ value.take n, isTimeByte b = true) :
    ReadsTimeBytes value (value.drop n) :=
  ⟨value.take n, (List.take_append_drop n value).symm, h⟩

theorem dropWhile_space (value : List UInt8) :
    ReadsTimeBytes value (value.dropWhile (· = byte ' ')) :=
  ⟨value.takeWhile (· = byte ' '), (List.takeWhile_append_dropWhile _ _).symm, fun b hb => by
    have := List.mem_takeWhile_imp hb
    simp only [decide_eq_true_eq] at this
    subst this; rfl⟩

end ReadsTimeBytes

/-- Literal text of time bytes, spaces of the value matched by a space of it included. -/
theorem skipFrom_reads {pre : List UInt8} :
    ∀ {cut : Bool} {value rest : List UInt8}, (∀ b ∈ pre, isTimeByte b = true) →
      skipFrom cut pre value = .ok rest → ReadsTimeBytes value rest := by
  induction pre with
  | nil => intro cut value rest _ h; cases h; exact .refl _
  | cons p pre ih =>
    intro cut value rest hp h
    have ih' := fun {c v r} => @ih c v r (fun b hb => hp b (List.mem_cons_of_mem _ hb))
    simp only [skipFrom] at h
    split_ifs at h with hsp hcut hhead
    · exact ih' h
    · exact (ReadsTimeBytes.dropWhile_space value).trans (ih' h)
    · split at h
      · split_ifs at h with hc
        subst hc
        exact .cons (hp _ (List.mem_cons_self _ _)) (ih' h)
      · cases h

/-- `atoi` accepts a sign and digits only. -/
theorem atoi_timeBytes {s : List UInt8} {n : Int} (h : atoi s = some n) :
    ∀ b ∈ s, isTimeByte b = true := by
  have hd : ∀ {r : List UInt8}, r.all isDigit = true → ∀ b ∈ r, isTimeByte b = true :=
    fun hr b hb => isTimeByte_of_isDigit (List.all_eq_true.mp hr b hb)
  cases s with
  | nil => nofun
  | cons b r =>
    simp only [atoi] at h
    split_ifs at h with h₁ h₂ h₃ h₄ h₅ h₆ <;> try contradiction
    all_goals
      intro x hx
      rcases List.mem_cons.mp hx with rfl | hx
      all_goals first
        | (subst_vars; rfl)
        | exact hd ‹_› _ (List.mem_cons_self _ _)
        | exact hd ‹_› x hx
        | exact hd ‹_› x (List.mem_cons_of_mem _ hx)

theorem getnum_reads {s : List UInt8} {fixed : Bool} {n : Int} {rest : List UInt8}
    (h : getnum s fixed = some (n, rest)) : ReadsTimeBytes s rest := by
  unfold getnum at h
  split at h
  · split_ifs at h with h₀ h₁ h₂
    · cases h; exact .cons (isTimeByte_of_isDigit h₀) (.cons (isTimeByte_of_isDigit h₁) (.refl _))
    · cases h; exact .cons (isTimeByte_of_isDigit h₀) (.refl _)
  · split_ifs at h with h₀
    cases h
    exact .cons (isTimeByte_of_isDigit (Bool.and_eq_true_iff.mp h₀).1) (.refl _)
  · cases h

/-- The fraction read after `05` is a period or a comma and digits. -/
theorem fractionAfterSeconds_reads {next : Option Chunk} {st st' : Fields}
    {value rest : List UInt8} (h : fractionAfterSeconds next st value = .ok (st', rest)) :
    ReadsTimeBytes value rest := by
  unfold fractionAfterSeconds at h
  split at h
  · rename_i c d t
    split_ifs at h with hc
    · dsimp only at h
      split at h
      · cases h
        apply ReadsTimeBytes.drop
        rw [List.tail_cons, Nat.add_comm, List.take_succ_cons,
          ← List.prefix_iff_eq_take.mp (List.takeWhile_prefix isDigit)]
        intro b hb
        rcases List.mem_cons.mp hb with rfl | hb
        · rcases hc.1 with rfl | rfl <;> rfl
        · exact isTimeByte_of_isDigit (List.mem_takeWhile_imp hb)
      · cases h
    · cases h; exact .refl _
  · cases h; exact .refl _

/-- A fraction of at most nine digits that parses is a period or a comma, a sign and digits. -/
theorem parseNanoseconds_timeBytes {value : List UInt8} {k ns : Nat} (hk : k ≤ 9)
    (h : parseNanoseconds value (1 + k) = .ok ns) :
    ∀ b ∈ value.take (1 + k), isTimeByte b = true := by
  unfold parseNanoseconds at h
  split_ifs at h with hhead
  rw [Nat.min_eq_left (by omega)] at h
  dsimp only at h
  split at h
  · rename_i n hn
    obtain ⟨v, vs, rfl⟩ : ∃ v vs, value = v :: vs :=
      List.exists_cons_of_ne_nil (by rintro rfl; simp at hhead)
    rw [Nat.add_comm, List.take_succ_cons]
    rw [Nat.add_comm, List.take_succ_cons, List.drop_one, List.tail_cons] at hn
    intro b hb
    rcases List.mem_cons.mp hb with rfl | hb
    · simp only [List.head?_cons, Option.some.injEq] at hhead
      rcases hhead with rfl | rfl <;> rfl
    · exact atoi_timeBytes hn b hb
  · cases h

/-- A sign, two digits, a colon and two digits: a numeric offset of `Z07:00`. -/
theorem offset_reads {value : List UInt8} (hl : 6 ≤ value.length)
    (hs : value.head? = some (byte '+') ∨ value.head? = some (byte '-'))
    (hh : (getnum ((value.drop 1).take 2) true).isSome)
    (hc : value.get? 3 = some (byte ':'))
    (hm : (getnum ((value.drop 4).take 2) true).isSome) :
    ReadsTimeBytes value (value.drop 6) := by
  obtain ⟨a₀, a₁, a₂, a₃, a₄, a₅, r, rfl⟩ :
      ∃ a₀ a₁ a₂ a₃ a₄ a₅ r, value = a₀ :: a₁ :: a₂ :: a₃ :: a₄ :: a₅ :: r := by
    match value, hl with
    | a₀ :: a₁ :: a₂ :: a₃ :: a₄ :: a₅ :: r, _ => exact ⟨a₀, a₁, a₂, a₃, a₄, a₅, r, rfl⟩
  obtain ⟨⟨v₁, r₁⟩, hh⟩ := Option.isSome_iff_exists.mp hh
  obtain ⟨⟨v₂, r₂⟩, hm⟩ := Option.isSome_iff_exists.mp hm
  obtain ⟨b₁, b₂, he₁, hd₁, hd₂⟩ := getnum_true_some hh
  obtain ⟨b₄, b₅, he₂, hd₄, hd₅⟩ := getnum_true_some hm
  simp only [List.drop_succ_cons, List.drop_zero, List.take_succ_cons, List.take_zero,
    List.cons.injEq] at he₁ he₂
  obtain ⟨rfl, rfl, -⟩ := he₁
  obtain ⟨rfl, rfl, -⟩ := he₂
  simp only [List.get?_cons_succ, List.get?_cons_zero, Option.some.injEq] at hc
  simp only [List.head?_cons, Option.some.injEq] at hs
  subst hc
  refine .cons ?_ (.cons (isTimeByte_of_isDigit hd₁) (.cons (isTimeByte_of_isDigit hd₂)
    (.cons rfl (.cons (isTimeByte_of_isDigit hd₄) (.cons (isTimeByte_of_isDigit hd₅) (.refl _))))))
  rcases hs with rfl | rfl <;> rfl

/-- `Z07:00` reads a `Z` or a numeric offset. -/
theorem isoOffset_reads {st st' : Fields} {value rest : List UInt8}
    (h : isoOffset st value = .ok (st', rest)) : ReadsTimeBytes value rest := by
  dsimp only [isoOffset] at h
  split_ifs at h with h₁ h₂ h₃ h₄ h₅ h₆ h₇
  · cases h
    obtain ⟨v, vs, rfl⟩ : ∃ v vs, value = v :: vs :=
      List.exists_cons_of_ne_nil (by rintro rfl; simp at h₁)
    simp only [List.head?_cons, Option.some.injEq] at h₁
    subst h₁
    exact .cons rfl (.refl _)
  all_goals
    cases h
    simp only [not_or, not_lt, ne_eq, not_not, Option.not_isSome, Option.isNone_iff_eq_none,
      ← Option.isSome_iff_ne_none] at *
  all_goals
    first
    | exact offset_reads h₂.1 (.inl ‹_›) h₃ h₂.2 ‹_ ∧ _›.2
    | exact offset_reads h₂.1 (.inr ‹_›) h₃ h₂.2 ‹_ ∧ _›.2
    | simp_all

/-- The elements of a layout whose literal text is in time bytes and whose fractions have at
most nine digits, as those of the package's layouts. -/
def Chunk.inTimeBytes : Chunk → Bool
  | .lit p => (GoString.ofString p).bytes.all isTimeByte
  | .fracSecond0 d => decide (d ≤ 9)
  | _ => true

/-- **Step.** Each element of such a layout reads only time bytes. -/
theorem Chunk.parse_reads {next : Option Chunk} {c : Chunk} (hc : c.inTimeBytes = true)
    {st st' : Fields} {value rest : List UInt8} (h : c.parse next st value = .ok (st', rest)) :
    ReadsTimeBytes value rest := by
  cases c
  case lit p => exact skipFrom_reads (List.all_eq_true.mp hc) (parse_lit_ok h).2
  case longYear =>
    simp only [Chunk.parse] at h
    split_ifs at h
    split at h
    · cases h; exact .drop 4 (atoi_timeBytes ‹_›)
    · cases h
  case zeroSecond =>
    obtain ⟨s, r, hg, hf⟩ := parse_zeroSecond_ok h
    exact (getnum_reads hg).trans (fractionAfterSeconds_reads hf)
  case fracSecond0 d =>
    obtain ⟨-, ns, hp, -, rfl⟩ := parse_fracSecond0_ok h
    exact .drop _ (parseNanoseconds_timeBytes (of_decide_eq_true hc) hp)
  case iso8601ColonTZ => exact isoOffset_reads h
  all_goals
    simp only [Chunk.parse] at h
    split at h
    · try split_ifs at h
      all_goals cases h; exact getnum_reads ‹_›
    · cases h

/-- **Run.** So does a run of such elements. -/
theorem runChunks_reads {cs : List Chunk} (hcs : ∀ c ∈ cs, c.inTimeBytes = true) {st st' : Fields}
    {value rest : List UInt8} (h : runChunks cs st value = .ok (st', rest)) :
    ReadsTimeBytes value rest := by
  induction cs generalizing st value with
  | nil => cases h; exact .refl _
  | cons c cs ih =>
    obtain ⟨st₁, r₁, hc, hrest⟩ := runChunks_cons_ok h
    exact (Chunk.parse_reads (hcs c (List.mem_cons_self _ _)) hc).trans
      (ih (fun c' hc' => hcs c' (List.mem_cons_of_mem _ hc')) hrest)

theorem formats_inTimeBytes : ∀ l ∈ formats, ∀ c ∈ l.chunks, c.inTimeBytes = true := by
  decide

/-- Every layout reads its date and hour, then a colon. -/
theorem formats_colon : ∀ l ∈ formats,
    l.chunks = l.chunks.take 7 ++ .lit ":" :: l.chunks.drop 8 ∧ .zeroSecond ∉ l.chunks.take 7 := by
  decide

/-- An input one of the six layouts parses is written in time bytes. -/
theorem parse_timeBytes {l : Layout} (hl : l ∈ formats) {v : GoString} {t : GoTime}
    (h : parse l v = .ok t) : ∀ b ∈ v.bytes, isTimeByte b = true := by
  obtain ⟨st, hr, -, -⟩ := parse_eq_ok.mp h
  obtain ⟨pre, he, hp⟩ := runChunks_reads (formats_inTimeBytes l hl) hr
  rw [List.append_nil] at he
  exact he ▸ hp

/-- An input one of the six layouts parses has a colon, after its hour. -/
theorem parse_colon {l : Layout} (hl : l ∈ formats) {v : GoString} {t : GoTime}
    (h : parse l v = .ok t) : byte ':' ∈ v.bytes := by
  obtain ⟨st, hr, -, -⟩ := parse_eq_ok.mp h
  obtain ⟨hsplit, hsec⟩ := formats_colon l hl
  rw [hsplit] at hr
  obtain ⟨st₁, r₁, h₁, h₂⟩ := runChunks_append_ok hsec hr
  obtain ⟨pre, hv, -⟩ := runChunks_reads
    (fun c hc => formats_inTimeBytes l hl c (List.mem_of_mem_take hc)) h₁
  obtain ⟨st₂, r₂, hc, -⟩ := runChunks_cons_ok h₂
  rw [hv, skip_single (by decide) (parse_lit_ok hc).2]
  exact List.mem_append_right _ (List.mem_cons_self _ _)

end TimeBytes

namespace NHNCloudTime

theorem trimQuotes_sublist (s : GoString) : (trimQuotes s).bytes.Sublist s.bytes :=
  (List.rdropWhile_prefix _ _).sublist.trans (List.dropWhile_suffix _).sublist

theorem mem_dropWhile_of_not {p : UInt8 → Bool} {b : UInt8} (hb : p b = false) :
    ∀ {l : List UInt8}, b ∈ l → b ∈ l.dropWhile p
  | x :: xs, h => by
    rw [List.dropWhile_cons]
    split
    · rcases List.mem_cons.mp h with rfl | h
      · simp_all
      · exact mem_dropWhile_of_not hb h
    · exact h

/-- Trimming the double quotes keeps every other byte. -/
theorem mem_trimQuotes {s : GoString} {b : UInt8} (hb : b ≠ byte '"') (h : b ∈ s.bytes) :
    b ∈ (trimQuotes s).bytes := by
  have hp : decide (b = byte '"') = false := decide_eq_false hb
  simp only [trimQuotes, List.rdropWhile, List.mem_reverse]
  exact mem_dropWhile_of_not hp (List.mem_reverse.mpr (mem_dropWhile_of_not hp h))

/-- What `UnmarshalJSON` accepts: `null` or an empty string, which leave the time as it was, or
a time, made of time bytes and with a colon. -/
theorem unmarshalJSON_accepts {ct : NHNCloudTime} {data : GoString}
    (h : (unmarshalJSON ct data).2 = none) :
    ((trimQuotes data = GoString.ofString "null" ∨ trimQuotes data = .empty) ∧
      unmarshalJSON ct data = (ct, none)) ∨
    ((∀ b ∈ (trimQuotes data).bytes, isTimeByte b = true) ∧
      byte ':' ∈ (trimQuotes data).bytes) := by
  unfold unmarshalJSON unmarshalWith at h ⊢
  dsimp only at h ⊢
  split_ifs at h ⊢ with hn
  · exact .inl ⟨hn, rfl⟩
  · split at h
    · rename_i t ht
      obtain ⟨l, hl, hp⟩ := parseFirst_ok ht
      exact .inr ⟨parse_timeBytes hl hp, parse_colon hl hp⟩
    · cases h

/-- **What `UnmarshalJSON` refuses.** Every text other than `null` and the empty string, its
double quotes trimmed, that has a byte other than a time byte or has no colon: the receiver is
left as it was, and the error carries the trimmed text and the error of the last layout tried,
`2006-01-02T15:04:05.000000Z`. -/
theorem unmarshalJSON_error_of_not_time {ct : NHNCloudTime} {data : GoString}
    (hnull : trimQuotes data ≠ GoString.ofString "null") (hempty : trimQuotes data ≠ .empty)
    (hbad : (∃ b ∈ (trimQuotes data).bytes, isTimeByte b = false) ∨
      byte ':' ∉ (trimQuotes data).bytes) :
    ∃ err, parse layoutDateTimeMicroZ (trimQuotes data) = .error err ∧
      unmarshalJSON ct data = (ct, some (.unparsableTime (trimQuotes data) err)) := by
  unfold unmarshalJSON unmarshalWith
  dsimp only
  rw [if_neg (not_or.mpr ⟨hnull, hempty⟩)]
  cases hp : parseFirst (trimQuotes data) formats .nilError with
  | ok t =>
    obtain ⟨l, hl, ht⟩ := parseFirst_ok hp
    rcases hbad with ⟨b, hb, hf⟩ | hc
    · exact absurd (parse_timeBytes hl ht b hb) (by simp [hf])
    · exact absurd (parse_colon hl ht) hc
  | error err => exact ⟨err, parseFirst_error hp _ rfl, rfl⟩

theorem unmarshalJSON_error_of_not_time_on_word :
    ∃ err, parse layoutDateTimeMicroZ (trimQuotes (GoString.ofString "\"yesterday\"")) =
        .error err ∧
      unmarshalJSON .zero (GoString.ofString "\"yesterday\"") =
        (.zero, some (.unparsableTime (trimQuotes (GoString.ofString "\"yesterday\"")) err)) :=
  unmarshalJSON_error_of_not_time (by decide) (by decide) (.inr (by decide))

/-- Nothing `UnmarshalJSON` accepts has a backslash. -/
theorem backslash_not_mem_of_accepts {ct : NHNCloudTime} {data : GoString}
    (h : (unmarshalJSON ct data).2 = none) : byte '\\' ∉ (trimQuotes data).bytes := by
  rcases unmarshalJSON_accepts h with ⟨hn | he, -⟩ | ⟨hb, -⟩
  · rw [hn]; decide
  · rw [he]; exact List.not_mem_nil _
  · intro hm; have := hb _ hm; revert this; decide

end NHNCloudTime

section RawText

theorem digitsText_toNat_lt {ds : List (Fin 10)} {c : Char} (h : c ∈ (digitsText ds).toList) :
    c.toNat < 58 := by
  obtain ⟨d, hd, rfl⟩ := List.mem_map.mp h
  simp at hd
  obtain ⟨a, -, rfl⟩ := hd
  exact (by decide : ∀ a : Fin 10, (Char.ofNat (48 + a)).toNat < 58) a

/-- A number without an exponent is written with signs, digits and a period: no colon. -/
theorem colon_not_mem_number {n : Number} (hexp : n.exp = none) :
    byte ':' ∉ (GoString.ofString n.text).bytes := by
  intro hm
  obtain ⟨c, hc, hb⟩ := List.mem_flatMap.mp hm
  have hcn := GoString.encodeRune_ascii hb (by decide)
  simp only [Number.text, hexp, String.toList, String.data_append, List.mem_append] at hc
  have : c.toNat < 58 := by
    rcases hc with ((hc | hc) | hc) | hc
    · split at hc <;> simp_all
    · exact digitsText_toNat_lt hc
    · split at hc
      · simp at hc
      · simp only [String.data_append, List.mem_append] at hc
        rcases hc with hc | hc
        · simp_all
        · exact digitsText_toNat_lt hc
    · simp at hc
  rw [← hcn] at this
  exact absurd this (by decide)

/-- A member that is not a string is accepted only as `null` or an empty text, which leave
the time as it was. -/
theorem NHNCloudTime.unmarshalValue_of_not_str {ct : NHNCloudTime} {v : Json}
    (hv : ∀ s, v ≠ .str s) (h : (NHNCloudTime.unmarshalValue ct v).2 = none) :
    NHNCloudTime.unmarshalValue ct v = (ct, none) := by
  rcases NHNCloudTime.unmarshalJSON_accepts h with ⟨-, he⟩ | ⟨hb, hc⟩
  · exact he
  exfalso
  have hbad : ∀ b ∈ (GoString.ofString v.rawText).bytes, b ≠ byte '"' → isTimeByte b = false →
      False := fun b hm hq ht => by
    simpa [ht] using hb b (NHNCloudTime.mem_trimQuotes hq hm)
  cases v with
  | null => exact hbad (byte 'n') (by decide) (by decide) (by decide)
  | bool b =>
    cases b
    · exact hbad (byte 'a') (by decide) (by decide) (by decide)
    · exact hbad (byte 'r') (by decide) (by decide) (by decide)
  | num n =>
    cases hexp : n.exp with
    | none => exact colon_not_mem_number hexp ((NHNCloudTime.trimQuotes_sublist _).subset hc)
    | some e =>
      refine hbad (byte 'e') ?_ (by decide) (by decide)
      simp only [Json.rawText, Number.text, hexp, GoString.ofString_append]
      exact List.mem_append_right _ (List.mem_append_left _ (List.mem_append_left _ (by decide)))
  | str s => exact hv s rfl
  | arr xs =>
    refine hbad (byte '[') ?_ (by decide) (by decide)
    simp only [Json.rawText, GoString.ofString_append]
    exact List.mem_append_left _ (List.mem_append_left _ (by decide))
  | obj kvs =>
    refine hbad (byte '\x7b') ?_ (by decide) (by decide)
    simp only [Json.rawText, GoString.ofString_append]
    exact List.mem_append_left _ (List.mem_append_left _ (by decide))

/-- The bytes of strings joined are those of each string in turn. -/
theorem ofString_join_map (l : List Char) (f : Char → String) :
    (GoString.ofString (String.join (l.map f))).bytes =
      l.flatMap fun c => (GoString.ofString (f c)).bytes := by
  show (String.join (l.map f)).data.flatMap _ = _
  rw [String.data_join, List.map_map]
  exact (List.flatMap_assoc _ _ _).trans rfl

/-- The bytes of a string literal the encoder writes: a quote, each rune as `escapeRune`
writes it, a quote. -/
theorem ofString_quote (s : String) :
    (GoString.ofString (Json.quote false s)).bytes =
      byte '"' :: (s.toList.flatMap fun c => (GoString.ofString (Json.escapeRune false c)).bytes) ++
        [byte '"'] := by
  rw [Json.quote, GoString.ofString_append, GoString.ofString_append, ofString_join_map]
  rfl

/-- A rune is written as itself, when it is none of `"`, a backslash and a control character,
or as an escape, which holds a backslash. -/
theorem escapeRune_false_cases (c : Char) :
    (Json.escapeRune false c = c.toString ∧ c ≠ '"' ∧ c ≠ '\\' ∧ 0x20 ≤ c.toNat) ∨
      '\\' ∈ (Json.escapeRune false c).toList := by
  unfold Json.escapeRune
  by_cases h₁ : c = '"'
  · rw [if_pos h₁]; exact .inr (by decide)
  by_cases h₂ : c = '\\'
  · rw [if_neg h₁, if_pos h₂]; exact .inr (by decide)
  rw [if_neg h₁, if_neg h₂]
  by_cases h₃ : c = '\n'
  · rw [if_pos h₃]; exact .inr (by decide)
  by_cases h₄ : c = '\r'
  · rw [if_neg h₃, if_pos h₄]; exact .inr (by decide)
  by_cases h₅ : c = '\t'
  · rw [if_neg h₃, if_neg h₄, if_pos h₅]; exact .inr (by decide)
  rw [if_neg h₃, if_neg h₄, if_neg h₅]
  by_cases h₆ : c.toNat = 8
  · rw [if_pos h₆]; exact .inr (by decide)
  by_cases h₇ : c.toNat = 12
  · rw [if_neg h₆, if_pos h₇]; exact .inr (by decide)
  by_cases h₈ : c.toNat < 0x20
  · rw [if_neg h₆, if_neg h₇, if_pos h₈]
    exact .inr (List.mem_append_left _ (List.mem_append_left _ (by decide)))
  rw [if_neg h₆, if_neg h₇, if_neg h₈, if_neg (by simp)]
  by_cases h₉ : c = '\u2028'
  · rw [if_pos h₉]; exact .inr (by decide)
  by_cases h₁₀ : c = '\u2029'
  · rw [if_neg h₉, if_pos h₁₀]; exact .inr (by decide)
  rw [if_neg h₉, if_neg h₁₀]
  exact .inl ⟨rfl, h₁, h₂, by omega⟩
/-- Bytes with no `"`, no backslash and no control byte are a valid string body. -/
theorem validStringBody_of_plain :
    ∀ {bs : List UInt8}, (∀ b ∈ bs, b ≠ byte '"' ∧ b ≠ byte '\\' ∧ 0x20 ≤ b.toNat) →
      validStringBody bs = true
  | [], _ => rfl
  | b :: rest, h => by
    obtain ⟨h₁, h₂, h₃⟩ := h b (List.mem_cons_self _ _)
    unfold validStringBody
    rw [if_neg h₂]
    simp only [ne_eq, h₁, not_false_eq_true, decide_True, h₃, Bool.true_and]
    exact validStringBody_of_plain fun x hx => h x (List.mem_cons_of_mem _ hx)

theorem byte_mem_ofString {c : Char} {t : String} (hc : c.toNat < 0x80) (h : c ∈ t.toList) :
    byte c ∈ (GoString.ofString t).bytes :=
  List.mem_flatMap.mpr ⟨c, h, by simp [GoString.encodeRune, hc, byte]⟩

/-- The bytes of a rune written as itself are none of `"`, a backslash and a control byte. -/
theorem encodeRune_plain {c : Char} (hq : c ≠ '"') (hb : c ≠ '\\') (hc : 0x20 ≤ c.toNat)
    {b : UInt8} (h : b ∈ GoString.encodeRune c) :
    b ≠ byte '"' ∧ b ≠ byte '\\' ∧ 0x20 ≤ b.toNat := by
  by_cases hl : b.toNat < 0x80
  · have he := GoString.encodeRune_ascii h hl
    have hne : ∀ d : Char, d.toNat < 0x80 → c ≠ d → b ≠ byte d := fun d hd hcd hbd => by
      have hcd' : c.toNat = d.toNat := by
        rw [← he, hbd]; exact UInt8.toNat_ofNat_of_lt (show d.toNat < 256 by omega)
      exact hcd (by rw [← Char.ofNat_toNat c, hcd', Char.ofNat_toNat])
    exact ⟨hne '"' (by decide) hq, hne '\\' (by decide) hb, he ▸ hc⟩
  · refine ⟨fun e => hl (e ▸ by decide), fun e => hl (e ▸ by decide), by omega⟩

/-- **The creation time on both paths.** A string member that `UnmarshalJSON` accepts needs no
escaping, so the permissive path, which wraps it in quotes as it is, reads the same bytes and
the same time. -/
theorem createTimeOf_eq {s : String}
    (h : (NHNCloudTime.unmarshalValue .zero (.str s)).2 = none) :
    createTimeOf (GoString.ofString s) = (NHNCloudTime.unmarshalValue .zero (.str s)).1 := by
  have hplain : ∀ c ∈ s.toList,
      Json.escapeRune false c = c.toString ∧ c ≠ '"' ∧ c ≠ '\\' ∧ 0x20 ≤ c.toNat := by
    intro c hc
    refine (escapeRune_false_cases c).resolve_right fun hesc => ?_
    apply NHNCloudTime.backslash_not_mem_of_accepts h
    apply NHNCloudTime.mem_trimQuotes (by decide)
    show byte '\\' ∈ (GoString.ofString (Json.quote false s)).bytes
    rw [ofString_quote]
    exact List.mem_cons_of_mem _ (List.mem_append_left _
      (List.mem_flatMap.mpr ⟨c, hc, byte_mem_ofString (by decide) hesc⟩))
  have hE : (s.toList.flatMap fun c => (GoString.ofString (Json.escapeRune false c)).bytes) =
      (GoString.ofString s).bytes := by
    show _ = s.toList.flatMap GoString.encodeRune
    refine List.flatMap_congr fun c hc => ?_
    rw [(hplain c hc).1]
    exact List.append_nil _
  have hvalid : validStringBody (GoString.ofString s).bytes = true := by
    refine validStringBody_of_plain fun b hb => ?_
    obtain ⟨c, hc, hbc⟩ := List.mem_flatMap.mp hb
    obtain ⟨-, hq, hbs, h20⟩ := hplain c hc
    exact encodeRune_plain hq hbs h20 hbc
  have hdata : GoString.ofString (Json.rawText (.str s)) =
      ⟨byte '"' :: (GoString.ofString s).bytes ++ [byte '"']⟩ := by
    show (⟨(GoString.ofString (Json.quote false s)).bytes⟩ : GoString) = _
    rw [ofString_quote, hE]
  unfold createTimeOf
  rw [if_pos hvalid]
  simp only [NHNCloudTime.unmarshalValue, hdata] at h ⊢
  rcases hu : NHNCloudTime.unmarshalJSON .zero
      ⟨byte '"' :: (GoString.ofString s).bytes ++ [byte '"']⟩ with ⟨ct, _ | e⟩
  · rfl
  · rw [hu] at h; cases h

end RawText

end NhnCloudLayer3
