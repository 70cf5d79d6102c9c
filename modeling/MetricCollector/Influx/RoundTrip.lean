import MetricCollector.Influx.FieldScan

/-!
# A line and the point it was written from

The line of a point is parsed into a point with the key and the fields that were written,
and the time in whole units of the precision.

* `safeCalcTime_div` is the time: cutting it to whole units loses no more than the cut.
* `SendablePoint` says which points can be sent, and `sendablePoint_of_newPoint` that the
  ones of `NewPoint` can when their field names need no escape.
* `parsePoint_precisionString` is the round trip.
-/

namespace MetricCollector.Influx

open GoLib

/-! ## The timestamp -/

section Time

variable (precision : String)

theorem getPrecisionMultiplier_bounds :
    1 ≤ (getPrecisionMultiplier precision).toInt ∧
      (getPrecisionMultiplier precision).toInt ≤ 3600000000000 := by
  unfold getPrecisionMultiplier
  split
  all_goals decide

theorem natAbs_tdiv_mul_le (t b : Int) : (t.tdiv b * b).natAbs ≤ t.natAbs := by
  rw [Int.natAbs_mul, Int.natAbs_tdiv]
  exact Nat.div_mul_le_self _ _

/-- The times that `models.CheckTime` lets through. -/
def InTime (t : Int64) : Prop := minNanoTime ≤ t ∧ t ≤ maxNanoTime

instance (t : Int64) : Decidable (InTime t) := inferInstanceAs (Decidable (_ ∧ _))

theorem InTime.toInt {t : Int64} (h : InTime t) :
    -9223372036854775806 ≤ t.toInt ∧ t.toInt ≤ 9223372036854775806 :=
  ⟨Int64.le_iff_toInt_le.mp h.1, Int64.le_iff_toInt_le.mp h.2⟩

theorem toInt_div_multiplier {t : Int64} (h : InTime t) :
    (t / getPrecisionMultiplier precision).toInt =
      t.toInt.tdiv (getPrecisionMultiplier precision).toInt := by
  refine Int64.toInt_div_of_ne_left _ _ ?_
  rintro rfl
  exact absurd h.toInt.1 (by decide)

theorem toInt_div_mul_multiplier {t : Int64} (h : InTime t) :
    (t / getPrecisionMultiplier precision * getPrecisionMultiplier precision).toInt =
      t.toInt.tdiv (getPrecisionMultiplier precision).toInt *
        (getPrecisionMultiplier precision).toInt := by
  have hle := natAbs_tdiv_mul_le t.toInt (getPrecisionMultiplier precision).toInt
  have hrange := h.toInt
  rw [Int64.toInt_mul, toInt_div_multiplier precision h]
  apply Int.bmod_eq_of_le
  · omega
  · omega

variable {precision}

/-- The product of a cut time with its unit passes the test for an overflow. -/
theorem mul_div_multiplier {t : Int64} (h : InTime t) :
    t / getPrecisionMultiplier precision * getPrecisionMultiplier precision /
        getPrecisionMultiplier precision =
      t / getPrecisionMultiplier precision := by
  obtain ⟨hone, -⟩ := getPrecisionMultiplier_bounds precision
  have hrange := h.toInt
  have hle := natAbs_tdiv_mul_le t.toInt (getPrecisionMultiplier precision).toInt
  have hproduct := toInt_div_mul_multiplier precision h
  have hmin : t / getPrecisionMultiplier precision * getPrecisionMultiplier precision ≠
      Int64.minValue := by
    intro heq
    have htoInt : Int64.minValue.toInt = -9223372036854775808 := rfl
    rw [heq] at hproduct
    omega
  apply Int64.toInt_inj.mp
  rw [Int64.toInt_div_of_ne_left _ _ hmin, hproduct, Int.mul_tdiv_cancel _ (by omega),
    toInt_div_multiplier precision h]

theorem safeSignedMult_div {t : Int64} (h : InTime t) :
    safeSignedMult (t / getPrecisionMultiplier precision) (getPrecisionMultiplier precision) =
      some (t / getPrecisionMultiplier precision * getPrecisionMultiplier precision) := by
  by_cases htrivial : t / getPrecisionMultiplier precision = 0 ∨
      getPrecisionMultiplier precision = 0 ∨ t / getPrecisionMultiplier precision = 1 ∨
      getPrecisionMultiplier precision = 1
  · rw [safeSignedMult, if_pos htrivial]
  · obtain ⟨hone, hhour⟩ := getPrecisionMultiplier_bounds precision
    have hne : (getPrecisionMultiplier precision).toInt ≠ 1 := fun hunit =>
      htrivial (Or.inr (Or.inr (Or.inr (Int64.toInt_inj.mp hunit))))
    have hrange := h.toInt
    have hhalf : (t.toInt.tdiv (getPrecisionMultiplier precision).toInt).natAbs ≤
        t.toInt.natAbs / 2 := by
      rw [Int.natAbs_tdiv]
      exact Nat.div_le_div_left (by omega) (by decide)
    have hsentinel : ¬(t / getPrecisionMultiplier precision = minNanoTime ∨
        getPrecisionMultiplier precision = maxNanoTime) := by
      rintro (hmin | hmax)
      · have htoInt : minNanoTime.toInt = -9223372036854775806 := rfl
        have hquotient := toInt_div_multiplier precision h
        rw [hmin, htoInt] at hquotient
        omega
      · have htoInt : maxNanoTime.toInt = 9223372036854775806 := rfl
        rw [hmax, htoInt] at hhour
        omega
    rw [safeSignedMult, if_neg htrivial, if_neg hsentinel, if_pos (mul_div_multiplier h)]

/-- A time that was cut to whole units is calculated back. -/
theorem safeCalcTime_div {t : Int64} (h : InTime t) :
    safeCalcTime (t / getPrecisionMultiplier precision) precision =
      .ok (t / getPrecisionMultiplier precision * getPrecisionMultiplier precision) := by
  have hrange := h.toInt
  have hle := natAbs_tdiv_mul_le t.toInt (getPrecisionMultiplier precision).toInt
  have hproduct := toInt_div_mul_multiplier precision h
  rw [safeCalcTime, safeSignedMult_div h]
  dsimp only
  rw [if_neg]
  rintro (hlow | hhigh)
  · rw [Int64.lt_iff_toInt_lt, hproduct] at hlow
    have hmin : minNanoTime.toInt = -9223372036854775806 := rfl
    omega
  · rw [Int64.lt_iff_toInt_lt, hproduct] at hhigh
    have hmax : maxNanoTime.toInt = 9223372036854775806 := rfl
    omega

end Time

theorem scanTimeLoop_digits {ds : Text} (hds : ∀ c ∈ ds, c.isDigit = true) (first : Bool) :
    scanTimeLoop first ds = .ok (ds, []) := by
  induction ds generalizing first with
  | nil => rfl
  | cons c ds ih =>
      have hc := hds c List.mem_cons_self
      have hend : ¬(c = '\n' ∨ c = ' ') := by
        rintro (rfl | rfl)
        · cases hc
        · cases hc
      rw [scanTimeLoop, if_neg hend, if_pos (Or.inr hc),
        ih fun d hd => hds d (List.mem_cons_of_mem c hd)]
      rfl

theorem scanTime_formatInteger (i : Int) :
    scanTime (' ' :: (formatInteger i).toList) = .ok ((formatInteger i).toList, []) := by
  obtain ⟨sign, hsign, htext⟩ := formatInteger_eq i
  have hdigits : ∀ c ∈ Nat.toDigits 10 i.natAbs, c.isDigit = true :=
    fun c hc => isDigit_of_mem_toDigits hc
  have hskip : ∀ buf, skipWhitespace (' ' :: buf) = skipWhitespace buf := fun _ => rfl
  rw [htext, scanTime, hskip]
  obtain rfl | rfl := hsign
  · obtain ⟨c, cs, hcons⟩ := List.exists_cons_of_ne_nil
      (Nat.toDigits_ne_nil (b := 10) (n := i.natAbs))
    have hc : c.isDigit = true := hdigits c (hcons ▸ List.mem_cons_self)
    rw [List.nil_append, ← scanTimeLoop_digits hdigits true, hcons,
      skipWhitespace_cons (isDigit_ne hc rfl) (isDigit_ne hc rfl) (isDigit_ne hc rfl)]
  · rw [List.singleton_append, skipWhitespace_cons (by decide) (by decide) (by decide),
      scanTimeLoop, if_neg (by decide), if_pos (by decide), scanTimeLoop_digits hdigits]
    rfl

/-! ## A line -/

/-- A point that can be sent: plain names, keys that are not too long once they are escaped,
and a number of tags that leaves room in the table of the scanner. -/
structure SendablePoint (appendFloat : ℚ → Text) (pt : Point) : Prop where
  name : WritableName pt.measurement.toList
  tags : SendableTags pt.tags
  room : ∀ k, (sentTags pt.tags).length ≠ 100 * 2 ^ k
  fields : SendableFields appendFloat pt.fields
  size : ∀ f ∈ pt.fields,
    makeKeySize pt.measurement pt.tags + 4 + escapedSize escapeChars f.1 ≤ maxKeyLength

/-- The bytes that a scanner of names looks at. -/
def nameMarks : List Char := ['\\', '\n', '\t', '\x00'] ++ escapeChars

/-- A name of a field that is written as it stands. -/
def BareName (k : String) : Prop := ∀ c ∈ k.toList, c ∉ nameMarks

instance (k : String) : Decidable (BareName k) := List.decidableBAll _ _

theorem BareName.plain {k : String} (h : BareName k) : Plain k.toList :=
  ⟨fun hmem => h _ hmem (by decide), fun hmem => h _ hmem (by decide)⟩

theorem BareName.head {k : String} (h : BareName k) :
    ∀ c, k.toList.head? = some c → c ≠ '\t' ∧ c ≠ '\x00' := by
  intro c hc
  have hmem := List.mem_of_mem_head? hc
  refine ⟨?_, ?_⟩
  · rintro rfl
    exact h _ hmem (by decide)
  · rintro rfl
    exact h _ hmem (by decide)

theorem BareName.writableName {k : String} (h : BareName k) (hne : k.toList ≠ [])
    (hcomment : k.toList.head? ≠ some '#') : WritableName k.toList where
  ne_nil := hne
  plain := h.plain
  head c hc := ⟨(h.head c hc).1, (h.head c hc).2, fun heq => hcomment (heq ▸ hc)⟩

theorem BareName.escapedSize {k : String} (h : BareName k) :
    escapedSize escapeChars k = (k.toList.map Char.utf8Size).sum := by
  rw [Influx.escapedSize]
  congr 1
  apply List.map_congr_left
  intro c hc
  have hcode : c ∉ escapeChars := fun hmem =>
    h c hc (List.mem_append_right _ hmem)
  rw [if_neg hcode, Nat.add_zero]

/-- The points of `NewPoint` whose field names are bare are short enough as they are sent. -/
theorem sendablePoint_of_newPoint {appendFloat : ℚ → Text} {name : String}
    {tags : List (String × String)} {fields : List (String × Interface)} {pt : Point}
    (hpt : newPoint name tags fields = some pt) (hname : WritableName name.toList)
    (htags : SendableTags tags) (hroom : tags.length < 100) (hnodup : (fields.map Prod.fst).Nodup)
    (hbare : ∀ k ∈ fields.map Prod.fst, BareName k)
    (hvalue : ∀ f ∈ fields, Sendable appendFloat f.2) : SendablePoint appendFloat pt := by
  have hbare' : ∀ f ∈ fields, BareName f.1 := fun f hf => hbare f.1 (List.mem_map_of_mem hf)
  rw [newPoint] at hpt
  split_ifs at hpt with hempty hnameless hlong
  obtain rfl := Option.some.inj hpt
  rw [List.any_eq_true] at hnameless hlong
  have hsent : (sentTags tags).length < 100 := by
    have hle := List.length_filter_le (fun t : Text × Text => decide (t.2 ≠ [])) (newTags tags)
    rw [(newTags_perm htags.nodup).length_eq, List.length_map] at hle
    exact lt_of_le_of_lt hle hroom
  refine ⟨hname, htags, ?_, ⟨hempty, hnodup, ?_, ?_, ?_, hvalue⟩, ?_⟩
  · intro k heq
    have hpos := Nat.two_pow_pos k
    dsimp only at heq
    omega
  · intro f hf hnone
    exact hnameless ⟨f, hf, decide_eq_true hnone⟩
  · exact fun f hf => (hbare' f hf).plain
  · exact fun f hf => (hbare' f hf).head
  · intro f hf
    rw [(hbare' f hf).escapedSize]
    by_contra hover
    exact hlong ⟨f, hf, decide_eq_true (Nat.not_le.mp hover)⟩

/-- The time that a point comes back with. -/
def sentTime (precision : String) (defaultTime : Int64) : Option Int64 → Int64
  | none => setPrecision precision defaultTime
  | some t => t / getPrecisionMultiplier precision * getPrecisionMultiplier precision

/-- The point that comes back. -/
def sentPoint (appendFloat : ℚ → Text) (precision : String) (defaultTime : Int64) (p : Stamped) :
    Parsed :=
  { key := makeKey p.point.measurement.toList (newTags p.point.tags)
    fields := marshalFields appendFloat p.point.fields
    time := sentTime precision defaultTime p.time }

/-- The part of a line after its fields. -/
def timeText (precision : String) : Option Int64 → Text
  | none => []
  | some t => ' ' :: (formatInt (t / getPrecisionMultiplier precision)).toList

theorem precisionString_eq (appendFloat : ℚ → Text) (precision : String) (p : Stamped) :
    precisionString appendFloat precision p =
      makeKey p.point.measurement.toList (newTags p.point.tags) ++
        ' ' :: (marshalFields appendFloat p.point.fields ++ timeText precision p.time) := by
  obtain ⟨pt, time⟩ := p
  rw [precisionString, List.append_assoc]
  cases time with
  | none => rfl
  | some t => rfl

section Line

variable {appendFloat : ℚ → Text} (precision : String) {p : Stamped}

theorem SendablePoint.byteLength_key {pt : Point} (h : SendablePoint appendFloat pt) :
    byteLength (makeKey pt.measurement.toList (newTags pt.tags)) =
      makeKeySize pt.measurement pt.tags :=
  byteLength_makeKey h.name.plain.1 h.tags.nodup

theorem SendablePoint.checkFieldKey {pt : Point} (h : SendablePoint appendFloat pt) :
    ∀ f ∈ fieldTexts appendFloat pt.fields,
      checkFieldKey (makeKey pt.measurement.toList (newTags pt.tags)) (escapeString f.1) =
        .ok () := by
  intro f hf
  obtain ⟨g, hg, rfl⟩ := List.mem_map.mp hf
  have hsize := h.size g (h.fields.mem_sorted hg)
  have hlength : fieldKeySize (makeKey pt.measurement.toList (newTags pt.tags))
      (escapeString g.1.toList) ≤ maxKeyLength := by
    rw [fieldKeySize, h.byteLength_key, escapeString, byteLength_escape]
    exact hsize
  rw [Influx.checkFieldKey, if_neg (Nat.not_lt.mpr hlength)]

theorem SendablePoint.key_short {pt : Point} (h : SendablePoint appendFloat pt) :
    byteLength (makeKey pt.measurement.toList (newTags pt.tags)) ≤ maxKeyLength := by
  obtain ⟨f, fs, hcons⟩ := List.exists_cons_of_ne_nil h.fields.ne_nil
  have hsize := h.size f (hcons ▸ List.mem_cons_self)
  rw [h.byteLength_key]
  omega

theorem parsePoint_precisionString (h : SendablePoint appendFloat p.point)
    (htime : ∀ t, p.time = some t → InTime t) (defaultTime : Int64) :
    parsePoint defaultTime precision (precisionString appendFloat precision p) =
      .ok (sentPoint appendFloat precision defaultTime p) := by
  have hkeyeq := makeKey_eq h.name.plain.1 p.point.tags
  have hkey : ∀ rest, scanKey (makeKey p.point.measurement.toList (newTags p.point.tags) ++
      ' ' :: rest) =
        .ok (makeKey p.point.measurement.toList (newTags p.point.tags), ' ' :: rest) := by
    intro rest
    rw [hkeyeq]
    exact scanKey_joinKey h.name (writableTags_sentTags h.tags) (lt_tableSize h.room) rest
  have hkeyne : makeKey p.point.measurement.toList (newTags p.point.tags) ≠ [] := by
    obtain ⟨c, cs, hcons, -⟩ := h.name.head_escapeMeasurement
    rw [hkeyeq, joinKey, hcons]
    exact List.cons_ne_nil _ _
  obtain ⟨f, fs, htexts⟩ := List.exists_cons_of_ne_nil (fieldTexts_ne_nil h.fields)
  have hwritable := writableField_fieldTexts h.fields
  have hfieldseq := marshalFields_eq appendFloat p.point.fields
  have hblank : ∀ d t, timeText precision p.time = d :: t → d = ' ' := by
    intro d t hcons
    cases htime : p.time with
    | none =>
        rw [htime] at hcons
        cases hcons
    | some t' =>
        rw [htime] at hcons
        exact (List.cons.inj hcons).1.symm
  have hfields : ∀ passed, scanFields passed (' ' :: (marshalFields appendFloat p.point.fields ++
      timeText precision p.time)) =
        .ok (marshalFields appendFloat p.point.fields, timeText precision p.time) := by
    intro passed
    rw [hfieldseq]
    rw [htexts] at hwritable ⊢
    exact scanFields_fieldsText hwritable hblank passed
  have hfieldsne : marshalFields appendFloat p.point.fields ≠ [] := by
    rw [hfieldseq, htexts]
    exact tail_fieldsText_ne_nil
  have hwalk : walkFields (checkFieldKey (makeKey p.point.measurement.toList
      (newTags p.point.tags))) (marshalFields appendFloat p.point.fields) = .ok () := by
    rw [hfieldseq]
    exact walkFields_fieldsText hwritable h.checkFieldKey
  rw [precisionString_eq, parsePoint, hkey]
  simp only [bind, Except.bind, hfields, hwalk]
  rw [if_neg hkeyne, if_neg (Nat.not_lt.mpr h.key_short), if_neg hfieldsne]
  cases hp : p.time with
  | none =>
      rw [timeText, scanTime]
      simp only [sentPoint, hp, sentTime]
      rfl
  | some t =>
      have hin := htime t hp
      have hne : (formatInt (t / getPrecisionMultiplier precision)).toList ≠ [] := by
        obtain ⟨sign, -, htext⟩ :=
          formatInteger_eq (t / getPrecisionMultiplier precision).toInt
        rw [formatInt, htext]
        simp [Nat.toDigits_ne_nil]
      have hparse : parseIntBytes (formatInt (t / getPrecisionMultiplier precision)).toList =
          .ok (t / getPrecisionMultiplier precision) := by
        rw [formatInt, parseIntBytes_formatInteger (Int64.le_toInt _) (Int64.toInt_lt _),
          Int64.ofInt_toInt]
      have hscan : scanTime (' ' :: (formatInt (t / getPrecisionMultiplier precision)).toList) =
          .ok ((formatInt (t / getPrecisionMultiplier precision)).toList, []) :=
        scanTime_formatInteger _
      rw [timeText, hscan]
      simp only [if_neg hne, hparse, safeCalcTime_div hin, sentPoint, hp, sentTime]
      rfl

end Line

end MetricCollector.Influx
