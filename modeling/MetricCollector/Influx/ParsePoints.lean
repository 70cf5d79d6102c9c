import MetricCollector.Influx.Scanner

/-!
# The line protocol: parsing a body

`models.ParsePointsWithPrecision` of the vendored `influxdb1-client`, and the accessors of
the points that it returns.

* `parsePoint` parses a line, `scanLine` cuts the lines out of a body, and `parsePoints`
  parses them one after the other.
* `Parsed.name`, `Parsed.tags` and `Parsed.unmarshalBinary` read a point that was parsed.
-/

namespace MetricCollector.Influx

open GoLib

/-! ## The timestamp -/

/-- The loop of `models.scanTime`.  `first` says that this is the first byte. -/
def scanTimeLoop (first : Bool) : Text → Except ParseError (Text × Text)
  | [] => .ok ([], [])
  | c :: cs =>
      if c = '\n' ∨ c = ' ' then .ok ([], c :: cs)
      else if (first ∧ c = '-') ∨ c.isDigit then
        (scanTimeLoop false cs).map fun (ts, rest) => (c :: ts, rest)
      else .error .badTimestamp

/-- `models.scanTime`: the timestamp, and what comes after it. -/
def scanTime (buf : Text) : Except ParseError (Text × Text) :=
  scanTimeLoop true (skipWhitespace buf)

/-- `models.MinNanoTime`. -/
def minNanoTime : Int64 := -9223372036854775806

/-- `models.MaxNanoTime`. -/
def maxNanoTime : Int64 := 9223372036854775806

/-- `models.safeSignedMult`. -/
def safeSignedMult (a b : Int64) : Option Int64 :=
  if a = 0 ∨ b = 0 ∨ a = 1 ∨ b = 1 then some (a * b)
  else if a = minNanoTime ∨ b = maxNanoTime then none
  else if a * b / b = a then some (a * b)
  else none

/-- `models.SafeCalcTime`, in nanoseconds. -/
def safeCalcTime (timestamp : Int64) (precision : String) : Except ParseError Int64 :=
  match safeSignedMult timestamp (getPrecisionMultiplier precision) with
  | some t => if t < minNanoTime ∨ maxNanoTime < t then .error .timeOutOfRange else .ok t
  | none => .error .timeOutOfRange

/-- `(*point).SetPrecision`: the time rounded down. -/
def setPrecision (precision : String) (t : Int64) : Int64 :=
  let unit := (getPrecisionMultiplier precision).toInt
  Int64.ofInt (t.toInt / unit * unit)

/-! ## Points -/

/-- `models.point`: its key and fields as they are written, and its time. -/
structure Parsed where
  key : Text
  fields : Text
  time : Int64
deriving DecidableEq, Repr

/-- `len(key) + 4 + len(field)` of `models.seriesKeySize`. -/
def fieldKeySize (key field : Text) : Nat := byteLength key + 4 + byteLength field

/-- The check of `models.parsePoint` on a field name. -/
def checkFieldKey (key field : Text) : Except ParseError Unit :=
  if maxKeyLength < fieldKeySize key field then
    .error (.maxKeyLengthExceeded (fieldKeySize key field))
  else .ok ()

/-- `models.parsePoint`. -/
def parsePoint (defaultTime : Int64) (precision : String) (buf : Text) :
    Except ParseError Parsed := do
  let (key, rest) ← scanKey buf
  if key = [] then throw .missingMeasurement
  if maxKeyLength < byteLength key then throw (.maxKeyLengthExceeded (byteLength key))
  let (fields, rest) ← scanFields (buf.take (buf.length - rest.length)) rest
  if fields = [] then throw .missingFields
  walkFields (checkFieldKey key) fields
  let (ts, rest) ← scanTime rest
  if ts = [] then
    return { key := key, fields := fields, time := setPrecision precision defaultTime }
  else
    match parseIntBytes ts with
    | .error reason => throw (.timestamp reason)
    | .ok timestamp =>
        let time ← safeCalcTime timestamp precision
        -- only blanks may follow the timestamp
        if rest.any (· ≠ ' ') then throw .invalidPoint
        return { key := key, fields := fields, time := time }

/-! ## Bodies -/

/-- What `models.scanLine` keeps beside its position. -/
structure LineScan where
  quoted : Bool := false
  fields : Bool := false
  equals : Nat := 0
  commas : Nat := 0
deriving DecidableEq, Repr

/-- A line that starts with some text, and what comes from its end on. -/
def inLine (text : Text) (r : Text × Text) : Text × Text := (text ++ r.1, r.2)

/-- `models.scanLine`: the line, and what comes from its newline on. -/
def scanLine (s : LineScan) : Text → Text × Text
  | [] => ([], [])
  | '\\' :: d :: e :: cs => inLine ['\\', d] (scanLine s (e :: cs))
  | c :: cs =>
      let s := if c = ' ' then { s with fields := true } else s
      if s.fields ∧ !s.quoted ∧ c = '=' then
        inLine [c] (scanLine { s with equals := s.equals + 1 } cs)
      else if s.fields ∧ !s.quoted ∧ c = ',' then
        inLine [c] (scanLine { s with commas := s.commas + 1 } cs)
      else if s.fields ∧ c = '"' ∧ s.commas < s.equals then
        inLine [c] (scanLine { s with quoted := !s.quoted } cs)
      else if c = '\n' ∧ !s.quoted then ([], c :: cs)
      else inLine [c] (scanLine s cs)

theorem length_scanLine_le (s : LineScan) (buf : Text) :
    (scanLine s buf).2.length ≤ buf.length := by
  fun_induction scanLine s buf with
  | case1 => exact Nat.le_refl _
  | case2 s d e cs ih => simp only [inLine, List.length_cons] at ih ⊢; omega
  | case3 s c cs _ _ _ ih => simp only [inLine, List.length_cons] at ih ⊢; omega
  | case4 s c cs _ _ _ _ ih => simp only [inLine, List.length_cons] at ih ⊢; omega
  | case5 s c cs _ _ _ _ _ ih => simp only [inLine, List.length_cons] at ih ⊢; omega
  | case6 => exact Nat.le_refl _
  | case7 s c cs _ _ _ _ _ _ ih => simp only [inLine, List.length_cons] at ih ⊢; omega

/-- What `models.ParsePointsWithPrecision` returns: the points it parsed, and the lines that
it could not parse with the reason.  Nothing is returned when a line made it panic. -/
structure ParsedPoints where
  points : List Parsed := []
  failed : List (Text × ParseError) := []
  panicked : Bool := false
deriving DecidableEq, Repr

/-- The turn of `models.ParsePointsWithPrecision` for one line.  Empty lines, lines of white
space and comments are skipped. -/
def parseLine (defaultTime : Int64) (precision : String) (acc : ParsedPoints) (block : Text) :
    ParsedPoints :=
  let start := skipWhitespace block
  if start = [] ∨ start.head? = some '#' then acc
  else
    let line := if start.getLast? = some '\n' then start.dropLast else start
    match parsePoint defaultTime precision line with
    | .error .indexOutOfRange => { acc with panicked := true }
    | .error e => { acc with failed := acc.failed ++ [(line, e)] }
    | .ok pt => { acc with points := acc.points ++ [pt] }

/-- The loop of `models.ParsePointsWithPrecision`. -/
def parseLines (defaultTime : Int64) (precision : String) (acc : ParsedPoints) (buf : Text) :
    ParsedPoints :=
  if h : buf = [] ∨ acc.panicked then acc
  else
    have := length_scanLine_le {} buf
    have := List.length_pos_of_ne_nil fun hnil => h (Or.inl hnil)
    parseLines defaultTime precision (parseLine defaultTime precision acc (scanLine {} buf).1)
      (scanLine {} buf).2.tail
termination_by buf.length
decreasing_by
  simp only [List.length_tail]
  omega

@[simp] theorem parseLines_nil (defaultTime : Int64) (precision : String) (acc : ParsedPoints) :
    parseLines defaultTime precision acc [] = acc := by
  rw [parseLines, dif_pos (Or.inl rfl)]

theorem parseLines_of_ne_nil (defaultTime : Int64) (precision : String) {acc : ParsedPoints}
    (hacc : acc.panicked = false) {buf : Text} (h : buf ≠ []) :
    parseLines defaultTime precision acc buf =
      parseLines defaultTime precision (parseLine defaultTime precision acc (scanLine {} buf).1)
        (scanLine {} buf).2.tail := by
  rw [parseLines, dif_neg]
  simp [hacc, h]

/-- `models.ParsePointsWithPrecision`. -/
def parsePoints (defaultTime : Int64) (precision : String) (buf : Text) : ParsedPoints :=
  parseLines defaultTime precision {} buf

/-! ## What is read from a point -/

/-- A value of `models.Fields`. -/
inductive FieldValue where
  | integer (n : Int64)
  | unsigned (n : UInt64)
  | float (q : ℚ)
  | boolean (b : Bool)
  | string (s : String)
deriving DecidableEq, Repr

/-- Why the fields of a point cannot be read.  A string of one quote is a slice out of
bounds, every other a value that `strconv` does not read. -/
inductive FieldError where
  | integer (text : Text) (reason : NumError)
  | unsigned (text : Text)
  | float (text : Text)
  | boolean (text : Text)
  | sliceBounds
deriving DecidableEq, Repr

/-- The `FieldType` that `(*point).Next` finds and the value that it stands for; `none` for
a field without a value, which `unmarshalBinary` leaves out. -/
def fieldValue (valueBuf : Text) : Except FieldError (Option FieldValue) :=
  match valueBuf with
  | [] => .ok none
  | ['"'] => .error .sliceBounds
  | '"' :: cs => .ok (some (.string (String.ofList (unescapeStringField cs.dropLast))))
  | c :: cs =>
      if c ∈ "0123456789-.nNiIu".toList then
        if (c :: cs).getLast? = some 'i' then
          match parseIntBytes (c :: cs).dropLast with
          | .error reason => .error (.integer (c :: cs).dropLast reason)
          | .ok n => .ok (some (.integer n))
        else if (c :: cs).getLast? = some 'u' then
          match parseUint (c :: cs).dropLast with
          | .value n => .ok (some (.unsigned (UInt64.ofNat n)))
          | _ => .error (.unsigned (c :: cs).dropLast)
        else
          match parseFloatBytes (c :: cs) with
          | none => .error (.float (c :: cs))
          | some q => .ok (some (.float q))
      else
        match parseBoolBytes (c :: cs) with
        | none => .error (.boolean (c :: cs))
        | some b => .ok (some (.boolean b))

/-- The fields that `(*point).Next` comes to, with their names unescaped.  The byte in front
of a name is the comma of the field before. -/
def fieldIterator (buf : Text) : List (Text × Text) :=
  if h : buf = [] then []
  else
    have := length_nextField_lt h
    (unescapeString (nextField buf).1, (nextField buf).2.1) ::
      fieldIterator (nextField buf).2.2.tail
termination_by buf.length
decreasing_by
  simp only [List.length_tail]
  omega

@[simp] theorem fieldIterator_nil : fieldIterator [] = [] := by
  rw [fieldIterator, dif_pos rfl]

theorem fieldIterator_of_ne_nil {buf : Text} (h : buf ≠ []) :
    fieldIterator buf = (unescapeString (nextField buf).1, (nextField buf).2.1) ::
      fieldIterator (nextField buf).2.2.tail := by
  rw [fieldIterator, dif_neg h]

/-- An assignment to a map of fields. -/
def setField (fields : List (String × FieldValue)) (k : String) (v : FieldValue) :
    List (String × FieldValue) :=
  if k ∈ fields.map Prod.fst then fields.map fun f => if f.1 = k then (k, v) else f
  else fields ++ [(k, v)]

/-- One turn of `(*point).unmarshalBinary`. -/
def unmarshalField (fields : List (String × FieldValue)) (f : Text × Text) :
    Except FieldError (List (String × FieldValue)) := do
  if f.1 = [] then return fields
  else
    match ← fieldValue f.2 with
    | none => return fields
    | some v => return setField fields (String.ofList f.1) v

/-- `(*point).unmarshalBinary`, which `(*Point).Fields` calls. -/
def Parsed.unmarshalBinary (p : Parsed) : Except FieldError (List (String × FieldValue)) :=
  (fieldIterator p.fields).foldlM unmarshalField []

/-- The next tag as it is written, and what comes from the comma on. -/
def nextTag (buf : Text) : Text × Text × Text :=
  let (key, rest) := Escape.scanTo '\\' (· = '=') none buf
  let (value, rest) := Escape.scanTo '\\' (· = ',') (some '=') rest.tail
  (key, value, rest)

theorem length_nextTag_lt {buf : Text} (h : buf ≠ []) :
    (nextTag buf).2.2.length < buf.length := by
  have hkey := length_scanTo_le (· = '=') none buf
  have hvalue := length_scanTo_le (· = ',') (some '=')
    (Escape.scanTo '\\' (· = '=') none buf).2.tail
  have hpos := List.length_pos_of_ne_nil h
  simp only [nextTag, List.length_tail] at hvalue ⊢
  omega

/-- The loop of `models.walkTags`.  A tag without a value is passed over. -/
def walkTags (buf : Text) : Tags :=
  if h : buf = [] then []
  else
    have := length_nextTag_lt h
    if (nextTag buf).2.1 = [] then walkTags (nextTag buf).2.2
    else
      (unescapeTag (nextTag buf).1, unescapeTag (nextTag buf).2.1) ::
        walkTags (nextTag buf).2.2.tail
termination_by buf.length
decreasing_by
  · exact this
  · simp only [List.length_tail]
    omega

@[simp] theorem walkTags_nil : walkTags [] = [] := by
  rw [walkTags, dif_pos rfl]

theorem walkTags_of_ne_nil {buf : Text} (h : buf ≠ []) :
    walkTags buf = if (nextTag buf).2.1 = [] then walkTags (nextTag buf).2.2
      else (unescapeTag (nextTag buf).1, unescapeTag (nextTag buf).2.1) ::
        walkTags (nextTag buf).2.2.tail := by
  rw [walkTags, dif_neg h]

/-- `(*point).Tags`. -/
def Parsed.tags (p : Parsed) : Tags :=
  let (name, rest) := Escape.scanTo '\\' (· = ',') none p.key
  if name = [] then [] else walkTags rest.tail

/-- `(*point).Name`. -/
def Parsed.name (p : Parsed) : Text :=
  unescapeString (Escape.scanTo '\\' (· = ',') none p.key).1

end MetricCollector.Influx
