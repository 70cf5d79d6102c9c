import MetricCollector.GoLib.Float64
import MetricCollector.Influx.LineProtocol

/-!
# The line protocol: the scanners

The scanners of the vendored `influxdb1-client/models` that find the blocks of a line.
They work on what is left of the buffer instead of a position in it, and are given what
they look back at.

* `scanKey` is the measurement with its tags, and `scanFields` the fields.
* `scanNumber` and `scanBoolean` are the field values without quotes.
* `scanFieldValue` and `walkFields` go over fields that were scanned before.
-/

namespace MetricCollector.Influx

open GoLib

/-! ## Numbers -/

/-- The reasons of a `*strconv.NumError`. -/
inductive NumError where
  | badSyntax
  | range
deriving DecidableEq, Repr

/-- `strconv.ParseInt(s, 10, 64)` after the sign. -/
def parseSigned (negative : Bool) (cs : Text) : Except NumError Int64 :=
  match parseUint cs with
  | .badDigit => .error .badSyntax
  | .overflow => .error .range
  | .value n =>
      if negative then
        if n ≤ 2 ^ 63 then .ok (Int64.ofInt (-n)) else .error .range
      else if n < 2 ^ 63 then .ok (Int64.ofInt n) else .error .range

/-- `strconv.ParseInt(s, 10, 64)` with its error. -/
def parseIntBytes (s : Text) : Except NumError Int64 :=
  match s with
  | '-' :: cs => parseSigned true cs
  | '+' :: cs => parseSigned false cs
  | cs => parseSigned false cs

/-- The decimal texts of `strconv.ParseFloat` without their sign.  It also reads
hexadecimal texts and names of special values, which no scanner lets through. -/
def unsignedFloat (cs : Text) : Option ℚ :=
  let whole := cs.takeWhile Char.isDigit
  let (fraction, rest) :=
    match cs.dropWhile Char.isDigit with
    | '.' :: ds => (ds.takeWhile Char.isDigit, ds.dropWhile Char.isDigit)
    | rest => ([], rest)
  if whole ++ fraction = [] then none
  else scaledValue (Nat.ofDigitChars 10 (whole ++ fraction) 0) (-fraction.length) rest

/-- `strconv.ParseFloat(s, 64)`; `none` is an error. -/
def parseFloatBytes (s : Text) : Option ℚ := do
  let q ← match s with
    | '-' :: cs => (unsignedFloat cs).map fun q => -q
    | '+' :: cs => unsignedFloat cs
    | cs => unsignedFloat cs
  if 2 ^ 1024 ≤ |nearestFloat64 q| then none else some (nearestFloat64 q)

/-- `strconv.ParseBool`. -/
def parseBoolBytes (s : Text) : Option Bool :=
  if String.ofList s ∈ ["1", "t", "T", "true", "TRUE", "True"] then some true
  else if String.ofList s ∈ ["0", "f", "F", "false", "FALSE", "False"] then some false
  else none

/-! ## Errors -/

/-- The errors of `parsePoint`. -/
inductive ParseError where
  | missingMeasurement
  | missingFields
  | missingTagKey
  | missingTagValue
  | invalidTagFormat
  | duplicateTags
  | maxKeyLengthExceeded (size : Nat)
  | missingFieldKey
  | missingFieldValue
  | invalidNumber
  | unableToParseInteger (text : Text) (reason : NumError)
  | invalidFloat
  | invalidBoolean
  | unbalancedQuotes
  | invalidFieldFormat
  | invalidValue (key : Text)
  | badTimestamp
  | timestamp (reason : NumError)
  | timeOutOfRange
  | invalidPoint
  /-- A panic, which nothing recovers from. -/
  | indexOutOfRange
deriving DecidableEq, Repr

/-! ## The key -/

/-- `models.skipWhitespace`. -/
def skipWhitespace (buf : Text) : Text :=
  buf.dropWhile fun c => c = ' ' || c = '\t' || c = '\x00'

/-- Where the scan of a key goes on. -/
inductive ScanState where
  | tagKeyState
  | fieldsState
deriving DecidableEq, Repr

/-- `models.scanMeasurement`: the name, and what comes after its comma or from its blank
on. -/
def scanMeasurement : Text → Except ParseError (Text × ScanState × Text)
  | [] => .error .missingMeasurement
  | ',' :: _ => .error .missingMeasurement
  | c :: cs =>
      match Escape.scanTo '\\' (fun d => d = ',' || d = ' ') (some c) cs with
      | (_, []) => .error .missingFields
      | (name, ',' :: rest) => .ok (c :: name, .tagKeyState, rest)
      | (name, rest) => .ok (c :: name, .fieldsState, rest)

/-- `models.scanTagsKey`: the key, and what comes after its equals sign. -/
def scanTagsKey : Text → Except ParseError (Text × Text)
  | [] => .error .missingTagKey
  | c :: cs =>
      if c = ' ' ∨ c = ',' ∨ c = '=' then .error .missingTagKey
      else
        match Escape.scanTo '\\' (fun d => d = ',' || d = ' ' || d = '=') (some c) cs with
        | (key, '=' :: rest) => .ok (c :: key, rest)
        | _ => .error .missingTagValue

/-- `models.scanTagsValue`: the value, and what comes after its comma or from its blank
on. -/
def scanTagsValue : Text → Except ParseError (Text × ScanState × Text)
  | [] => .error .missingTagValue
  | c :: cs =>
      if c = ',' ∨ c = ' ' then .error .missingTagValue
      else
        match Escape.scanTo '\\' (fun d => d = ',' || d = ' ' || d = '=') (some c) cs with
        | (_, []) => .error .missingFields
        | (_, '=' :: _) => .error .invalidTagFormat
        | (value, ',' :: rest) => .ok (c :: value, .tagKeyState, rest)
        | (value, rest) => .ok (c :: value, .fieldsState, rest)

theorem length_scanTo_le (stop : Char → Bool) (prev : Option Char) (buf : Text) :
    (Escape.scanTo '\\' stop prev buf).2.length ≤ buf.length := by
  induction buf generalizing prev with
  | nil => exact Nat.le_refl _
  | cons c cs ih =>
      rw [Escape.scanTo]
      split
      · exact Nat.le_refl _
      · exact Nat.le_succ_of_le (ih (some c))

theorem length_scanTagsKey_lt {buf key rest : Text} (h : scanTagsKey buf = .ok (key, rest)) :
    rest.length < buf.length := by
  cases buf with
  | nil => cases h
  | cons c cs =>
      have hle := length_scanTo_le (fun d => d = ',' || d = ' ' || d = '=') (some c) cs
      rw [scanTagsKey] at h
      split at h
      · cases h
      · split at h
        · rename_i heq
          rw [heq] at hle
          cases h
          simp only [List.length_cons] at hle ⊢
          omega
        · cases h

theorem length_scanTagsValue_lt {buf value rest : Text} {state : ScanState}
    (h : scanTagsValue buf = .ok (value, state, rest)) : rest.length < buf.length := by
  cases buf with
  | nil => cases h
  | cons c cs =>
      have hle := length_scanTo_le (fun d => d = ',' || d = ' ' || d = '=') (some c) cs
      rw [scanTagsValue] at h
      split at h
      · cases h
      · split at h
        · cases h
        · cases h
        · rename_i heq
          rw [heq] at hle
          cases h
          simp only [List.length_cons] at hle ⊢
          omega
        · rename_i heq
          rw [heq] at hle
          cases h
          simp only [List.length_cons] at hle ⊢
          omega

/-- The loop of `models.scanTags`: the tags as they are written, and what comes from the
blank on. -/
def scanTagsLoop (buf : Text) : Except ParseError (Tags × Text) :=
  match hkey : scanTagsKey buf with
  | .error e => .error e
  | .ok (key, buf') =>
      match hvalue : scanTagsValue buf' with
      | .error e => .error e
      | .ok (value, .fieldsState, rest) => .ok ([(key, value)], rest)
      | .ok (value, .tagKeyState, rest) =>
          have := length_scanTagsKey_lt hkey
          have := length_scanTagsValue_lt hvalue
          (scanTagsLoop rest).map fun (tags, rest) => ((key, value) :: tags, rest)
termination_by buf.length

/-- `len(indices)` of `models.scanTags` after so many tags: a tag that finds the table full
doubles it. -/
def tableSize : Nat → Nat
  | 0 => 100
  | n + 1 => if tableSize n ≤ n then 2 * tableSize n else tableSize n

/-- `models.scanTags`.  Its last statement stores one position more than there are tags,
and does not look whether the table is full. -/
def scanTags (buf : Text) : Except ParseError (Tags × Text) := do
  let (tags, rest) ← scanTagsLoop buf
  if tableSize tags.length ≤ tags.length then throw .indexOutOfRange
  return (tags, rest)

/-- Ninety-nine tags are fine, and a hundred are not. -/
example : 99 < tableSize 99 ∧ tableSize 100 ≤ 100 := by decide +kernel

/-- The loop of `models.scanKey` over neighbouring tags: whether their keys ascend, as far
as it gets. -/
def keysAscend : Tags → Except ParseError Bool
  | left :: right :: tags =>
      if right.1 < left.1 then .ok false
      else if left.1 = right.1 then .error .duplicateTags
      else keysAscend (right :: tags)
  | _ => .ok true

/-- The second loop, after sorting. -/
def sameNeighbours : Tags → Bool
  | left :: right :: tags => left.1 = right.1 || sameNeighbours (right :: tags)
  | _ => false

/-- The bytes of a key. -/
def joinKey (measurement : Text) (tags : Tags) : Text :=
  measurement ++ tags.flatMap fun t => ',' :: t.1 ++ '=' :: t.2

/-- `models.scanKey`: the key with its tags in order, and what comes from the blank on. -/
def scanKey (buf : Text) : Except ParseError (Text × Text) := do
  let (measurement, state, rest) ← scanMeasurement (skipWhitespace buf)
  match state with
  | .fieldsState => return (measurement, rest)
  | .tagKeyState =>
      let (tags, rest) ← scanTags rest
      if ← keysAscend tags then return (joinKey measurement tags, rest)
      else
        let tags := tags.insertionSort fun a b => ¬ b.1 < a.1
        if sameNeighbours tags then throw .duplicateTags
        return (joinKey measurement tags, rest)

/-! ## Field values -/

/-- `models.isNumeric`. -/
def isNumeric (c : Char) : Bool := c.isDigit || c = '.'

/-- What `models.scanNumber` has seen. -/
structure NumberScan where
  isInt : Bool := false
  isUnsigned : Bool := false
  decimal : Bool := false
  scientific : Bool := false
deriving DecidableEq, Repr

/-- The loop of `models.scanNumber`: what it has seen in the end, and the text up to there.
`first` says that this is the first byte of the number, and `prev` is the byte before.
`NaN` is refused with the same error as any other letter. -/
def scanDigits (s : NumberScan) (first : Bool) (prev : Char) :
    Text → Except ParseError (NumberScan × Text)
  | [] => .ok (s, [])
  | c :: cs =>
      if c = ',' ∨ c = ' ' then .ok (s, [])
      else if c = 'i' ∧ !first ∧ !(s.isInt || s.isUnsigned) then
        (scanDigits { s with isInt := true } false c cs).map fun (s, text) => (s, c :: text)
      else if c = 'u' ∧ !first ∧ !(s.isInt || s.isUnsigned) then
        (scanDigits { s with isUnsigned := true } false c cs).map fun (s, text) => (s, c :: text)
      else if c = '.' ∧ s.decimal then .error .invalidNumber
      else
        let s := { s with decimal := s.decimal || c = '.' }
        if !first ∧ (c = 'e' ∨ c = 'E') then
          (scanDigits { s with scientific := true } false c cs).map fun (s, text) => (s, c :: text)
        else if (c = '+' ∨ c = '-') ∧ (prev = 'e' ∨ prev = 'E') then
          (scanDigits s false c cs).map fun (s, text) => (s, c :: text)
        else if ¬ isNumeric c then .error .invalidNumber
        else (scanDigits s false c cs).map fun (s, text) => (s, c :: text)

/-- The checks of `models.scanNumber` after its loop.  Unsigned numbers are not enabled. -/
def checkNumber (s : NumberScan) (sign text : Text) : Except ParseError Unit :=
  if (s.isInt ∨ s.isUnsigned) ∧ (s.decimal ∨ s.scientific) then .error .invalidNumber
  else if text.length = s.isInt.toNat + s.decimal.toNat then .error .invalidNumber
  else if s.isInt then
    if text.getLast? ≠ some 'i' then .error .invalidNumber
    else if 19 ≤ (sign ++ text.dropLast).length then
      match parseIntBytes (sign ++ text.dropLast) with
      | .error reason => .error (.unableToParseInteger (sign ++ text.dropLast) reason)
      | .ok _ => .ok ()
    else .ok ()
  else if s.isUnsigned then .error .invalidNumber
  else if (s.scientific ∨ 25 ≤ (sign ++ text).length) ∧ parseFloatBytes (sign ++ text) = none then
    .error .invalidFloat
  else .ok ()

/-- `models.scanNumber`: how long the number is. -/
def scanNumber (buf : Text) : Except ParseError Nat :=
  match buf with
  | ['-'] => .error .invalidNumber
  | '-' :: cs => do
      let (s, text) ← scanDigits {} false '-' cs
      checkNumber s ['-'] text
      return 1 + text.length
  | cs => do
      let (s, text) ← scanDigits {} true '=' cs
      checkNumber s [] text
      return text.length

/-- `models.scanBoolean`, from the first byte on: how long the boolean is. -/
def scanBoolean (c : Char) (cs : Text) : Except ParseError Nat :=
  if c ≠ 't' ∧ c ≠ 'f' ∧ c ≠ 'T' ∧ c ≠ 'F' then .error .invalidBoolean
  else
    let text := c :: cs.takeWhile fun d => d ≠ ',' && d ≠ ' '
    if text.length = 1 then .ok 1
    else if String.ofList text ∈ ["true", "false", "TRUE", "True", "FALSE", "False"] then
      .ok text.length
    else .error .invalidBoolean

/-! ## The fields -/

/-- What `models.scanFields` keeps beside its position. -/
structure FieldScan where
  quoted : Bool := false
  equals : Nat := 0
  commas : Nat := 0
deriving DecidableEq, Repr

/-- The outcome of a scan with some text in front of what it took. -/
def took (text : Text) (r : Except ParseError (FieldScan × Text × Text)) :
    Except ParseError (FieldScan × Text × Text) :=
  r.map fun (s, taken, rest) => (s, text ++ taken, rest)

/-- The loop of `models.scanFields`: its state in the end, the fields, and what comes after
them.  `before` is what lies behind, the nearest byte first. -/
def scanFieldsLoop (before : Text) (s : FieldScan) :
    Text → Except ParseError (FieldScan × Text × Text)
  | [] => .ok (s, [], [])
  | '\\' :: d :: cs => took ['\\', d] (scanFieldsLoop (d :: '\\' :: before) s cs)
  | c :: cs =>
      if c = '"' ∧ s.commas < s.equals then
        took [c] (scanFieldsLoop (c :: before) { s with quoted := !s.quoted } cs)
      else if c = '=' ∧ !s.quoted then
        let s := { s with equals := s.equals + 1 }
        if (before.head? = some ' ' ∨ before.head? = some ',') ∧
            before.tail.head? ≠ some '\\' then .error .missingFieldKey
        else
          match cs with
          | [] => .error .missingFieldValue
          | d :: ds =>
              if d = ',' ∨ d = ' ' then .error .missingFieldValue
              else if isNumeric d ∨ d = '-' ∨ d = 'N' ∨ d = 'n' then
                match scanNumber (d :: ds) with
                | .error e => .error e
                | .ok n =>
                    took (c :: (d :: ds).take n) (scanFieldsLoop
                      (((d :: ds).take n).reverse ++ c :: before) s ((d :: ds).drop n))
              else if d ≠ '"' then
                match scanBoolean d ds with
                | .error e => .error e
                | .ok n =>
                    took (c :: (d :: ds).take n) (scanFieldsLoop
                      (((d :: ds).take n).reverse ++ c :: before) s ((d :: ds).drop n))
              else took [c] (scanFieldsLoop (c :: before) s (d :: ds))
      else if c = ' ' ∧ !s.quoted then .ok (s, [], c :: cs)
      else
        let s := if c = ',' ∧ !s.quoted then { s with commas := s.commas + 1 } else s
        took [c] (scanFieldsLoop (c :: before) s cs)
termination_by buf => buf.length
decreasing_by
  all_goals
    simp only [List.length_cons, List.length_drop]
    omega

/-- `models.scanFields`: the fields, and what comes after them.  `passed` is what lies
before the blank. -/
def scanFields (passed buf : Text) : Except ParseError (Text × Text) := do
  let start := skipWhitespace buf
  let blank := buf.take (buf.length - start.length)
  let (s, fields, rest) ← scanFieldsLoop (blank.reverse ++ passed.reverse) {} start
  if s.quoted then throw .unbalancedQuotes
  if s.equals = 0 ∨ s.commas + 1 ≠ s.equals then throw .invalidFieldFormat
  return (fields, rest)

/-- `models.scanFieldValue`: the value, and what comes from its comma on. -/
def scanFieldValue (quoted : Bool) : Text → Text × Text
  | [] => ([], [])
  | '\\' :: '"' :: cs =>
      ('\\' :: '"' :: (scanFieldValue quoted cs).1, (scanFieldValue quoted cs).2)
  | '\\' :: '\\' :: cs =>
      ('\\' :: '\\' :: (scanFieldValue quoted cs).1, (scanFieldValue quoted cs).2)
  | c :: cs =>
      if c = '"' then (c :: (scanFieldValue (!quoted) cs).1, (scanFieldValue (!quoted) cs).2)
      else if c = ',' ∧ !quoted then ([], c :: cs)
      else (c :: (scanFieldValue quoted cs).1, (scanFieldValue quoted cs).2)

theorem length_scanFieldValue_le (quoted : Bool) (buf : Text) :
    (scanFieldValue quoted buf).2.length ≤ buf.length := by
  fun_induction scanFieldValue quoted buf with
  | case1 => exact Nat.le_refl _
  | case2 quoted cs ih => simp only [List.length_cons]; omega
  | case3 quoted cs ih => simp only [List.length_cons]; omega
  | case4 quoted cs _ _ ih => simp only [List.length_cons]; omega
  | case5 => exact Nat.le_refl _
  | case6 quoted c cs _ _ _ _ ih => simp only [List.length_cons]; omega

/-- The name of the next field as it is written, its value, and what comes from the comma
on. -/
def nextField (buf : Text) : Text × Text × Text :=
  let (key, rest) := Escape.scanTo '\\' (· = '=') none buf
  let (value, rest) := scanFieldValue false rest.tail
  (key, value, rest)

theorem length_nextField_lt {buf : Text} (h : buf ≠ []) :
    (nextField buf).2.2.length < buf.length := by
  have hscan := length_scanTo_le (· = '=') none buf
  have hvalue := length_scanFieldValue_le false (Escape.scanTo '\\' (· = '=') none buf).2.tail
  have hpos : 0 < buf.length := List.length_pos_of_ne_nil h
  simp only [nextField, List.length_tail] at hvalue ⊢
  omega

/-- `models.walkFields`, up to the first field that `fn` refuses. -/
def walkFields (fn : Text → Except ParseError Unit) (buf : Text) : Except ParseError Unit :=
  if h : buf = [] then .ok ()
  else if (Escape.scanTo '\\' (· = '=') none buf).2.length < 2 then
    .error (.invalidValue (nextField buf).1)
  else
    have := length_nextField_lt h
    match fn (nextField buf).1 with
    | .error e => .error e
    | .ok () => walkFields fn (nextField buf).2.2.tail
termination_by buf.length
decreasing_by
  simp only [List.length_tail]
  omega

@[simp] theorem walkFields_nil (fn : Text → Except ParseError Unit) :
    walkFields fn [] = .ok () := by
  rw [walkFields, dif_pos rfl]

theorem walkFields_of_ne_nil (fn : Text → Except ParseError Unit) {buf : Text} (h : buf ≠ []) :
    walkFields fn buf =
      if (Escape.scanTo '\\' (· = '=') none buf).2.length < 2 then
        .error (.invalidValue (nextField buf).1)
      else
        match fn (nextField buf).1 with
        | .error e => .error e
        | .ok () => walkFields fn (nextField buf).2.2.tail := by
  rw [walkFields, dif_neg h]

end MetricCollector.Influx
