import MetricCollector.GoLib.Columns
import MetricCollector.GoLib.Float64
import MetricCollector.GoLib.Text
import MetricCollector.Grpcs

/-!
# The InfluxDB client

What the collector writes to InfluxDB and what it reads back, after the
vendored `influxdb1-client`.

* `newPoint` is `influxdb.NewPoint` with the checks of `models.pointKey`.
* `selectStar` is the row that `select *` returns for one written point: the
  time, then the cells of all tags and fields in ascending order of their
  keys.  The database itself is not part of the repository, so this is its
  documented behaviour.  `printFloat` stands for its number format.
* `Client.query` is `client.Query`.  A `Client` answers an arbitrary sequence
  of queries, each with an arbitrary `QueryOutcome`.
* `checkReply` is the error test that opens every query handler.
-/

namespace MetricCollector.Influx

open GoLib

/-! ## Values -/

/-- A Go `interface{}` value with its dynamic type. -/
inductive Interface where
  | null
  | bool (b : Bool)
  | string (s : String)
  /-- `json.Number`: the text of a number literal. -/
  | number (text : String)
  | int (n : Int64)
  | int64 (n : Int64)
  | uint32 (n : UInt32)
  | float64 (q : ℚ)
  /-- Any other type, by its `%v` text. -/
  | other (printed : String)
deriving DecidableEq, Repr

/-- A cell of a reply.  The client decodes with `UseNumber`, so a number
arrives as its text and no cell has a Go number type. -/
inductive Cell where
  | null
  | bool (b : Bool)
  | string (s : String)
  | number (text : String)
deriving DecidableEq, Repr

namespace Cell

/-- The cell as the `interface{}` the collector compares. -/
def toInterface : Cell → Interface
  | null => .null
  | bool b => .bool b
  | string s => .string s
  | number text => .number text

/-- `fmt.Sprintf("%s", cell)`. -/
def sprint : Cell → String
  | null => "%!s(<nil>)"
  | bool true => "%!s(bool=true)"
  | bool false => "%!s(bool=false)"
  | string s => s
  | number text => text

/-- `strconv.ParseInt(fmt.Sprintf("%s", cell), 10, 64)`, and on 64 bits also
`strconv.Atoi` of the same text, without the error. -/
def parseInt (cell : Cell) : Int64 := GoLib.parseInt cell.sprint

/-- `strconv.ParseFloat(fmt.Sprintf("%s", cell), 64)` without the error. -/
def parseFloat (cell : Cell) : ℚ := ((decimalValue cell.sprint).map nearestFloat64).getD 0

/-- The number a cell holds, when it holds one. -/
def value : Cell → Option ℚ
  | number text => decimalValue text
  | _ => none

/-- An integer that was written as a number is parsed as itself. -/
@[simp] theorem parseInt_formatInt (n : Int64) : (number (formatInt n)).parseInt = n :=
  GoLib.parseInt_formatInt n

/-- Parsed as a float, it is the nearest `float64`. -/
@[simp] theorem parseFloat_formatInt (n : Int64) :
    (number (formatInt n)).parseFloat = nearestFloat64 n.toInt := by
  rw [parseFloat, sprint, decimalValue_formatInt, Option.map_some, Option.getD_some]

@[simp] theorem value_formatInt (n : Int64) : (number (formatInt n)).value = some (n.toInt : ℚ) :=
  decimalValue_formatInt n

/-- A decoded cell never has the dynamic type `int`. -/
theorem toInterface_ne_int (cell : Cell) (n : Int64) : cell.toInterface ≠ .int n := by
  cases cell <;> simp [toInterface]

end Cell

/-! ## Points -/

/-- A point: measurement, tags and fields. -/
structure Point where
  measurement : String
  tags : List (String × String)
  fields : List (String × Interface)
deriving DecidableEq, Repr

/-- `models.MaxKeyLength`. -/
def maxKeyLength : Nat := 65535

/-- The size in bytes of a text after each of `escapes` got a backslash. -/
def escapedSize (escapes : List Char) (s : String) : Nat :=
  (s.toList.map fun c => c.utf8Size + if c ∈ escapes then 1 else 0).sum

/-- `len(models.MakeKey(name, tags))`: an empty tag value is left out. -/
def makeKeySize (name : String) (tags : List (String × String)) : Nat :=
  escapedSize [',', ' '] name +
    ((tags.filter fun tag => tag.2 ≠ "").map fun tag =>
      2 + escapedSize [',', ' ', '='] tag.1 + escapedSize [',', ' ', '='] tag.2).sum

/-- `models.seriesKeySize`. -/
def seriesKeySize (keySize : Nat) (field : String) : Nat :=
  keySize + 4 + (field.toList.map Char.utf8Size).sum

/-- `influxdb.NewPoint`; `none` when it returns an error. -/
def newPoint (name : String) (tags : List (String × String))
    (fields : List (String × Interface)) : Option Point :=
  if fields = [] then none
  else if fields.any fun field => field.1 = "" then none
  else if fields.any fun field =>
      maxKeyLength < seriesKeySize (makeKeySize name tags) field.1 then none
  else some { measurement := name, tags := tags, fields := fields }

theorem eq_of_newPoint {name : String} {tags : List (String × String)}
    {fields : List (String × Interface)} {pt : Point}
    (h : newPoint name tags fields = some pt) : pt = ⟨name, tags, fields⟩ := by
  rw [newPoint] at h
  split_ifs at h
  exact (Option.some.inj h).symm

/-- A point whose field names are neither empty nor too long. -/
theorem newPoint_of_keys {name : String} {tags : List (String × String)}
    {fields : List (String × Interface)} (hne : fields ≠ [])
    (hkeys : ∀ key ∈ fields.map Prod.fst,
      key ≠ "" ∧ seriesKeySize (makeKeySize name tags) key ≤ maxKeyLength) :
    newPoint name tags fields = some ⟨name, tags, fields⟩ := by
  have hnamed : ¬(fields.any fun field => field.1 = "") = true := by
    rw [List.any_eq_true]
    rintro ⟨field, hmem, hempty⟩
    exact (hkeys field.1 (List.mem_map_of_mem hmem)).1 (of_decide_eq_true hempty)
  have hshort : ¬(fields.any fun field =>
      maxKeyLength < seriesKeySize (makeKeySize name tags) field.1) = true := by
    rw [List.any_eq_true]
    rintro ⟨field, hmem, hlong⟩
    exact Nat.not_lt.mpr (hkeys field.1 (List.mem_map_of_mem hmem)).2 (of_decide_eq_true hlong)
  rw [newPoint, if_neg hne, if_neg hnamed, if_neg hshort]

/-- The cell that a written field value is read back as.  A type that
`appendField` does not know is written as its `%v` text. -/
def stored (printFloat : ℚ → String) : Interface → Cell
  | .null => .null
  | .bool b => .bool b
  | .string s => .string s
  | .number text => .string text
  | .int n => .number (formatInt n)
  | .int64 n => .number (formatInt n)
  | .uint32 n => .number (formatInteger n.toNat)
  | .float64 q => .number (printFloat q)
  | .other printed => .string printed

/-- The named cells of a point. -/
def Point.cells (printFloat : ℚ → String) (pt : Point) : List (String × Cell) :=
  (pt.tags.map fun tag => (tag.1, Cell.string tag.2)) ++
    pt.fields.map fun field => (field.1, stored printFloat field.2)

/-- The row of `select *` for one point. -/
def selectStar (printFloat : ℚ → String) (time : Cell) (pt : Point) : List Cell :=
  time :: (Columns.row (pt.cells printFloat)).map fun cell => cell.getD .null

@[simp] theorem length_selectStar (printFloat : ℚ → String) (time : Cell) (pt : Point) :
    (selectStar printFloat time pt).length = 1 + pt.tags.length + pt.fields.length := by
  simp [selectStar, Point.cells]
  omega

/-- The column keys of a point, in the order of its row. -/
def Point.columns (pt : Point) : List String :=
  (pt.tags.map Prod.fst ++ pt.fields.map Prod.fst).insertionSort (· ≤ ·)

/-- The cell in the column of a key is what was written under that key. -/
theorem selectStar_getElem? {printFloat : ℚ → String} {time : Cell} {pt : Point} {i : Nat}
    {k : String} {cell : Cell} (hcolumn : pt.columns[i]? = some k)
    (hcell : (pt.cells printFloat).lookup k = some cell) :
    (selectStar printFloat time pt)[i + 1]? = some cell := by
  have hkeys : Columns.sortedKeys (pt.cells printFloat) = pt.columns := by
    simp [Columns.sortedKeys, Point.cells, Point.columns, Function.comp_def]
  have hrank : (Columns.sortedKeys (pt.cells printFloat))[i]? = some k := by
    rw [hkeys]
    exact hcolumn
  have hrow := Columns.row_getElem? hrank hcell
  rw [selectStar, List.getElem?_cons_succ, List.getElem?_map, hrow]
  rfl

theorem index_selectStar {frame : Frame} {printFloat : ℚ → String} {time : Cell} {pt : Point}
    {i : Nat} {k : String} {cell : Cell} (hcolumn : pt.columns[i]? = some k)
    (hcell : (pt.cells printFloat).lookup k = some cell) :
    index frame (selectStar printFloat time pt) (i + 1) = .ok cell :=
  index_of_getElem? (selectStar_getElem? hcolumn hcell)

/-! ## Queries -/

/-- `client.Query`. -/
structure Query where
  command : String
  database : String
deriving DecidableEq, Repr

/-- `models.Row`; the handlers read its values only. -/
structure Series where
  values : List (List Cell)
deriving DecidableEq, Repr

/-- `client.Result`. -/
structure Result where
  series : List Series
  err : String := ""
deriving DecidableEq, Repr

/-- `client.Response`. -/
structure Response where
  results : List Result
  err : String := ""
deriving DecidableEq, Repr

/-- `(*Response).Error`: the first error of any statement. -/
def Response.error (r : Response) : Option String :=
  if r.err ≠ "" then some r.err
  else r.results.findSome? fun result => if result.err ≠ "" then some result.err else none

/-- What `client.Query` returns: an error with a `nil` response, or a response
with or without an error. -/
inductive QueryOutcome where
  | failed (err : String)
  | answered (response : Response) (err : Option String)
deriving DecidableEq, Repr

namespace QueryOutcome

/-- The `*Response` part. -/
def response : QueryOutcome → Option Response
  | failed _ => none
  | answered r _ => some r

/-- The `error` part. -/
def err : QueryOutcome → Option String
  | failed e => some e
  | answered _ e => e

/-- The response of a query that reported no error anywhere. -/
def usable : QueryOutcome → Option Response
  | answered r none => if r.error.isSome then none else some r
  | _ => none

/-- The rows of the first series of the first statement. -/
def rows (outcome : QueryOutcome) : Option (List (List Cell)) := do
  let r ← outcome.usable
  let result ← r.results.head?
  let series ← result.series.head?
  return series.values

end QueryOutcome

/-- The database behind the client: its answer to the `n`-th query. -/
structure Client where
  reply : Nat → Query → QueryOutcome
  asked : Nat := 0

/-- `c.Query(q)`. -/
def Client.query (c : Client) (q : Query) : QueryOutcome × Client :=
  (c.reply c.asked q, { c with asked := c.asked + 1 })

/-- The test `err != nil || response.Error() != nil` of a query handler and
the log line in its branch, which evaluates `response.Error()` again.  `none`
is the early return, `some` the response the handler goes on with. -/
def checkReply (frame : Frame) (outcome : QueryOutcome) : Exec (Option Response) := do
  if outcome.err.isSome then
    let _ ← deref frame outcome.response
    return none
  else
    let response ← deref frame outcome.response
    if response.error.isSome then return none
    else return some response

/-- A query that got no response faults in its handler's error branch. -/
theorem checkReply_of_failed (frame : Frame) (e : String) :
    checkReply frame (.failed e) = .error ⟨.nilDereference, frame⟩ := rfl

theorem checkReply_of_answered (frame : Frame) (r : Response) (e : Option String) :
    checkReply frame (.answered r e) = .ok (QueryOutcome.answered r e).usable := by
  cases e with
  | some e => rfl
  | none =>
      unfold checkReply QueryOutcome.usable
      by_cases h : r.error.isSome
      · simp [QueryOutcome.err, QueryOutcome.response, h]
      · simp [QueryOutcome.err, QueryOutcome.response, h]

/-- The three ways a handler can go on: it faults without a response, returns on
an error, or has a response to read. -/
theorem checkReply_cases (frame : Frame) (outcome : QueryOutcome) :
    outcome.response = none ∧ checkReply frame outcome = .error ⟨.nilDereference, frame⟩ ∨
      outcome.response.isSome ∧ outcome.usable = none ∧ checkReply frame outcome = .ok none ∨
      ∃ r, outcome.response.isSome ∧ outcome.usable = some r ∧
        checkReply frame outcome = .ok (some r) := by
  cases outcome with
  | failed e => exact .inl ⟨rfl, checkReply_of_failed frame e⟩
  | answered r e =>
      right
      rw [checkReply_of_answered]
      cases (QueryOutcome.answered r e).usable with
      | none => exact .inl ⟨rfl, rfl, rfl⟩
      | some response => exact .inr ⟨response, rfl, rfl, rfl⟩

/-- A handler goes on with a usable response only. -/
theorem checkReply_eq_some_iff {frame : Frame} {outcome : QueryOutcome} {r : Response} :
    checkReply frame outcome = .ok (some r) ↔ outcome.usable = some r := by
  rcases checkReply_cases frame outcome with
    ⟨hnone, hreply⟩ | ⟨-, husable, hreply⟩ | ⟨r', -, husable, hreply⟩
  · have husable : outcome.usable = none := by
      cases outcome with
      | failed e => rfl
      | answered r' e => cases hnone
    rw [hreply, husable]
    simp
  · rw [hreply, husable]
    simp
  · rw [hreply, husable]
    simp

theorem raises_checkReply {p : Fault Frame → Prop} {frame : Frame}
    (hp : p ⟨.nilDereference, frame⟩) (outcome : QueryOutcome) :
    Raises p (checkReply frame outcome) := by
  cases outcome with
  | failed e => exact raises_error hp
  | answered r e =>
      rw [checkReply_of_answered]
      exact raises_ok _

/-- `response.Results[0].Series[0].Values`. -/
def firstValues (frame : Frame) (r : Response) : Exec (List (List Cell)) := do
  let result ← index frame r.results 0
  let series ← index frame result.series 0
  return series.values

theorem firstValues_eq_ok {frame : Frame} {r : Response} {rows : List (List Cell)} :
    firstValues frame r = .ok rows ↔
      ∃ result series, r.results.head? = some result ∧ result.series.head? = some series ∧
        series.values = rows := by
  unfold firstValues
  constructor
  · intro h
    rcases bind_eq_ok.mp h with ⟨result, hresult, h⟩
    rcases bind_eq_ok.mp h with ⟨series, hseries, h⟩
    rw [index_eq_ok, ← List.head?_eq_getElem?] at hresult hseries
    cases h
    exact ⟨result, series, hresult, hseries, rfl⟩
  · rintro ⟨result, series, hresult, hseries, rfl⟩
    rw [List.head?_eq_getElem?] at hresult hseries
    rw [index_of_getElem? hresult, ok_bind, index_of_getElem? hseries, ok_bind, pure_eq_ok]

theorem raises_firstValues {p : Fault Frame → Prop} {frame : Frame}
    (hp : p ⟨.indexOutOfRange, frame⟩) (r : Response) : Raises p (firstValues frame r) := by
  unfold firstValues
  refine raises_bind (raises_index hp _ _) ?_
  intro result _
  refine raises_bind (raises_index hp _ _) ?_
  intro series _
  exact raises_ok _

/-- Reading the rows of a usable reply is in range exactly when they are there. -/
theorem firstValues_iff_rows {frame : Frame} {outcome : QueryOutcome} {r : Response}
    (hr : outcome.usable = some r) (rows : List (List Cell)) :
    firstValues frame r = .ok rows ↔ outcome.rows = some rows := by
  rw [firstValues_eq_ok]
  unfold QueryOutcome.rows
  rw [hr]
  simp [Option.bind_eq_some_iff]

/-- A reply with rows is usable, has a result, and its first values are the rows. -/
theorem QueryOutcome.usable_of_rows {frame : Frame} {outcome : QueryOutcome}
    {rows : List (List Cell)} (h : outcome.rows = some rows) :
    ∃ r, outcome.usable = some r ∧ r.results ≠ [] ∧ firstValues frame r = .ok rows := by
  have hrows := h
  unfold QueryOutcome.rows at h
  rcases Option.bind_eq_some_iff.mp h with ⟨r, hr, h⟩
  rcases Option.bind_eq_some_iff.mp h with ⟨result, hresult, -⟩
  refine ⟨r, hr, ?_, (firstValues_iff_rows hr rows).mpr hrows⟩
  intro hempty
  rw [hempty] at hresult
  cases hresult

end MetricCollector.Influx
