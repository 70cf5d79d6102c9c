import MetricCollector.GoLib.Escape
import MetricCollector.Influx

/-!
# The line protocol: what the client sends

A batch of points goes to InfluxDB as text, one line for each point:

    measurement,tag=value,... field=value,... timestamp

after `models.Point` and `client.Write` of the vendored `influxdb1-client`.

* `makeKey` is the part before the first blank, `marshalFields` the part before the second.
* `precisionString` is the line of a point, and `writeBody` is the body of the request.
* `byteLength_makeKey` says that `makeKeySize` is the length of the key.
-/

namespace MetricCollector.Influx

open GoLib

/-- A `[]byte` of UTF-8 text.  The codec only ever looks for ASCII bytes, which no longer
character has among its own. -/
abbrev Text := List Char

/-- `len` of the bytes. -/
def byteLength (s : Text) : Nat := (s.map Char.utf8Size).sum

/-! ## Escapes -/

def measurementEscapeCodes : List Char := [',', ' ']

def tagEscapeCodes : List Char := [',', ' ', '=']

/-- The bytes of `escape.Codes`. -/
def escapeChars : List Char := [',', '"', ' ', '=']

def stringFieldCodes : List Char := ['"', '\\']

/-- `bytes.Replace` for each of the codes in turn. -/
def escapeMeasurement (s : Text) : Text := Escape.markAll '\\' measurementEscapeCodes s

def unescapeMeasurement (s : Text) : Text := Escape.unmarkAll '\\' measurementEscapeCodes s

def escapeTag (s : Text) : Text := Escape.markAll '\\' tagEscapeCodes s

def unescapeTag (s : Text) : Text := Escape.unmarkAll '\\' tagEscapeCodes s

/-- `escape.String`: a `strings.Replacer` replaces all of the codes in one pass. -/
def escapeString (s : Text) : Text := Escape.escape '\\' escapeChars s

/-- `escape.Unescape`, which is also what `escape.AppendUnescaped` appends. -/
def unescapeString (s : Text) : Text := Escape.unescape '\\' escapeChars s

/-- `models.EscapeStringField`. -/
def escapeStringField (s : Text) : Text := Escape.escape '\\' stringFieldCodes s

/-- `models.unescapeStringField`. -/
def unescapeStringField (s : Text) : Text := Escape.unescape '\\' stringFieldCodes s

theorem escapeMeasurement_eq (s : Text) :
    escapeMeasurement s = Escape.escape '\\' measurementEscapeCodes s :=
  Escape.markAll_eq_escape (by decide) (by decide) s

theorem escapeTag_eq (s : Text) : escapeTag s = Escape.escape '\\' tagEscapeCodes s :=
  Escape.markAll_eq_escape (by decide) (by decide) s

@[simp] theorem unescapeTag_escapeTag (s : Text) : unescapeTag (escapeTag s) = s :=
  Escape.unmarkAll_markAll (by decide) (by decide) s

@[simp] theorem unescapeString_escapeString (s : Text) : unescapeString (escapeString s) = s :=
  Escape.unescape_escape (List.Subset.refl _) (Or.inl (List.Subset.refl _))

@[simp] theorem unescapeStringField_escapeStringField (s : Text) :
    unescapeStringField (escapeStringField s) = s :=
  Escape.unescape_escape (List.Subset.refl _) (Or.inl (List.Subset.refl _))

/-! ## Keys -/

/-- `models.Tags`. -/
abbrev Tags := List (Text × Text)

/-- `models.NewTags`: the tags in the order of their keys. -/
def newTags (m : List (String × String)) : Tags :=
  (Columns.sortedKeys m).map fun k => (k.toList, ((m.lookup k).getD "").toList)

/-- `(Tags).needsEscape`. -/
def needsEscape (a : Tags) : Bool :=
  a.any fun t => tagEscapeCodes.any fun c => c ∈ t.1 || c ∈ t.2

/-- `(Tags).AppendHashKey`: a tag without a value is left out. -/
def appendHashKey (dst : Text) (a : Tags) : Text :=
  let escaped := if needsEscape a then a.map fun t => (escapeTag t.1, escapeTag t.2) else a
  dst ++ escaped.flatMap fun t => if t.2 = [] then [] else ',' :: t.1 ++ '=' :: t.2

/-- `models.MakeKey`: the name is unescaped first, so that it is not escaped twice. -/
def makeKey (name : Text) (tags : Tags) : Text :=
  appendHashKey (escapeMeasurement (unescapeMeasurement name)) tags

/-! ## Fields -/

section Fields

-- `strconv.AppendFloat(b, v, 'f', -1, 64)`
variable (appendFloat : ℚ → Text)

/-- A field value as `models.appendField` writes it: `nil` is nothing, and a type that it
does not know is its `%v` text. -/
def appendValue : Interface → Text
  | .float64 q => appendFloat q
  | .int64 n => (formatInt n).toList ++ ['i']
  | .string s => '"' :: escapeStringField s.toList ++ ['"']
  | .bool b => (if b then "true" else "false").toList
  | .int n => (formatInt n).toList ++ ['i']
  | .uint32 n => (formatInteger n.toNat).toList ++ ['i']
  | .null => []
  | .number text => '"' :: escapeStringField text.toList ++ ['"']
  | .other printed => '"' :: escapeStringField printed.toList ++ ['"']

/-- `models.appendField`. -/
def appendField (k : String) (v : Interface) : Text :=
  escapeString k.toList ++ '=' :: appendValue appendFloat v

/-- `(Fields).MarshalBinary`: the fields in the order of their names. -/
def marshalFields (fields : List (String × Interface)) : Text :=
  List.intercalate [','] ((Columns.sortedKeys fields).map fun k =>
    appendField appendFloat k ((fields.lookup k).getD .null))

/-! ## Lines -/

/-- `models.GetPrecisionMultiplier`, in nanoseconds. -/
def getPrecisionMultiplier (precision : String) : Int64 :=
  match precision with
  | "u" => 1000
  | "ms" => 1000000
  | "s" => 1000000000
  | "m" => 60000000000
  | "h" => 3600000000000
  | _ => 1

/-- A point with its time in nanoseconds, `none` for the zero time. -/
structure Stamped where
  point : Point
  time : Option Int64
deriving DecidableEq

/-- `(*Point).PrecisionString`. -/
def precisionString (precision : String) (p : Stamped) : Text :=
  makeKey p.point.measurement.toList (newTags p.point.tags) ++
    ' ' :: marshalFields appendFloat p.point.fields ++
    match p.time with
    | none => []
    | some t => ' ' :: (formatInt (t / getPrecisionMultiplier precision)).toList

/-- The body of the request of `client.Write`.  The points that `NewPoint` refused are
`nil` in the batch, and are skipped. -/
def writeBody (precision : String) (points : List (Option Stamped)) : Text :=
  points.flatMap fun p =>
    match p with
    | none => []
    | some p => precisionString appendFloat precision p ++ ['\n']

end Fields

end MetricCollector.Influx
