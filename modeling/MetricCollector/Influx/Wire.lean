import MetricCollector.Influx.LineScan

/-!
# What comes back from a body

The points that are parsed from the body of `client.Write` say the same as the points of
the batch: the name, the tags with a value, the fields with their types, and the time in
whole units.

* `Carries` is "says the same", and `carries_sentPoint` the point that comes back.
* `parsePoints_writeBody` is the result about a batch.
* `Parsed.identity` is what the database tells points apart by.
* `Parsed.row` is the row of a parsed point, and `row_of_carries` says that it is the row
  `selectStar` makes of the point that was written.
-/

namespace MetricCollector.Influx

open GoLib

/-- `q` says what `p` says.  A tag without a value and a field without one are not written. -/
structure Carries (precision : String) (defaultTime : Int64) (p : Stamped) (q : Parsed) :
    Prop where
  name : String.ofList q.name = p.point.measurement
  tags : (q.tags.map fun t => (String.ofList t.1, String.ofList t.2)).Perm
    (p.point.tags.filter fun t => t.2 ≠ "")
  fields : ∃ fields, q.unmarshalBinary = .ok fields ∧
    fields.Perm (p.point.fields.filterMap fun f => f.2.fieldValue.map fun v => (f.1, v))
  time : q.time = sentTime precision defaultTime p.time

section Carries

variable {appendFloat : ℚ → Text} {precision : String}

theorem tags_perm_of_sendable {m : List (String × String)} (h : SendableTags m) :
    ((sentTags m).map fun t => (String.ofList t.1, String.ofList t.2)).Perm
      (m.filter fun t => t.2 ≠ "") := by
  refine ((sentTags_perm h.nodup).map _).trans (List.Perm.of_eq ?_)
  rw [List.map_map]
  refine (List.map_congr_left ?_).trans (List.map_id _)
  intro t _
  simp

theorem carries_sentPoint {p : Stamped} (h : SendablePoint appendFloat p.point)
    (defaultTime : Int64) :
    Carries precision defaultTime p (sentPoint appendFloat precision defaultTime p) where
  name := by
    rw [sentPoint, makeKey_eq h.name.plain.1, name_joinKey h.name.plain.1, String.ofList_toList]
  tags := by
    rw [sentPoint, makeKey_eq h.name.plain.1,
      tags_joinKey h.name (writableTags_sentTags h.tags)]
    exact tags_perm_of_sendable h.tags
  fields := ⟨sentFields p.point.fields, unmarshalBinary_marshalFields h.fields _ _,
    (Columns.sorted_perm h.fields.nodup).filterMap _⟩
  time := rfl

/-- The points that are parsed from a body. -/
theorem parsePoints_eq {points : List (Option Stamped)}
    (hpoints : ∀ p ∈ points.reduceOption, SendablePoint appendFloat p.point)
    (htimes : ∀ p ∈ points.reduceOption, ∀ t, p.time = some t → InTime t) (defaultTime : Int64) :
    parsePoints defaultTime precision (writeBody appendFloat precision points) =
      { points := points.reduceOption.map (sentPoint appendFloat precision defaultTime) } := by
  rw [parsePoints, parseLines_writeBody precision hpoints htimes defaultTime rfl]
  rfl

end Carries

/-- What the database tells points apart by: their series and their time. -/
def Parsed.identity (q : Parsed) : Text × Int64 := (q.key, q.time)

/-- The fields that are stored of a point. -/
def Parsed.storedFields (q : Parsed) : List (String × FieldValue) :=
  match q.unmarshalBinary with
  | .ok fields => fields
  | .error _ => []

theorem names_of_carries {precision : String} {defaultTime : Int64} {p : Stamped} {q : Parsed}
    (h : Carries precision defaultTime p q)
    (hfields : ∀ f ∈ p.point.fields, ∃ x, f.2.fieldValue = some x) :
    (q.storedFields.map Prod.fst).Perm (p.point.fields.map Prod.fst) := by
  obtain ⟨fields, hread, hperm⟩ := h.fields
  rw [Parsed.storedFields, hread]
  refine (hperm.map Prod.fst).trans (List.Perm.of_eq ?_)
  rw [List.map_filterMap, ← List.filterMap_eq_map]
  apply List.filterMap_congr
  intro f hf
  obtain ⟨x, hx⟩ := hfields f hf
  rw [hx]
  rfl

/-! ## Rows -/

/-- The cell of a stored value. -/
def FieldValue.cell (printFloat : ℚ → String) : FieldValue → Cell
  | .integer n => .number (formatInt n)
  | .unsigned n => .number (formatInteger n.toNat)
  | .float q => .number (printFloat q)
  | .boolean b => .bool b
  | .string s => .string s

/-- The row of a parsed point, when its fields can be read. -/
def Parsed.row (printFloat : ℚ → String) (time : Cell) (q : Parsed) :
    Except FieldError (List Cell) := do
  let fields ← q.unmarshalBinary
  let cells := (q.tags.map fun t => (String.ofList t.1, Cell.string (String.ofList t.2))) ++
    fields.map fun f => (f.1, f.2.cell printFloat)
  return time :: (Columns.row cells).map fun cell => cell.getD .null

theorem stored_eq_cell (printFloat : ℚ → String) {v : Interface} {x : FieldValue}
    (hx : v.fieldValue = some x) : stored printFloat v = x.cell printFloat := by
  cases v with
  | null => cases hx
  | uint32 n =>
      have hlt := n.toNat_lt
      have htoInt : (Int64.ofNat n.toNat).toInt = n.toNat := Int64.toInt_ofNat_of_lt (by omega)
      cases hx
      rw [stored, FieldValue.cell, formatInt, htoInt]
  | _ =>
      cases hx
      rfl

/-- The row that is stored is the row of what was written. -/
theorem row_of_carries {precision : String} {defaultTime : Int64} {p : Stamped} {q : Parsed}
    (h : Carries precision defaultTime p q) (printFloat : ℚ → String) (time : Cell)
    (hnodup : (p.point.tags.map Prod.fst ++ p.point.fields.map Prod.fst).Nodup)
    (htags : ∀ t ∈ p.point.tags, t.2 ≠ "")
    (hfields : ∀ f ∈ p.point.fields, ∃ x, f.2.fieldValue = some x) :
    q.row printFloat time = .ok (selectStar printFloat time p.point) := by
  obtain ⟨fields, hread, hperm⟩ := h.fields
  have htagcells : (q.tags.map fun t => (String.ofList t.1, Cell.string (String.ofList t.2))).Perm
      (p.point.tags.map fun t => (t.1, Cell.string t.2)) := by
    have hall : (p.point.tags.filter fun t => t.2 ≠ "") = p.point.tags :=
      List.filter_eq_self.mpr fun t ht => decide_eq_true (htags t ht)
    have hmap := h.tags.map fun t => (t.1, Cell.string t.2)
    rw [hall, List.map_map] at hmap
    exact hmap
  have hfieldcells : (fields.map fun f => (f.1, f.2.cell printFloat)).Perm
      (p.point.fields.map fun f => (f.1, stored printFloat f.2)) := by
    refine (hperm.map _).trans (List.Perm.of_eq ?_)
    rw [List.map_filterMap, ← List.filterMap_eq_map]
    apply List.filterMap_congr
    intro f hf
    obtain ⟨x, hx⟩ := hfields f hf
    rw [hx, Function.comp_apply, stored_eq_cell printFloat hx]
    rfl
  have hcells := htagcells.append hfieldcells
  have hkeys : ((p.point.cells printFloat).map Prod.fst).Nodup := by
    simpa [Point.cells, Function.comp_def] using hnodup
  have hrow : Columns.row (p.point.cells printFloat) = Columns.row _ :=
    Columns.row_perm hcells.symm hkeys
  rw [Parsed.row, hread, selectStar, hrow]
  rfl

end MetricCollector.Influx
