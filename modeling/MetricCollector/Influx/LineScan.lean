import MetricCollector.Influx.RoundTrip
import Mathlib.Data.List.ReduceOption

/-!
# A body of lines and the points it was written from

What `client.Write` sends is cut into the lines of its points, whatever newlines their
strings have, and is parsed into the points of the batch, in their order and with nothing
left over.

* `Moves` is a stretch of text that `scanLine` passes over.
* `moves_precisionString` puts a line together from its parts.
* `parseLines_writeBody` is the body.
-/

namespace MetricCollector.Influx

open GoLib

/-! ## Where a line ends -/

/-- `scanLine` passes over `t`, and is in state `s'` after it. -/
def Moves (s : LineScan) (t : Text) (s' : LineScan) : Prop :=
  ∀ rest, rest ≠ [] → scanLine s (t ++ rest) = inLine t (scanLine s' rest)

theorem inLine_inLine (t u : Text) (r : Text × Text) :
    inLine t (inLine u r) = inLine (t ++ u) r := by
  simp [inLine]

theorem moves_nil (s : LineScan) : Moves s [] s := by
  intro rest _
  rfl

theorem Moves.append {s s' s'' : LineScan} {t u : Text} (h : Moves s t s') (h' : Moves s' u s'') :
    Moves s (t ++ u) s'' := by
  intro rest hrest
  have hne : u ++ rest ≠ [] := by simp [hrest]
  rw [List.append_assoc, h _ hne, h' _ hrest, inLine_inLine]

theorem Moves.cons {s s' s'' : LineScan} {c : Char} {t : Text} (h : Moves s [c] s')
    (h' : Moves s' t s'') : Moves s (c :: t) s'' :=
  h.append h'

theorem moves_pair (s : LineScan) (d : Char) : Moves s ['\\', d] s := by
  intro rest hrest
  obtain ⟨e, cs, rfl⟩ := List.exists_cons_of_ne_nil hrest
  rw [List.cons_append, List.singleton_append, scanLine]

/-- A byte that means nothing where it stands. -/
theorem moves_char {s : LineScan} {c : Char} (hback : c ≠ '\\')
    (hnewline : c = '\n' → s.quoted = true) (hblank : c = ' ' → s.fields = true)
    (hmark : s.fields = true → c = '=' ∨ c = ',' → s.quoted = true)
    (hquote : s.fields = true → c = '"' → ¬s.commas < s.equals) : Moves s [c] s := by
  intro rest _
  have hstate : (if c = ' ' then { s with fields := true } else s) = s := by
    by_cases hc : c = ' '
    · rw [if_pos hc, ← hblank hc]
    · rw [if_neg hc]
  have hequals : ¬(s.fields = true ∧ (!s.quoted) = true ∧ c = '=') := by
    rintro ⟨hfields, hquoted, hc⟩
    rw [hmark hfields (Or.inl hc)] at hquoted
    exact Bool.false_ne_true hquoted
  have hcomma : ¬(s.fields = true ∧ (!s.quoted) = true ∧ c = ',') := by
    rintro ⟨hfields, hquoted, hc⟩
    rw [hmark hfields (Or.inr hc)] at hquoted
    exact Bool.false_ne_true hquoted
  have hopen : ¬(s.fields = true ∧ c = '"' ∧ s.commas < s.equals) := fun h => hquote h.1 h.2.1 h.2.2
  have hend : ¬(c = '\n' ∧ (!s.quoted) = true) := by
    rintro ⟨hc, hquoted⟩
    rw [hnewline hc] at hquoted
    exact Bool.false_ne_true hquoted
  rw [List.singleton_append, scanLine]
  · simp only [hstate]
    rw [if_neg hequals, if_neg hcomma, if_neg hopen, if_neg hend]
  · intro d e cs h
    exact absurd h hback

section Marks

variable {s : LineScan}

theorem moves_blank : Moves s [' '] { s with fields := true } := by
  intro rest _
  rw [List.singleton_append, scanLine]
  · simp
  · simp

theorem moves_equals (hfields : s.fields = true) (hquoted : s.quoted = false) :
    Moves s ['='] { s with equals := s.equals + 1 } := by
  intro rest _
  rw [List.singleton_append, scanLine]
  · simp [hfields, hquoted]
  · simp

theorem moves_comma (hfields : s.fields = true) (hquoted : s.quoted = false) :
    Moves s [','] { s with commas := s.commas + 1 } := by
  intro rest _
  rw [List.singleton_append, scanLine]
  · simp [hfields, hquoted]
  · simp

theorem moves_quote (hfields : s.fields = true) (hvalue : s.commas < s.equals) :
    Moves s ['"'] { s with quoted := !s.quoted } := by
  intro rest _
  rw [List.singleton_append, scanLine]
  · simp [hfields, hvalue]
  · simp

end Marks

/-- An escaped text whose other bytes mean nothing. -/
theorem moves_escape {s : LineScan} {codes : List Char} {t : Text}
    (ht : ∀ c ∈ t, c ∉ codes → Moves s [c] s) : Moves s (Escape.escape '\\' codes t) s := by
  induction t with
  | nil => exact moves_nil s
  | cons x t ih =>
      have hrest := ih fun c hc => ht c (List.mem_cons_of_mem x hc)
      by_cases hx : x ∈ codes
      · rw [Escape.escape_cons_of_mem hx]
        exact (moves_pair s x).append hrest
      · rw [Escape.escape_cons_of_not_mem hx]
        exact (ht x List.mem_cons_self hx).cons hrest

/-- A plain text in the key, where only a blank means something. -/
theorem moves_keyText {s : LineScan} (hfields : s.fields = false) {codes : List Char}
    (hcodes : ' ' ∈ codes) {t : Text} (ht : Plain t) : Moves s (Escape.escape '\\' codes t) s := by
  refine moves_escape fun c hc hcode => moves_char ?_ ?_ ?_ ?_ ?_
  · rintro rfl
    exact ht.1 hc
  · rintro rfl
    exact absurd hc ht.2
  · rintro rfl
    exact absurd hcodes hcode
  · intro h
    rw [hfields] at h
    cases h
  · intro h
    rw [hfields] at h
    cases h

theorem moves_keyChar {s : LineScan} (hfields : s.fields = false) {c : Char}
    (hc : c = ',' ∨ c = '=') : Moves s [c] s := by
  refine moves_char ?_ ?_ ?_ ?_ ?_
  · obtain rfl | rfl := hc
    · decide
    · decide
  · rintro rfl
    exact absurd hc (by decide)
  · rintro rfl
    exact absurd hc (by decide)
  · intro h
    rw [hfields] at h
    cases h
  · intro h
    rw [hfields] at h
    cases h

theorem moves_tagsText {s : LineScan} (hfields : s.fields = false) {tags : Tags}
    (htags : WritableTags tags) : Moves s (tagsText (tags.map escapePair)) s := by
  induction tags with
  | nil => exact moves_nil s
  | cons t tags ih =>
      have hkey : Moves s (escapeTag t.1) s := by
        rw [escapeTag_eq]
        exact moves_keyText hfields (by decide) (htags.key_plain t List.mem_cons_self)
      have hvalue : Moves s (escapeTag t.2) s := by
        rw [escapeTag_eq]
        exact moves_keyText hfields (by decide) (htags.value_plain t List.mem_cons_self)
      rw [List.map_cons, tagsText_cons]
      exact (moves_keyChar hfields (Or.inl rfl)).cons
        (hkey.append ((moves_keyChar hfields (Or.inr rfl)).cons (hvalue.append (ih htags.tail))))

/-- The bytes of a number or a boolean. -/
theorem moves_bare {s : LineScan} {v : Text} (hv : ∀ c ∈ v, c ∉ reserved) : Moves s v s := by
  induction v with
  | nil => exact moves_nil s
  | cons c v ih =>
      have hne : ∀ d ∈ reserved, c ≠ d := fun d hd h => hv c List.mem_cons_self (h ▸ hd)
      refine Moves.cons (moves_char (hne '\\' (by decide)) ?_ ?_ ?_ ?_)
        (ih fun d hd => hv d (List.mem_cons_of_mem c hd))
      · exact fun h => absurd h (hne '\n' (by decide))
      · exact fun h => absurd h (hne ' ' (by decide))
      · exact fun _ h => h.elim (fun h => absurd h (hne '=' (by decide)))
          fun h => absurd h (hne ',' (by decide))
      · exact fun _ h => absurd h (hne '"' (by decide))

/-- The inside of a string, newlines included. -/
theorem moves_inside {s : LineScan} (hfields : s.fields = true) (hquoted : s.quoted = true)
    (t : Text) : Moves s (escapeStringField t) s := by
  refine moves_escape fun c _ hcode => moves_char ?_ (fun _ => hquoted) (fun _ => hfields)
    (fun _ _ => hquoted) ?_
  · rintro rfl
    exact hcode (by decide)
  · rintro - rfl
    exact absurd (by decide) hcode

theorem moves_value {s : LineScan} (hfields : s.fields = true) (hquoted : s.quoted = false)
    (hvalue : s.commas < s.equals) {v : Text} (hv : ValueText v) : Moves s v s := by
  cases hv with
  | number hbare hstart hscan => exact moves_bare hbare
  | boolean hbare hstart hscan => exact moves_bare hbare
  | string t =>
      have hopen : Moves s ['"'] { s with quoted := true } := by
        have hquote := moves_quote hfields hvalue
        rwa [hquoted] at hquote
      have hclose : Moves { s with quoted := true } ['"'] s := by
        have hquote := moves_quote (s := { s with quoted := true }) hfields hvalue
        rwa [Bool.not_true, ← hquoted] at hquote
      have hinside : Moves { s with quoted := true } (escapeStringField t)
          { s with quoted := true } := moves_inside (s := { s with quoted := true }) hfields rfl t
      exact hopen.cons (hinside.append hclose)

theorem moves_name {s : LineScan} (hvalue : s.equals ≤ s.commas) {k : Text} (hk : Plain k) :
    Moves s (escapeString k) s := by
  refine moves_escape fun c hc hcode => moves_char ?_ ?_ ?_ ?_ ?_
  · rintro rfl
    exact hk.1 hc
  · rintro rfl
    exact absurd hc hk.2
  · rintro rfl
    exact absurd (by decide) hcode
  · rintro - (rfl | rfl)
    · exact absurd (by decide) hcode
    · exact absurd (by decide) hcode
  · exact fun _ _ => Nat.not_lt.mpr hvalue

theorem moves_field {s : LineScan} (hfields : s.fields = true) (hquoted : s.quoted = false)
    (hname : s.equals = s.commas) {f : Text × Text} (hf : WritableField f) :
    Moves s (escapeString f.1 ++ '=' :: f.2) { s with equals := s.equals + 1 } := by
  have hvalue : s.commas < s.equals + 1 := Nat.lt_succ_of_le (Nat.le_of_eq hname.symm)
  have htext : Moves { s with equals := s.equals + 1 } f.2 { s with equals := s.equals + 1 } :=
    moves_value (s := { s with equals := s.equals + 1 }) hfields hquoted hvalue hf.value
  exact (moves_name (Nat.le_of_eq hname) hf.plain).append
    ((moves_equals hfields hquoted).cons htext)

theorem moves_fieldsText {f : Text × Text} {fs : List (Text × Text)}
    (hfs : ∀ g ∈ f :: fs, WritableField g) {s : LineScan} (hfields : s.fields = true)
    (hquoted : s.quoted = false) (hname : s.equals = s.commas) :
    Moves s (fieldsText (f :: fs)).tail
      { s with equals := s.equals + fs.length + 1, commas := s.commas + fs.length } := by
  have hfield := moves_field hfields hquoted hname (hfs f List.mem_cons_self)
  induction fs generalizing f s with
  | nil =>
      have htext : (fieldsText [f]).tail = escapeString f.1 ++ '=' :: f.2 := by simp [fieldsText]
      rw [htext]
      exact hfield
  | cons g fs ih =>
      have htext : (fieldsText (f :: g :: fs)).tail =
          (escapeString f.1 ++ '=' :: f.2) ++ (',' :: (fieldsText (g :: fs)).tail) := by
        simp [fieldsText]
      have hrest : ∀ u ∈ g :: fs, WritableField u := fun u hu => hfs u (List.mem_cons_of_mem f hu)
      have hcomma : Moves { s with equals := s.equals + 1 } [',']
          { s with equals := s.equals + 1, commas := s.commas + 1 } := moves_comma hfields hquoted
      have hnext : s.equals + 1 = s.commas + 1 := congrArg (· + 1) hname
      have hmore : Moves { s with equals := s.equals + 1, commas := s.commas + 1 }
          (fieldsText (g :: fs)).tail
          { s with equals := s.equals + 1 + fs.length + 1, commas := s.commas + 1 + fs.length } :=
        ih (s := { s with equals := s.equals + 1, commas := s.commas + 1 }) hrest hfields hquoted
          hnext (moves_field (s := { s with equals := s.equals + 1, commas := s.commas + 1 }) hfields
            hquoted hnext (hrest g List.mem_cons_self))
      have hequals : s.equals + (g :: fs).length + 1 = s.equals + 1 + fs.length + 1 := by
        rw [List.length_cons]
        omega
      have hcommas : s.commas + (g :: fs).length = s.commas + 1 + fs.length := by
        rw [List.length_cons]
        omega
      rw [htext, hequals, hcommas]
      exact hfield.append (hcomma.cons hmore)

/-! ## A line -/

section Line

variable {appendFloat : ℚ → Text} (precision : String) {p : Stamped}

theorem moves_timeText {s : LineScan} (hfields : s.fields = true) (time : Option Int64) :
    Moves s (timeText precision time) s := by
  have hblank : Moves s [' '] s := by
    have hmoves := moves_blank (s := s)
    rwa [← hfields] at hmoves
  cases time with
  | none => exact moves_nil s
  | some t =>
      obtain ⟨sign, hsign, htext⟩ := formatInteger_eq (t / getPrecisionMultiplier precision).toInt
      refine hblank.cons (moves_bare ?_)
      intro c hc
      rw [formatInt, htext, List.mem_append] at hc
      obtain hmem | hmem := hc
      · obtain rfl | rfl := hsign
        · cases hmem
        · rw [List.mem_singleton.mp hmem]
          decide
      · exact isDigit_not_mem_reserved (isDigit_of_mem_toDigits hmem)

theorem ValueText.getLast?_ne {v : Text} (h : ValueText v) : v.getLast? ≠ some '\n' := by
  intro hlast
  have hmem := List.mem_of_getLast? hlast
  cases h with
  | number hbare hstart hscan => exact hbare '\n' hmem (by decide)
  | boolean hbare hstart hscan => exact hbare '\n' hmem (by decide)
  | string t =>
      rw [List.getLast?_concat] at hlast
      cases hlast

theorem getLast?_append_fieldsText_ne {v : Text} (hv : ValueText v) {fs : List (Text × Text)}
    (hfs : ∀ f ∈ fs, WritableField f) : (v ++ fieldsText fs).getLast? ≠ some '\n' := by
  induction fs generalizing v with
  | nil =>
      have hnil : fieldsText [] = [] := rfl
      rw [hnil, List.append_nil]
      exact hv.getLast?_ne
  | cons f fs ih =>
      have hf := (hfs f List.mem_cons_self).value
      have hsplit : v ++ fieldsText (f :: fs) =
          v ++ ',' :: (escapeString f.1 ++ ['=']) ++ (f.2 ++ fieldsText fs) := by
        rw [fieldsText_cons]
        simp
      rw [hsplit, List.getLast?_append_of_ne_nil _ (by simp [hf.ne_nil])]
      exact ih hf fun g hg => hfs g (List.mem_cons_of_mem f hg)

/-- The fields end in a value. -/
theorem getLast?_fieldsText_ne {f : Text × Text} {fs : List (Text × Text)}
    (hfs : ∀ g ∈ f :: fs, WritableField g) : (fieldsText (f :: fs)).tail.getLast? ≠ some '\n' := by
  have hf := (hfs f List.mem_cons_self).value
  have htail :
      (fieldsText (f :: fs)).tail = escapeString f.1 ++ ['='] ++ (f.2 ++ fieldsText fs) := by
    rw [fieldsText_cons]
    simp
  rw [htail, List.getLast?_append_of_ne_nil _ (by simp [hf.ne_nil])]
  exact getLast?_append_fieldsText_ne hf fun g hg => hfs g (List.mem_cons_of_mem f hg)

/-- A line is passed over to its end, where no string is open. -/
theorem moves_precisionString (h : SendablePoint appendFloat p.point) :
    ∃ s, s.quoted = false ∧ Moves {} (precisionString appendFloat precision p) s := by
  obtain ⟨f, fs, htexts⟩ := List.exists_cons_of_ne_nil (fieldTexts_ne_nil h.fields)
  have hkey : Moves {} (makeKey p.point.measurement.toList (newTags p.point.tags)) {} := by
    rw [makeKey_eq h.name.plain.1, joinKey, escapeMeasurement_eq]
    exact (moves_keyText rfl (by decide) h.name.plain).append
      (moves_tagsText rfl (writableTags_sentTags h.tags))
  have hfields : Moves { fields := true } (marshalFields appendFloat p.point.fields)
      { fields := true, equals := 0 + fs.length + 1, commas := 0 + fs.length } := by
    have hwritable := writableField_fieldTexts h.fields
    rw [marshalFields_eq]
    rw [htexts] at hwritable ⊢
    exact moves_fieldsText hwritable rfl rfl rfl
  rw [precisionString_eq]
  exact ⟨_, rfl,
    hkey.append (moves_blank.cons (hfields.append (moves_timeText precision rfl p.time)))⟩

theorem scanLine_precisionString (h : SendablePoint appendFloat p.point) (rest : Text) :
    scanLine {} (precisionString appendFloat precision p ++ '\n' :: rest) =
      (precisionString appendFloat precision p, '\n' :: rest) := by
  obtain ⟨s, hquoted, hmoves⟩ := moves_precisionString precision h
  have hend : scanLine s ('\n' :: rest) = ([], '\n' :: rest) := by
    rw [scanLine]
    · simp [hquoted]
    · simp
  rw [hmoves _ (List.cons_ne_nil _ _), hend, inLine, List.append_nil]

/-- No line ends in a newline of its own. -/
theorem getLast?_precisionString_ne (h : SendablePoint appendFloat p.point) :
    (precisionString appendFloat precision p).getLast? ≠ some '\n' := by
  obtain ⟨f, fs, htexts⟩ := List.exists_cons_of_ne_nil (fieldTexts_ne_nil h.fields)
  have hwritable := writableField_fieldTexts h.fields
  have hfields : (marshalFields appendFloat p.point.fields).getLast? ≠ some '\n' := by
    rw [marshalFields_eq]
    rw [htexts] at hwritable ⊢
    exact getLast?_fieldsText_ne hwritable
  have hne : marshalFields appendFloat p.point.fields ≠ [] := by
    rw [marshalFields_eq, htexts]
    exact tail_fieldsText_ne_nil
  rw [precisionString_eq, List.getLast?_append_of_ne_nil _ (List.cons_ne_nil _ _)]
  cases p.time with
  | none =>
      rw [timeText, List.append_nil, ← List.singleton_append,
        List.getLast?_append_of_ne_nil _ hne]
      exact hfields
  | some t =>
      intro hlast
      rw [timeText, ← List.cons_append, List.getLast?_append_of_ne_nil _ (List.cons_ne_nil _ _)]
        at hlast
      obtain hblank | hmem := List.mem_cons.mp (List.mem_of_getLast? hlast)
      · cases hblank
      · obtain ⟨sign, hsign, htext⟩ :=
          formatInteger_eq (t / getPrecisionMultiplier precision).toInt
        rw [formatInt, htext, List.mem_append] at hmem
        obtain hsign' | hdigit := hmem
        · obtain rfl | rfl := hsign
          · cases hsign'
          · exact absurd (List.mem_singleton.mp hsign') (by decide)
        · exact absurd (isDigit_of_mem_toDigits hdigit) (by decide)

end Line

/-! ## A body -/

section Body

variable {appendFloat : ℚ → Text} (precision : String)

/-- The turn of the loop for a line that was written. -/
theorem parseLine_precisionString {p : Stamped} (h : SendablePoint appendFloat p.point)
    (htime : ∀ t, p.time = some t → InTime t) (defaultTime : Int64) (acc : ParsedPoints) :
    parseLine defaultTime precision acc (precisionString appendFloat precision p) =
      { acc with points := acc.points ++ [sentPoint appendFloat precision defaultTime p] } := by
  obtain ⟨c, cs, hcons, hblank, htab, hzero, hcomment⟩ := h.name.head_escapeMeasurement
  obtain ⟨cs', hline⟩ : ∃ cs', precisionString appendFloat precision p = c :: cs' := by
    rw [precisionString_eq, makeKey_eq h.name.plain.1, joinKey, hcons]
    exact ⟨_, rfl⟩
  have hparse := parsePoint_precisionString precision h htime defaultTime
  have hlast := getLast?_precisionString_ne precision h
  have hstart : ¬(c :: cs' = [] ∨ (c :: cs').head? = some '#') := by
    rintro (h | h)
    · cases h
    · exact hcomment (Option.some.inj h)
  rw [parseLine]
  rw [hline] at hlast hparse ⊢
  rw [skipWhitespace_cons hblank htab hzero]
  dsimp only
  rw [if_neg hstart, if_neg hlast, hparse]

/-- Every line of the body is parsed into the point that it was written from, and nothing
fails. -/
theorem parseLines_writeBody {points : List (Option Stamped)}
    (hpoints : ∀ p ∈ points.reduceOption, SendablePoint appendFloat p.point)
    (htimes : ∀ p ∈ points.reduceOption, ∀ t, p.time = some t → InTime t) (defaultTime : Int64)
    {acc : ParsedPoints} (hacc : acc.panicked = false) :
    parseLines defaultTime precision acc (writeBody appendFloat precision points) =
      { acc with points := acc.points ++
          points.reduceOption.map (sentPoint appendFloat precision defaultTime) } := by
  induction points generalizing acc with
  | nil =>
      have hbody : writeBody appendFloat precision [] = [] := rfl
      rw [hbody, parseLines_nil, List.reduceOption_nil, List.map_nil, List.append_nil]
  | cons p points ih =>
      cases p with
      | none =>
          rw [List.reduceOption_cons_of_none] at hpoints htimes ⊢
          exact ih hpoints htimes hacc
      | some p =>
          rw [List.reduceOption_cons_of_some] at hpoints htimes ⊢
          have hp := hpoints p List.mem_cons_self
          have hbody : writeBody appendFloat precision (some p :: points) =
              precisionString appendFloat precision p ++
                '\n' :: writeBody appendFloat precision points := by
            simp [writeBody]
          have hacc' : ({ acc with points := acc.points ++
              [sentPoint appendFloat precision defaultTime p] } : ParsedPoints).panicked = false :=
            hacc
          have hrest := ih (fun q hq => hpoints q (List.mem_cons_of_mem p hq))
            (fun q hq => htimes q (List.mem_cons_of_mem p hq)) hacc'
          rw [hbody, parseLines_of_ne_nil _ _ hacc (by simp), scanLine_precisionString precision hp,
            parseLine_precisionString precision hp (htimes p List.mem_cons_self), List.tail_cons,
            hrest]
          simp

end Body

end MetricCollector.Influx
