import MetricCollector.Influx.ParsePoints

/-!
# The field values of a written point

The text that `appendValue` writes for a value is a number, a boolean or a string to the
scanners, and is read back as a value of the type that it was written from.

* `scanNumber_integer` and `scanNumber_float` say that a number is scanned to its end.
* `valueText_appendValue` sorts the texts into the three kinds.
* `fieldValue_appendValue` is the round trip.
-/

namespace MetricCollector.Influx

open GoLib

/-! ## Numbers -/

/-- What may follow a value. -/
def Ends (rest : Text) : Prop := ∀ d t, rest = d :: t → d = ',' ∨ d = ' '

theorem ends_cons {d : Char} (hd : d = ',' ∨ d = ' ') (t : Text) : Ends (d :: t) := by
  intro d' t' h
  cases h
  exact hd

theorem isDigit_ne {c d : Char} (hc : c.isDigit = true) (hd : d.isDigit = false) : c ≠ d := by
  rintro rfl
  rw [hc] at hd
  cases hd

theorem scanDigits_end (s : NumberScan) (first : Bool) (prev : Char) {rest : Text}
    (hrest : Ends rest) : scanDigits s first prev rest = .ok (s, []) := by
  cases rest with
  | nil => rfl
  | cons d t => rw [scanDigits, if_pos (hrest d t rfl)]

/-- A digit is passed over. -/
theorem scanDigits_digit (s : NumberScan) (first : Bool) (prev : Char) {c : Char}
    (hc : c.isDigit = true) (cs : Text) :
    scanDigits s first prev (c :: cs) =
      (scanDigits s false c cs).map fun r => (r.1, c :: r.2) := by
  have hne : ∀ d : Char, d.isDigit = false → c ≠ d := fun d => isDigit_ne hc
  have hscan : { s with decimal := s.decimal || decide (c = '.') } = s := by
    rw [decide_eq_false (hne '.' rfl), Bool.or_false]
  have hnumeric : isNumeric c = true := by simp [isNumeric, hc]
  rw [scanDigits, if_neg (by simp [hne ',' rfl, hne ' ' rfl]), if_neg (by simp [hne 'i' rfl]),
    if_neg (by simp [hne 'u' rfl]), if_neg (by simp [hne '.' rfl])]
  simp only [hscan]
  rw [if_neg (by simp [hne 'e' rfl, hne 'E' rfl]), if_neg (by simp [hne '+' rfl, hne '-' rfl]),
    if_neg (by simp [hnumeric])]

theorem scanDigits_digits (s : NumberScan) {ds : Text} (hds : ∀ c ∈ ds, c.isDigit = true)
    (rest : Text) (prev : Char) :
    ∃ prev', scanDigits s false prev (ds ++ rest) =
      (scanDigits s false prev' rest).map fun r => (r.1, ds ++ r.2) := by
  induction ds generalizing prev with
  | nil =>
      refine ⟨prev, ?_⟩
      rw [List.nil_append]
      cases scanDigits s false prev rest <;> rfl
  | cons c ds ih =>
      obtain ⟨prev', hscan⟩ := ih (fun d hd => hds d (List.mem_cons_of_mem c hd)) c
      refine ⟨prev', ?_⟩
      rw [List.cons_append, scanDigits_digit s false prev (hds c List.mem_cons_self), hscan]
      cases scanDigits s false prev' rest <;> rfl

/-- A number that starts with a digit. -/
theorem scanDigits_whole (s : NumberScan) (first : Bool) (prev : Char) {ds : Text} (hne : ds ≠ [])
    (hds : ∀ c ∈ ds, c.isDigit = true) (rest : Text) :
    ∃ prev', scanDigits s first prev (ds ++ rest) =
      (scanDigits s false prev' rest).map fun r => (r.1, ds ++ r.2) := by
  obtain ⟨c, cs, rfl⟩ := List.exists_cons_of_ne_nil hne
  obtain ⟨prev', hscan⟩ :=
    scanDigits_digits s (fun d hd => hds d (List.mem_cons_of_mem c hd)) rest c
  refine ⟨prev', ?_⟩
  rw [List.cons_append, scanDigits_digit s first prev (hds c List.mem_cons_self), hscan]
  cases scanDigits s false prev' rest <;> rfl

/-- The suffix of an integer. -/
theorem scanDigits_i (prev : Char) {rest : Text} (hrest : Ends rest) :
    scanDigits {} false prev ('i' :: rest) = .ok ({ isInt := true }, ['i']) := by
  rw [scanDigits, if_neg (by decide), if_pos (by decide), scanDigits_end _ _ _ hrest]
  rfl

/-- The fraction of a number. -/
theorem scanDigits_fraction (prev : Char) {ds rest : Text} (hds : ∀ c ∈ ds, c.isDigit = true)
    (hrest : Ends rest) :
    scanDigits {} false prev ('.' :: (ds ++ rest)) = .ok ({ decimal := true }, '.' :: ds) := by
  obtain ⟨prev', hscan⟩ := scanDigits_digits { decimal := true } hds rest '.'
  rw [scanDigits, if_neg (by decide), if_neg (by decide), if_neg (by decide), if_neg (by decide)]
  simp only [Bool.false_or, decide_true]
  rw [if_neg (by decide), if_neg (by simp), if_neg (by decide), hscan,
    scanDigits_end _ _ _ hrest]
  simp [Except.map]

theorem scanNumber_minus {cs : Text} (hne : cs ≠ []) :
    scanNumber ('-' :: cs) = (do
      let (s, text) ← scanDigits {} false '-' cs
      checkNumber s ['-'] text
      return 1 + text.length) := by
  rw [scanNumber]
  exact hne

theorem scanNumber_digit {c : Char} (hc : c.isDigit = true) (cs : Text) :
    scanNumber (c :: cs) = (do
      let (s, text) ← scanDigits {} true '=' (c :: cs)
      checkNumber s [] text
      return text.length) := by
  rw [scanNumber]
  · intro h
    exact isDigit_ne hc rfl (List.cons.inj h).1
  · intro cs' h
    exact isDigit_ne hc rfl (List.cons.inj h).1

/-- A sign, digits, and what the loop makes of the text after them. -/
theorem scanNumber_of_tail {sign whole tail rest : Text} {s : NumberScan}
    (hsign : sign = [] ∨ sign = ['-']) (hne : whole ≠ []) (hwhole : ∀ c ∈ whole, c.isDigit = true)
    (htail : ∀ prev, scanDigits {} false prev (tail ++ rest) = .ok (s, tail))
    (hcheck : checkNumber s sign (whole ++ tail) = .ok ()) :
    scanNumber (sign ++ whole ++ tail ++ rest) = .ok (sign ++ whole ++ tail).length := by
  have hscan : ∀ first prev, scanDigits {} first prev (whole ++ (tail ++ rest)) =
      .ok (s, whole ++ tail) := by
    intro first prev
    obtain ⟨prev', hscan⟩ := scanDigits_whole {} first prev hne hwhole (tail ++ rest)
    rw [hscan, htail]
    rfl
  obtain rfl | rfl := hsign
  · obtain ⟨c, cs, rfl⟩ := List.exists_cons_of_ne_nil hne
    have htext : [] ++ c :: cs ++ tail ++ rest = c :: (cs ++ (tail ++ rest)) := by simp
    have hloop := hscan true '='
    rw [List.cons_append] at hloop
    rw [htext, scanNumber_digit (hwhole c List.mem_cons_self), hloop]
    simp only [bind, Except.bind, hcheck]
    rfl
  · have htext : ['-'] ++ whole ++ tail ++ rest = '-' :: (whole ++ (tail ++ rest)) := by simp
    rw [htext, scanNumber_minus (by simp [hne]), hscan]
    simp only [bind, Except.bind, hcheck]
    simp only [pure, Except.pure, List.length_append, List.length_singleton]
    rw [Nat.add_assoc]

/-! ## Integers -/

theorem parseIntBytes_digit {c : Char} (hc : c.isDigit = true) (cs : Text) :
    parseIntBytes (c :: cs) = parseSigned false (c :: cs) := by
  rw [parseIntBytes]
  · intro cs' h
    exact isDigit_ne hc rfl (List.cons.inj h).1
  · intro cs' h
    exact isDigit_ne hc rfl (List.cons.inj h).1

theorem parseIntBytes_formatInteger {i : Int} (hlo : -2 ^ 63 ≤ i) (hhi : i < 2 ^ 63) :
    parseIntBytes (formatInteger i).toList = .ok (Int64.ofInt i) := by
  have habs : i.natAbs < 2 ^ 64 := by omega
  by_cases hneg : i < 0
  · have hval : (-(i.natAbs : Int)) = i := by omega
    have hle : i.natAbs ≤ 2 ^ 63 := by omega
    rw [formatInteger, if_pos hneg, String.toList_ofList, parseIntBytes, parseSigned,
      parseUint_toDigits habs]
    dsimp only
    rw [if_pos rfl, if_pos hle, hval]
  · have hval : (i.natAbs : Int) = i := by omega
    have hlt : i.natAbs < 2 ^ 63 := by omega
    obtain ⟨c, cs, hcons⟩ := List.exists_cons_of_ne_nil
      (Nat.toDigits_ne_nil (b := 10) (n := i.natAbs))
    have hc : c.isDigit = true :=
      isDigit_of_mem_toDigits (n := i.natAbs) (hcons ▸ List.mem_cons_self)
    rw [formatInteger, if_neg hneg, String.toList_ofList, hcons, parseIntBytes_digit hc, ← hcons,
      parseSigned, parseUint_toDigits habs]
    dsimp only
    rw [if_neg Bool.false_ne_true, if_pos hlt, hval]

/-- The sign and the digits of an integer. -/
theorem formatInteger_eq (i : Int) :
    ∃ sign, (sign = [] ∨ sign = ['-']) ∧
      (formatInteger i).toList = sign ++ Nat.toDigits 10 i.natAbs := by
  by_cases hneg : i < 0
  · refine ⟨['-'], Or.inr rfl, ?_⟩
    rw [formatInteger, if_pos hneg, String.toList_ofList]
    rfl
  · refine ⟨[], Or.inl rfl, ?_⟩
    rw [formatInteger, if_neg hneg, String.toList_ofList]
    rfl

theorem checkNumber_int {sign digits : Text} {n : Int64} (hne : digits ≠ [])
    (hparse : parseIntBytes (sign ++ digits) = .ok n) :
    checkNumber { isInt := true } sign (digits ++ ['i']) = .ok () := by
  have hlength : (digits ++ ['i']).length ≠ true.toNat + false.toNat := by
    have hpos := List.length_pos_of_ne_nil hne
    simp only [List.length_append, List.length_singleton, Bool.toNat_true, Bool.toNat_false]
    omega
  rw [checkNumber, if_neg (by simp), if_neg hlength, if_pos rfl, if_neg (by simp),
    List.dropLast_concat, hparse]
  exact ite_self _

theorem scanNumber_integer {i : Int} (hlo : -2 ^ 63 ≤ i) (hhi : i < 2 ^ 63) {rest : Text}
    (hrest : Ends rest) :
    scanNumber ((formatInteger i).toList ++ ['i'] ++ rest) =
      .ok ((formatInteger i).toList ++ ['i']).length := by
  obtain ⟨sign, hsign, htext⟩ := formatInteger_eq i
  have hparse := parseIntBytes_formatInteger hlo hhi
  rw [htext] at hparse ⊢
  refine scanNumber_of_tail hsign Nat.toDigits_ne_nil (fun c hc => isDigit_of_mem_toDigits hc)
    (fun prev => scanDigits_i prev hrest) ?_
  exact checkNumber_int Nat.toDigits_ne_nil hparse

/-! ## Floats -/

/-- What `strconv.AppendFloat` is documented to append: digits, with a sign and a fraction or
without, that are read back as the number. -/
structure FloatText (text : Text) (q : ℚ) : Prop where
  shape : ∃ sign whole tail, text = sign ++ whole ++ tail ∧ (sign = [] ∨ sign = ['-']) ∧
    whole ≠ [] ∧ (∀ c ∈ whole, c.isDigit = true) ∧
    (tail = [] ∨ ∃ ds, tail = '.' :: ds ∧ ∀ c ∈ ds, c.isDigit = true)
  value : parseFloatBytes text = some q

theorem checkNumber_float {decimal : Bool} {sign text : Text}
    (hlength : text.length ≠ decimal.toNat)
    (hfloat : parseFloatBytes (sign ++ text) ≠ none) :
    checkNumber { decimal := decimal } sign text = .ok () := by
  have hlength' : text.length ≠ false.toNat + decimal.toNat := by
    rwa [Bool.toNat_false, Nat.zero_add]
  rw [checkNumber, if_neg (by simp), if_neg hlength', if_neg (by simp), if_neg (by simp),
    if_neg fun h => hfloat h.2]

theorem scanNumber_float {text : Text} {q : ℚ} (h : FloatText text q) {rest : Text}
    (hrest : Ends rest) : scanNumber (text ++ rest) = .ok text.length := by
  obtain ⟨sign, whole, tail, rfl, hsign, hne, hwhole, htail⟩ := h.shape
  have hpos := List.length_pos_of_ne_nil hne
  have hfloat : parseFloatBytes (sign ++ (whole ++ tail)) ≠ none := by
    rw [← List.append_assoc, h.value]
    exact Option.some_ne_none q
  obtain rfl | ⟨ds, rfl, hds⟩ := htail
  · refine scanNumber_of_tail (s := {}) hsign hne hwhole
      (fun prev => scanDigits_end _ _ _ hrest) (checkNumber_float ?_ hfloat)
    rw [List.append_nil, Bool.toNat_false]
    omega
  · refine scanNumber_of_tail (s := { decimal := true }) hsign hne hwhole
      (fun prev => scanDigits_fraction prev hds hrest) (checkNumber_float ?_ hfloat)
    rw [List.length_append, List.length_cons, Bool.toNat_true]
    omega

/-! ## The texts of values -/

/-- The bytes that mean something to a scanner outside of a string. -/
def reserved : List Char := ['\\', '"', ',', ' ', '=', '\n']

/-- A value as the scanners see it: a number or a boolean that ends where the next field
starts, or a string in quotes. -/
inductive ValueText : Text → Prop where
  | number {d : Char} {v : Text} (hbare : ∀ c ∈ d :: v, c ∉ reserved)
      (hstart : isNumeric d = true ∨ d = '-')
      (hscan : ∀ rest, Ends rest → scanNumber (d :: v ++ rest) = .ok (d :: v).length) :
      ValueText (d :: v)
  | boolean {d : Char} {v : Text} (hbare : ∀ c ∈ d :: v, c ∉ reserved) (hstart : d = 't' ∨ d = 'f')
      (hscan : ∀ rest, Ends rest → scanBoolean d (v ++ rest) = .ok (d :: v).length) :
      ValueText (d :: v)
  | string (s : Text) : ValueText ('"' :: escapeStringField s ++ ['"'])

theorem isDigit_not_mem_reserved {c : Char} (hc : c.isDigit = true) : c ∉ reserved := by
  intro hmem
  have hnone : ∀ d ∈ reserved, d.isDigit = false := by simp [reserved]
  rw [hnone c hmem] at hc
  cases hc

theorem valueText_number {sign whole tail : Text} (hsign : sign = [] ∨ sign = ['-'])
    (hne : whole ≠ []) (hwhole : ∀ c ∈ whole, c.isDigit = true) (htail : ∀ c ∈ tail, c ∉ reserved)
    (hscan : ∀ rest, Ends rest →
      scanNumber (sign ++ whole ++ tail ++ rest) = .ok (sign ++ whole ++ tail).length) :
    ValueText (sign ++ whole ++ tail) := by
  have hbare : ∀ c ∈ sign ++ whole ++ tail, c ∉ reserved := by
    intro c hc
    rw [List.mem_append, List.mem_append] at hc
    obtain (hmem | hmem) | hmem := hc
    · obtain rfl | rfl := hsign
      · cases hmem
      · rw [List.mem_singleton.mp hmem]
        decide
    · exact isDigit_not_mem_reserved (hwhole c hmem)
    · exact htail c hmem
  obtain ⟨c, cs, rfl⟩ := List.exists_cons_of_ne_nil hne
  obtain rfl | rfl := hsign
  · have hnumeric : isNumeric c = true := by
      rw [isNumeric, hwhole c List.mem_cons_self, Bool.true_or]
    exact .number hbare (Or.inl hnumeric) hscan
  · exact .number hbare (Or.inr rfl) hscan

theorem valueText_integer {i : Int} (hlo : -2 ^ 63 ≤ i) (hhi : i < 2 ^ 63) :
    ValueText ((formatInteger i).toList ++ ['i']) := by
  have hscan : ∀ rest, Ends rest → scanNumber ((formatInteger i).toList ++ ['i'] ++ rest) = _ :=
    fun rest => scanNumber_integer hlo hhi
  obtain ⟨sign, hsign, htext⟩ := formatInteger_eq i
  rw [htext] at hscan ⊢
  exact valueText_number hsign Nat.toDigits_ne_nil (fun c hc => isDigit_of_mem_toDigits hc)
    (by simp [reserved]) hscan

theorem valueText_float {text : Text} {q : ℚ} (h : FloatText text q) : ValueText text := by
  have hscan : ∀ rest, Ends rest → scanNumber (text ++ rest) = .ok text.length :=
    fun rest => scanNumber_float h
  obtain ⟨sign, whole, tail, rfl, hsign, hne, hwhole, htail⟩ := h.shape
  refine valueText_number hsign hne hwhole ?_ hscan
  obtain rfl | ⟨ds, rfl, hds⟩ := htail
  · intro c hc
    cases hc
  · intro c hc
    obtain rfl | hmem := List.mem_cons.mp hc
    · decide
    · exact isDigit_not_mem_reserved (hds c hmem)

theorem valueText_bool (b : Bool) : ValueText (if b then "true" else "false").toList := by
  have hscan : ∀ {v rest : Text}, Ends rest → (∀ c ∈ v, c ≠ ',' ∧ c ≠ ' ') →
      ((v ++ rest).takeWhile fun c => c ≠ ',' && c ≠ ' ') = v := by
    intro v rest hrest hv
    rw [List.takeWhile_append_of_pos (by simpa using hv)]
    cases rest with
    | nil => rw [List.takeWhile_nil, List.append_nil]
    | cons e t =>
        have hstop := hrest e t rfl
        rw [List.takeWhile_cons_of_neg (by simpa using fun h => hstop.resolve_left h),
          List.append_nil]
  cases b with
  | true =>
      refine .boolean (d := 't') (v := ['r', 'u', 'e']) (by simp [reserved]) (Or.inl rfl) ?_
      intro rest hrest
      rw [scanBoolean, hscan hrest (by simp)]
      decide
  | false =>
      refine .boolean (d := 'f') (v := ['a', 'l', 's', 'e']) (by simp [reserved])
        (Or.inr rfl) ?_
      intro rest hrest
      rw [scanBoolean, hscan hrest (by simp)]
      decide

/-- A value that has a text: not `nil`, and a float that `strconv` writes as documented. -/
def Sendable (appendFloat : ℚ → Text) (v : Interface) : Prop :=
  v ≠ .null ∧ ∀ q, v = .float64 q → FloatText (appendFloat q) q

theorem valueText_appendValue {appendFloat : ℚ → Text} {v : Interface}
    (h : Sendable appendFloat v) : ValueText (appendValue appendFloat v) := by
  have hint : ∀ n : Int64, ValueText ((formatInt n).toList ++ ['i']) := fun n =>
    valueText_integer n.le_toInt n.toInt_lt
  cases v with
  | null => exact absurd rfl h.1
  | bool b => exact valueText_bool b
  | string s => exact .string s.toList
  | number text => exact .string text.toList
  | int n => exact hint n
  | int64 n => exact hint n
  | uint32 n =>
      have hlt := n.toNat_lt
      exact valueText_integer (by omega) (by omega)
  | float64 q => exact valueText_float (h.2 q rfl)
  | other printed => exact .string printed.toList

/-! ## What a value is read back as -/

/-- The value of a field that was written with this value: an integer of any width comes
back as an `int64`, and a type that is not known as its text. -/
def Interface.fieldValue : Interface → Option FieldValue
  | .null => none
  | .bool b => some (.boolean b)
  | .string s => some (.string s)
  | .number text => some (.string text)
  | .int n => some (.integer n)
  | .int64 n => some (.integer n)
  | .uint32 n => some (.integer (Int64.ofNat n.toNat))
  | .float64 q => some (.float q)
  | .other printed => some (.string printed)

theorem fieldValue_quoted (s : Text) :
    fieldValue ('"' :: escapeStringField s ++ ['"']) = .ok (some (.string (String.ofList s))) := by
  rw [List.cons_append, fieldValue]
  · rw [List.dropLast_concat, unescapeStringField_escapeStringField]
  · simp

/-- A number is told from a boolean by its first byte. -/
theorem mem_numberStart {c : Char} (hc : isNumeric c = true ∨ c = '-') :
    c ∈ "0123456789-.nNiIu".toList := by
  have hdigits : ∀ n < 10, Nat.digitChar n ∈ "0123456789-.nNiIu".toList := by decide
  obtain hnumeric | rfl := hc
  · rw [isNumeric, Bool.or_eq_true, decide_eq_true_eq] at hnumeric
    obtain hdigit | rfl := hnumeric
    · have hrange : 48 ≤ c.toNat ∧ c.toNat ≤ 57 := Char.isDigit_iff_toNat.mp hdigit
      have hdigitChar : Nat.digitChar (c.toNat - 48) = c := by
        apply Char.toNat_inj.mp
        rw [Nat.toNat_digitChar_of_lt_ten (by omega)]
        omega
      exact hdigitChar ▸ hdigits (c.toNat - 48) (by omega)
    · decide
  · decide

theorem fieldValue_number {c : Char} (hc : isNumeric c = true ∨ c = '-') (cs : Text) :
    fieldValue (c :: cs) =
      if (c :: cs).getLast? = some 'i' then
        match parseIntBytes (c :: cs).dropLast with
        | .error reason => .error (.integer (c :: cs).dropLast reason)
        | .ok n => .ok (some (.integer n))
      else if (c :: cs).getLast? = some 'u' then
        match parseUint (c :: cs).dropLast with
        | .value n => .ok (some (.unsigned (UInt64.ofNat n)))
        | _ => .error (.unsigned (c :: cs).dropLast)
      else
        match parseFloatBytes (c :: cs) with
        | none => .error (.float (c :: cs))
        | some q => .ok (some (.float q)) := by
  have hquote : c ≠ '"' := by
    rintro rfl
    obtain h | h := hc
    · cases h
    · cases h
  rewrite [fieldValue, if_pos (mem_numberStart hc)]
  · rfl
  · intro h
    exact absurd h hquote
  · exact hquote

/-- The first byte of a number. -/
theorem numberStart {sign whole : Text} (tail : Text) (hsign : sign = [] ∨ sign = ['-'])
    (hne : whole ≠ []) (hwhole : ∀ c ∈ whole, c.isDigit = true) :
    ∃ d v, sign ++ whole ++ tail = d :: v ∧ (isNumeric d = true ∨ d = '-') := by
  obtain rfl | rfl := hsign
  · obtain ⟨c, cs, rfl⟩ := List.exists_cons_of_ne_nil hne
    refine ⟨c, cs ++ tail, rfl, Or.inl ?_⟩
    rw [isNumeric, hwhole c List.mem_cons_self, Bool.true_or]
  · exact ⟨'-', whole ++ tail, rfl, Or.inr rfl⟩

theorem fieldValue_integer {i : Int} (hlo : -2 ^ 63 ≤ i) (hhi : i < 2 ^ 63) :
    fieldValue ((formatInteger i).toList ++ ['i']) = .ok (some (.integer (Int64.ofInt i))) := by
  obtain ⟨sign, hsign, htext⟩ := formatInteger_eq i
  obtain ⟨d, v, hcons, hstart⟩ := numberStart ['i'] hsign Nat.toDigits_ne_nil
    fun c hc => isDigit_of_mem_toDigits (n := i.natAbs) hc
  rw [← htext] at hcons
  rw [hcons, fieldValue_number hstart, ← hcons, if_pos (by simp), List.dropLast_concat,
    parseIntBytes_formatInteger hlo hhi]

theorem fieldValue_float {text : Text} {q : ℚ} (h : FloatText text q) :
    fieldValue text = .ok (some (.float q)) := by
  obtain ⟨sign, whole, tail, rfl, hsign, hne, hwhole, htail⟩ := h.shape
  have hletter : ∀ c ∈ sign ++ whole ++ tail, c ≠ 'i' ∧ c ≠ 'u' := by
    intro c hc
    rw [List.mem_append, List.mem_append] at hc
    obtain (hmem | hmem) | hmem := hc
    · obtain rfl | rfl := hsign
      · cases hmem
      · rw [List.mem_singleton.mp hmem]
        decide
    · exact ⟨isDigit_ne (hwhole c hmem) rfl, isDigit_ne (hwhole c hmem) rfl⟩
    · obtain rfl | ⟨ds, rfl, hds⟩ := htail
      · cases hmem
      · obtain rfl | hmem := List.mem_cons.mp hmem
        · decide
        · exact ⟨isDigit_ne (hds c hmem) rfl, isDigit_ne (hds c hmem) rfl⟩
  obtain ⟨d, v, hcons, hstart⟩ := numberStart tail hsign hne hwhole
  have hvalue := h.value
  rw [hcons] at hletter hvalue ⊢
  have hi : (d :: v).getLast? ≠ some 'i' := fun hlast =>
    (hletter 'i' (List.mem_of_getLast? hlast)).1 rfl
  have hu : (d :: v).getLast? ≠ some 'u' := fun hlast =>
    (hletter 'u' (List.mem_of_getLast? hlast)).2 rfl
  rw [fieldValue_number hstart, if_neg hi, if_neg hu, hvalue]

theorem fieldValue_bool (b : Bool) :
    fieldValue (if b then "true" else "false").toList = .ok (some (.boolean b)) := by
  cases b with
  | true => decide
  | false => decide

theorem fieldValue_appendValue {appendFloat : ℚ → Text} {v : Interface}
    (h : Sendable appendFloat v) :
    fieldValue (appendValue appendFloat v) = .ok v.fieldValue := by
  have hint : ∀ n : Int64, fieldValue ((formatInt n).toList ++ ['i']) =
      .ok (some (.integer n)) := by
    intro n
    rw [formatInt, fieldValue_integer n.le_toInt n.toInt_lt, Int64.ofInt_toInt]
  have hstring : ∀ s : String, fieldValue ('"' :: escapeStringField s.toList ++ ['"']) =
      .ok (some (.string s)) := by
    intro s
    rw [fieldValue_quoted, String.ofList_toList]
  cases v with
  | null => exact absurd rfl h.1
  | bool b => exact fieldValue_bool b
  | string s => exact hstring s
  | number text => exact hstring text
  | int n => exact hint n
  | int64 n => exact hint n
  | uint32 n =>
      have hlt := n.toNat_lt
      exact fieldValue_integer (by omega) (by omega)
  | float64 q => exact fieldValue_float (h.2 q rfl)
  | other printed => exact hstring printed

end MetricCollector.Influx
