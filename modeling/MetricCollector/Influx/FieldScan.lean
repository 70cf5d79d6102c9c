import MetricCollector.Influx.FieldValues
import MetricCollector.Influx.KeyScan

/-!
# The fields of a written point

The fields that `marshalFields` writes are scanned to their end, their names pass the check
of their size, and each of them is read back.

* `scanFields_fieldsText` is the scanner, and `walkFields_fieldsText` the check of the names.
* `fieldIterator_fieldsText` and `unmarshalBinary_fieldsText` are the accessor.
* `marshalFields_eq` says which text is written.
-/

namespace MetricCollector.Influx

open GoLib

/-! ## Steps of the scanner -/

theorem took_took (s t : Text) (r : Except ParseError (FieldScan × Text × Text)) :
    took s (took t r) = took (s ++ t) r := by
  cases r with
  | error e => rfl
  | ok out => simp [took, Except.map]

theorem took_ok (t : Text) (s : FieldScan) (taken rest : Text) :
    took t (.ok (s, taken, rest)) = .ok (s, t ++ taken, rest) := rfl

section Steps

variable (before : Text) {s : FieldScan}

theorem scanFieldsLoop_escape (d : Char) (cs : Text) :
    scanFieldsLoop before s ('\\' :: d :: cs) =
      took ['\\', d] (scanFieldsLoop (d :: '\\' :: before) s cs) := by
  rw [scanFieldsLoop]

/-- A byte that means nothing where it stands. -/
theorem scanFieldsLoop_pass {c : Char} (hback : c ≠ '\\')
    (hquote : c = '"' → ¬s.commas < s.equals)
    (hquoted : c = '=' ∨ c = ',' ∨ c = ' ' → s.quoted = true) (cs : Text) :
    scanFieldsLoop before s (c :: cs) = took [c] (scanFieldsLoop (c :: before) s cs) := by
  have hquote' : ¬(c = '"' ∧ s.commas < s.equals) := fun h => hquote h.1 h.2
  have hequals : ¬(c = '=' ∧ (!s.quoted) = true) := by
    intro h
    rw [hquoted (Or.inl h.1)] at h
    exact Bool.false_ne_true h.2
  have hblank : ¬(c = ' ' ∧ (!s.quoted) = true) := by
    intro h
    rw [hquoted (Or.inr (Or.inr h.1))] at h
    exact Bool.false_ne_true h.2
  have hcomma : ¬(c = ',' ∧ (!s.quoted) = true) := by
    intro h
    rw [hquoted (Or.inr (Or.inl h.1))] at h
    exact Bool.false_ne_true h.2
  rw [scanFieldsLoop, if_neg hquote', if_neg hequals, if_neg hblank]
  · dsimp only
    rw [if_neg hcomma]
  · intro d cs' h
    exact absurd h hback

theorem scanFieldsLoop_comma (hquoted : s.quoted = false) (cs : Text) :
    scanFieldsLoop before s (',' :: cs) =
      took [','] (scanFieldsLoop (',' :: before) { s with commas := s.commas + 1 } cs) := by
  rw [scanFieldsLoop, if_neg (by simp), if_neg (by simp), if_neg (by simp)]
  · dsimp only
    rw [if_pos (by simp [hquoted])]
  · simp

theorem scanFieldsLoop_quote (hvalue : s.commas < s.equals) (cs : Text) :
    scanFieldsLoop before s ('"' :: cs) =
      took ['"'] (scanFieldsLoop ('"' :: before) { s with quoted := !s.quoted } cs) := by
  rw [scanFieldsLoop, if_pos ⟨rfl, hvalue⟩]
  simp

theorem scanFieldsLoop_blank (hquoted : s.quoted = false) (cs : Text) :
    scanFieldsLoop before s (' ' :: cs) = .ok (s, [], ' ' :: cs) := by
  rw [scanFieldsLoop, if_neg (by simp), if_neg (by simp), if_pos (by simp [hquoted])]
  simp

end Steps

/-! ## A name -/

/-- What lies before an equals sign when there is a name: no comma and no blank, unless it
is escaped. -/
def Guarded (before : Text) : Prop :=
  before.head? = some ' ' ∨ before.head? = some ',' → before.tail.head? = some '\\'

theorem scanFieldsLoop_name {s : FieldScan} (hname : s.equals ≤ s.commas) {k : Text}
    (hk : '\\' ∉ k) (before : Text) (hguard : k = [] → Guarded before) (rest : Text) :
    ∃ before', Guarded before' ∧
      scanFieldsLoop before s (escapeString k ++ rest) =
        took (escapeString k) (scanFieldsLoop before' s rest) := by
  unfold escapeString
  induction k generalizing before with
  | nil =>
      refine ⟨before, hguard rfl, ?_⟩
      rw [Escape.escape_nil, List.nil_append]
      cases scanFieldsLoop before s rest <;> rfl
  | cons x k ih =>
      have hk' : '\\' ∉ k := fun h => hk (List.mem_cons_of_mem x h)
      by_cases hx : x ∈ escapeChars
      · have hguard' : Guarded (x :: '\\' :: before) := fun _ => rfl
        obtain ⟨before', hbefore', hscan⟩ := ih hk' _ (fun _ => hguard')
        refine ⟨before', hbefore', ?_⟩
        rw [Escape.escape_cons_of_mem hx, List.cons_append, List.cons_append,
          scanFieldsLoop_escape, hscan, took_took]
        rfl
      · have hguard' : Guarded (x :: before) := by
          rintro (h | h)
          · cases h
            exact absurd (by decide) hx
          · cases h
            exact absurd (by decide) hx
        have hback : x ≠ '\\' := fun h => hk (h ▸ List.mem_cons_self)
        obtain ⟨before', hbefore', hscan⟩ := ih hk' _ (fun _ => hguard')
        refine ⟨before', hbefore', ?_⟩
        rw [Escape.escape_cons_of_not_mem hx, List.cons_append,
          scanFieldsLoop_pass before hback (fun _ => Nat.not_lt.mpr hname), hscan, took_took]
        · rfl
        · rintro (rfl | rfl | rfl)
          all_goals exact absurd (by decide) hx

/-! ## A value -/

theorem Guarded.not_missing {before : Text} (h : Guarded before) :
    ¬((before.head? = some ' ' ∨ before.head? = some ',') ∧ before.tail.head? ≠ some '\\') :=
  fun hmissing => hmissing.2 (h hmissing.1)

theorem scanFieldsLoop_number {before : Text} {s : FieldScan} (hguard : Guarded before)
    (hquoted : s.quoted = false) {d : Char} {v rest : Text} (hd : d ≠ ',' ∧ d ≠ ' ')
    (hstart : isNumeric d = true ∨ d = '-')
    (hscan : scanNumber (d :: v ++ rest) = .ok (d :: v).length) :
    ∃ before', scanFieldsLoop before s ('=' :: (d :: v ++ rest)) =
      took ('=' :: d :: v) (scanFieldsLoop before' { s with equals := s.equals + 1 } rest) := by
  have hdelim : ¬(d = ',' ∨ d = ' ') := fun h => h.elim hd.1 hd.2
  have hstart' : isNumeric d = true ∨ d = '-' ∨ d = 'N' ∨ d = 'n' :=
    hstart.imp_right Or.inl
  refine ⟨(d :: v).reverse ++ '=' :: before, ?_⟩
  rw [List.cons_append] at hscan ⊢
  rw [scanFieldsLoop, if_neg (by simp), if_pos (by simp [hquoted])]
  · dsimp only
    rw [if_neg hguard.not_missing, if_neg hdelim, if_pos hstart', hscan]
    dsimp only
    rw [← List.cons_append, List.take_left, List.drop_left]
  · simp

theorem scanFieldsLoop_boolean {before : Text} {s : FieldScan} (hguard : Guarded before)
    (hquoted : s.quoted = false) {d : Char} {v rest : Text} (hstart : d = 't' ∨ d = 'f')
    (hscan : scanBoolean d (v ++ rest) = .ok (d :: v).length) :
    ∃ before', scanFieldsLoop before s ('=' :: (d :: v ++ rest)) =
      took ('=' :: d :: v) (scanFieldsLoop before' { s with equals := s.equals + 1 } rest) := by
  have hdelim : ¬(d = ',' ∨ d = ' ') := by
    obtain rfl | rfl := hstart
    · decide
    · decide
  have hnumber : ¬(isNumeric d = true ∨ d = '-' ∨ d = 'N' ∨ d = 'n') := by
    obtain rfl | rfl := hstart
    · decide
    · decide
  have hquote : d ≠ '"' := by
    obtain rfl | rfl := hstart
    · decide
    · decide
  refine ⟨(d :: v).reverse ++ '=' :: before, ?_⟩
  rw [List.cons_append, scanFieldsLoop, if_neg (by simp), if_pos (by simp [hquoted])]
  · dsimp only
    rw [if_neg hguard.not_missing, if_neg hdelim, if_neg hnumber, if_pos hquote, hscan]
    dsimp only
    rw [← List.cons_append, List.take_left, List.drop_left]
  · simp

/-- The inside of a string. -/
theorem scanFieldsLoop_inside {s : FieldScan} (hquoted : s.quoted = true) (t : Text)
    (before rest : Text) :
    ∃ before', scanFieldsLoop before s (escapeStringField t ++ rest) =
      took (escapeStringField t) (scanFieldsLoop before' s rest) := by
  unfold escapeStringField
  induction t generalizing before with
  | nil =>
      refine ⟨before, ?_⟩
      rw [Escape.escape_nil, List.nil_append]
      cases scanFieldsLoop before s rest <;> rfl
  | cons x t ih =>
      by_cases hx : x ∈ stringFieldCodes
      · obtain ⟨before', hscan⟩ := ih (x :: '\\' :: before)
        refine ⟨before', ?_⟩
        rw [Escape.escape_cons_of_mem hx, List.cons_append, List.cons_append,
          scanFieldsLoop_escape, hscan, took_took]
        rfl
      · have hback : x ≠ '\\' := by
          rintro rfl
          exact hx (by decide)
        have hquote : x ≠ '"' := by
          rintro rfl
          exact hx (by decide)
        obtain ⟨before', hscan⟩ := ih (x :: before)
        refine ⟨before', ?_⟩
        rw [Escape.escape_cons_of_not_mem hx, List.cons_append,
          scanFieldsLoop_pass before hback (fun h => absurd h hquote) (fun _ => hquoted), hscan,
          took_took]
        rfl

theorem scanFieldsLoop_string {before : Text} {s : FieldScan} (hguard : Guarded before)
    (hquoted : s.quoted = false) (hvalue : s.commas ≤ s.equals) (t rest : Text) :
    ∃ before', scanFieldsLoop before s ('=' :: ('"' :: escapeStringField t ++ ['"'] ++ rest)) =
      took ('=' :: '"' :: escapeStringField t ++ ['"'])
        (scanFieldsLoop before' { s with equals := s.equals + 1 } rest) := by
  have hopen : s.commas < s.equals + 1 := Nat.lt_succ_of_le hvalue
  obtain ⟨before', hinside⟩ := scanFieldsLoop_inside
    (s := { s with equals := s.equals + 1, quoted := !s.quoted }) (by simp [hquoted]) t
    ('"' :: '=' :: before) ('"' :: rest)
  refine ⟨'"' :: before', ?_⟩
  have htext : '"' :: escapeStringField t ++ ['"'] ++ rest =
      '"' :: (escapeStringField t ++ '"' :: rest) := by simp
  have hclosed : (!!s.quoted) = s.quoted := Bool.not_not s.quoted
  rw [htext, scanFieldsLoop, if_neg (by simp), if_pos (by simp [hquoted])]
  · dsimp only
    rw [if_neg hguard.not_missing, if_neg (by decide), if_neg (by decide), if_neg (by decide),
      scanFieldsLoop_quote _ hopen, hinside, scanFieldsLoop_quote _ hopen]
    simp only [took_took, hclosed]
    simp
  · simp

theorem scanFieldsLoop_value {before : Text} {s : FieldScan} (hguard : Guarded before)
    (hquoted : s.quoted = false) (hvalue : s.commas ≤ s.equals) {v rest : Text}
    (hv : ValueText v) (hrest : Ends rest) :
    ∃ before', scanFieldsLoop before s ('=' :: (v ++ rest)) =
      took ('=' :: v) (scanFieldsLoop before' { s with equals := s.equals + 1 } rest) := by
  cases hv with
  | @number d v hbare hstart hscan =>
      have hd := hbare d List.mem_cons_self
      refine scanFieldsLoop_number hguard hquoted ⟨?_, ?_⟩ hstart (hscan rest hrest)
      · rintro rfl
        exact hd (by decide)
      · rintro rfl
        exact hd (by decide)
  | boolean hbare hstart hscan =>
      exact scanFieldsLoop_boolean hguard hquoted hstart (hscan rest hrest)
  | string t => exact scanFieldsLoop_string hguard hquoted hvalue t rest

/-! ## All fields -/

/-- A field that can be written: its name, and the text of its value. -/
structure WritableField (f : Text × Text) : Prop where
  ne_nil : f.1 ≠ []
  plain : Plain f.1
  head : ∀ c, f.1.head? = some c → c ≠ '\t' ∧ c ≠ '\x00'
  value : ValueText f.2

/-- The fields as they are written, with a comma in front of each. -/
def fieldsText (fs : List (Text × Text)) : Text :=
  fs.flatMap fun f => ',' :: escapeString f.1 ++ '=' :: f.2

theorem fieldsText_cons (f : Text × Text) (fs : List (Text × Text)) :
    fieldsText (f :: fs) = ',' :: (escapeString f.1 ++ '=' :: (f.2 ++ fieldsText fs)) := by
  simp [fieldsText]

theorem head_fieldsText (fs : List (Text × Text)) : ∀ d t, fieldsText fs = d :: t → d = ',' := by
  intro d t h
  cases fs with
  | nil => cases h
  | cons f fs =>
      rw [fieldsText_cons] at h
      exact (List.cons.inj h).1.symm

theorem scanFieldsLoop_fields {f : Text × Text} {fs : List (Text × Text)}
    (hfs : ∀ g ∈ f :: fs, WritableField g) {s : FieldScan} (hquoted : s.quoted = false)
    (hname : s.equals = s.commas) {rest : Text} (hrest : ∀ d t, rest = d :: t → d = ' ')
    (before : Text) :
    scanFieldsLoop before s ((fieldsText (f :: fs)).tail ++ rest) =
      .ok ({ s with equals := s.equals + fs.length + 1, commas := s.commas + fs.length },
        (fieldsText (f :: fs)).tail, rest) := by
  induction fs generalizing f s before with
  | nil =>
      have hf := hfs f List.mem_cons_self
      have hends : Ends rest := fun d t h => Or.inr (hrest d t h)
      obtain ⟨before', hguard, hnamed⟩ := scanFieldsLoop_name (Nat.le_of_eq hname) hf.plain.1
        before (fun h => absurd h hf.ne_nil) ('=' :: (f.2 ++ rest))
      obtain ⟨before'', hvalue⟩ :=
        scanFieldsLoop_value hguard hquoted (Nat.le_of_eq hname.symm) hf.value hends
      have htext : (fieldsText [f]).tail ++ rest = escapeString f.1 ++ '=' :: (f.2 ++ rest) := by
        simp [fieldsText]
      have hend : ∀ s' : FieldScan, s'.quoted = false →
          scanFieldsLoop before'' s' rest = .ok (s', [], rest) := by
        intro s' hs'
        cases rest with
        | nil => rw [scanFieldsLoop]
        | cons d t =>
            obtain rfl := hrest d t rfl
            exact scanFieldsLoop_blank _ hs' t
      rw [htext, hnamed, hvalue, hend]
      · simp [took_ok, fieldsText]
      · exact hquoted
  | cons g fs ih =>
      have hf := hfs f List.mem_cons_self
      have hmore : ∃ more, fieldsText (g :: fs) ++ rest = ',' :: more ∧
          (fieldsText (g :: fs)).tail ++ rest = more := by
        rw [fieldsText_cons]
        exact ⟨_, rfl, rfl⟩
      obtain ⟨more, hcomma, htail⟩ := hmore
      have hends : Ends (fieldsText (g :: fs) ++ rest) := by
        rw [hcomma]
        exact ends_cons (Or.inl rfl) more
      obtain ⟨before', hguard, hnamed⟩ := scanFieldsLoop_name (Nat.le_of_eq hname) hf.plain.1
        before (fun h => absurd h hf.ne_nil) ('=' :: (f.2 ++ (fieldsText (g :: fs) ++ rest)))
      obtain ⟨before'', hvalue⟩ :=
        scanFieldsLoop_value hguard hquoted (Nat.le_of_eq hname.symm) hf.value hends
      have htext : (fieldsText (f :: g :: fs)).tail ++ rest =
          escapeString f.1 ++ '=' :: (f.2 ++ (fieldsText (g :: fs) ++ rest)) := by
        rw [fieldsText_cons]
        simp
      have hloop := ih (f := g) (fun u hu => hfs u (List.mem_cons_of_mem f hu))
        (s := { s with equals := s.equals + 1, commas := s.commas + 1 }) hquoted
        (congrArg (· + 1) hname) (',' :: before'')
      rw [htext, hnamed, hvalue, hcomma, scanFieldsLoop_comma, ← htail, hloop]
      · simp only [took_ok, List.length_cons]
        rw [fieldsText_cons f, fieldsText_cons g]
        simp
        omega
      · exact hquoted

theorem WritableField.head_escapeString {f : Text × Text} (h : WritableField f) :
    ∃ c cs, escapeString f.1 = c :: cs ∧ c ≠ ' ' ∧ c ≠ '\t' ∧ c ≠ '\x00' := by
  obtain ⟨x, s, hcons⟩ := List.exists_cons_of_ne_nil h.ne_nil
  have hhead : f.1.head? = some x := by rw [hcons]; rfl
  obtain ⟨htab, hzero⟩ := h.head x hhead
  unfold escapeString
  rw [hcons]
  by_cases hx : x ∈ escapeChars
  · rw [Escape.escape_cons_of_mem hx]
    exact ⟨'\\', _, rfl, by decide, by decide, by decide⟩
  · rw [Escape.escape_cons_of_not_mem hx]
    refine ⟨x, _, rfl, ?_, htab, hzero⟩
    rintro rfl
    exact hx (by decide)

theorem scanFields_fieldsText {f : Text × Text} {fs : List (Text × Text)}
    (hfs : ∀ g ∈ f :: fs, WritableField g) {rest : Text}
    (hrest : ∀ d t, rest = d :: t → d = ' ') (passed : Text) :
    scanFields passed (' ' :: ((fieldsText (f :: fs)).tail ++ rest)) =
      .ok ((fieldsText (f :: fs)).tail, rest) := by
  obtain ⟨c, cs, hcons, hblank, htab, hzero⟩ :=
    (hfs f List.mem_cons_self).head_escapeString
  have hstart : skipWhitespace (' ' :: ((fieldsText (f :: fs)).tail ++ rest)) =
      (fieldsText (f :: fs)).tail ++ rest := by
    have hskip : ∀ buf, skipWhitespace (' ' :: buf) = skipWhitespace buf := fun _ => rfl
    rw [hskip, fieldsText_cons, List.tail_cons, hcons]
    exact skipWhitespace_cons hblank htab hzero _
  unfold scanFields
  rw [hstart]
  dsimp only
  rw [scanFieldsLoop_fields hfs rfl rfl hrest]
  simp only [bind, Except.bind, Nat.zero_add]
  rw [if_neg (by simp), if_neg (by simp)]
  rfl

/-! ## Field by field -/

section Value

variable {rest : Text}

/-- A byte that neither starts an escape nor ends the value. -/
theorem scanFieldValue_pass {quoted : Bool} {c : Char} (hback : c ≠ '\\') (hquote : c ≠ '"')
    (hcomma : c = ',' → quoted = true) (cs : Text) :
    scanFieldValue quoted (c :: cs) =
      (c :: (scanFieldValue quoted cs).1, (scanFieldValue quoted cs).2) := by
  have hcomma' : ¬(c = ',' ∧ (!quoted) = true) := by
    intro h
    rw [hcomma h.1] at h
    exact Bool.false_ne_true h.2
  rw [scanFieldValue, if_neg hquote, if_neg hcomma']
  · intro cs' h
    exact absurd h hback
  · intro cs' h
    exact absurd h hback

theorem scanFieldValue_quote (quoted : Bool) (cs : Text) :
    scanFieldValue quoted ('"' :: cs) =
      ('"' :: (scanFieldValue (!quoted) cs).1, (scanFieldValue (!quoted) cs).2) := by
  rw [scanFieldValue, if_pos rfl]
  · simp
  · simp

theorem scanFieldValue_end (hrest : ∀ d t, rest = d :: t → d = ',') :
    scanFieldValue false rest = ([], rest) := by
  cases rest with
  | nil => rfl
  | cons d t =>
      obtain rfl := hrest d t rfl
      rw [scanFieldValue, if_neg (by decide), if_pos (by decide)]
      · simp
      · simp

theorem scanFieldValue_bare {v : Text} (hv : ∀ c ∈ v, c ∉ reserved)
    (hrest : ∀ d t, rest = d :: t → d = ',') : scanFieldValue false (v ++ rest) = (v, rest) := by
  induction v with
  | nil => exact scanFieldValue_end hrest
  | cons c v ih =>
      have hc := hv c List.mem_cons_self
      have hne : ∀ d ∈ reserved, c ≠ d := fun d hd h => hc (h ▸ hd)
      rw [List.cons_append, scanFieldValue_pass (hne '\\' (by decide)) (hne '"' (by decide))
        (fun h => absurd h (hne ',' (by decide))), ih fun d hd => hv d (List.mem_cons_of_mem c hd)]

theorem scanFieldValue_inside (t rest : Text) :
    scanFieldValue true (escapeStringField t ++ rest) =
      (escapeStringField t ++ (scanFieldValue true rest).1, (scanFieldValue true rest).2) := by
  unfold escapeStringField
  induction t with
  | nil => rfl
  | cons x t ih =>
      by_cases hx : x ∈ stringFieldCodes
      · have hcases : x = '"' ∨ x = '\\' := by simpa [stringFieldCodes] using hx
        rw [Escape.escape_cons_of_mem hx, List.cons_append, List.cons_append]
        obtain rfl | rfl := hcases
        · rw [scanFieldValue, ih]
          rfl
        · rw [scanFieldValue, ih]
          rfl
      · have hback : x ≠ '\\' := by
          rintro rfl
          exact hx (by decide)
        have hquote : x ≠ '"' := by
          rintro rfl
          exact hx (by decide)
        rw [Escape.escape_cons_of_not_mem hx, List.cons_append,
          scanFieldValue_pass hback hquote (fun _ => rfl), ih]
        rfl

theorem scanFieldValue_valueText {v : Text} (hv : ValueText v)
    (hrest : ∀ d t, rest = d :: t → d = ',') : scanFieldValue false (v ++ rest) = (v, rest) := by
  cases hv with
  | number hbare hstart hscan => exact scanFieldValue_bare hbare hrest
  | boolean hbare hstart hscan => exact scanFieldValue_bare hbare hrest
  | string t =>
      have htext : '"' :: escapeStringField t ++ ['"'] ++ rest =
          '"' :: (escapeStringField t ++ '"' :: rest) := by simp
      rw [htext, scanFieldValue_quote, Bool.not_false, scanFieldValue_inside, scanFieldValue_quote,
        Bool.not_true, scanFieldValue_end hrest]
      rfl

end Value

theorem ValueText.ne_nil {v : Text} (h : ValueText v) : v ≠ [] := by
  cases h with
  | number => exact List.cons_ne_nil _ _
  | boolean => exact List.cons_ne_nil _ _
  | string => exact List.cons_ne_nil _ _

section Fields

variable {f : Text × Text} {fs : List (Text × Text)}

theorem scanTo_name (hf : WritableField f) (rest : Text) :
    Escape.scanTo '\\' (· = '=') none (escapeString f.1 ++ '=' :: rest) =
      (escapeString f.1, '=' :: rest) := by
  refine Escape.scanTo_escape ?_ (by decide) hf.plain.1 (by decide) ?_
  · intro x hx
    rw [of_decide_eq_true hx]
    decide
  · intro d t h
    exact decide_eq_true (List.cons.inj h).1.symm

theorem nextField_fieldsText (hf : WritableField f) :
    nextField (fieldsText (f :: fs)).tail = (escapeString f.1, f.2, fieldsText fs) := by
  rw [fieldsText_cons, List.tail_cons, nextField, scanTo_name hf]
  dsimp only [List.tail_cons]
  rw [scanFieldValue_valueText hf.value (head_fieldsText fs)]

theorem tail_fieldsText_ne_nil : (fieldsText (f :: fs)).tail ≠ [] := by
  rw [fieldsText_cons, List.tail_cons]
  simp

/-- Every name is checked, and the scan comes to the end. -/
theorem walkFields_fieldsText {fn : Text → Except ParseError Unit}
    (hfs : ∀ f ∈ fs, WritableField f) (hfn : ∀ f ∈ fs, fn (escapeString f.1) = .ok ()) :
    walkFields fn (fieldsText fs).tail = .ok () := by
  induction fs with
  | nil => exact walkFields_nil fn
  | cons f fs ih =>
      have hf := hfs f List.mem_cons_self
      have hlong :
          ¬(Escape.scanTo '\\' (· = '=') none (fieldsText (f :: fs)).tail).2.length < 2 := by
        have hvalue := List.length_pos_of_ne_nil hf.value.ne_nil
        rw [fieldsText_cons, List.tail_cons, scanTo_name hf]
        simp only [List.length_cons, List.length_append]
        omega
      rw [walkFields_of_ne_nil fn tail_fieldsText_ne_nil, if_neg hlong, nextField_fieldsText hf,
        hfn f List.mem_cons_self]
      exact ih (fun g hg => hfs g (List.mem_cons_of_mem f hg))
        fun g hg => hfn g (List.mem_cons_of_mem f hg)

theorem fieldIterator_fieldsText (hfs : ∀ f ∈ fs, WritableField f) :
    fieldIterator (fieldsText fs).tail = fs := by
  induction fs with
  | nil => exact fieldIterator_nil
  | cons f fs ih =>
      have hf := hfs f List.mem_cons_self
      rw [fieldIterator_of_ne_nil tail_fieldsText_ne_nil, nextField_fieldsText hf,
        unescapeString_escapeString, ih fun g hg => hfs g (List.mem_cons_of_mem f hg)]

end Fields

/-! ## The fields that are written -/

/-- Fields with distinct plain names and values that have a text. -/
structure SendableFields (appendFloat : ℚ → Text) (fields : List (String × Interface)) : Prop where
  ne_nil : fields ≠ []
  nodup : (fields.map Prod.fst).Nodup
  key_ne_empty : ∀ f ∈ fields, f.1 ≠ ""
  key_plain : ∀ f ∈ fields, Plain f.1.toList
  key_head : ∀ f ∈ fields, ∀ c, f.1.toList.head? = some c → c ≠ '\t' ∧ c ≠ '\x00'
  value : ∀ f ∈ fields, Sendable appendFloat f.2

/-- The texts of the fields, in the order of their names. -/
def fieldTexts (appendFloat : ℚ → Text) (fields : List (String × Interface)) : List (Text × Text) :=
  (Columns.sorted fields).map fun f => (f.1.toList, appendValue appendFloat f.2)

/-- The fields as they are read back, in the order of their names. -/
def sentFields (fields : List (String × Interface)) : List (String × FieldValue) :=
  (Columns.sorted fields).filterMap fun f => f.2.fieldValue.map fun v => (f.1, v)

theorem intercalate_eq_tail (sep : Char) (parts : List Text) :
    List.intercalate [sep] parts = (parts.flatMap fun part => sep :: part).tail := by
  induction parts with
  | nil => rfl
  | cons part parts ih =>
      cases parts with
      | nil => simp
      | cons part' parts =>
          rw [List.intercalate_cons_cons, ih, List.flatMap_cons, List.flatMap_cons]
          simp

theorem marshalFields_eq (appendFloat : ℚ → Text) (fields : List (String × Interface)) :
    marshalFields appendFloat fields = (fieldsText (fieldTexts appendFloat fields)).tail := by
  rw [marshalFields, Columns.map_sortedKeys fields (appendField appendFloat), intercalate_eq_tail,
    List.flatMap_map, fieldsText, fieldTexts, List.flatMap_map]
  rfl

section Sendable

variable {appendFloat : ℚ → Text} {fields : List (String × Interface)}

theorem SendableFields.mem_sorted (h : SendableFields appendFloat fields)
    {f : String × Interface} (hf : f ∈ Columns.sorted fields) : f ∈ fields :=
  (Columns.sorted_perm h.nodup).mem_iff.mp hf

theorem writableField_fieldTexts (h : SendableFields appendFloat fields) :
    ∀ f ∈ fieldTexts appendFloat fields, WritableField f := by
  intro f hf
  obtain ⟨g, hg, rfl⟩ := List.mem_map.mp hf
  have hmem := h.mem_sorted hg
  constructor
  · simpa using h.key_ne_empty g hmem
  · exact h.key_plain g hmem
  · exact h.key_head g hmem
  · exact valueText_appendValue (h.value g hmem)

theorem Sendable.exists_fieldValue {v : Interface} (h : Sendable appendFloat v) :
    ∃ x, v.fieldValue = some x := by
  cases v with
  | null => exact absurd rfl h.1
  | _ => exact ⟨_, rfl⟩

/-- Each field is a new entry of the map. -/
theorem foldlM_unmarshalField {acc : List (String × FieldValue)} {fs : List (String × Interface)}
    (hnodup : (acc.map Prod.fst ++ fs.map Prod.fst).Nodup) (hkey : ∀ f ∈ fs, f.1 ≠ "")
    (hvalue : ∀ f ∈ fs, Sendable appendFloat f.2) :
    (fs.map fun f => (f.1.toList, appendValue appendFloat f.2)).foldlM unmarshalField acc =
      .ok (acc ++ fs.filterMap fun f => f.2.fieldValue.map fun v => (f.1, v)) := by
  induction fs generalizing acc with
  | nil =>
      rw [List.filterMap_nil, List.append_nil]
      rfl
  | cons f fs ih =>
      have hf := hvalue f List.mem_cons_self
      obtain ⟨x, hx⟩ := hf.exists_fieldValue
      have hempty : f.1.toList ≠ [] := by simpa using hkey f List.mem_cons_self
      have hnew : f.1 ∉ acc.map Prod.fst := fun hmem =>
        (List.nodup_append.mp hnodup).2.2 f.1 hmem f.1 List.mem_cons_self rfl
      have hturn : unmarshalField acc (f.1.toList, appendValue appendFloat f.2) =
          .ok (acc ++ [(f.1, x)]) := by
        rw [unmarshalField, if_neg hempty, fieldValue_appendValue hf, hx]
        simp only [bind, Except.bind, String.ofList_toList, setField, if_neg hnew]
        rfl
      have hnodup' : ((acc ++ [(f.1, x)]).map Prod.fst ++ fs.map Prod.fst).Nodup := by
        rw [List.map_cons] at hnodup
        rw [List.map_append, List.map_singleton, List.append_assoc, List.singleton_append]
        exact hnodup
      rw [List.map_cons, List.foldlM_cons, hturn]
      refine (ih hnodup' (fun g hg => hkey g (List.mem_cons_of_mem f hg))
        fun g hg => hvalue g (List.mem_cons_of_mem f hg)).trans ?_
      rw [List.filterMap_cons_some (b := (f.1, x)) (by rw [hx]; rfl), List.append_assoc]
      rfl

theorem unmarshalBinary_marshalFields (h : SendableFields appendFloat fields) (key : Text)
    (time : Int64) :
    (Parsed.mk key (marshalFields appendFloat fields) time).unmarshalBinary =
      .ok (sentFields fields) := by
  have hnodup : ((Columns.sorted fields).map Prod.fst).Nodup :=
    ((Columns.sorted_perm h.nodup).map Prod.fst).nodup_iff.mpr h.nodup
  rw [marshalFields_eq, Parsed.unmarshalBinary,
    fieldIterator_fieldsText (writableField_fieldTexts h)]
  exact foldlM_unmarshalField (by simpa using hnodup)
    (fun f hf => h.key_ne_empty f (h.mem_sorted hf)) fun f hf => h.value f (h.mem_sorted hf)

theorem fieldTexts_ne_nil (h : SendableFields appendFloat fields) :
    fieldTexts appendFloat fields ≠ [] := by
  intro hnil
  have hsorted : Columns.sorted fields = [] := List.map_eq_nil_iff.mp hnil
  have hperm := Columns.sorted_perm h.nodup
  rw [hsorted] at hperm
  exact h.ne_nil hperm.nil_eq.symm

end Sendable

end MetricCollector.Influx
