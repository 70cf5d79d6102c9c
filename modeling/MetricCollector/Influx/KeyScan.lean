import MetricCollector.Influx.ParsePoints

/-!
# The key of a written point

A key that `makeKey` writes is scanned to its end, and is read back into the name and the
tags that it was made of.

* `scanKey_joinKey` is the scanner.
* `name_joinKey` and `tags_joinKey` are the accessors.
* `makeKey_eq` says which key is written, and `byteLength_makeKey` how long it is.
* `makeKey_eq_iff`: the key of a point is that of no other series.
-/

namespace MetricCollector.Influx

open GoLib

/-! ## The scanner -/

section Scan

variable {name key value rest : Text}

/-- An escaped text that is not empty starts with no code. -/
theorem exists_escape_cons (codes : List Char) (hcodes : '\\' ∉ codes) {s : Text} (hne : s ≠ []) :
    ∃ c cs, Escape.escape '\\' codes s = c :: cs ∧ c ∉ codes := by
  have hescape : Escape.escape '\\' codes s ≠ [] := Escape.escape_ne_nil hne
  obtain ⟨c, cs, hcons⟩ := List.exists_cons_of_ne_nil hescape
  exact ⟨c, cs, hcons, Escape.head_escape_not_mem hcodes hcons⟩

theorem scanMeasurement_cons {c : Char} (hc : c ≠ ',') (cs : Text) :
    scanMeasurement (c :: cs) =
      match Escape.scanTo '\\' (fun d => d = ',' || d = ' ') (some c) cs with
      | (_, []) => .error .missingFields
      | (name, ',' :: rest) => .ok (c :: name, .tagKeyState, rest)
      | (name, rest) => .ok (c :: name, .fieldsState, rest) := by
  rewrite [scanMeasurement]
  · rfl
  · exact hc

/-- A measurement with tags. -/
theorem scanMeasurement_comma (hne : name ≠ []) (hname : '\\' ∉ name) :
    scanMeasurement (escapeMeasurement name ++ ',' :: rest) =
      .ok (escapeMeasurement name, .tagKeyState, rest) := by
  rw [escapeMeasurement_eq]
  obtain ⟨c, cs, hcons, hc⟩ := exists_escape_cons measurementEscapeCodes (by decide) hne
  have hcomma : c ≠ ',' := by
    rintro rfl
    exact hc (by decide)
  rw [hcons, List.cons_append, scanMeasurement_cons hcomma,
    Escape.scanTo_escape_tail (by simp [measurementEscapeCodes]) (by decide) hname hcons rfl]
  rfl

/-- And one without. -/
theorem scanMeasurement_blank (hne : name ≠ []) (hname : '\\' ∉ name) :
    scanMeasurement (escapeMeasurement name ++ ' ' :: rest) =
      .ok (escapeMeasurement name, .fieldsState, ' ' :: rest) := by
  rw [escapeMeasurement_eq]
  obtain ⟨c, cs, hcons, hc⟩ := exists_escape_cons measurementEscapeCodes (by decide) hne
  have hcomma : c ≠ ',' := by
    rintro rfl
    exact hc (by decide)
  rw [hcons, List.cons_append, scanMeasurement_cons hcomma,
    Escape.scanTo_escape_tail (by simp [measurementEscapeCodes]) (by decide) hname hcons rfl]
  rfl

theorem scanTagsKey_escapeTag (hne : key ≠ []) (hkey : '\\' ∉ key) :
    scanTagsKey (escapeTag key ++ '=' :: rest) = .ok (escapeTag key, rest) := by
  rw [escapeTag_eq]
  obtain ⟨c, cs, hcons, hc⟩ := exists_escape_cons tagEscapeCodes (by decide) hne
  have hfirst : ¬(c = ' ' ∨ c = ',' ∨ c = '=') := by
    rintro (rfl | rfl | rfl)
    all_goals exact hc (by decide)
  rw [hcons, List.cons_append, scanTagsKey, if_neg hfirst,
    Escape.scanTo_escape_tail (by simp [tagEscapeCodes, or_assoc]) (by decide) hkey hcons rfl]
  rfl

theorem scanTagsValue_cons {c : Char} (hc : ¬(c = ',' ∨ c = ' ')) (cs : Text) :
    scanTagsValue (c :: cs) =
      match Escape.scanTo '\\' (fun d => d = ',' || d = ' ' || d = '=') (some c) cs with
      | (_, []) => .error .missingFields
      | (_, '=' :: _) => .error .invalidTagFormat
      | (value, ',' :: rest) => .ok (c :: value, .tagKeyState, rest)
      | (value, rest) => .ok (c :: value, .fieldsState, rest) := by
  rewrite [scanTagsValue, if_neg hc]
  rfl

/-- A value with a tag after it. -/
theorem scanTagsValue_comma (hne : value ≠ []) (hvalue : '\\' ∉ value) :
    scanTagsValue (escapeTag value ++ ',' :: rest) =
      .ok (escapeTag value, .tagKeyState, rest) := by
  rw [escapeTag_eq]
  obtain ⟨c, cs, hcons, hc⟩ := exists_escape_cons tagEscapeCodes (by decide) hne
  have hfirst : ¬(c = ',' ∨ c = ' ') := by
    rintro (rfl | rfl)
    all_goals exact hc (by decide)
  rw [hcons, List.cons_append, scanTagsValue_cons hfirst,
    Escape.scanTo_escape_tail (by simp [tagEscapeCodes, or_assoc]) (by decide) hvalue hcons rfl]
  rfl

/-- And the last one. -/
theorem scanTagsValue_blank (hne : value ≠ []) (hvalue : '\\' ∉ value) :
    scanTagsValue (escapeTag value ++ ' ' :: rest) =
      .ok (escapeTag value, .fieldsState, ' ' :: rest) := by
  rw [escapeTag_eq]
  obtain ⟨c, cs, hcons, hc⟩ := exists_escape_cons tagEscapeCodes (by decide) hne
  have hfirst : ¬(c = ',' ∨ c = ' ') := by
    rintro (rfl | rfl)
    all_goals exact hc (by decide)
  rw [hcons, List.cons_append, scanTagsValue_cons hfirst,
    Escape.scanTo_escape_tail (by simp [tagEscapeCodes, or_assoc]) (by decide) hvalue hcons rfl]
  rfl

/-- The turn of the loop for a tag with another one after it. -/
theorem scanTagsLoop_of_comma {buf buf' : Text} (hkey : scanTagsKey buf = .ok (key, buf'))
    (hvalue : scanTagsValue buf' = .ok (value, .tagKeyState, rest)) :
    scanTagsLoop buf = (scanTagsLoop rest).map fun r => ((key, value) :: r.1, r.2) := by
  rw [scanTagsLoop]
  split
  · simp_all
  · rename_i heq
    rw [hkey] at heq
    cases heq
    split
    · simp_all
    · simp_all
    · simp_all

/-- And for the last one. -/
theorem scanTagsLoop_of_blank {buf buf' : Text} (hkey : scanTagsKey buf = .ok (key, buf'))
    (hvalue : scanTagsValue buf' = .ok (value, .fieldsState, rest)) :
    scanTagsLoop buf = .ok ([(key, value)], rest) := by
  rw [scanTagsLoop]
  split
  · simp_all
  · rename_i heq
    rw [hkey] at heq
    cases heq
    split
    · simp_all
    · simp_all
    · simp_all

end Scan

/-! ## Tags that can be written -/

/-- A tag as it is written. -/
def escapePair (t : Text × Text) : Text × Text := (escapeTag t.1, escapeTag t.2)

/-- A text of one line, without the escape symbol. -/
def Plain (s : Text) : Prop := '\\' ∉ s ∧ '\n' ∉ s

instance (s : Text) : Decidable (Plain s) := inferInstanceAs (Decidable (_ ∧ _))

/-- Tags with a value each, in the order of their keys. -/
structure WritableTags (tags : Tags) : Prop where
  key_ne_nil : ∀ t ∈ tags, t.1 ≠ []
  value_ne_nil : ∀ t ∈ tags, t.2 ≠ []
  key_plain : ∀ t ∈ tags, Plain t.1
  value_plain : ∀ t ∈ tags, Plain t.2
  ascend : (tags.map escapePair).Pairwise fun a b => a.1 < b.1

theorem WritableTags.tail {t : Text × Text} {tags : Tags} (h : WritableTags (t :: tags)) :
    WritableTags tags where
  key_ne_nil u hu := h.key_ne_nil u (List.mem_cons_of_mem t hu)
  value_ne_nil u hu := h.value_ne_nil u (List.mem_cons_of_mem t hu)
  key_plain u hu := h.key_plain u (List.mem_cons_of_mem t hu)
  value_plain u hu := h.value_plain u (List.mem_cons_of_mem t hu)
  ascend := (List.pairwise_cons.mp h.ascend).2

/-- The tags of a key as they are written. -/
def tagsText (tags : Tags) : Text := tags.flatMap fun t => ',' :: t.1 ++ '=' :: t.2

theorem tagsText_cons (t : Text × Text) (tags : Tags) :
    tagsText (t :: tags) = ',' :: (t.1 ++ '=' :: (t.2 ++ tagsText tags)) := by
  simp [tagsText]

theorem scanTagsLoop_tagsText {t : Text × Text} {tags : Tags} (h : WritableTags (t :: tags))
    (rest : Text) :
    scanTagsLoop ((tagsText ((t :: tags).map escapePair)).tail ++ ' ' :: rest) =
      .ok ((t :: tags).map escapePair, ' ' :: rest) := by
  induction tags generalizing t with
  | nil =>
      have hkey : scanTagsKey (escapeTag t.1 ++ '=' :: (escapeTag t.2 ++ ' ' :: rest)) = _ :=
        scanTagsKey_escapeTag (h.key_ne_nil t List.mem_cons_self)
          (h.key_plain t List.mem_cons_self).1
      have hvalue : scanTagsValue (escapeTag t.2 ++ ' ' :: rest) = _ :=
        scanTagsValue_blank (h.value_ne_nil t List.mem_cons_self)
          (h.value_plain t List.mem_cons_self).1
      have htext : (tagsText ([t].map escapePair)).tail ++ ' ' :: rest =
          escapeTag t.1 ++ '=' :: (escapeTag t.2 ++ ' ' :: rest) := by
        simp [tagsText, escapePair]
      rw [htext]
      exact scanTagsLoop_of_blank hkey hvalue
  | cons u tags ih =>
      have hkey : scanTagsKey (escapeTag t.1 ++
          '=' :: (escapeTag t.2 ++ tagsText ((u :: tags).map escapePair) ++ ' ' :: rest)) = _ :=
        scanTagsKey_escapeTag (h.key_ne_nil t List.mem_cons_self)
          (h.key_plain t List.mem_cons_self).1
      have hvalue : scanTagsValue (escapeTag t.2 ++
          ',' :: ((tagsText ((u :: tags).map escapePair)).tail ++ ' ' :: rest)) = _ :=
        scanTagsValue_comma (h.value_ne_nil t List.mem_cons_self)
          (h.value_plain t List.mem_cons_self).1
      have htext : (tagsText ((t :: u :: tags).map escapePair)).tail ++ ' ' :: rest =
          escapeTag t.1 ++
            '=' :: (escapeTag t.2 ++ tagsText ((u :: tags).map escapePair) ++ ' ' :: rest) := by
        simp [tagsText, escapePair]
      have hcomma : escapeTag t.2 ++ tagsText ((u :: tags).map escapePair) ++ ' ' :: rest =
          escapeTag t.2 ++ ',' :: ((tagsText ((u :: tags).map escapePair)).tail ++ ' ' :: rest) := by
        simp [tagsText, escapePair]
      rw [htext, scanTagsLoop_of_comma hkey (hcomma ▸ hvalue), ih h.tail]
      rfl

theorem keysAscend_of_pairwise {tags : Tags} (h : tags.Pairwise fun a b => a.1 < b.1) :
    keysAscend tags = .ok true := by
  induction tags with
  | nil => rfl
  | cons left tags ih =>
      obtain ⟨hleft, htags⟩ := List.pairwise_cons.mp h
      cases tags with
      | nil => rfl
      | cons right tags =>
          have hlt : left.1 < right.1 := hleft right List.mem_cons_self
          rw [keysAscend, if_neg (lt_asymm hlt), if_neg (ne_of_lt hlt)]
          exact ih htags

/-- A measurement that can be written, with nothing in front that a parser takes for
something else. -/
structure WritableName (name : Text) : Prop where
  ne_nil : name ≠ []
  plain : Plain name
  head : ∀ c, name.head? = some c → c ≠ '\t' ∧ c ≠ '\x00' ∧ c ≠ '#'

theorem WritableName.head_escapeMeasurement {name : Text} (h : WritableName name) :
    ∃ c cs, escapeMeasurement name = c :: cs ∧ c ≠ ' ' ∧ c ≠ '\t' ∧ c ≠ '\x00' ∧ c ≠ '#' := by
  obtain ⟨x, s, rfl⟩ := List.exists_cons_of_ne_nil h.ne_nil
  obtain ⟨htab, hzero, hcomment⟩ := h.head x rfl
  rw [escapeMeasurement_eq]
  by_cases hx : x ∈ measurementEscapeCodes
  · rw [Escape.escape_cons_of_mem hx]
    exact ⟨'\\', _, rfl, by decide, by decide, by decide, by decide⟩
  · rw [Escape.escape_cons_of_not_mem hx]
    refine ⟨x, _, rfl, ?_, htab, hzero, hcomment⟩
    rintro rfl
    exact hx (by decide)

/-- No white space in front of a text that starts with something else. -/
theorem skipWhitespace_cons {c : Char} (hblank : c ≠ ' ') (htab : c ≠ '\t') (hzero : c ≠ '\x00')
    (cs : Text) : skipWhitespace (c :: cs) = c :: cs := by
  rw [skipWhitespace, List.dropWhile_cons_of_neg]
  simp [hblank, htab, hzero]

theorem tableSize_inv (n : Nat) : n ≤ tableSize n ∧ ∃ k, tableSize n = 100 * 2 ^ k := by
  induction n with
  | zero => exact ⟨Nat.zero_le _, 0, rfl⟩
  | succ n ih =>
      obtain ⟨hle, k, hk⟩ := ih
      by_cases hfull : tableSize n ≤ n
      · have hpos := Nat.two_pow_pos k
        rw [tableSize, if_pos hfull]
        exact ⟨by omega, k + 1, by rw [hk, Nat.pow_succ]; omega⟩
      · rw [tableSize, if_neg hfull]
        exact ⟨Nat.not_le.mp hfull, k, hk⟩

/-- The table of the tags is full when their number is a hundred, or a hundred doubled some
times. -/
theorem lt_tableSize {n : Nat} (h : ∀ k, n ≠ 100 * 2 ^ k) : n < tableSize n := by
  obtain ⟨hle, k, hk⟩ := tableSize_inv n
  exact lt_of_le_of_ne hle fun heq => h k (heq.trans hk)

theorem scanKey_joinKey {name : Text} {tags : Tags} (hname : WritableName name)
    (htags : WritableTags tags) (hroom : tags.length < tableSize tags.length) (rest : Text) :
    scanKey (joinKey (escapeMeasurement name) (tags.map escapePair) ++ ' ' :: rest) =
      .ok (joinKey (escapeMeasurement name) (tags.map escapePair), ' ' :: rest) := by
  obtain ⟨c, cs, hcons, hblank, htab, hzero, -⟩ := hname.head_escapeMeasurement
  have hskip : ∀ more, skipWhitespace (escapeMeasurement name ++ more) =
      escapeMeasurement name ++ more := by
    intro more
    rw [hcons]
    exact skipWhitespace_cons hblank htab hzero _
  cases tags with
  | nil =>
      have htext : joinKey (escapeMeasurement name) ([].map escapePair) = escapeMeasurement name :=
        List.append_nil _
      rw [htext, scanKey, hskip, scanMeasurement_blank hname.ne_nil hname.plain.1]
      rfl
  | cons t tags =>
      have htext : joinKey (escapeMeasurement name) ((t :: tags).map escapePair) ++ ' ' :: rest =
          escapeMeasurement name ++
            ',' :: ((tagsText ((t :: tags).map escapePair)).tail ++ ' ' :: rest) := by
        simp [joinKey, tagsText, escapePair]
      rw [htext, scanKey, hskip, scanMeasurement_comma hname.ne_nil hname.plain.1]
      have hfull : ¬tableSize ((t :: tags).map escapePair).length ≤
          ((t :: tags).map escapePair).length := by
        rw [List.length_map]
        exact Nat.not_le.mpr hroom
      have hscan : scanTags ((tagsText ((t :: tags).map escapePair)).tail ++ ' ' :: rest) =
          .ok ((t :: tags).map escapePair, ' ' :: rest) := by
        rw [scanTags, scanTagsLoop_tagsText htags]
        simp only [bind, Except.bind, if_neg hfull]
        rfl
      simp only [bind, Except.bind, hscan, keysAscend_of_pairwise htags.ascend]
      rfl

/-! ## The accessors -/

/-- The stops of the accessors are codes of a tag. -/
theorem eq_stop_mem {c : Char} (hc : c ∈ tagEscapeCodes) (x : Char)
    (hx : decide (x = c) = true) : x ∈ tagEscapeCodes :=
  of_decide_eq_true hx ▸ hc

theorem nextTag_escape {key value rest : Text} (hkey : '\\' ∉ key) (hvalue : '\\' ∉ value)
    (hrest : ∀ d t, rest = d :: t → d = ',') :
    nextTag (escapeTag key ++ '=' :: (escapeTag value ++ rest)) =
      (escapeTag key, escapeTag value, rest) := by
  have hkeyscan : Escape.scanTo '\\' (· = '=') none (Escape.escape '\\' tagEscapeCodes key ++
      '=' :: (Escape.escape '\\' tagEscapeCodes value ++ rest)) = _ :=
    Escape.scanTo_escape (eq_stop_mem (by decide)) (by decide) hkey (by decide)
      fun d t h => decide_eq_true (List.cons.inj h).1.symm
  have hvaluescan : Escape.scanTo '\\' (· = ',') (some '=')
      (Escape.escape '\\' tagEscapeCodes value ++ rest) = _ :=
    Escape.scanTo_escape (eq_stop_mem (by decide)) (by decide) hvalue (by decide)
      fun d t h => decide_eq_true (hrest d t h)
  rw [nextTag, escapeTag_eq, escapeTag_eq, hkeyscan]
  dsimp only [List.tail_cons]
  rw [hvaluescan]

theorem walkTags_cons {key value rest : Text} (hkey : '\\' ∉ key) (hvalue : '\\' ∉ value)
    (hne : value ≠ []) (hrest : ∀ d t, rest = d :: t → d = ',') :
    walkTags (escapeTag key ++ '=' :: (escapeTag value ++ rest)) =
      (key, value) :: walkTags rest.tail := by
  have hvalue' : escapeTag value ≠ [] := by
    rw [escapeTag_eq]
    exact Escape.escape_ne_nil hne
  have hbuf : escapeTag key ++ '=' :: (escapeTag value ++ rest) ≠ [] := by simp
  rw [walkTags_of_ne_nil hbuf, nextTag_escape hkey hvalue hrest, if_neg hvalue',
    unescapeTag_escapeTag, unescapeTag_escapeTag]

theorem head_tagsText (tags : Tags) : ∀ d t, tagsText tags = d :: t → d = ',' := by
  intro d t h
  cases tags with
  | nil => cases h
  | cons tag tags =>
      rw [tagsText_cons] at h
      exact (List.cons.inj h).1.symm

theorem walkTags_tagsText {tags : Tags} (htags : WritableTags tags) :
    walkTags (tagsText (tags.map escapePair)).tail = tags := by
  induction tags with
  | nil => exact walkTags_nil
  | cons t tags ih =>
      rw [List.map_cons, tagsText_cons, List.tail_cons]
      dsimp only [escapePair]
      rw [walkTags_cons (htags.key_plain t List.mem_cons_self).1
        (htags.value_plain t List.mem_cons_self).1 (htags.value_ne_nil t List.mem_cons_self)
        (head_tagsText _), ih htags.tail]

theorem scanTo_joinKey {name : Text} (hname : '\\' ∉ name) (tags : Tags) :
    Escape.scanTo '\\' (· = ',') none (joinKey (escapeMeasurement name) tags) =
      (escapeMeasurement name, tagsText tags) := by
  rw [escapeMeasurement_eq]
  refine Escape.scanTo_escape ?_ (by decide) hname (by decide) ?_
  · intro x hx
    rw [of_decide_eq_true hx]
    decide
  · intro d t h
    exact decide_eq_true (head_tagsText tags d t h)

theorem name_joinKey {name : Text} (hname : '\\' ∉ name) (tags : Tags) (fields : Text)
    (time : Int64) :
    (Parsed.mk (joinKey (escapeMeasurement name) tags) fields time).name = name := by
  rw [Parsed.name, scanTo_joinKey hname, escapeMeasurement_eq]
  exact Escape.unescape_escape (by decide) (Or.inr hname)

theorem tags_joinKey {name : Text} {tags : Tags} (hname : WritableName name)
    (htags : WritableTags tags) (fields : Text) (time : Int64) :
    (Parsed.mk (joinKey (escapeMeasurement name) (tags.map escapePair)) fields time).tags =
      tags := by
  obtain ⟨c, cs, hcons, -⟩ := hname.head_escapeMeasurement
  rw [Parsed.tags, scanTo_joinKey hname.plain.1, hcons]
  exact walkTags_tagsText htags

/-! ## The key that is written -/

/-- Tags with distinct keys that need no escaping, and values of any plain text. -/
structure SendableTags (m : List (String × String)) : Prop where
  nodup : (m.map Prod.fst).Nodup
  key_ne_empty : ∀ t ∈ m, t.1 ≠ ""
  key_plain : ∀ t ∈ m, Plain t.1.toList
  key_bare : ∀ t ∈ m, ∀ c ∈ t.1.toList, c ∉ tagEscapeCodes
  value_plain : ∀ t ∈ m, Plain t.2.toList

/-- The tags that are written: those with a value, in the order of their keys. -/
def sentTags (m : List (String × String)) : Tags := (newTags m).filter fun t => t.2 ≠ []

theorem newTags_eq (m : List (String × String)) :
    newTags m = (Columns.sorted m).map fun t => (t.1.toList, t.2.toList) :=
  Columns.map_sortedKeys m (fun k v => (k.toList, v.toList)) ""

theorem newTags_perm {m : List (String × String)} (hnodup : (m.map Prod.fst).Nodup) :
    (newTags m).Perm (m.map fun t => (t.1.toList, t.2.toList)) := by
  rw [newTags_eq]
  exact (Columns.sorted_perm hnodup).map _

theorem sentTags_perm {m : List (String × String)} (hnodup : (m.map Prod.fst).Nodup) :
    (sentTags m).Perm ((m.filter fun t => t.2 ≠ "").map fun t => (t.1.toList, t.2.toList)) := by
  refine ((newTags_perm hnodup).filter _).trans (List.Perm.of_eq ?_)
  rw [List.filter_map]
  congr 1
  apply List.filter_congr
  intro t _
  simp

theorem pairwise_sentTags {m : List (String × String)} (hnodup : (m.map Prod.fst).Nodup) :
    (sentTags m).Pairwise fun a b => a.1 < b.1 := by
  refine List.Pairwise.filter _ ?_
  rw [newTags_eq]
  refine List.pairwise_map.mpr ((Columns.pairwise_sorted hnodup).imp ?_)
  intro a b hab
  exact String.lt_iff_toList_lt.mp hab

theorem writableTags_sentTags {m : List (String × String)} (h : SendableTags m) :
    WritableTags (sentTags m) := by
  have hmem : ∀ t ∈ sentTags m, ∃ u ∈ m, t = (u.1.toList, u.2.toList) := by
    intro t ht
    obtain ⟨u, hu, rfl⟩ := List.mem_map.mp ((sentTags_perm h.nodup).mem_iff.mp ht)
    exact ⟨u, List.mem_of_mem_filter hu, rfl⟩
  have hbare : ∀ t ∈ sentTags m, escapeTag t.1 = t.1 := by
    intro t ht
    obtain ⟨u, hu, rfl⟩ := hmem t ht
    rw [escapeTag_eq]
    exact Escape.escape_of_disjoint (h.key_bare u hu)
  constructor
  · intro t ht
    obtain ⟨u, hu, rfl⟩ := hmem t ht
    simpa using h.key_ne_empty u hu
  · intro t ht
    simpa using List.of_mem_filter ht
  · intro t ht
    obtain ⟨u, hu, rfl⟩ := hmem t ht
    exact h.key_plain u hu
  · intro t ht
    obtain ⟨u, hu, rfl⟩ := hmem t ht
    exact h.value_plain u hu
  · refine List.pairwise_map.mpr ((pairwise_sentTags h.nodup).imp_of_mem ?_)
    intro a b ha hb hab
    dsimp only [escapePair]
    rwa [hbare a ha, hbare b hb]

theorem escapeTag_eq_nil_iff {s : Text} : escapeTag s = [] ↔ s = [] := by
  rw [escapeTag_eq]
  constructor
  · intro h
    by_contra hne
    exact Escape.escape_ne_nil hne h
  · rintro rfl
    rfl

theorem map_escapePair_of_not {a : Tags} (h : ¬needsEscape a = true) : a.map escapePair = a := by
  have hfree : ∀ t ∈ a, ∀ c ∈ tagEscapeCodes, c ∉ t.1 ∧ c ∉ t.2 := by
    intro t ht c hc
    by_contra hmem
    refine h (List.any_eq_true.mpr ⟨t, ht, List.any_eq_true.mpr ⟨c, hc, ?_⟩⟩)
    simpa [or_iff_not_imp_left] using hmem
  have hself : ∀ t ∈ a, escapePair t = t := by
    intro t ht
    have hkey : escapeTag t.1 = t.1 := by
      rw [escapeTag_eq]
      exact Escape.escape_of_disjoint fun c hc hcode => (hfree t ht c hcode).1 hc
    have hvalue : escapeTag t.2 = t.2 := by
      rw [escapeTag_eq]
      exact Escape.escape_of_disjoint fun c hc hcode => (hfree t ht c hcode).2 hc
    exact Prod.ext hkey hvalue
  exact (List.map_congr_left hself).trans a.map_id

/-- Whether or not a tag needs an escape, each of them is written in its escaped form. -/
theorem appendHashKey_eq (dst : Text) (a : Tags) :
    appendHashKey dst a = joinKey dst ((a.filter fun t => t.2 ≠ []).map escapePair) := by
  have hescaped : (if needsEscape a then a.map fun t => (escapeTag t.1, escapeTag t.2) else a) =
      a.map escapePair := by
    by_cases hneeds : needsEscape a
    · rw [if_pos hneeds]
      rfl
    · rw [if_neg hneeds]
      exact (map_escapePair_of_not hneeds).symm
  have hfilter : ∀ a : Tags,
      ((a.map escapePair).flatMap fun t => if t.2 = [] then [] else ',' :: t.1 ++ '=' :: t.2) =
        tagsText ((a.filter fun t => t.2 ≠ []).map escapePair) := by
    intro a
    induction a with
    | nil => rfl
    | cons t a ih =>
        rw [List.map_cons, List.flatMap_cons, ih]
        by_cases hempty : t.2 = []
        · have hescape : (escapePair t).2 = [] := escapeTag_eq_nil_iff.mpr hempty
          rw [if_pos hescape, List.filter_cons_of_neg (by simp [hempty])]
          rfl
        · have hescape : (escapePair t).2 ≠ [] := fun h => hempty (escapeTag_eq_nil_iff.mp h)
          rw [if_neg hescape, List.filter_cons_of_pos (by simp [hempty]), List.map_cons,
            tagsText_cons]
          simp
  unfold appendHashKey
  rw [hescaped]
  exact congrArg (dst ++ ·) (hfilter a)

/-- A plain name is not escaped twice. -/
theorem makeKey_eq {name : Text} (hname : '\\' ∉ name) (m : List (String × String)) :
    makeKey name (newTags m) = joinKey (escapeMeasurement name) ((sentTags m).map escapePair) := by
  have hunescape : unescapeMeasurement name = name := Escape.unmarkAll_of_not_mem hname
  rw [makeKey, hunescape, appendHashKey_eq]
  rfl

/-- The tags that are written depend on the tags with a value, and not on their order. -/
theorem sentTags_eq_iff {m m' : List (String × String)} (hnodup : (m.map Prod.fst).Nodup)
    (hnodup' : (m'.map Prod.fst).Nodup) :
    sentTags m = sentTags m' ↔ (m.filter fun t => t.2 ≠ "").Perm (m'.filter fun t => t.2 ≠ "") := by
  have hinj : Function.Injective fun t : String × String => (t.1.toList, t.2.toList) := by
    intro t u h
    obtain ⟨hkey, hvalue⟩ := Prod.mk.inj h
    exact Prod.ext (String.toList_inj.mp hkey) (String.toList_inj.mp hvalue)
  constructor
  · intro h
    have hperm := (sentTags_perm hnodup).symm.trans (h ▸ sentTags_perm hnodup')
    exact (List.map_perm_map_iff hinj).mp hperm
  · intro h
    have hperm := ((sentTags_perm hnodup).trans (h.map _)).trans (sentTags_perm hnodup').symm
    refine hperm.eq_of_pairwise ?_ (pairwise_sentTags hnodup) (pairwise_sentTags hnodup')
    intro a b _ _ hab hba
    exact absurd hab (lt_asymm hba)

/-- A key says which name and which tags it was made of: two points have one key exactly when
they have one name and the same tags with a value. -/
theorem makeKey_eq_iff {name name' : String} {m m' : List (String × String)}
    (hname : WritableName name.toList) (hname' : WritableName name'.toList)
    (hm : SendableTags m) (hm' : SendableTags m') :
    makeKey name.toList (newTags m) = makeKey name'.toList (newTags m') ↔
      name = name' ∧ (m.filter fun t => t.2 ≠ "").Perm (m'.filter fun t => t.2 ≠ "") := by
  have htags := writableTags_sentTags hm
  have htags' := writableTags_sentTags hm'
  rw [makeKey_eq hname.plain.1, makeKey_eq hname'.plain.1, ← sentTags_eq_iff hm.nodup hm'.nodup]
  constructor
  · intro h
    constructor
    · have hread := congrArg (fun key => (Parsed.mk key [] 0).name) h
      rw [name_joinKey hname.plain.1, name_joinKey hname'.plain.1] at hread
      exact String.toList_inj.mp hread
    · have hread := congrArg (fun key => (Parsed.mk key [] 0).tags) h
      rwa [tags_joinKey hname htags, tags_joinKey hname' htags'] at hread
  · rintro ⟨rfl, hsent⟩
    rw [hsent]

/-! ## How long it is -/

theorem byteLength_append (s t : Text) : byteLength (s ++ t) = byteLength s + byteLength t := by
  simp [byteLength]

theorem byteLength_cons (c : Char) (s : Text) :
    byteLength (c :: s) = c.utf8Size + byteLength s := by
  simp [byteLength]

/-- An escaped text has a byte more for each code. -/
theorem byteLength_escape (codes : List Char) (s : String) :
    byteLength (Escape.escape '\\' codes s.toList) = escapedSize codes s := by
  unfold escapedSize
  induction s.toList with
  | nil => rfl
  | cons c cs ih =>
      have hbackslash : '\\'.utf8Size = 1 := rfl
      by_cases hc : c ∈ codes
      · rw [Escape.escape_cons_of_mem hc, byteLength_cons, byteLength_cons, ih, hbackslash,
          List.map_cons, List.sum_cons, if_pos hc]
        omega
      · rw [Escape.escape_cons_of_not_mem hc, byteLength_cons, ih, List.map_cons, List.sum_cons,
          if_neg hc, Nat.add_zero]

theorem byteLength_tagsText (tags : Tags) :
    byteLength (tagsText tags) =
      (tags.map fun t => 2 + byteLength t.1 + byteLength t.2).sum := by
  have hcomma : ','.utf8Size = 1 := rfl
  have hequals : '='.utf8Size = 1 := rfl
  induction tags with
  | nil => rfl
  | cons t tags ih =>
      rw [tagsText_cons, byteLength_cons, byteLength_append, byteLength_cons, byteLength_append, ih,
        List.map_cons, List.sum_cons, hcomma, hequals]
      omega

/-- The length that `NewPoint` checks is the length of the key. -/
theorem byteLength_makeKey {name : String} (hname : '\\' ∉ name.toList)
    {m : List (String × String)} (hnodup : (m.map Prod.fst).Nodup) :
    byteLength (makeKey name.toList (newTags m)) = makeKeySize name m := by
  have hperm : ((sentTags m).map escapePair).Perm
      ((m.filter fun t => t.2 ≠ "").map fun t => (escapeTag t.1.toList, escapeTag t.2.toList)) := by
    refine ((sentTags_perm hnodup).map escapePair).trans (List.Perm.of_eq ?_)
    rw [List.map_map]
    rfl
  have htags : byteLength (tagsText ((sentTags m).map escapePair)) =
      ((m.filter fun t => t.2 ≠ "").map fun t =>
        2 + escapedSize [',', ' ', '='] t.1 + escapedSize [',', ' ', '='] t.2).sum := by
    rw [byteLength_tagsText, (hperm.map _).sum_eq, List.map_map]
    congr 1
    apply List.map_congr_left
    intro t _
    dsimp only [Function.comp]
    rw [escapeTag_eq, escapeTag_eq, byteLength_escape, byteLength_escape]
    rfl
  rw [makeKey_eq hname, makeKeySize, ← htags, joinKey, byteLength_append, escapeMeasurement_eq,
    byteLength_escape]
  rfl

end MetricCollector.Influx
