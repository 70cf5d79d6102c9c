import Mathlib.Data.List.Basic

/-!
# Text with escaped symbols

A format that ends a name at a reserved symbol writes an escape symbol in front of each
reserved symbol of the name.

* `escape codes` does so for all of `codes` at once, `unescape codes` takes the escape
  symbols away again, and `unescape_escape` is the round trip.
* `mark` and `unmark` are the replacements of one code, and `markAll` and `unmarkAll`
  make them for a list of codes one after the other.  `markAll_eq_escape` says that this
  is the same, and `unmarkAll_markAll` is the round trip.
* `scanTo` looks for a stop that has no escape symbol right before it.
  `scanTo_escape` says that it runs to the end of an escaped name.
-/

namespace GoLib.Escape

variable {α : Type} [DecidableEq α]

section Escape

variable (esc : α) (codes : List α)

/-- Each of the codes with the escape symbol before it. -/
def escape (s : List α) : List α := s.flatMap fun x => if x ∈ codes then [esc, x] else [x]

/-- The escape symbols before a code taken away. -/
def unescape : List α → List α
  | x :: y :: s => if x = esc ∧ y ∈ codes then y :: unescape s else x :: unescape (y :: s)
  | [x] => [x]
  | [] => []

/-- What is scanned up to a stop that is not escaped, and the rest from there on.  `prev`
is the symbol before. -/
def scanTo (stop : α → Bool) : Option α → List α → List α × List α
  | _, [] => ([], [])
  | prev, x :: s =>
      if stop x ∧ prev ≠ some esc then ([], x :: s)
      else (x :: (scanTo stop (some x) s).1, (scanTo stop (some x) s).2)

end Escape

variable {esc : α} {codes : List α}

/-! ## Escaping -/

@[simp] theorem escape_nil : escape esc codes [] = [] := rfl

theorem escape_cons_of_mem {x : α} (hx : x ∈ codes) (s : List α) :
    escape esc codes (x :: s) = esc :: x :: escape esc codes s := by
  rw [escape, List.flatMap_cons, if_pos hx]
  rfl

theorem escape_cons_of_not_mem {x : α} (hx : x ∉ codes) (s : List α) :
    escape esc codes (x :: s) = x :: escape esc codes s := by
  rw [escape, List.flatMap_cons, if_neg hx]
  rfl

/-- A name without any code is written as it is. -/
theorem escape_of_disjoint {s : List α} (hs : ∀ x ∈ s, x ∉ codes) : escape esc codes s = s := by
  induction s with
  | nil => rfl
  | cons x s ih =>
      rw [escape_cons_of_not_mem (hs x List.mem_cons_self),
        ih fun y hy => hs y (List.mem_cons_of_mem x hy)]

theorem escape_ne_nil {s : List α} (hs : s ≠ []) : escape esc codes s ≠ [] := by
  cases s with
  | nil => exact absurd rfl hs
  | cons x s =>
      by_cases hx : x ∈ codes
      · rw [escape_cons_of_mem hx]
        exact List.cons_ne_nil _ _
      · rw [escape_cons_of_not_mem hx]
        exact List.cons_ne_nil _ _

/-- The first symbol of an escaped text is no code, unless the codes escape themselves. -/
theorem head_escape_not_mem (hesc : esc ∉ codes) {x : α} {s t : List α}
    (h : escape esc codes s = x :: t) : x ∉ codes := by
  cases s with
  | nil => cases h
  | cons y s =>
      by_cases hy : y ∈ codes
      · rw [escape_cons_of_mem hy] at h
        cases h
        exact hesc
      · rw [escape_cons_of_not_mem hy] at h
        cases h
        exact hy

/-! ## Taking the escapes away -/

theorem unescape_pair {x : α} (hx : x ∈ codes) (s : List α) :
    unescape esc codes (esc :: x :: s) = x :: unescape esc codes s := by
  rw [unescape, if_pos ⟨rfl, hx⟩]

theorem unescape_cons {x : α} {s : List α}
    (hkeep : x = esc → ∀ y t, s = y :: t → y ∉ codes) :
    unescape esc codes (x :: s) = x :: unescape esc codes s := by
  cases s with
  | nil => rfl
  | cons y s =>
      rw [unescape, if_neg]
      intro hpair
      exact hkeep hpair.1 y s rfl hpair.2

/-- Unescaping undoes escaping, for the same codes, or for more of them where the name
has no escape symbol. -/
theorem unescape_escape {codes' : List α} (hsub : codes ⊆ codes') {s : List α}
    (hsafe : codes' ⊆ codes ∨ esc ∉ s) : unescape esc codes' (escape esc codes s) = s := by
  induction s with
  | nil => rfl
  | cons x s ih =>
      have hsafe' : codes' ⊆ codes ∨ esc ∉ s :=
        hsafe.imp_right fun hnot hmem => hnot (List.mem_cons_of_mem x hmem)
      by_cases hx : x ∈ codes
      · rw [escape_cons_of_mem hx, unescape_pair (hsub hx), ih hsafe']
      · rw [escape_cons_of_not_mem hx, unescape_cons, ih hsafe']
        rintro rfl y t hrest
        obtain hcodes | hnot := hsafe
        · exact fun hy => head_escape_not_mem hx hrest (hcodes hy)
        · exact absurd List.mem_cons_self hnot

/-- Without an escape symbol there is nothing to take away. -/
theorem unescape_of_not_mem {s : List α} (hs : esc ∉ s) : unescape esc codes s = s := by
  induction s with
  | nil => rfl
  | cons x s ih =>
      rw [unescape_cons, ih fun hmem => hs (List.mem_cons_of_mem x hmem)]
      rintro rfl
      exact absurd List.mem_cons_self hs

/-! ## One code after the other -/

section Codes

variable (esc)

/-- Every `c` replaced by the escape symbol and `c`. -/
def mark (s : List α) (c : α) : List α := escape esc [c] s

/-- Every escape symbol with a `c` after it replaced by `c`. -/
def unmark (s : List α) (c : α) : List α := unescape esc [c] s

/-- The replacements for one code after the other. -/
def markAll (codes s : List α) : List α := codes.foldl (mark esc) s

def unmarkAll (codes s : List α) : List α := codes.foldl (unmark esc) s

end Codes

/-- Escaping once more, for another code. -/
theorem mark_escape {c : α} (hc : c ∉ codes) (hesc : c ≠ esc) (s : List α) :
    mark esc (escape esc codes s) c = escape esc (codes ++ [c]) s := by
  have hescape : esc ∉ [c] := fun h => hesc (List.mem_singleton.mp h).symm
  unfold mark
  induction s with
  | nil => rfl
  | cons x s ih =>
      by_cases hx : x ∈ codes
      · have hne : x ∉ [c] := by
          intro h
          exact hc (List.mem_singleton.mp h ▸ hx)
        rw [escape_cons_of_mem hx, escape_cons_of_not_mem hescape, escape_cons_of_not_mem hne, ih,
          escape_cons_of_mem (List.mem_append_left [c] hx)]
      · rw [escape_cons_of_not_mem hx]
        by_cases hxc : x ∈ [c]
        · rw [escape_cons_of_mem hxc, ih, escape_cons_of_mem (List.mem_append_right codes hxc)]
        · have hnone : x ∉ codes ++ [c] := by simp_all
          rw [escape_cons_of_not_mem hxc, ih, escape_cons_of_not_mem hnone]

theorem escape_empty (s : List α) : escape esc [] s = s :=
  escape_of_disjoint fun _ _ => List.not_mem_nil

/-- Replacing the codes one after the other escapes them all. -/
theorem markAll_eq_escape (hnodup : codes.Nodup) (hesc : esc ∉ codes) (s : List α) :
    markAll esc codes s = escape esc codes s := by
  have hfold : ∀ done, (done ++ codes).Nodup →
      markAll esc codes (escape esc done s) = escape esc (done ++ codes) s := by
    clear hnodup
    unfold markAll
    induction codes with
    | nil =>
        intro done _
        rw [List.append_nil, List.foldl_nil]
    | cons c codes ih =>
        intro done hnodup
        have hc : c ∉ done := fun hmem =>
          (List.nodup_append.mp hnodup).2.2 c hmem c List.mem_cons_self rfl
        have hne : c ≠ esc := fun h => hesc (h ▸ List.mem_cons_self)
        have hrest : done ++ c :: codes = done ++ [c] ++ codes := by simp
        rw [List.foldl_cons, mark_escape hc hne, hrest]
        rw [hrest] at hnodup
        exact ih (fun h => hesc (List.mem_cons_of_mem c h)) (done ++ [c]) hnodup
  have hall := hfold [] (by simpa using hnodup)
  rwa [escape_empty, List.nil_append] at hall

/-- Taking the escapes of one code away leaves those of the others. -/
theorem unmark_escape {c : α} (hc : c ∉ codes) (hesc : esc ∉ c :: codes) (s : List α) :
    unmark esc (escape esc (c :: codes) s) c = escape esc codes s := by
  have hce : esc ∉ [c] := fun h => hesc (List.mem_singleton.mp h ▸ List.mem_cons_self)
  have hne : c ≠ esc := fun h => hesc (h ▸ List.mem_cons_self)
  unfold unmark
  induction s with
  | nil => rfl
  | cons x s ih =>
      by_cases hxc : x = c
      · subst hxc
        rw [escape_cons_of_mem List.mem_cons_self, unescape_pair (List.mem_singleton.mpr rfl), ih,
          escape_cons_of_not_mem hc]
      · by_cases hx : x ∈ codes
        · have hxesc : x ≠ esc := fun h => hesc (List.mem_cons_of_mem c (h ▸ hx))
          rw [escape_cons_of_mem (List.mem_cons_of_mem c hx), escape_cons_of_mem hx,
            unescape_cons, unescape_cons, ih]
          · intro h
            exact absurd h hxesc
          · intro _ y t hrest
            cases hrest
            exact fun hmem => hxc (List.mem_singleton.mp hmem)
        · have hnone : x ∉ c :: codes := by simp_all
          rw [escape_cons_of_not_mem hnone, escape_cons_of_not_mem hx, unescape_cons, ih]
          intro _ y t hrest hmem
          exact head_escape_not_mem hesc hrest
            (List.mem_cons.mpr (Or.inl (List.mem_singleton.mp hmem)))

theorem unmarkAll_markAll (hnodup : codes.Nodup) (hesc : esc ∉ codes) (s : List α) :
    unmarkAll esc codes (markAll esc codes s) = s := by
  rw [markAll_eq_escape hnodup hesc]
  unfold unmarkAll
  induction codes with
  | nil =>
      rw [List.foldl_nil, escape_empty]
  | cons c codes ih =>
      rw [List.foldl_cons, unmark_escape (List.nodup_cons.mp hnodup).1 hesc]
      exact ih (List.nodup_cons.mp hnodup).2 fun h => hesc (List.mem_cons_of_mem c h)

theorem unmarkAll_of_not_mem {s : List α} (hs : esc ∉ s) : unmarkAll esc codes s = s := by
  unfold unmarkAll
  induction codes with
  | nil => rfl
  | cons c codes ih =>
      rw [List.foldl_cons, unmark, unescape_of_not_mem hs]
      exact ih

/-! ## Scanning -/

section Scan

variable {stop : α → Bool}

theorem scanTo_stop {prev : Option α} {x : α} (hx : stop x = true) (hprev : prev ≠ some esc)
    (s : List α) : scanTo esc stop prev (x :: s) = ([], x :: s) := by
  rw [scanTo, if_pos ⟨hx, hprev⟩]

theorem scanTo_cons {prev : Option α} {x : α} (hx : stop x = true → prev = some esc)
    (s : List α) : scanTo esc stop prev (x :: s) =
      (x :: (scanTo esc stop (some x) s).1, (scanTo esc stop (some x) s).2) := by
  rw [scanTo, if_neg]
  intro h
  exact h.2 (hx h.1)

/-- A scan over an escaped name runs to its end, and from there on as if it started there. -/
theorem scanTo_escape_append {s : List α} (hstop : ∀ x, stop x = true → x ∈ codes)
    (hesc : esc ∉ codes) (hs : esc ∉ s) {prev : Option α} (hprev : prev ≠ some esc)
    (rest : List α) :
    ∃ prev', prev' ≠ some esc ∧ scanTo esc stop prev (escape esc codes s ++ rest) =
      (escape esc codes s ++ (scanTo esc stop prev' rest).1, (scanTo esc stop prev' rest).2) := by
  induction s generalizing prev with
  | nil => exact ⟨prev, hprev, rfl⟩
  | cons x s ih =>
      have hne : some x ≠ some esc := fun h => hs (Option.some.inj h ▸ List.mem_cons_self)
      obtain ⟨prev', hprev', hscan⟩ := ih (fun h => hs (List.mem_cons_of_mem x h)) hne
      refine ⟨prev', hprev', ?_⟩
      by_cases hx : x ∈ codes
      · rw [escape_cons_of_mem hx, List.cons_append, List.cons_append,
          scanTo_cons (fun h => absurd (hstop esc h) hesc), scanTo_cons (fun _ => rfl), hscan]
        rfl
      · rw [escape_cons_of_not_mem hx, List.cons_append,
          scanTo_cons (fun h => absurd (hstop x h) hx), hscan]
        rfl

/-- Up to the stop that follows the name, or to the end of the text. -/
theorem scanTo_escape {s rest : List α} (hstop : ∀ x, stop x = true → x ∈ codes)
    (hesc : esc ∉ codes) (hs : esc ∉ s) {prev : Option α} (hprev : prev ≠ some esc)
    (hrest : ∀ d t, rest = d :: t → stop d = true) :
    scanTo esc stop prev (escape esc codes s ++ rest) = (escape esc codes s, rest) := by
  obtain ⟨prev', hprev', hscan⟩ := scanTo_escape_append hstop hesc hs hprev rest
  rw [hscan]
  cases rest with
  | nil => rw [scanTo, List.append_nil]
  | cons d t => rw [scanTo_stop (hrest d t rfl) hprev', List.append_nil]

/-- The same from the second symbol on, which is how a scanner goes that has looked at the
first one. -/
theorem scanTo_escape_tail {s cs rest : List α} (hstop : ∀ x, stop x = true → x ∈ codes)
    (hesc : esc ∉ codes) (hs : esc ∉ s) {c : α} (hcons : escape esc codes s = c :: cs) {d : α}
    (hd : stop d = true) :
    scanTo esc stop (some c) (cs ++ d :: rest) = (cs, d :: rest) := by
  have hscan : scanTo esc stop none (escape esc codes s ++ d :: rest) =
      (escape esc codes s, d :: rest) :=
    scanTo_escape hstop hesc hs (Option.some_ne_none esc).symm
      fun d' t h => (List.cons.inj h).1 ▸ hd
  have hc : c ∉ codes := head_escape_not_mem hesc hcons
  rw [hcons, List.cons_append, scanTo_cons fun h => absurd (hstop c h) hc] at hscan
  obtain ⟨htaken, hrest⟩ := Prod.mk.inj hscan
  exact Prod.ext (List.cons.inj htaken).2 hrest

end Scan

/-- A comma is escaped, and the one that is not ends the name. -/
example : scanTo '\\' (· = ',') none ((escape '\\' [',', ' '] "a,b".toList) ++ ",c".toList) =
    ("a\\,b".toList, ",c".toList) := by decide

end GoLib.Escape
