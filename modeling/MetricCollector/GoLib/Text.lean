import Mathlib.Algebra.Order.Field.Rat
import Mathlib.Data.List.TakeWhile

/-!
# Text: splitting, decimal integers and decimal numbers

The text operations a Go program calls on its inputs.

* `split` is `strings.Split` with a one-character separator, `fields` is
  `strings.Fields`, and `scanLines` is the list of tokens a `bufio.Scanner`
  yields on a text.
* `formatInt` is `strconv.FormatInt(n, 10)` and `parseInt` is the value that
  `strconv.ParseInt(s, 10, 64)` returns beside its error: `0` for malformed
  text, the nearest `int64` for a number out of range.
  `parseInt_formatInt` is the round trip, over all of `int64`.
* `decimalValue` is the number that a JSON number literal denotes, and
  `decimalValue_formatInt` reads a formatted integer back through it.
-/

namespace GoLib

/-! ## Splitting -/

/-- `strings.Split(s, sep)` for a separator of one character. -/
def split (sep : Char) (s : String) : List String :=
  (s.toList.splitOn sep).map String.ofList

theorem split_ne_nil (sep : Char) (s : String) : split sep s ≠ [] := by
  simp [split]

/-- A text with no separator is its own only part. -/
theorem split_eq_singleton {sep : Char} {s t : String} (h : split sep s = [t]) : t = s := by
  obtain ⟨part, hpart, rfl⟩ := List.map_eq_singleton_iff.mp h
  have hjoin : List.intercalate [sep] (s.toList.splitOn sep) = s.toList :=
    List.intercalate_splitOn sep
  rw [hpart] at hjoin
  simp only [List.intercalate_singleton] at hjoin
  rw [hjoin, String.ofList_toList]

theorem split_of_not_mem {sep : Char} {s : String} (h : sep ∉ s.toList) : split sep s = [s] := by
  rw [split, List.splitOn_eq_singleton h, List.map_singleton, String.ofList_toList]

/-- A separator ends a part. -/
theorem split_append (sep : Char) (s t : String) :
    split sep (s ++ String.singleton sep ++ t) = split sep s ++ split sep t := by
  simp [split, List.splitOn_append_cons_self]

/-- Texts without the separator come back from their join. -/
theorem split_intercalate {sep : Char} {parts : List String}
    (hparts : ∀ part ∈ parts, sep ∉ part.toList) (hne : parts ≠ []) :
    split sep ((String.singleton sep).intercalate parts) = parts := by
  have hchars : ∀ cs ∈ parts.map String.toList, sep ∉ cs := by
    intro cs hcs
    obtain ⟨part, hpart, rfl⟩ := List.mem_map.mp hcs
    exact hparts part hpart
  rw [split, String.toList_intercalate, String.toList_singleton,
    List.splitOn_intercalate sep hchars (by simpa using hne), List.map_map]
  exact (List.map_congr_left fun part _ => String.ofList_toList).trans parts.map_id

/-- `bufio.MaxScanTokenSize`. -/
def maxScanTokenSize : Nat := 64 * 1024

/-- `bufio.ScanLines` drops one trailing carriage return of a line. -/
def dropCR (line : List Char) : List Char :=
  if line.getLast? = some '\r' then line.dropLast else line

/-- The tokens of a `bufio.Scanner` over the text: its lines, without an empty
last line, up to the first one that does not fit the buffer. -/
def scanLines (s : String) : List String :=
  let lines := s.toList.splitOn '\n'
  let lines := if lines.getLast? = some [] then lines.dropLast else lines
  let lines := lines.takeWhile fun line => (line.map Char.utf8Size).sum < maxScanTokenSize
  lines.map fun line => String.ofList (dropCR line)

/-- A text of one line that fits the buffer has one token. -/
theorem scanLines_line {s : String} (hnewline : '\n' ∉ s.toList)
    (hcr : s.toList.getLast? ≠ some '\r')
    (hfits : (s.toList.map Char.utf8Size).sum < maxScanTokenSize) :
    scanLines (s ++ "\n") = [s] := by
  have hsplit : (s ++ "\n").toList.splitOn '\n' = [s.toList, []] := by
    rw [String.toList_append, show "\n".toList = ['\n'] from rfl, List.splitOn_append_cons_self,
      List.splitOn_eq_singleton hnewline]
    rfl
  have hdrop : dropCR s.toList = s.toList := if_neg hcr
  unfold scanLines
  rw [hsplit]
  simp [hfits, hdrop]

/-- `unicode.IsSpace`. -/
def isSpace (c : Char) : Bool :=
  c ∈ ['\t', '\n', '\x0b', '\x0c', '\r', ' ', '\u0085', '\u00a0', '\u1680', '\u2028', '\u2029',
    '\u202f', '\u205f', '\u3000'] || ('\u2000' ≤ c && c ≤ '\u200a')

/-- `strings.Fields`: the parts of a text between runs of white space. -/
def fields (s : String) : List String :=
  ((s.toList.splitOnP isSpace).filter (· ≠ [])).map String.ofList

/-! ## Decimal integers -/

/-- The three ends of `strconv.ParseUint(s, 10, 64)`. -/
inductive ParsedUint where
  | value (n : Nat)
  | badDigit
  | overflow
deriving DecidableEq, Repr

/-- The digit loop of `strconv.ParseUint`, from the value read so far. -/
def parseDigits : List Char → Nat → ParsedUint
  | [], n => .value n
  | c :: cs, n =>
      if c.isDigit then
        if 10 * n + (c.toNat - '0'.toNat) < 2 ^ 64 then
          parseDigits cs (10 * n + (c.toNat - '0'.toNat))
        else .overflow
      else .badDigit

/-- `strconv.ParseUint(s, 10, 64)`. -/
def parseUint (cs : List Char) : ParsedUint :=
  if cs = [] then .badDigit else parseDigits cs 0

/-- The value that `strconv.ParseInt(s, 10, 64)` returns beside its error. -/
def parseInt (s : String) : Int64 :=
  match s.toList with
  | '-' :: cs =>
      match parseUint cs with
      | .value n => Int64.ofIntClamp (-n)
      | .badDigit => 0
      | .overflow => Int64.minValue
  | cs =>
      match parseUint (if cs.head? = some '+' then cs.tail else cs) with
      | .value n => Int64.ofIntClamp n
      | .badDigit => 0
      | .overflow => Int64.maxValue

/-- The decimal text of an integer. -/
def formatInteger (i : Int) : String :=
  if i < 0 then String.ofList ('-' :: Nat.toDigits 10 i.natAbs)
  else String.ofList (Nat.toDigits 10 i.natAbs)

/-- `strconv.FormatInt(n, 10)`. -/
def formatInt (n : Int64) : String := formatInteger n.toInt

theorem isDigit_of_mem_toDigits {n : Nat} {c : Char} (h : c ∈ Nat.toDigits 10 n) :
    c.isDigit = true :=
  Nat.isDigit_of_mem_toDigits (by decide) (by decide) h

/-- The digits of a number neither start with a sign nor are missing. -/
theorem toDigits_eq_cons (n : Nat) : ∃ c cs, Nat.toDigits 10 n = c :: cs ∧ c ≠ '-' := by
  cases h : Nat.toDigits 10 n with
  | nil => exact absurd h Nat.toDigits_ne_nil
  | cons c cs =>
      have hc : c.isDigit = true := isDigit_of_mem_toDigits (n := n) (by simp [h])
      refine ⟨c, cs, rfl, ?_⟩
      rintro rfl
      exact absurd hc (by decide)

/-- The value read so far only grows. -/
theorem le_ofDigitChars (cs : List Char) (n : Nat) : n ≤ Nat.ofDigitChars 10 cs n := by
  induction cs generalizing n with
  | nil => simp
  | cons c cs ih =>
      rw [Nat.ofDigitChars_cons]
      have := ih (10 * n + (c.toNat - '0'.toNat))
      omega

/-- On digits whose value fits, the digit loop reads that value. -/
theorem parseDigits_eq_value {cs : List Char} {n : Nat}
    (hdigits : ∀ c ∈ cs, c.isDigit = true) (hfits : Nat.ofDigitChars 10 cs n < 2 ^ 64) :
    parseDigits cs n = .value (Nat.ofDigitChars 10 cs n) := by
  induction cs generalizing n with
  | nil => simp [parseDigits]
  | cons c cs ih =>
      rw [Nat.ofDigitChars_cons] at hfits ⊢
      have hle := le_ofDigitChars cs (10 * n + (c.toNat - '0'.toNat))
      rw [parseDigits, if_pos (hdigits c (by simp)), if_pos (by omega)]
      exact ih (fun d hd => hdigits d (by simp [hd])) hfits

theorem parseUint_toDigits {n : Nat} (h : n < 2 ^ 64) :
    parseUint (Nat.toDigits 10 n) = .value n := by
  rw [parseUint, if_neg Nat.toDigits_ne_nil,
    parseDigits_eq_value (fun c hc => isDigit_of_mem_toDigits hc)
      (by rw [Nat.ofDigitChars_ten_toDigits]; exact h),
    Nat.ofDigitChars_ten_toDigits]

/-- Digits alone, whose value fits, parse to that value. -/
theorem parseInt_digits {cs : List Char} (hne : cs ≠ []) (hdigits : ∀ c ∈ cs, c.isDigit = true)
    (hfits : Nat.ofDigitChars 10 cs 0 < 2 ^ 64) :
    parseInt (String.ofList cs) = Int64.ofIntClamp (Nat.ofDigitChars 10 cs 0) := by
  have hsign : ∀ c ∈ cs, c ≠ '-' ∧ c ≠ '+' := by
    intro c hc
    constructor
    · rintro rfl
      exact absurd (hdigits _ hc) (by decide)
    · rintro rfl
      exact absurd (hdigits _ hc) (by decide)
  have hhead : cs.head? ≠ some '+' := by
    intro h
    exact (hsign '+' (List.mem_of_mem_head? h)).2 rfl
  rw [parseInt, String.toList_ofList]
  split
  · exact absurd rfl (hsign '-' (by simp)).1
  · rw [if_neg hhead, parseUint, if_neg hne, parseDigits_eq_value hdigits hfits]

/-- Formatting and parsing an `int64` is the identity. -/
theorem parseInt_formatInt (n : Int64) : parseInt (formatInt n) = n := by
  have hlo := n.le_toInt
  have hhi := n.toInt_lt
  have habs : n.toInt.natAbs < 2 ^ 64 := by omega
  by_cases hneg : n.toInt < 0
  · have hval : (-(n.toInt.natAbs : Int)) = n.toInt := by omega
    rw [parseInt, formatInt, formatInteger, if_pos hneg, String.toList_ofList]
    simp only [parseUint_toDigits habs, hval, Int64.ofIntClamp_toInt]
  · have hval : (n.toInt.natAbs : Int) = n.toInt := by omega
    have hdigits : ∀ c ∈ Nat.toDigits 10 n.toInt.natAbs, c.isDigit = true :=
      fun c hc => isDigit_of_mem_toDigits hc
    have hvalue := @Nat.ofDigitChars_ten_toDigits n.toInt.natAbs
    rw [formatInt, formatInteger, if_neg hneg,
      parseInt_digits Nat.toDigits_ne_nil hdigits (by rw [hvalue]; exact habs), hvalue, hval,
      Int64.ofIntClamp_toInt]

/-! ## Decimal numbers -/

/-- The digits after an exponent sign. -/
def exponentValue (cs : List Char) : Option Int :=
  match cs with
  | '-' :: ds => if ds ≠ [] ∧ ds.all Char.isDigit then some (-(Nat.ofDigitChars 10 ds 0)) else none
  | '+' :: ds => if ds ≠ [] ∧ ds.all Char.isDigit then some (Nat.ofDigitChars 10 ds 0) else none
  | ds => if ds ≠ [] ∧ ds.all Char.isDigit then some (Nat.ofDigitChars 10 ds 0) else none

/-- `mantissa * 10 ^ scale`, with an exponent part that may follow. -/
def scaledValue (mantissa : Nat) (scale : Int) (rest : List Char) : Option ℚ :=
  match rest with
  | [] => some (mantissa * (10 : ℚ) ^ scale)
  | 'e' :: cs => (exponentValue cs).map fun e => mantissa * (10 : ℚ) ^ (scale + e)
  | 'E' :: cs => (exponentValue cs).map fun e => mantissa * (10 : ℚ) ^ (scale + e)
  | _ => none

/-- A JSON number without its sign. -/
def unsignedDecimal (cs : List Char) : Option ℚ :=
  let whole := cs.takeWhile Char.isDigit
  let rest := cs.dropWhile Char.isDigit
  if whole = [] then none
  else
    match rest with
    | '.' :: ds =>
        let fraction := ds.takeWhile Char.isDigit
        if fraction = [] then none
        else scaledValue (Nat.ofDigitChars 10 (whole ++ fraction) 0) (-fraction.length)
          (ds.dropWhile Char.isDigit)
    | _ => scaledValue (Nat.ofDigitChars 10 whole 0) 0 rest

/-- The number that a JSON number literal denotes. -/
def decimalValue (s : String) : Option ℚ :=
  match s.toList with
  | '-' :: cs => (unsignedDecimal cs).map fun q => -q
  | cs => unsignedDecimal cs

theorem unsignedDecimal_toDigits (n : Nat) :
    unsignedDecimal (Nat.toDigits 10 n) = some (n : ℚ) := by
  have hall : ∀ c ∈ Nat.toDigits 10 n, c.isDigit = true := fun c hc => isDigit_of_mem_toDigits hc
  have htake : (Nat.toDigits 10 n).takeWhile Char.isDigit = Nat.toDigits 10 n :=
    List.takeWhile_eq_self_iff.mpr hall
  have hdrop : (Nat.toDigits 10 n).dropWhile Char.isDigit = [] :=
    List.dropWhile_eq_nil_iff.mpr hall
  simp [unsignedDecimal, htake, hdrop, Nat.toDigits_ne_nil, scaledValue]

/-- A formatted integer denotes itself. -/
theorem decimalValue_formatInteger (i : Int) : decimalValue (formatInteger i) = some (i : ℚ) := by
  obtain ⟨c, cs, hcons, hminus⟩ := toDigits_eq_cons i.natAbs
  by_cases hneg : i < 0
  · have hval : (-(i.natAbs : ℚ)) = (i : ℚ) := by
      rw [← Int.cast_natCast, ← Int.cast_neg]
      exact congrArg _ (by omega)
    rw [decimalValue, formatInteger, if_pos hneg, String.toList_ofList]
    simp only [unsignedDecimal_toDigits, Option.map_some, hval]
  · have hval : (i.natAbs : ℚ) = (i : ℚ) := by
      rw [← Int.cast_natCast]
      exact congrArg _ (by omega)
    rw [decimalValue, formatInteger, if_neg hneg, String.toList_ofList, hcons]
    split
    · rename_i heq
      exact absurd (List.cons.inj heq).1 hminus
    · rw [← hcons, unsignedDecimal_toDigits, hval]

theorem decimalValue_formatInt (n : Int64) :
    decimalValue (formatInt n) = some (n.toInt : ℚ) :=
  decimalValue_formatInteger n.toInt

/-- Both ends of the range, a malformed text and a number out of range. -/
example : parseInt (formatInt Int64.minValue) = Int64.minValue ∧
    parseInt "12x" = 0 ∧ parseInt "9223372036854775808" = Int64.maxValue := by decide

example : scanLines "a/b\r\nc\n" = ["a/b", "c"] := by decide

end GoLib
