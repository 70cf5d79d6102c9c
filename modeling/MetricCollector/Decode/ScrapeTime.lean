import Mathlib.Data.List.ReduceOption
import MetricCollector.Decode

/-!
# The scrape time

The two functions that date a metric point look at the sections one after
another and keep the earliest time so far.

* `isEarliest_earlier` is one section, and `isEarliest_foldl` is all of them.
* `scrapeTimes_earliest` is the result about both functions.
-/

namespace MetricCollector.Decode

open Storage Stats

/-- The non-zero times of the sections that are present. -/
def available (sections : List (Option Time)) : List Time :=
  sections.reduceOption.filter (· ≠ 0)

/-- The answer is an error when no time is available, and else the earliest of
those that are. -/
structure EarliestOf (sections : List (Option Time)) (answer : Except String Time) : Prop where
  error_iff : (∃ err, answer = .error err) ↔ available sections = []
  earliest : ∀ t, answer = .ok t → t ∈ available sections ∧ ∀ u ∈ available sections, t ≤ u

/-! ## The search -/

/-- What is kept after these times. -/
def IsEarliest (times : List Time) : Option Time → Prop
  | none => times = []
  | some t => t ∈ times ∧ ∀ u ∈ times, t ≤ u

theorem available_cons (head : Option Time) (sections : List (Option Time)) :
    available (head :: sections) = available [head] ++ available sections := by
  unfold available
  cases head with
  | none => rfl
  | some t =>
      rw [List.reduceOption_cons_of_some, List.reduceOption_cons_of_some, ← List.singleton_append,
        List.filter_append]
      rfl

theorem available_nil : available [] = [] := rfl

theorem available_none : available [none] = [] := rfl

theorem available_zero : available [some 0] = [] := rfl

theorem available_of_ne_zero {t : Time} (h : t ≠ 0) : available [some t] = [t] :=
  List.filter_cons_of_pos (by simpa using h)

/-- A time that is not before the one kept changes nothing. -/
theorem IsEarliest.keep {times : List Time} {e t : Time} (h : IsEarliest times (some e))
    (hle : e ≤ t) : IsEarliest (times ++ [t]) (some e) := by
  refine ⟨List.mem_append_left _ h.1, ?_⟩
  intro u hu
  rcases List.mem_append.mp hu with hu | hu
  · exact h.2 u hu
  · rwa [List.mem_singleton.mp hu]

/-- One that is before it takes its place. -/
theorem IsEarliest.replace {times : List Time} {t : Time} (hle : ∀ u ∈ times, t ≤ u) :
    IsEarliest (times ++ [t]) (some t) := by
  refine ⟨List.mem_append_right _ (List.mem_singleton_self t), ?_⟩
  intro u hu
  rcases List.mem_append.mp hu with hu | hu
  · exact hle u hu
  · exact (List.mem_singleton.mp hu).ge

/-- One section. -/
theorem isEarliest_earlier {times : List Time} {earliest : Option Time}
    (h : IsEarliest times earliest) (time : Option Time) :
    IsEarliest (times ++ available [time]) (earlier earliest time) := by
  cases time with
  | none => simpa [earlier, available_none] using h
  | some t =>
      by_cases hzero : t = 0
      · subst hzero
        rw [available_zero, List.append_nil]
        cases earliest with
        | none => simpa [earlier] using h
        | some e => simpa [earlier] using h
      · rw [available_of_ne_zero hzero]
        cases earliest with
        | none =>
            have hkept : earlier none (some t) = some t := if_pos hzero
            rw [hkept]
            have hnone : times = [] := h
            rw [hnone]
            exact IsEarliest.replace (by simp)
        | some e =>
            by_cases hbefore : t < e
            · have hkept : earlier (some e) (some t) = some t := if_pos ⟨hzero, hbefore⟩
              rw [hkept]
              exact IsEarliest.replace fun u hu => hbefore.le.trans (h.2 u hu)
            · have hkept : earlier (some e) (some t) = some e := if_neg fun hboth => hbefore hboth.2
              rw [hkept]
              exact h.keep (not_lt.mp hbefore)

/-- All sections, in their order. -/
theorem isEarliest_foldl {times : List Time} {earliest : Option Time}
    (h : IsEarliest times earliest) (sections : List (Option Time)) :
    IsEarliest (times ++ available sections) (sections.foldl earlier earliest) := by
  induction sections generalizing times earliest with
  | nil => simpa [available_nil] using h
  | cons time sections ih =>
      rw [available_cons, ← List.append_assoc]
      exact ih (isEarliest_earlier h time)

theorem earliestOf_scrapeTime (sections : List (Option Time)) :
    EarliestOf sections (scrapeTime (sections.foldl earlier none)) := by
  have hnil : IsEarliest [] none := rfl
  have h := isEarliest_foldl hnil sections
  rw [List.nil_append] at h
  cases hkept : sections.foldl earlier none with
  | none =>
      rw [hkept] at h
      have hnone : available sections = [] := h
      exact ⟨iff_of_true ⟨_, rfl⟩ hnone, fun t ht => by cases ht⟩
  | some e =>
      rw [hkept] at h
      refine ⟨iff_of_false ?_ (List.ne_nil_of_mem h.1), fun t ht => ?_⟩
      · rintro ⟨err, herr⟩
        cases herr
      · cases ht
        exact h

/-- Whichever sections are there and whatever their times, each function
answers with the earliest time that it can have. -/
theorem scrapeTimes_earliest (cpu : Option CPUStats) (memory : Option MemoryStats)
    (network : Option NetworkStats) (fs : Option FsStats) :
    EarliestOf [cpu.map CPUStats.time, memory.map MemoryStats.time]
        (getScrapeTimePod cpu memory) ∧
      EarliestOf [cpu.map CPUStats.time, memory.map MemoryStats.time,
        network.map NetworkStats.time, fs.map FsStats.time]
        (getScrapeTimeNode cpu memory network fs) :=
  ⟨earliestOf_scrapeTime _, earliestOf_scrapeTime _⟩

/-- A section without a time does not count. -/
example : getScrapeTimeNode (some { time := 9 }) (some { time := 0 }) none (some { time := 7 }) =
    .ok 7 := by decide

end MetricCollector.Decode
