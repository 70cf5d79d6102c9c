import MetricCollector.Analyzer.Readings
import Mathlib.Tactic.Linarith
import Mathlib.Tactic.Positivity
import Mathlib.Tactic.NormNum

/-!
# Metrics that mask another

A threshold function is to raise the alarm when some metric calls for it.  As a
chain it acts on the first metric that stops it, and the others are not looked
at.

* `nodeMet_iff` and `podMet_iff` say on which samples that makes no difference.
* `nodeMet_forall_iff` and `podMet_forall_iff` say for which averages it makes
  none on any sample: those of a node where the metrics with a trend come first,
  and those of a pod where no metric has one.
* `unmasked_iff` puts them together.
-/

namespace MetricCollector.Analyzer

open GoLib Grpcs Influx

/-! ## Nodes -/

/-- The verdict on a node is `0` when some metric above its limit trends. -/
def NodeMet (config : Config) (aver : NodeMetric) (curr : GrpcNode) : Prop :=
  nodeThreshold config aver curr = .ok 0 ↔
    ∃ f, NodeExceeds config aver curr f ∧ (aver.of f).Trends

/-- If the first metric above its limit has no trend, none above its limit has. -/
def NodeSound (config : Config) (aver : NodeMetric) (curr : GrpcNode) : Prop :=
  ∀ f, First (NodeExceeds config aver curr) f NodeField.all → ¬ (aver.of f).Trends →
    ∀ g, NodeExceeds config aver curr g → ¬ (aver.of g).Trends

/-- Some value of the metric is above its limit. -/
def NodeMetric.CanExceed (config : Config) (aver : NodeMetric) (f : NodeField) : Prop :=
  ∃ v, (aver.of f).Exceeds config .nodeThreshold v

/-- In the order of the chain, a metric with a trend stands before those without
one, among the metrics that a value can take above their limit. -/
def NodeTrendsFirst (config : Config) (aver : NodeMetric) : Prop :=
  NodeField.all.Pairwise fun f g =>
    aver.CanExceed config f → aver.CanExceed config g → (aver.of g).Trends → (aver.of f).Trends

section Node

variable {config : Config} {aver : NodeMetric} {curr : GrpcNode}

theorem nodeMet_iff_agrees : NodeMet config aver curr ↔
    Agrees (NodeExceeds config aver curr) (fun f => (aver.of f).Trends) NodeField.all := by
  unfold NodeMet Agrees
  rw [nodeThreshold_eq_zero_iff]
  refine iff_congr Iff.rfl (exists_congr fun f => ?_)
  exact (and_iff_right f.mem_all).symm

theorem nodeMet_iff : NodeMet config aver curr ↔ NodeSound config aver curr := by
  rw [nodeMet_iff_agrees, agrees_iff]
  refine forall_congr' fun f => imp_congr_right fun _ => imp_congr_right fun _ => ?_
  exact forall_congr' fun g => imp_iff_right g.mem_all

/-- A metric that some value takes above its limit is there at the largest. -/
theorem exceeds_maxValue {a : Average Int64} {frame : Frame} {v : Int64}
    (h : a.Exceeds config frame v) : a.Exceeds config frame Int64.maxValue := by
  rcases h with ⟨limit, hlimit, hlt⟩
  exact ⟨limit, hlimit, Int64.lt_of_lt_of_le hlt (Int64.le_maxValue v)⟩

/-- No metric is above its limit at the least value. -/
theorem not_exceeds_minValue {a : Average Int64} {frame : Frame} :
    ¬ a.Exceeds config frame Int64.minValue := by
  intro h
  rcases h with ⟨limit, -, hlt⟩
  exact Int64.not_lt_minValue hlt

open Classical in
/-- Any of the metrics that can exceed their limits do so on some sample, and
the others do not. -/
theorem exists_nodeExceeds {p : NodeField → Prop} (hp : ∀ f, p f → aver.CanExceed config f) :
    ∃ curr, ∀ f, NodeExceeds config aver curr f ↔ p f := by
  refine ⟨nodeAt fun f => if p f then Int64.maxValue else Int64.minValue, ?_⟩
  intro f
  unfold NodeExceeds Above
  rw [nodeCurrent_nodeAt]
  by_cases hf : p f
  · rw [if_pos hf]
    have hmay := hp f hf
    rcases hmay with ⟨v, hv⟩
    exact iff_of_true (exceeds_maxValue hv) hf
  · rw [if_neg hf]
    exact iff_of_false not_exceeds_minValue hf

theorem agrees_congr {α : Type} {p p' q : α → Prop} {xs : List α} (h : ∀ x, p x ↔ p' x) :
    Agrees p q xs ↔ Agrees p' q xs := by
  rw [funext fun x => propext (h x)]

theorem nodeMet_forall_iff :
    (∀ curr, NodeMet config aver curr) ↔ NodeTrendsFirst config aver := by
  rw [NodeTrendsFirst, ← forall_agrees_iff (by decide)]
  constructor
  · intro h p hp
    have hsample := exists_nodeExceeds hp
    rcases hsample with ⟨curr, hcurr⟩
    exact (agrees_congr hcurr).mp (nodeMet_iff_agrees.mp (h curr))
  · intro h curr
    exact nodeMet_iff_agrees.mpr (h _ fun f hf => ⟨_, hf⟩)

end Node

/-! ## Pods -/

/-- The metric is outside its interval. -/
def PodOutside (config : Config) (aver : PodMetric) (curr : Grpcs.PodMetric) (f : PodField) :
    Prop :=
  podCurrent curr f < (aver.of f).low config ∨ (aver.of f).high config < podCurrent curr f

/-- The verdict on a pod is `0` when some metric outside its interval trends and
is confirmed. -/
def PodMet (config : Config) (aver : PodMetric) (curr : Grpcs.PodMetric) (c : Client)
    (pattern : Exec (Bool × Client)) : Prop :=
  (∃ c', podThresholdOn config aver curr c pattern = .ok (0, c')) ↔
    ∃ f, PodOutside config aver curr f ∧ aver.Trends f ∧ Confirms pattern

/-- The first metric that stops the chain neither hides an alarm nor raises a
false one. -/
structure PodSound (config : Config) (aver : PodMetric) (curr : Grpcs.PodMetric) : Prop where
  /-- If the pattern is not asked about it, no metric outside its interval trends. -/
  noneMissed : ∀ f, First (PodStops config aver curr) f PodField.all →
    ¬ PodAsks config aver curr f → ∀ g, PodOutside config aver curr g → ¬ aver.Trends g
  /-- If the pattern is asked about it, some metric outside its interval trends. -/
  noneFalse : ∀ f, First (PodStops config aver curr) f PodField.all →
    PodAsks config aver curr f → ∃ g, PodOutside config aver curr g ∧ aver.Trends g

/-- Some sample of the metric is outside its interval. -/
def PodMetric.CanLeave (config : Config) (aver : PodMetric) (f : PodField) : Prop :=
  ∃ curr, PodOutside config aver curr f

/-- No metric that a sample can take out of its interval trends, and the CPU has
a deviation, or else the integer metrics have no room above their intervals. -/
structure PodQuiet (config : Config) (aver : PodMetric) : Prop where
  noTrend : ∀ f, aver.CanLeave config f → ¬ aver.Trends f
  cpuDeviates : 0 < aver.stDevCPU ∨ ∀ f, f ≠ .cpu →
    (aver.of f).stDev = 0 ∧ (aver.of f).aver = float64 Int64.maxValue

/-! ## Intervals -/

section Interval

variable {config : Config}

theorem confidencenum_pos (config : Config) : 0 < config.confidencenum := by
  unfold Config.confidencenum
  split_ifs <;> norm_num

theorem margin_nonneg (hsqrt : 0 < config.sqrtCount) {s : ℚ} (hs : 0 ≤ s) :
    0 ≤ config.margin s := by
  have hz := confidencenum_pos config
  unfold Config.margin
  positivity

theorem margin_pos (hsqrt : 0 < config.sqrtCount) {s : ℚ} (hs : 0 < s) :
    0 < config.margin s := by
  have hz := confidencenum_pos config
  unfold Config.margin
  positivity

@[simp] theorem margin_zero : config.margin 0 = 0 := by
  unfold Config.margin
  rw [mul_zero, zero_div]

variable {aver : PodMetric} {curr : Grpcs.PodMetric} {f : PodField}

theorem low_le_high (hsqrt : 0 < config.sqrtCount) (hdev : 0 ≤ (aver.of f).stDev) :
    (aver.of f).low config ≤ (aver.of f).high config := by
  have hmargin := margin_nonneg hsqrt hdev
  unfold Average.low Average.high
  linarith

/-- A metric outside its interval stops the chain. -/
theorem PodOutside.stops (hsqrt : 0 < config.sqrtCount) (hdev : 0 ≤ (aver.of f).stDev)
    (h : PodOutside config aver curr f) : PodStops config aver curr f := by
  have hends := low_le_high hsqrt hdev
  rcases h with hbelow | habove
  · exact .inr (lt_of_lt_of_le hbelow hends)
  · exact .inl (lt_of_le_of_lt hends habove)

/-- A metric at its average is inside its interval. -/
theorem not_podOutside_of_eq (hsqrt : 0 < config.sqrtCount) (hdev : 0 ≤ (aver.of f).stDev)
    (h : podCurrent curr f = (aver.of f).aver) : ¬ PodOutside config aver curr f := by
  have hmargin := margin_nonneg hsqrt hdev
  unfold PodOutside Average.low Average.high
  rw [h]
  intro hout
  rcases hout with hbelow | habove
  · linarith
  · linarith

/-- A metric at its average stops the chain only if it has a deviation, and then
it is above its lower end. -/
theorem podStops_of_eq (hsqrt : 0 < config.sqrtCount) (hdev : 0 ≤ (aver.of f).stDev)
    (h : podCurrent curr f = (aver.of f).aver) :
    PodStops config aver curr f ↔ 0 < (aver.of f).stDev := by
  unfold PodStops Average.low Average.high
  rw [h]
  constructor
  · intro hstops
    rcases hdev.lt_or_eq with hpos | hzero
    · exact hpos
    · rw [← hzero, margin_zero, sub_zero, add_zero] at hstops
      rcases hstops with hlt | hlt
      · exact absurd hlt (lt_irrefl _)
      · exact absurd hlt (lt_irrefl _)
  · intro hpos
    have hmargin := margin_pos hsqrt hpos
    left
    linarith

/-- With a deviation the chain stops at any sample of the metric. -/
theorem podStops_of_pos (hsqrt : 0 < config.sqrtCount) (hdev : 0 < (aver.of f).stDev) :
    PodStops config aver curr f := by
  have hmargin := margin_pos hsqrt hdev
  unfold PodStops Average.low Average.high
  rcases lt_or_ge ((aver.of f).aver - config.margin (aver.of f).stDev) (podCurrent curr f) with
    hlow | hlow
  · exact .inl hlow
  · right
    linarith

/-- Some sample takes the CPU out of its interval, at the upper end. -/
theorem cpu_canLeave (config : Config) (aver : PodMetric) : aver.CanLeave config .cpu := by
  refine ⟨{ podCPU := (aver.of .cpu).high config + 1 }, .inr ?_⟩
  show (aver.of .cpu).high config < (aver.of .cpu).high config + 1
  linarith

end Interval

/-! ## When a pod's verdict is right -/

section Pod

variable {config : Config} {aver : PodMetric} {curr : Grpcs.PodMetric}

/-- If the CPU stops the chain, it is what the chain stops at. -/
theorem first_eq_cpu {f : PodField} (hcpu : PodStops config aver curr .cpu)
    (h : First (PodStops config aver curr) f PodField.all) : f = .cpu :=
  (first_cons_of_pos hcpu).mp h

theorem podMet_iff (hsqrt : 0 < config.sqrtCount) (hdev : ∀ f, 0 ≤ (aver.of f).stDev)
    {c : Client} {pattern : Exec (Bool × Client)} :
    PodMet config aver curr c pattern ↔ (Confirms pattern → PodSound config aver curr) := by
  unfold PodMet
  rw [podThresholdOn_eq_zero_iff]
  by_cases hconfirms : Confirms pattern
  · constructor
    · intro h _
      constructor
      · intro f hf hquiet g hout htrend
        have halarm := (h.mpr ⟨g, hout, htrend, hconfirms⟩).1
        rcases halarm with ⟨f', hf', hasks⟩
        rw [hf'.unique hf] at hasks
        exact hquiet hasks
      · intro f hf hasks
        have hsome := h.mp ⟨⟨f, hf, hasks⟩, hconfirms⟩
        rcases hsome with ⟨g, hout, htrend, -⟩
        exact ⟨g, hout, htrend⟩
    · intro h
      have hsound := h hconfirms
      constructor
      · intro halarm
        rcases halarm.1 with ⟨f, hf, hasks⟩
        have hsome := hsound.noneFalse f hf hasks
        rcases hsome with ⟨g, hout, htrend⟩
        exact ⟨g, hout, htrend, hconfirms⟩
      · intro hsome
        rcases hsome with ⟨g, hout, htrend, -⟩
        have hfirst := exists_first g.mem_all (hout.stops hsqrt (hdev g))
        rcases hfirst with ⟨f, hf⟩
        refine ⟨⟨f, hf, ?_⟩, hconfirms⟩
        by_contra hquiet
        exact hsound.noneMissed f hf hquiet g hout htrend
  · constructor
    · intro _ h
      exact absurd h hconfirms
    · intro _
      constructor
      · intro halarm
        exact absurd halarm.2 hconfirms
      · intro hsome
        rcases hsome with ⟨g, -, -, h⟩
        exact absurd h hconfirms

/-! ## When it is right on every sample -/

/-- The CPU is the first metric, so it is what the chain stops at if it stops
there. -/
theorem first_cpu (hcpu : PodStops config aver curr .cpu) :
    First (PodStops config aver curr) .cpu PodField.all :=
  (first_cons_of_pos hcpu).mpr rfl

/-- Below its interval the CPU stops the chain without a question. -/
theorem cpu_noTrend (hsqrt : 0 < config.sqrtCount) (hdev : ∀ f, 0 ≤ (aver.of f).stDev)
    (h : ∀ curr, PodSound config aver curr) : ¬ aver.Trends .cpu := by
  have hends := low_le_high hsqrt (hdev .cpu)
  let curr : Grpcs.PodMetric := { podCPU := (aver.of .cpu).low config - 1 }
  have hvalue : podCurrent curr .cpu = (aver.of .cpu).low config - 1 := rfl
  have hout : PodOutside config aver curr .cpu := by
    left
    rw [hvalue]
    linarith
  have hquiet : ¬ PodAsks config aver curr .cpu := by
    intro hasks
    have hlow := hasks.1
    rw [hvalue] at hlow
    linarith
  exact (h curr).noneMissed .cpu (first_cpu (hout.stops hsqrt (hdev .cpu))) hquiet .cpu hout

/-- A CPU that is above its interval without a trend hides the other metrics. -/
theorem noTrend_of_sound (hsqrt : 0 < config.sqrtCount) (hdev : ∀ f, 0 ≤ (aver.of f).stDev)
    (h : ∀ curr, PodSound config aver curr) {f : PodField} (hf : aver.CanLeave config f) :
    ¬ aver.Trends f := by
  have hcpu := cpu_noTrend hsqrt hdev h
  by_cases hfield : f = .cpu
  · rw [hfield]
    exact hcpu
  · rcases hf with ⟨out, hout⟩
    have hleave := cpu_canLeave config aver
    rcases hleave with ⟨high, hhigh⟩
    let curr := podMix fun g => if g = f then out else high
    have hvalue : podCurrent curr f = podCurrent out f := by
      rw [podCurrent_podMix, if_pos rfl]
    have hcpuValue : podCurrent curr .cpu = podCurrent high .cpu := by
      rw [podCurrent_podMix, if_neg (Ne.symm hfield)]
    have houtside : PodOutside config aver curr f := by
      unfold PodOutside
      rwa [hvalue]
    have hcpuOutside : PodOutside config aver curr .cpu := by
      unfold PodOutside
      rwa [hcpuValue]
    have hquiet : ¬ PodAsks config aver curr .cpu := fun hasks => hcpu (hasks.2 rfl)
    exact (h curr).noneMissed .cpu (first_cpu (hcpuOutside.stops hsqrt (hdev .cpu))) hquiet f
      houtside

/-- Without a deviation of the CPU, an integer metric that stops the chain on a
sample inside all intervals raises a false alarm. -/
theorem stDev_eq_zero_of_sound (hsqrt : 0 < config.sqrtCount)
    (hdev : ∀ f, 0 ≤ (aver.of f).stDev) (h : ∀ curr, PodSound config aver curr)
    (hcpu : aver.stDevCPU = 0) (f : PodField) : (aver.of f).stDev = 0 := by
  have hvalue := podCurrent_sample aver
  by_contra hne
  have hpos : 0 < (aver.of f).stDev := lt_of_le_of_ne (hdev f) (Ne.symm hne)
  have hfirst := exists_first f.mem_all
    ((podStops_of_eq hsqrt (hdev f) (hvalue f)).mpr hpos)
  rcases hfirst with ⟨g, hg⟩
  have hgpos := (podStops_of_eq hsqrt (hdev g) (hvalue g)).mp hg.mem_and_holds.2
  have hnotCpu : g ≠ .cpu := by
    rintro rfl
    exact absurd hcpu (ne_of_gt hgpos)
  have hasks : PodAsks config aver aver.sample g := by
    have hmargin := margin_pos hsqrt hgpos
    refine ⟨?_, fun heq => absurd heq hnotCpu⟩
    rw [hvalue g, Average.low]
    linarith
  have hsome := (h aver.sample).noneFalse g hg hasks
  rcases hsome with ⟨k, hk, -⟩
  exact not_podOutside_of_eq hsqrt (hdev k) (hvalue k) hk

/-- Without any deviation, an integer metric that rises above its average does
the same. -/
theorem aver_eq_maxValue_of_sound (hsqrt : 0 < config.sqrtCount)
    (h : ∀ curr, PodSound config aver curr) (hzero : ∀ f, (aver.of f).stDev = 0)
    (hnoTrend : ∀ f, aver.CanLeave config f → ¬ aver.Trends f) {f : PodField}
    (hf : f ≠ .cpu) : (aver.of f).aver = float64 Int64.maxValue := by
  have hdev : ∀ f, 0 ≤ (aver.of f).stDev := fun f => le_of_eq (hzero f).symm
  by_contra hne
  have hle := podCurrent_le_maxValue aver.sample hf
  rw [podCurrent_sample] at hle
  have hlt : (aver.of f).aver < float64 Int64.maxValue := lt_of_le_of_ne hle hne
  let curr := podMix fun g => if g = f then fullSample else aver.sample
  have hother : ∀ g, g ≠ f → podCurrent curr g = (aver.of g).aver := by
    intro g hg
    rw [podCurrent_podMix, if_neg hg, podCurrent_sample]
  have hvalue : podCurrent curr f = float64 Int64.maxValue := by
    rw [podCurrent_podMix, if_pos rfl, podCurrent_fullSample hf]
  have hlow : (aver.of f).low config < podCurrent curr f := by
    rwa [Average.low, hzero f, margin_zero, sub_zero, hvalue]
  have honly : ∀ g, PodStops config aver curr g → g = f := by
    intro g hg
    by_contra hgf
    have hpos := (podStops_of_eq hsqrt (hdev g) (hother g hgf)).mp hg
    exact absurd (hzero g) (ne_of_gt hpos)
  have hfirst := exists_first f.mem_all (show PodStops config aver curr f from .inl hlow)
  rcases hfirst with ⟨g, hg⟩
  rw [honly g hg.mem_and_holds.2] at hg
  have hsome := (h curr).noneFalse f hg ⟨hlow, fun heq => absurd heq hf⟩
  rcases hsome with ⟨k, hk, htrend⟩
  exact hnoTrend k ⟨curr, hk⟩ htrend

/-- Averages without a trend never call for an alarm, and none is raised. -/
theorem PodQuiet.sound (hquiet : PodQuiet config aver) (hsqrt : 0 < config.sqrtCount)
    (curr : Grpcs.PodMetric) : PodSound config aver curr := by
  refine ⟨fun _ _ _ g hout => hquiet.noTrend g ⟨curr, hout⟩, ?_⟩
  intro f hf hasks
  have hcpu : f ≠ .cpu := by
    intro heq
    exact hquiet.noTrend .cpu (cpu_canLeave config aver) (hasks.2 heq)
  rcases hquiet.cpuDeviates with hpos | hfull
  · exact absurd (first_eq_cpu (podStops_of_pos hsqrt hpos) hf) hcpu
  · have hf' := hfull f hcpu
    have hlow := hasks.1
    rw [Average.low, hf'.1, hf'.2, margin_zero, sub_zero] at hlow
    exact absurd (podCurrent_le_maxValue curr hcpu) (not_le_of_gt hlow)

theorem podMet_forall_iff (hsqrt : 0 < config.sqrtCount) (hdev : ∀ f, 0 ≤ (aver.of f).stDev) :
    (∀ curr c pattern, PodMet config aver curr c pattern) ↔ PodQuiet config aver := by
  constructor
  · intro hmet
    let c : Client := { reply := fun _ _ => .failed "" }
    have h : ∀ curr, PodSound config aver curr := fun curr =>
      (podMet_iff hsqrt hdev).mp (hmet curr c (.ok (true, c))) ⟨c, rfl⟩
    have hnoTrend : ∀ f, aver.CanLeave config f → ¬ aver.Trends f :=
      fun f hf => noTrend_of_sound hsqrt hdev h hf
    refine ⟨hnoTrend, ?_⟩
    rcases (hdev .cpu).lt_or_eq with hpos | hzero
    · exact .inl hpos
    · have hall := stDev_eq_zero_of_sound hsqrt hdev h hzero.symm
      exact .inr fun f hf => ⟨hall f, aver_eq_maxValue_of_sound hsqrt h hall hnoTrend hf⟩
  · intro hquiet curr c pattern
    exact (podMet_iff hsqrt hdev).mpr fun _ => hquiet.sound hsqrt curr

end Pod

/-! ## Both -/

/-- On a sample the verdicts are right exactly when the metric that stops the
chain masks no other and raises no false alarm.  They are right on all samples
exactly for a node whose metrics with a trend come first and for a pod no metric
of which has a trend. -/
theorem unmasked_iff (config : Config) (hsqrt : 0 < config.sqrtCount) (pod : PodMetric)
    (hdev : ∀ f, 0 ≤ (pod.of f).stDev) (node : NodeMetric) :
    (∀ curr c pattern, PodMet config pod curr c pattern ↔
        (Confirms pattern → PodSound config pod curr)) ∧
      ((∀ curr c pattern, PodMet config pod curr c pattern) ↔ PodQuiet config pod) ∧
      (∀ curr, NodeMet config node curr ↔ NodeSound config node curr) ∧
      ((∀ curr, NodeMet config node curr) ↔ NodeTrendsFirst config node) :=
  ⟨fun _ _ _ => podMet_iff hsqrt hdev, podMet_forall_iff hsqrt hdev,
    fun _ => nodeMet_iff, nodeMet_forall_iff⟩

/-- Four rows are averaged. -/
def fourRows : Config where
  countNumber := 4
  sqrt _ := 2

/-- A pod on which only the CPU trends. -/
def leadingPod : PodMetric where
  averCPU := 100
  stDevCPU := 10
  cpuList := [103, 102, 101, 100]
  averMemory := 100
  stDevMemory := 10
  memoryList := [100, 100, 100, 100]

/-- A node on which only the CPU trends. -/
def leadingNode : NodeMetric where
  averCpu := 100
  stDevCpu := 10
  cpuList := [103, 102, 101, 100]
  averMemory := 100
  stDevMemory := 10
  memoryList := [100, 100, 100, 100]

/-- With CPU and memory both high the CPU, which trends, comes first. -/
theorem unmasked_when_leading :
    (∀ c pattern, PodMet fourRows leadingPod { podCPU := 1000, podMemory := 1000 } c pattern) ∧
      (leadingNode.of .cpu).Trends ∧ ∀ curr, NodeMet fourRows leadingNode curr := by
  have hdev : ∀ f, 0 ≤ (leadingPod.of f).stDev := by
    intro f
    cases f <;> decide +kernel
  have hstops : PodStops fourRows leadingPod { podCPU := 1000, podMemory := 1000 } .cpu :=
    .inl (by decide +kernel)
  have hasks : PodAsks fourRows leadingPod { podCPU := 1000, podMemory := 1000 } .cpu :=
    ⟨by decide +kernel, fun _ => by decide +kernel⟩
  have hout : PodOutside fourRows leadingPod { podCPU := 1000, podMemory := 1000 } .cpu :=
    .inr (by decide +kernel)
  have htrend : leadingPod.Trends .cpu := by decide +kernel
  have hrest : ∀ g ∈ NodeField.all.tail, ¬ (leadingNode.of g).Trends := by
    intro g hg
    cases g
    case cpu => exact absurd hg (by decide)
    all_goals decide +kernel
  obtain ⟨hpods, -, -, hnodes⟩ :=
    unmasked_iff fourRows (by decide +kernel) leadingPod hdev leadingNode
  refine ⟨fun c pattern => (hpods _ c pattern).mpr fun _ => ⟨?_, ?_⟩, by decide +kernel,
    hnodes.mpr ?_⟩
  · intro f hf hquiet
    rw [first_eq_cpu hstops hf] at hquiet
    exact absurd hasks hquiet
  · intro f _ _
    exact ⟨.cpu, hout, htrend⟩
  · -- the CPU is first, and no other metric trends
    exact List.Pairwise.cons (fun g hg _ _ hgt => absurd hgt (hrest g hg))
      (List.pairwise_of_forall_mem_list fun _ _ g hg _ _ hgt => absurd hgt (hrest g hg))

/-- A node on which only the memory trends. -/
def risingNode : NodeMetric where
  averCpu := 100
  stDevCpu := 10
  cpuList := [100, 100, 100, 100]
  averMemory := 100
  stDevMemory := 10
  memoryList := [103, 102, 101, 100]

/-- A pod on which only the memory trends. -/
def risingPod : PodMetric where
  averCPU := 100
  stDevCPU := 10
  cpuList := [100, 100, 100, 100]
  averMemory := 100
  stDevMemory := 10
  memoryList := [103, 102, 101, 100]

/-- With CPU and memory both high, the CPU hides the memory. -/
theorem unmasked_fails_when_rising :
    (¬ ∀ (config : Config) (aver : PodMetric) (curr : Grpcs.PodMetric) (c : Client)
        (pattern : Exec (Bool × Client)), 0 < config.sqrtCount →
        (∀ f, 0 ≤ (aver.of f).stDev) → PodMet config aver curr c pattern) ∧
      ¬ ∀ (config : Config) (aver : NodeMetric) (curr : GrpcNode), 0 < config.sqrtCount →
        NodeMet config aver curr := by
  have hsqrt : 0 < fourRows.sqrtCount := by decide +kernel
  constructor
  · intro hclaim
    have hdev : ∀ f, 0 ≤ (risingPod.of f).stDev := by
      intro f
      cases f <;> decide +kernel
    let c : Client := { reply := fun _ _ => .failed "" }
    let curr : Grpcs.PodMetric := { podCPU := 1000, podMemory := 1000 }
    have hmet := hclaim fourRows risingPod curr c (.ok (true, c)) hsqrt hdev
    have hsound := (podMet_iff hsqrt hdev).mp hmet ⟨c, rfl⟩
    have hstops : PodStops fourRows risingPod curr .cpu := .inl (by decide +kernel)
    have hquiet : ¬ PodAsks fourRows risingPod curr .cpu := by
      intro hasks
      exact absurd (hasks.2 rfl) (by decide +kernel)
    have hout : PodOutside fourRows risingPod curr .memory := .inr (by decide +kernel)
    have hnot := hsound.noneMissed .cpu (first_cpu hstops) hquiet .memory hout
    exact hnot (by decide +kernel)
  · intro hclaim
    let curr : GrpcNode := { grpcNodeCPU := 1000, grpcNodeMemory := 1000 }
    have hmet := hclaim fourRows risingNode curr hsqrt
    have hverdict : nodeThreshold fourRows risingNode curr = .ok 1 := by decide +kernel
    have hmemory : NodeExceeds fourRows risingNode curr .memory :=
      ⟨500, by decide +kernel, by decide +kernel⟩
    have htrend : (risingNode.of .memory).Trends := by decide +kernel
    rw [hmet.mpr ⟨.memory, hmemory, htrend⟩] at hverdict
    cases hverdict

end MetricCollector.Analyzer
