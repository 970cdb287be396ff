import SmdebugProfiler.Analysis.Statistics
import SmdebugProfiler.Analysis.DeviceUsage

/-!
# Calls on one object

Source: pandas_data_analysis.py:23-300. One `PandasFrameAnalysis` object
serves a sequence of calls. The only write after the constructor is
`_get_utilization_phase_by_time_interval`, called directly or by
`get_utilization_stats(by="training_phase")` once the interval table is built;
it writes the system table's `phase` column and nothing else. Every other
method only reads the two tables.

So every call keeps the object the same up to the `phase` labels
(`run_sameUpToLabels`). The interval table reads neither label, and it covers
every sample (`intervals_cover_samples`), so the relabelling overwrites every
label the history left: the `by="training_phase"` statistics do not depend on
the calls made before (`utilization_stats_history_independent`). No other
method reads the labels at all, so no call's result depends on the history
(`results_history_independent`, from `Call.result_congr`), and a repeated
`by="training_phase"` call leaves the object as it was
(`utilization_relabelling_idempotent`). Once such a call has labelled every
sample, no history takes a label away so long as its direct relabellings give
every row a phase (`labels_never_lost`); a caller's NaN phase clears labels.
-/

namespace SmdebugProfiler.Analysis
open SmdebugProfiler.Pandas

/-- A method call on the object, with its arguments. -/
inductive Call where
  | jobStatistics
  | stepStatistics (byColumn : String)
  | utilizationStats (byColumn : Option String) (phase : Option (List String))
  | deviceUsageStats (device : String) (utilizationRanges : Option (List (List ℚ)))
  | trainingPhaseIntervals (phase : Option (List String))
  | utilizationPhaseByTimeInterval (intervalDf : List PhaseRow)

/-- The object after a call, whether the call returns or raises; the result
of each call is its method's model (`getJobStatistics`, `getStepStatistics`,
`getUtilizationStats`, `getDeviceUsageStats`, `getTrainingPhaseIntervals`). -/
def Call.apply (self : PandasFrameAnalysis) : Call → PandasFrameAnalysis
  | .utilizationStats byColumn phase => (getUtilizationStats self byColumn phase).2
  | .utilizationPhaseByTimeInterval intervalDf => getUtilizationPhaseByTimeInterval self intervalDf
  | .jobStatistics | .stepStatistics _ | .deviceUsageStats _ _ | .trainingPhaseIntervals _ => self

/-- The object after a history of calls, oldest first. -/
def run (self : PandasFrameAnalysis) (history : List Call) : PandasFrameAnalysis :=
  history.foldl Call.apply self

/-- A sample without its `phase` label. -/
def SysRow.unlabelled (sample : SysRow) : SysRow := { sample with phase := none }

/-- Two objects that differ at most in the `phase` labels of the system table. -/
structure SameUpToLabels (a b : PandasFrameAnalysis) : Prop where
  framework : a.frameworkMetricsDf = b.frameworkMetricsDf
  samples : a.sysMetricsDf.map SysRow.unlabelled = b.sysMetricsDf.map SysRow.unlabelled

theorem SameUpToLabels.refl (self : PandasFrameAnalysis) : SameUpToLabels self self := ⟨rfl, rfl⟩

theorem SameUpToLabels.symm {a b : PandasFrameAnalysis} (same : SameUpToLabels a b) : SameUpToLabels b a :=
  ⟨same.framework.symm, same.samples.symm⟩

theorem SameUpToLabels.trans {a b c : PandasFrameAnalysis} (first : SameUpToLabels a b)
    (second : SameUpToLabels b c) : SameUpToLabels a c :=
  ⟨first.framework.trans second.framework, first.samples.trans second.samples⟩

theorem SameUpToLabels.timestamps {a b : PandasFrameAnalysis} (same : SameUpToLabels a b) :
    a.sysMetricsDf.map (·.timestampUs) = b.sysMetricsDf.map (·.timestampUs) := by
  have := congrArg (List.map (·.timestampUs)) same.samples
  simpa [List.map_map, Function.comp_def, SysRow.unlabelled] using this

/-! ### Every call keeps the object up to labels -/

theorem foldl_labelInterval_unlabelled (intervalDf : List PhaseRow) (sysMetricsDf : List SysRow) :
    (intervalDf.foldl labelInterval sysMetricsDf).map SysRow.unlabelled = sysMetricsDf.map SysRow.unlabelled := by
  simp [foldl_labelInterval, List.map_map, Function.comp_def, SysRow.unlabelled]

theorem labelling_sameUpToLabels (self : PandasFrameAnalysis) (intervalDf : List PhaseRow) :
    SameUpToLabels self (getUtilizationPhaseByTimeInterval self intervalDf) :=
  ⟨rfl, (foldl_labelInterval_unlabelled intervalDf self.sysMetricsDf).symm⟩

theorem apply_sameUpToLabels (self : PandasFrameAnalysis) (call : Call) :
    SameUpToLabels self (call.apply self) := by
  cases call with
  | utilizationStats byColumn phase =>
    simp only [Call.apply, getUtilizationStats]
    split
    · split
      · exact labelling_sameUpToLabels _ _
      · exact .refl _
    · exact .refl _
  | utilizationPhaseByTimeInterval intervalDf => exact labelling_sameUpToLabels _ _
  | _ => exact .refl _

theorem run_sameUpToLabels (self : PandasFrameAnalysis) (history : List Call) :
    SameUpToLabels self (run self history) := by
  induction history generalizing self with
  | nil => exact .refl _
  | cons call rest ih => exact (apply_sameUpToLabels self call).trans (ih _)

/-- No call writes the framework table: after any history it is the table the
constructor built, whose `duration_us` is `end_time_us - start_time_us` on
every row. -/
theorem framework_table_never_written (systemDf : List SysRow) (frameworkDf : List FrameworkRow)
    (history : List Call) :
    (run (.init systemDf frameworkDf) history).frameworkMetricsDf =
        frameworkDf.map (fun row => { row with durationUs := row.endTimeUs - row.startTimeUs }) ∧
      ∀ row ∈ (run (.init systemDf frameworkDf) history).frameworkMetricsDf,
        row.durationUs = row.endTimeUs - row.startTimeUs :=
  ⟨(run_sameUpToLabels _ history).framework.symm, (run _ history).durations_consistent⟩

/-! ### What the `by="training_phase"` statistics read -/

theorem getTrainingPhaseIntervals_congr {a b : PandasFrameAnalysis} (same : SameUpToLabels a b)
    (phase : Option (List String)) : getTrainingPhaseIntervals a phase = getTrainingPhaseIntervals b phase := by
  have least : a.sysMin = b.sysMin := by rw [sysMin_eq_min?, sysMin_eq_min?, same.timestamps]
  have greatest : a.sysMax = b.sysMax := by rw [sysMax_eq_max?, sysMax_eq_max?, same.timestamps]
  simp only [getTrainingPhaseIntervals, addBoundaryRows, same.framework, least, greatest]

/-- Rows that cover every sample leave labels that the old labels do not affect. -/
theorem foldl_labelInterval_of_covering {sysMetricsDf : List SysRow} {intervalDf : List PhaseRow}
    (covering : ∀ sample ∈ sysMetricsDf, ∃ row ∈ intervalDf, row.covers sample.timestampUs) :
    intervalDf.foldl labelInterval sysMetricsDf = (sysMetricsDf.map SysRow.unlabelled).map fun sample =>
      { sample with phase := phaseAfter intervalDf sample.timestampUs none } := by
  rw [foldl_labelInterval, List.map_map]
  refine List.map_congr_left fun sample member => ?_
  simp [SysRow.unlabelled, phaseAfter_of_covered (covering sample member)]

/-- Once the interval table is built, the `by="training_phase"` call leaves
the object with every sample labelled by the rows alone, whatever label it had. -/
theorem utilizationStats_object {self : PandasFrameAnalysis} {phase : Option (List String)}
    {rows : List IntervalRow} (returned : getTrainingPhaseIntervals self phase = .ok rows) :
    (getUtilizationStats self (some "training_phase") phase).2 =
      self.withSysMetrics ((self.sysMetricsDf.map SysRow.unlabelled).map fun sample =>
        { sample with phase := phaseAfter (rows.map IntervalRow.toPhaseRow) sample.timestampUs none }) := by
  simp only [getUtilizationStats, if_true, returned, getUtilizationPhaseByTimeInterval]
  rw [foldl_labelInterval_of_covering fun sample member =>
    toPhaseRow_covering (intervals_cover_samples self phase returned sample member)]

theorem utilizationStats_result {self : PandasFrameAnalysis} {phase : Option (List String)}
    {rows : List IntervalRow} (returned : getTrainingPhaseIntervals self phase = .ok rows) :
    (getUtilizationStats self (some "training_phase") phase).1 =
      utilizationTable true (getUtilizationStats self (some "training_phase") phase).2.sysMetricsDf := by
  simp only [getUtilizationStats, if_true, returned]

theorem utilizationStats_congr {a b : PandasFrameAnalysis} (same : SameUpToLabels a b)
    (phase : Option (List String)) :
    (getUtilizationStats a (some "training_phase") phase).1 = (getUtilizationStats b (some "training_phase") phase).1 := by
  have intervals := getTrainingPhaseIntervals_congr same phase
  cases returned : getTrainingPhaseIntervals a phase with
  | error e => simp only [getUtilizationStats, if_true, ← intervals, returned]
  | ok rows =>
    have returned' := intervals.symm.trans returned
    rw [utilizationStats_result returned, utilizationStats_result returned', utilizationStats_object returned,
      utilizationStats_object returned', withSysMetrics_sysMetricsDf, withSysMetrics_sysMetricsDf, same.samples]

/-! ### No result reads the labels -/

/-- What a call returns; `_get_utilization_phase_by_time_interval` returns `None`. -/
inductive CallResult where
  | jobStatistics (result : Except PyError JobStats)
  | stepStatistics (result : Except PyError (Option (List (String × Describe))))
  | utilizationStats (result : Except PyError (List UtilizationRow))
  | deviceUsageStats (result : Except PyError UsageStats)
  | trainingPhaseIntervals (result : Except PyError (List IntervalRow))
  | none

/-- The result of a call on the object. -/
def Call.result (self : PandasFrameAnalysis) : Call → CallResult
  | .jobStatistics => .jobStatistics (getJobStatistics self)
  | .stepStatistics byColumn => .stepStatistics (getStepStatistics self byColumn)
  | .utilizationStats byColumn phase => .utilizationStats (getUtilizationStats self byColumn phase).1
  | .deviceUsageStats device utilizationRanges =>
    .deviceUsageStats (getDeviceUsageStats self device utilizationRanges)
  | .trainingPhaseIntervals phase => .trainingPhaseIntervals (getTrainingPhaseIntervals self phase)
  | .utilizationPhaseByTimeInterval _ => .none

theorem SameUpToLabels.map_eq {a b : PandasFrameAnalysis} (same : SameUpToLabels a b) (read : SysRow → β)
    (blind : ∀ sample, read sample.unlabelled = read sample) : a.sysMetricsDf.map read = b.sysMetricsDf.map read := by
  simpa [List.map_map, Function.comp_def, blind] using congrArg (List.map read) same.samples

theorem resourceRows_unlabelled (sysMetricsDf : List SysRow) (resrc : String) :
    resourceRows (sysMetricsDf.map SysRow.unlabelled) resrc = (resourceRows sysMetricsDf resrc).map SysRow.unlabelled := by
  simp [resourceRows, List.filter_map, Function.comp_def, SysRow.unlabelled]

theorem SameUpToLabels.resourceRows_map {a b : PandasFrameAnalysis} (same : SameUpToLabels a b) (resrc : String)
    (read : SysRow → β) (blind : ∀ sample, read sample.unlabelled = read sample) :
    (resourceRows a.sysMetricsDf resrc).map read = (resourceRows b.sysMetricsDf resrc).map read := by
  simpa [resourceRows_unlabelled, List.map_map, Function.comp_def, blind] using
    congrArg (fun rows => (resourceRows rows resrc).map read) same.samples

theorem getJobStatistics_congr {a b : PandasFrameAnalysis} (same : SameUpToLabels a b) :
    getJobStatistics a = getJobStatistics b := by
  simp only [getJobStatistics, same.framework, same.map_eq (·.timestamp) fun _ => rfl, same.timestamps]

theorem getStepStatistics_congr {a b : PandasFrameAnalysis} (same : SameUpToLabels a b) (byColumn : String) :
    getStepStatistics a byColumn = getStepStatistics b byColumn := by
  simp only [getStepStatistics, same.framework]

theorem getUtilizationStats_congr {a b : PandasFrameAnalysis} (same : SameUpToLabels a b)
    (byColumn : Option String) (phase : Option (List String)) :
    (getUtilizationStats a byColumn phase).1 = (getUtilizationStats b byColumn phase).1 := by
  by_cases byPhase : byColumn = some "training_phase"
  · subst byPhase
    exact utilizationStats_congr same phase
  · have overall : resourceStats false a.sysMetricsDf = resourceStats false b.sysMetricsDf := funext fun resrc => by
      simp only [resourceStats, Bool.false_eq_true, if_false,
        same.resourceRows_map resrc (fun sample => (some resrc, sample.value)) fun _ => rfl]
    simp only [getUtilizationStats, if_neg byPhase, utilizationTable, overall]

theorem countBetween_congr {rows others : List SysRow} (values : rows.map (·.value) = others.map (·.value)) :
    countBetween rows = countBetween others := by
  funext start stop
  simp only [countBetween, ← List.countP_eq_length_filter]
  simpa [List.countP_map, Function.comp_def] using
    congrArg (List.countP fun value => between value (some start) (some stop)) values

theorem usageLoop_congr {rows others : List SysRow} (counts : countBetween rows = countBetween others)
    (rangesList : List (List ℚ)) (usage : List (List ℚ × Nat)) :
    usageLoop rows rangesList usage = usageLoop others rangesList usage := by
  induction rangesList generalizing usage with
  | nil => rfl
  | cons ranges rest ih => simp only [usageLoop, counts, ih]

theorem getDeviceUsageStats_congr {a b : PandasFrameAnalysis} (same : SameUpToLabels a b) (device : String)
    (utilizationRanges : Option (List (List ℚ))) :
    getDeviceUsageStats a device utilizationRanges = getDeviceUsageStats b device utilizationRanges :=
  usageLoop_congr (countBetween_congr (same.resourceRows_map device (·.value) fun _ => rfl)) _ _

/-- Two objects that differ only in the `phase` labels give every call the same result. -/
theorem Call.result_congr {a b : PandasFrameAnalysis} (same : SameUpToLabels a b) (call : Call) :
    call.result a = call.result b := by
  cases call with
  | jobStatistics => exact congrArg _ (getJobStatistics_congr same)
  | stepStatistics byColumn => exact congrArg _ (getStepStatistics_congr same byColumn)
  | utilizationStats byColumn phase => exact congrArg _ (getUtilizationStats_congr same byColumn phase)
  | deviceUsageStats device utilizationRanges =>
    exact congrArg _ (getDeviceUsageStats_congr same device utilizationRanges)
  | trainingPhaseIntervals phase => exact congrArg _ (getTrainingPhaseIntervals_congr same phase)
  | utilizationPhaseByTimeInterval _ => rfl

/-- No call's result depends on the calls made before it: after any history of
calls, every method returns what it returned on the object before them. The
one write, the relabelling of the `phase` column, is never observed. -/
theorem results_history_independent (self : PandasFrameAnalysis) (history : List Call) (call : Call) :
    call.result (run self history) = call.result self :=
  Call.result_congr (run_sameUpToLabels self history).symm call

/-- Calling `get_utilization_stats(by="training_phase")` again with the same
`phase` leaves the object as the first call left it: the second interval table
is the first, and it covers every sample, so it writes the labels it wrote
before. -/
theorem utilization_relabelling_idempotent (self : PandasFrameAnalysis) (phase : Option (List String)) :
    (Call.utilizationStats (some "training_phase") phase).apply
        ((Call.utilizationStats (some "training_phase") phase).apply self) =
      (Call.utilizationStats (some "training_phase") phase).apply self := by
  cases intervals : getTrainingPhaseIntervals self phase with
  | error e => simp only [Call.apply, getUtilizationStats, if_true, intervals]
  | ok rows =>
    have again := (getTrainingPhaseIntervals_congr
      (apply_sameUpToLabels self (.utilizationStats (some "training_phase") phase)) phase).symm.trans intervals
    simp only [Call.apply] at again ⊢
    rw [utilizationStats_object again, utilizationStats_object intervals]
    simp [PandasFrameAnalysis.withSysMetrics, List.map_map, Function.comp_def, SysRow.unlabelled]

/-! ### Labels once written stay -/

/-- Every sample of the system table carries a `phase` label. -/
def PandasFrameAnalysis.AllLabelled (self : PandasFrameAnalysis) : Prop :=
  ∀ sample ∈ self.sysMetricsDf, ∃ label, sample.phase = some label

/-- A call that writes a label wherever it writes: a direct relabelling writes
each row's phase as given, NaN included, so it does only when every row
carries a phase; the other calls write only phases of the table they build. -/
def Call.writesPhases : Call → Bool
  | .utilizationPhaseByTimeInterval intervalDf => intervalDf.all (·.phase.isSome)
  | _ => true

/-- Rows that all carry a phase leave a label on every sample that had one or
that one of them covers. -/
theorem relabelled_allLabelled {self : PandasFrameAnalysis} {intervalDf : List PhaseRow}
    (phases : ∀ row ∈ intervalDf, row.phase.isSome)
    (labelled : ∀ sample ∈ self.sysMetricsDf, sample.phase.isSome ∨ ∃ row ∈ intervalDf, row.covers sample.timestampUs) :
    (getUtilizationPhaseByTimeInterval self intervalDf).AllLabelled := by
  intro sample member
  simp only [getUtilizationPhaseByTimeInterval, withSysMetrics_sysMetricsDf, foldl_labelInterval, List.mem_map] at member
  obtain ⟨old, inTable, rfl⟩ := member
  exact Option.isSome_iff_exists.mp (phaseAfter_isSome phases (labelled old inTable))

theorem labelling_allLabelled {self : PandasFrameAnalysis} (labelled : self.AllLabelled) {intervalDf : List PhaseRow}
    (phases : ∀ row ∈ intervalDf, row.phase.isSome) :
    (getUtilizationPhaseByTimeInterval self intervalDf).AllLabelled :=
  relabelled_allLabelled phases fun sample member => .inl (Option.isSome_iff_exists.mpr (labelled sample member))

theorem apply_allLabelled {self : PandasFrameAnalysis} (labelled : self.AllLabelled) (call : Call)
    (writes : call.writesPhases) : (call.apply self).AllLabelled := by
  cases call with
  | utilizationStats byColumn phase =>
    simp only [Call.apply, getUtilizationStats]
    split
    · split
      · exact labelling_allLabelled labelled (toPhaseRow_phases _)
      · exact labelled
    · exact labelled
  | utilizationPhaseByTimeInterval intervalDf =>
    exact labelling_allLabelled labelled (by simpa [Call.writesPhases] using writes)
  | _ => exact labelled

theorem run_allLabelled {self : PandasFrameAnalysis} (labelled : self.AllLabelled) (history : List Call)
    (writes : ∀ call ∈ history, call.writesPhases) : (run self history).AllLabelled := by
  induction history generalizing self with
  | nil => exact labelled
  | cons call rest ih =>
    exact ih (apply_allLabelled labelled call (writes call (List.mem_cons_self _ _)))
      fun other member => writes other (List.mem_cons_of_mem _ member)

theorem utilizationStats_allLabelled {self : PandasFrameAnalysis} {phase : Option (List String)}
    {intervalDf : List IntervalRow} (intervals : getTrainingPhaseIntervals self phase = .ok intervalDf) :
    ((Call.utilizationStats (some "training_phase") phase).apply self).AllLabelled := by
  simp only [Call.apply, getUtilizationStats, if_true, intervals]
  exact relabelled_allLabelled (toPhaseRow_phases _) fun sample member =>
    .inr (toPhaseRow_covering (intervals_cover_samples self phase intervals sample member))

/-- A `get_utilization_stats(by="training_phase")` call whose interval table
is built leaves a label on every sample, and no later history takes one away
as long as each direct relabelling in it gives every row a phase: the
statistics only ever write the phases of the interval table they build. -/
theorem labels_never_lost (self : PandasFrameAnalysis) {phase : Option (List String)} {intervalDf : List IntervalRow}
    (intervals : getTrainingPhaseIntervals self phase = .ok intervalDf) (history : List Call)
    (writes : ∀ call ∈ history, call.writesPhases) :
    (run self (.utilizationStats (some "training_phase") phase :: history)).AllLabelled :=
  run_allLabelled (utilizationStats_allLabelled intervals) history writes

theorem one_step_labels_kept :
    getTrainingPhaseIntervals oneTrainStep (some ["Step:ModeKeys.TRAIN"]) =
        .ok [⟨some 0, some 9, "Before Step:ModeKeys.TRAIN"⟩, ⟨some 10, some 20, "Step:ModeKeys.TRAIN"⟩,
          ⟨some 9, some 100, "After Step:ModeKeys.TRAIN"⟩] ∧
      (∀ call ∈ [Call.utilizationPhaseByTimeInterval [⟨some 0, some 5, some "warmup"⟩], .jobStatistics],
        call.writesPhases) ∧
      (run oneTrainStep (.utilizationStats (some "training_phase") (some ["Step:ModeKeys.TRAIN"]) ::
        [.utilizationPhaseByTimeInterval [⟨some 0, some 5, some "warmup"⟩], .jobStatistics])).AllLabelled :=
  have intervals : getTrainingPhaseIntervals oneTrainStep (some ["Step:ModeKeys.TRAIN"]) =
      .ok [⟨some 0, some 9, "Before Step:ModeKeys.TRAIN"⟩, ⟨some 10, some 20, "Step:ModeKeys.TRAIN"⟩,
        ⟨some 9, some 100, "After Step:ModeKeys.TRAIN"⟩] := by decide
  ⟨intervals, by decide, labels_never_lost oneTrainStep intervals _ (by decide)⟩

/-- Every sample lies in some row of a returned interval table, so the
relabelling overwrites every sample's label: whatever history of calls came
before, the `by="training_phase"` call leaves each sample with the label the
interval rows give it, not one the history left. So after any history,
`get_utilization_stats(by="training_phase")` returns what it returns on a fresh
object over the same two tables. -/
theorem utilization_stats_history_independent (systemDf : List SysRow) (frameworkDf : List FrameworkRow)
    (phase : Option (List String)) :
    (∀ rows, getTrainingPhaseIntervals (.init systemDf frameworkDf) phase = .ok rows →
      ∀ sample ∈ systemDf, ∃ row ∈ rows, row.covers sample.timestampUs) ∧
    (∀ rows, getTrainingPhaseIntervals (.init systemDf frameworkDf) phase = .ok rows → ∀ history : List Call,
      (getUtilizationStats (run (.init systemDf frameworkDf) history) (some "training_phase") phase).2.sysMetricsDf =
        systemDf.map fun sample =>
          { sample with phase := phaseAfter (rows.map IntervalRow.toPhaseRow) sample.timestampUs none }) ∧
    ∀ history : List Call,
      (getUtilizationStats (run (.init systemDf frameworkDf) history) (some "training_phase") phase).1 =
        (getUtilizationStats (.init systemDf frameworkDf) (some "training_phase") phase).1 := by
  refine ⟨fun _ returned => intervals_cover_samples _ phase returned, fun rows returned history => ?_,
    fun history => utilizationStats_congr (run_sameUpToLabels _ history).symm phase⟩
  have same := run_sameUpToLabels (.init systemDf frameworkDf) history
  rw [utilizationStats_object ((getTrainingPhaseIntervals_congr same phase).symm.trans returned),
    withSysMetrics_sysMetricsDf, ← same.samples]
  simp [PandasFrameAnalysis.init, List.map_map, Function.comp_def, SysRow.unlabelled]

end SmdebugProfiler.Analysis
