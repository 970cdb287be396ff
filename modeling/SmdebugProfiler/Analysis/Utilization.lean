import SmdebugProfiler.Analysis.IntervalCover

/-!
# Utilization statistics per training phase

Source: pandas_data_analysis.py:125-213. With `by="training_phase"` the
method builds the interval table and applies its rows to the system table one
after another, each overwriting the `phase` of the samples it covers; then it
describes the `cpu` and `gpu` samples grouped by that label.

This write is the object's only state change, and it happens before the
statistics are computed, so a call that raises while describing has already
relabelled the table. Applied row after row, the writes let the last
covering row win, its phase written as given, NaN included
(`relabelling_last_covering_row`); `phaseAfter_of_covered` is the fact the
later results use: a covered sample's final label does not depend on the
label it had.

The `After` row is applied last and starts one before the last tracked
interval, so every sample from there on ends labelled `After`, the samples of
that interval included (`late_samples_labelled_after`). The statistics are,
per resource, one `describe` per label over exactly the samples carrying it
(`utilization_stats_by_phase`), the labels in ascending order
(`utilization_rows_ascending`). The call returns exactly when both resources
have samples and, by phase, the interval table is built
(`utilization_stats_returns_iff`).
-/

namespace SmdebugProfiler.Analysis
open SmdebugProfiler.Pandas

/-- `timestamp_us.between(start_time_us, end_time_us, inclusive=True)` for one sample. -/
def PhaseRow.covers (row : PhaseRow) (timestampUs : Int) : Bool :=
  between timestampUs row.startTimeUs row.endTimeUs

@[simp] theorem covers_toPhaseRow (row : IntervalRow) (timestampUs : Int) :
    row.toPhaseRow.covers timestampUs = row.covers timestampUs := rfl

/-- The nested `helper(start, end, phase)` for one interval row. -/
def labelInterval (sysMetricsDf : List SysRow) (row : PhaseRow) : List SysRow :=
  sysMetricsDf.map fun sample =>
    if row.covers sample.timestampUs then { sample with phase := row.phase } else sample

/-- `_get_utilization_phase_by_time_interval`: `interval_df.apply(..., axis=1)`
runs the helper on the rows in order. -/
def getUtilizationPhaseByTimeInterval (self : PandasFrameAnalysis) (intervalDf : List PhaseRow) :
    PandasFrameAnalysis :=
  self.withSysMetrics (intervalDf.foldl labelInterval self.sysMetricsDf)

/-- A row of the table `get_utilization_stats` returns; the phase column is
there only when grouping by training phase. -/
structure UtilizationRow where
  resource : String
  trainingPhase : Option String
  stats : Describe
  deriving DecidableEq, Repr

/-- `resources = ["cpu", "gpu"]`. -/
def resources : List String := ["cpu", "gpu"]

/-- `sys_metrics_df[sys_metrics_df["system_metric"].str.contains(resrc)]`. -/
def resourceRows (sysMetricsDf : List SysRow) (resrc : String) : List SysRow :=
  sysMetricsDf.filter fun sample => strContains sample.systemMetric resrc

/-- One pass of `for resrc in resources`: `groupby("phase")` or
`groupby(lambda _: resrc)` of the `value` column, then `describe`. -/
def resourceStats (byPhase : Bool) (sysMetricsDf : List SysRow) (resrc : String) :
    Except PyError (List UtilizationRow) :=
  let rows := resourceRows sysMetricsDf resrc
  if byPhase then
    (·.map fun group => ⟨resrc, some group.1, group.2⟩) <$>
      describeGroups (groupBy strLe (rows.map fun sample => (sample.phase, sample.value)))
  else
    (·.map fun group => ⟨group.1, none, group.2⟩) <$>
      describeGroups (groupBy strLe (rows.map fun sample => (some resrc, sample.value)))

/-- The statistics of a (possibly relabelled) system table; `pd.concat` of the
per-resource tables. -/
def utilizationTable (byPhase : Bool) (sysMetricsDf : List SysRow) : Except PyError (List UtilizationRow) :=
  List.flatten <$> resources.mapM (resourceStats byPhase sysMetricsDf)

/-- `get_utilization_stats(by, phase)`: the result and the object after the
call. The relabelling, by the interval table just built, is kept whether or
not the statistics raise. -/
def getUtilizationStats (self : PandasFrameAnalysis) (byColumn : Option String)
    (phase : Option (List String)) : Except PyError (List UtilizationRow) × PandasFrameAnalysis :=
  if byColumn = some "training_phase" then
    match getTrainingPhaseIntervals self phase with
    | .ok intervalDf =>
      let labelled := getUtilizationPhaseByTimeInterval self (intervalDf.map IntervalRow.toPhaseRow)
      (utilizationTable true labelled.sysMetricsDf, labelled)
    | .error e => (.error e, self)
  else (utilizationTable false self.sysMetricsDf, self)

/-! ### What the statistics report -/

theorem resourceStats_byPhase {sysMetricsDf : List SysRow} {resrc : String} {rows : List UtilizationRow}
    (returned : resourceStats true sysMetricsDf resrc = .ok rows) :
    (rows.map (·.trainingPhase)).Nodup ∧
      (∀ label, some label ∈ rows.map (·.trainingPhase) ↔
        ∃ sample ∈ resourceRows sysMetricsDf resrc, sample.phase = some label) ∧
      ∀ row ∈ rows, row.resource = resrc ∧ ∃ label first rest, row.trainingPhase = some label ∧
        ((resourceRows sysMetricsDf resrc).filter (·.phase = some label)).map (·.value) = first :: rest ∧
        row.stats = describe first rest := by
  rw [resourceStats, if_pos rfl] at returned
  cases described : describeGroups (groupBy strLe ((resourceRows sysMetricsDf resrc).map fun sample =>
      (sample.phase, sample.value))) with
  | error e => rw [described] at returned; cases returned
  | ok out =>
    rw [described] at returned
    obtain rfl := (Except.ok.inj returned).symm
    obtain ⟨distinct, keys, entries⟩ := describeGroups_groupBy strLe described
    have phases : (out.map fun group => (⟨resrc, some group.1, group.2⟩ : UtilizationRow)).map (·.trainingPhase) =
        (out.map Prod.fst).map some := by simp [Function.comp_def]
    refine ⟨phases ▸ distinct.map (Option.some_injective _), fun label => ?_, fun row member => ?_⟩
    · rw [phases, List.mem_map_of_injective (Option.some_injective _), keys]
      simp
    · obtain ⟨group, inOut, rfl⟩ := List.mem_map.mp member
      obtain ⟨first, rest, values, stats⟩ := entries group inOut
      refine ⟨rfl, group.1, first, rest, rfl, Eq.trans ?_ values, stats⟩
      simp [List.filter_map, Function.comp_def]

theorem utilizationTable_split {byPhase : Bool} {sysMetricsDf : List SysRow} {table : List UtilizationRow}
    (returned : utilizationTable byPhase sysMetricsDf = .ok table) :
    ∃ cpu gpu, resourceStats byPhase sysMetricsDf "cpu" = .ok cpu ∧
      resourceStats byPhase sysMetricsDf "gpu" = .ok gpu ∧ table = cpu ++ gpu := by
  simp only [utilizationTable, resources, List.mapM_cons, List.mapM_nil] at returned
  cases cpuStats : resourceStats byPhase sysMetricsDf "cpu" with
  | error e => rw [cpuStats, error_bind] at returned; cases returned
  | ok cpu =>
    cases gpuStats : resourceStats byPhase sysMetricsDf "gpu" with
    | error e => rw [cpuStats, ok_bind, gpuStats, error_bind] at returned; cases returned
    | ok gpu =>
      rw [cpuStats, ok_bind, gpuStats, ok_bind] at returned
      exact ⟨cpu, gpu, rfl, rfl, by simpa using (Except.ok.inj returned).symm⟩

theorem resourceStats_overall {sysMetricsDf : List SysRow} {resrc : String} {rows : List UtilizationRow}
    (returned : resourceStats false sysMetricsDf resrc = .ok rows) :
    ∃ first rest, (resourceRows sysMetricsDf resrc).map (·.value) = first :: rest ∧
      rows = [⟨resrc, none, describe first rest⟩] := by
  rw [resourceStats, if_neg Bool.false_ne_true] at returned
  cases samples : resourceRows sysMetricsDf resrc with
  | nil => simp [samples, groupBy, describeGroups] at returned
  | cons sample more =>
    simp only [samples, groupBy_const] at returned
    simp only [describeGroups, List.isEmpty_cons, Bool.false_eq_true, if_false, List.mapM_cons, List.mapM_nil,
      describeGroup, List.map_cons, ok_bind] at returned
    exact ⟨_, _, rfl, (Except.ok.inj returned).symm⟩

/-- Without `by="training_phase"`, `get_utilization_stats` reports one row for
`cpu` and one for `gpu`, each the `describe` of the values of all the samples
whose metric contains it; so it returns only when both resources have samples. -/
theorem utilization_stats_overall (self : PandasFrameAnalysis) {byColumn : Option String}
    (overall : byColumn ≠ some "training_phase") (phase : Option (List String)) {table : List UtilizationRow}
    (returned : (getUtilizationStats self byColumn phase).1 = .ok table) :
    ∃ cpuFirst cpuRest gpuFirst gpuRest,
      (resourceRows self.sysMetricsDf "cpu").map (·.value) = cpuFirst :: cpuRest ∧
      (resourceRows self.sysMetricsDf "gpu").map (·.value) = gpuFirst :: gpuRest ∧
      table = [⟨"cpu", none, describe cpuFirst cpuRest⟩, ⟨"gpu", none, describe gpuFirst gpuRest⟩] := by
  rw [getUtilizationStats, if_neg overall] at returned
  obtain ⟨cpu, gpu, cpuStats, gpuStats, rfl⟩ := utilizationTable_split returned
  obtain ⟨cpuFirst, cpuRest, cpuValues, rfl⟩ := resourceStats_overall cpuStats
  obtain ⟨gpuFirst, gpuRest, gpuValues, rfl⟩ := resourceStats_overall gpuStats
  exact ⟨cpuFirst, cpuRest, gpuFirst, gpuRest, cpuValues, gpuValues, rfl⟩

/-- With `by="training_phase"`, `get_utilization_stats` reports the `cpu` rows,
then the `gpu` rows; for each resource, one row per phase label its samples
carry after the relabelling, with the `describe` of the values of exactly the
samples under that label. -/
theorem utilization_stats_by_phase (self : PandasFrameAnalysis) (phase : Option (List String))
    {table : List UtilizationRow} (returned : (getUtilizationStats self (some "training_phase") phase).1 = .ok table) :
    ∃ cpu gpu, table = cpu ++ gpu ∧ ∀ resrc rows, (resrc, rows) ∈ [("cpu", cpu), ("gpu", gpu)] →
      let labelled := (getUtilizationStats self (some "training_phase") phase).2.sysMetricsDf
      (rows.map (·.trainingPhase)).Nodup ∧
      (∀ label, some label ∈ rows.map (·.trainingPhase) ↔
        ∃ sample ∈ resourceRows labelled resrc, sample.phase = some label) ∧
      ∀ row ∈ rows, row.resource = resrc ∧ ∃ label first rest, row.trainingPhase = some label ∧
        ((resourceRows labelled resrc).filter (·.phase = some label)).map (·.value) = first :: rest ∧
        row.stats = describe first rest := by
  have computed : utilizationTable true (getUtilizationStats self (some "training_phase") phase).2.sysMetricsDf =
      .ok table := by
    cases intervals : getTrainingPhaseIntervals self phase with
    | error e => simp [getUtilizationStats, intervals] at returned
    | ok intervalDf => simpa [getUtilizationStats, intervals] using returned
  obtain ⟨cpu, gpu, cpuStats, gpuStats, rfl⟩ := utilizationTable_split computed
  refine ⟨cpu, gpu, rfl, fun resrc rows member => ?_⟩
  simp only [List.mem_cons, Prod.mk.injEq, List.mem_singleton, List.not_mem_nil, or_false] at member
  rcases member with ⟨rfl, rfl⟩ | ⟨rfl, rfl⟩
  · exact resourceStats_byPhase cpuStats
  · exact resourceStats_byPhase gpuStats

theorem resourceStats_byPhase_ascending {sysMetricsDf : List SysRow} {resrc : String} {rows : List UtilizationRow}
    (returned : resourceStats true sysMetricsDf resrc = .ok rows) :
    ∃ labels : List String, rows.map (·.trainingPhase) = labels.map some ∧
      labels.Pairwise fun a b => strLt a b = true := by
  rw [resourceStats, if_pos rfl] at returned
  cases described : describeGroups (groupBy strLe ((resourceRows sysMetricsDf resrc).map fun sample =>
      (sample.phase, sample.value))) with
  | error e => rw [described] at returned; cases returned
  | ok out =>
    rw [described] at returned
    obtain rfl := (Except.ok.inj returned).symm
    exact ⟨out.map Prod.fst, by simp [Function.comp_def], describeGroups_groupBy_ascending described⟩

theorem getUtilizationStats_byPhase_table (self : PandasFrameAnalysis) (phase : Option (List String))
    {table : List UtilizationRow} (returned : (getUtilizationStats self (some "training_phase") phase).1 = .ok table) :
    utilizationTable true (getUtilizationStats self (some "training_phase") phase).2.sysMetricsDf = .ok table := by
  cases intervals : getTrainingPhaseIntervals self phase with
  | error e => simp [getUtilizationStats, intervals] at returned
  | ok intervalDf => simpa [getUtilizationStats, intervals] using returned

/-- `groupby("phase")` sorts its keys: in the table
`get_utilization_stats(by="training_phase")` returns, the `cpu` rows and then
the `gpu` rows each come in strictly ascending Python string order of their
phase label. -/
theorem utilization_rows_ascending (self : PandasFrameAnalysis) (phase : Option (List String))
    {table : List UtilizationRow} (returned : (getUtilizationStats self (some "training_phase") phase).1 = .ok table) :
    ∃ cpu gpu, table = cpu ++ gpu ∧ ∀ rows ∈ [cpu, gpu], ∃ labels : List String,
      rows.map (·.trainingPhase) = labels.map some ∧ labels.Pairwise fun a b => strLt a b = true := by
  obtain ⟨cpu, gpu, cpuStats, gpuStats, rfl⟩ :=
    utilizationTable_split (getUtilizationStats_byPhase_table self phase returned)
  refine ⟨cpu, gpu, rfl, fun rows member => ?_⟩
  rcases List.mem_cons.mp member with rfl | member
  · exact resourceStats_byPhase_ascending cpuStats
  · obtain rfl := List.mem_singleton.mp member
    exact resourceStats_byPhase_ascending gpuStats

/-! ### The labels the rows leave -/

/-- The label a sample at `timestampUs` ends with after the rows are applied in
order, starting from `old`: the phase of the last row covering it. -/
def phaseAfter (intervalDf : List PhaseRow) (timestampUs : Int) (old : Option String) : Option String :=
  intervalDf.foldl (fun label row => if row.covers timestampUs then row.phase else label) old

theorem foldl_labelInterval (intervalDf : List PhaseRow) (sysMetricsDf : List SysRow) :
    intervalDf.foldl labelInterval sysMetricsDf =
      sysMetricsDf.map fun sample => { sample with phase := phaseAfter intervalDf sample.timestampUs sample.phase } := by
  induction intervalDf generalizing sysMetricsDf with
  | nil => simp [phaseAfter]
  | cons row rest ih =>
    rw [List.foldl_cons, ih, labelInterval, List.map_map]
    refine List.map_congr_left fun sample _ => ?_
    by_cases covered : row.covers sample.timestampUs <;> simp [phaseAfter, covered]

/-- A sample some row covers ends with the same label whatever label it had. -/
theorem phaseAfter_of_covered {intervalDf : List PhaseRow} {timestampUs : Int}
    (covered : ∃ row ∈ intervalDf, row.covers timestampUs) (old : Option String) :
    phaseAfter intervalDf timestampUs old = phaseAfter intervalDf timestampUs none := by
  induction intervalDf generalizing old with
  | nil => simp at covered
  | cons row rest ih =>
    simp only [phaseAfter, List.foldl_cons] at ih ⊢
    by_cases first : row.covers timestampUs
    · simp [first]
    · have later := ((List.exists_mem_cons_iff _ _ _).mp covered).resolve_left first
      simp only [first, if_false, Bool.false_eq_true]
      exact (ih later old).trans (ih later none).symm

/-- Rows that all carry a phase leave a label on a sample that had one, and on
a sample one of them covers. -/
theorem phaseAfter_isSome {intervalDf : List PhaseRow} (phases : ∀ row ∈ intervalDf, row.phase.isSome)
    {timestampUs : Int} {old : Option String}
    (labelled : old.isSome ∨ ∃ row ∈ intervalDf, row.covers timestampUs) :
    (phaseAfter intervalDf timestampUs old).isSome := by
  induction intervalDf generalizing old with
  | nil => simpa using labelled
  | cons row rest ih =>
    simp only [phaseAfter, List.foldl_cons] at ih ⊢
    refine ih (fun other member => phases other (List.mem_cons_of_mem _ member)) ?_
    by_cases first : row.covers timestampUs
    · exact .inl (by simpa [first] using phases row (List.mem_cons_self _ _))
    · simp only [first, if_false, Bool.false_eq_true]
      exact labelled.imp_right fun covered => ((List.exists_mem_cons_iff _ _ _).mp covered).resolve_left first

theorem toPhaseRow_phases (intervalDf : List IntervalRow) :
    ∀ row ∈ intervalDf.map IntervalRow.toPhaseRow, row.phase.isSome := by
  intro row member
  obtain ⟨interval, -, rfl⟩ := List.mem_map.mp member
  rfl

theorem toPhaseRow_covering {intervalDf : List IntervalRow} {timestampUs : Int}
    (covered : ∃ row ∈ intervalDf, row.covers timestampUs) :
    ∃ row ∈ intervalDf.map IntervalRow.toPhaseRow, row.covers timestampUs :=
  let ⟨row, member, covers⟩ := covered
  ⟨row.toPhaseRow, List.mem_map_of_mem _ member, covers⟩

theorem phaseAfter_append_singleton (intervalDf : List PhaseRow) (row : PhaseRow) (timestampUs : Int)
    (old : Option String) :
    phaseAfter (intervalDf ++ [row]) timestampUs old =
      if row.covers timestampUs then row.phase else phaseAfter intervalDf timestampUs old := by
  simp [phaseAfter, List.foldl_append]

/-- The phase of the last row whose `[start_time_us, end_time_us]` holds
`timestampUs`, if any row does; that phase may itself be NaN. -/
def lastCoveringPhase (intervalDf : List PhaseRow) (timestampUs : Int) : Option (Option String) :=
  ((intervalDf.filter (·.covers timestampUs)).getLast?).map (·.phase)

theorem phaseAfter_eq_lastCoveringPhase (intervalDf : List PhaseRow) (timestampUs : Int) (old : Option String) :
    phaseAfter intervalDf timestampUs old = (lastCoveringPhase intervalDf timestampUs).getD old := by
  induction intervalDf using List.reverseRecOn with
  | nil => rfl
  | append_singleton rows row ih =>
    rw [phaseAfter_append_singleton, ih]
    by_cases covered : row.covers timestampUs <;> simp [lastCoveringPhase, List.filter_append, covered]

/-- Applying the interval rows one after another, as `interval_df.apply(...,
axis=1)` does, lets the last covering row win: each sample ends with the phase
of the last row whose `[start_time_us, end_time_us]` holds its timestamp, as
that row gives it (a NaN phase clears the label), and keeps its label when no
row does (a NaN bound holds nothing). Nothing else of either table changes. -/
theorem relabelling_last_covering_row (self : PandasFrameAnalysis) (intervalDf : List PhaseRow) :
    (getUtilizationPhaseByTimeInterval self intervalDf).frameworkMetricsDf = self.frameworkMetricsDf ∧
      (getUtilizationPhaseByTimeInterval self intervalDf).sysMetricsDf = self.sysMetricsDf.map fun sample =>
        { sample with phase := (lastCoveringPhase intervalDf sample.timestampUs).getD sample.phase } := by
  refine ⟨rfl, ?_⟩
  rw [getUtilizationPhaseByTimeInterval, withSysMetrics_sysMetricsDf, foldl_labelInterval]
  simp only [phaseAfter_eq_lastCoveringPhase]

/-- Whenever the interval table is built, the `After` row is applied last and
covers every sample from one before the start of the last tracked interval
on: all of them end labelled `After`, the samples inside that interval
included. -/
theorem late_samples_labelled_after (self : PandasFrameAnalysis) (phase : Option (List String))
    {rows : List IntervalRow} (returned : getTrainingPhaseIntervals self phase = .ok rows) :
    ∃ last start,
      (trackedIntervals self.frameworkMetricsDf (phase.getD (defaultPhases self.frameworkMetricsDf))).getLast? =
        some last ∧ last.startTimeUs = some start ∧
      ∀ sample ∈ (getUtilizationStats self (some "training_phase") phase).2.sysMetricsDf,
        start - 1 ≤ sample.timestampUs → sample.phase = some ("After " ++ last.phase) := by
  obtain ⟨front, last, start, split, isLast, starts⟩ := returned_table_end self phase returned
  refine ⟨last, start, isLast, starts, ?_⟩
  simp only [getUtilizationStats, if_true, returned, getUtilizationPhaseByTimeInterval, withSysMetrics_sysMetricsDf,
    foldl_labelInterval, List.mem_map]
  rintro _ ⟨sample, inSys, rfl⟩ late
  obtain ⟨greatest, greatestEq, hi⟩ := le_sysMax_of_mem inSys
  have covered : (afterRow self.sysMax last).covers sample.timestampUs :=
    covers_of (show (afterRow self.sysMax last).startTimeUs = some (start - 1) by simp [afterRow, starts])
      greatestEq late hi
  have ending : (front ++ [last, afterRow self.sysMax last]).map IntervalRow.toPhaseRow =
      (front ++ [last]).map IntervalRow.toPhaseRow ++ [(afterRow self.sysMax last).toPhaseRow] := by simp
  rw [split, ending, phaseAfter_append_singleton, covers_toPhaseRow, if_pos covered]
  rfl

/-! ### When the statistics return -/

theorem resourceStats_ok_iff (byPhase : Bool) (sysMetricsDf : List SysRow) (resrc : String) :
    (∃ rows, resourceStats byPhase sysMetricsDf resrc = .ok rows) ↔
      ∃ sample ∈ resourceRows sysMetricsDf resrc, byPhase → ∃ label, sample.phase = some label := by
  cases byPhase with
  | true =>
    simp only [resourceStats, if_true, exists_map_eq_ok, describeGroups_groupBy_ok_iff, List.mem_map,
      exists_exists_and_eq_and, forall_const]
  | false =>
    simp only [resourceStats, Bool.false_eq_true, if_false, exists_map_eq_ok, describeGroups_groupBy_ok_iff,
      List.mem_map, exists_exists_and_eq_and, Option.some.injEq, exists_eq', and_true, IsEmpty.forall_iff]

theorem utilizationTable_ok_iff (byPhase : Bool) (sysMetricsDf : List SysRow) :
    (∃ table, utilizationTable byPhase sysMetricsDf = .ok table) ↔
      ∀ resrc ∈ resources, ∃ rows, resourceStats byPhase sysMetricsDf resrc = .ok rows := by
  constructor
  · rintro ⟨table, returned⟩ resrc member
    obtain ⟨cpu, gpu, cpuStats, gpuStats, -⟩ := utilizationTable_split returned
    simp only [resources, List.mem_cons, List.mem_singleton, List.not_mem_nil, or_false] at member
    rcases member with rfl | rfl
    · exact ⟨cpu, cpuStats⟩
    · exact ⟨gpu, gpuStats⟩
  · intro both
    obtain ⟨cpu, cpuStats⟩ := both "cpu" (List.mem_cons_self _ _)
    obtain ⟨gpu, gpuStats⟩ := both "gpu" (List.mem_cons_of_mem _ (List.mem_singleton_self _))
    exact ⟨[cpu, gpu].flatten, by
      simp only [utilizationTable, resources, List.mapM_cons, List.mapM_nil, cpuStats, gpuStats, ok_bind]
      rfl⟩

/-- Rows that cover every sample label every sample of every resource. -/
theorem labelled_resourceRows {sysMetricsDf : List SysRow} {intervalDf : List IntervalRow}
    (covering : ∀ sample ∈ sysMetricsDf, ∃ row ∈ intervalDf, row.covers sample.timestampUs) (resrc : String) :
    (∃ sample ∈ resourceRows ((intervalDf.map IntervalRow.toPhaseRow).foldl labelInterval sysMetricsDf) resrc,
        ∃ label, sample.phase = some label) ↔
      resourceRows sysMetricsDf resrc ≠ [] := by
  have relabelled : resourceRows ((intervalDf.map IntervalRow.toPhaseRow).foldl labelInterval sysMetricsDf) resrc =
      (resourceRows sysMetricsDf resrc).map fun sample =>
        { sample with phase := phaseAfter (intervalDf.map IntervalRow.toPhaseRow) sample.timestampUs sample.phase } := by
    simp [foldl_labelInterval, resourceRows, List.filter_map, Function.comp_def]
  rw [relabelled]
  constructor
  · rintro ⟨_, member, -⟩ empty
    simp [empty] at member
  · intro present
    obtain ⟨sample, member⟩ := List.exists_mem_of_ne_nil _ present
    exact ⟨_, List.mem_map_of_mem _ member, Option.isSome_iff_exists.mp (phaseAfter_isSome (toPhaseRow_phases _)
      (.inr (toPhaseRow_covering (covering sample (List.mem_of_mem_filter member)))))⟩

/-- `get_utilization_stats` returns exactly when both `cpu` and `gpu` have a
sample and, with `by="training_phase"`, the interval table is built. That
table covers every sample, so by phase no resource is left without a label;
otherwise the call raises, with the interval table's error or on a resource
with no group to describe. -/
theorem utilization_stats_returns_iff (self : PandasFrameAnalysis) (byColumn : Option String)
    (phase : Option (List String)) :
    (∃ table, (getUtilizationStats self byColumn phase).1 = .ok table) ↔
      (byColumn = some "training_phase" → ∃ rows, getTrainingPhaseIntervals self phase = .ok rows) ∧
        ∀ resrc ∈ resources, resourceRows self.sysMetricsDf resrc ≠ [] := by
  by_cases byPhase : byColumn = some "training_phase"
  · subst byPhase
    cases intervals : getTrainingPhaseIntervals self phase with
    | error e => simp [getUtilizationStats, intervals]
    | ok intervalDf =>
      have labelled := labelled_resourceRows (intervals_cover_samples self phase intervals)
      simp only [getUtilizationStats, if_true, intervals, utilizationTable_ok_iff, resourceStats_ok_iff,
        getUtilizationPhaseByTimeInterval, withSysMetrics_sysMetricsDf, forall_true_left, labelled,
        Except.ok.injEq, exists_eq', true_and]
  · have present : ∀ rows : List SysRow, (∃ sample, sample ∈ rows) ↔ rows ≠ [] := fun _ =>
      List.length_pos_iff_exists_mem.symm.trans List.length_pos
    simp [getUtilizationStats, byPhase, utilizationTable_ok_iff, resourceStats_ok_iff, present]

/-- The training step from 10 to 20 µs covers the sample at 15 µs, but the
`After` row, applied last, covers it too: the sample is labelled
`After Step:ModeKeys.TRAIN`, and no sample keeps the training phase. -/
theorem train_sample_labelled_after :
    ((getUtilizationStats oneTrainStep (some "training_phase") (some ["Step:ModeKeys.TRAIN"])).2.sysMetricsDf.map
      fun sample => (sample.timestampUs, sample.phase)) =
      [(0, some "Before Step:ModeKeys.TRAIN"), (15, some "After Step:ModeKeys.TRAIN"),
        (100, some "After Step:ModeKeys.TRAIN")] := by
  decide

theorem late_samples_one_step :
    ∃ rows, getTrainingPhaseIntervals oneTrainStep (some ["Step:ModeKeys.TRAIN"]) = .ok rows ∧
      ∃ last start, (trackedIntervals oneTrainStep.frameworkMetricsDf ["Step:ModeKeys.TRAIN"]).getLast? = some last ∧
        last.startTimeUs = some start ∧
        ∀ sample ∈ (getUtilizationStats oneTrainStep (some "training_phase") (some ["Step:ModeKeys.TRAIN"])).2.sysMetricsDf,
          start - 1 ≤ sample.timestampUs → sample.phase = some ("After " ++ last.phase) :=
  have returned : getTrainingPhaseIntervals oneTrainStep (some ["Step:ModeKeys.TRAIN"]) =
      .ok [⟨some 0, some 9, "Before Step:ModeKeys.TRAIN"⟩, ⟨some 10, some 20, "Step:ModeKeys.TRAIN"⟩,
        ⟨some 9, some 100, "After Step:ModeKeys.TRAIN"⟩] := by decide
  ⟨_, returned, late_samples_labelled_after oneTrainStep _ returned⟩

end SmdebugProfiler.Analysis
