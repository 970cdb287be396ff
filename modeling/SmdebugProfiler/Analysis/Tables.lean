import SmdebugProfiler.Pandas.GroupBy

/-!
# The two input tables and the analysis object

Source: pandas_data_analysis.py:23-37 (`PandasFrameAnalysis.__init__`).
The object owns the system-metrics table and the framework-metrics table; its
constructor adds `duration_us = end_time_us - start_time_us` to the framework
table. Only the columns some method reads are kept. A freshly built table is
indexed `0..n-1`, so a table is its list of rows and a row's label is its
position.

The only later write to either table is the `phase` column that
`_get_utilization_phase_by_time_interval` adds to the system table; it is
`none` where pandas has NaN (the column absent, a row no interval matched, or
a NaN phase written by a caller's interval row).
-/

namespace SmdebugProfiler.Analysis
open SmdebugProfiler.Pandas

/-- A system-metrics row: one utilization sample. -/
structure SysRow where
  timestamp : String
  timestampUs : Int
  systemMetric : String
  value : ℚ
  phase : Option String
  deriving DecidableEq, Repr, Inhabited

/-- A framework-metrics row: one framework event. -/
structure FrameworkRow where
  startTime : String
  endTime : String
  startTimeUs : Int
  endTimeUs : Int
  frameworkMetric : String
  process : String
  step : Int
  durationUs : Int
  deriving DecidableEq, Repr, Inhabited

/-- A row of the interval table `get_training_phase_intervals` builds. -/
structure IntervalRow where
  startTimeUs : Option Int
  endTimeUs : Option Int
  phase : String
  deriving DecidableEq, Repr, Inhabited

/-- A row of the `interval_df` that `_get_utilization_phase_by_time_interval`
reads. Its `phase` is written to the samples as given, so a caller's NaN or
`None` phase (`none`) clears their label. -/
structure PhaseRow where
  startTimeUs : Option Int
  endTimeUs : Option Int
  phase : Option String
  deriving DecidableEq, Repr, Inhabited

/-- A row of the built interval table, read by the relabelling: its phase is a string. -/
def IntervalRow.toPhaseRow (row : IntervalRow) : PhaseRow := ⟨row.startTimeUs, row.endTimeUs, some row.phase⟩

/-- A `PandasFrameAnalysis` object. The duration column is consistent for as
long as the object lives: the constructor writes it and nothing writes the
framework table afterwards. -/
structure PandasFrameAnalysis where
  sysMetricsDf : List SysRow
  frameworkMetricsDf : List FrameworkRow
  durations_consistent : ∀ row ∈ frameworkMetricsDf, row.durationUs = row.endTimeUs - row.startTimeUs

/-- `__init__`: keep both tables and compute the framework table's `duration_us`. -/
def PandasFrameAnalysis.init (systemDf : List SysRow) (frameworkDf : List FrameworkRow) :
    PandasFrameAnalysis where
  sysMetricsDf := systemDf
  frameworkMetricsDf := frameworkDf.map fun row => { row with durationUs := row.endTimeUs - row.startTimeUs }
  durations_consistent := by simp

/-- The same object with its system table replaced. -/
def PandasFrameAnalysis.withSysMetrics (self : PandasFrameAnalysis) (sysMetricsDf : List SysRow) :
    PandasFrameAnalysis :=
  { self with sysMetricsDf }

@[simp] theorem withSysMetrics_frameworkMetricsDf (self : PandasFrameAnalysis) (rows : List SysRow) :
    (self.withSysMetrics rows).frameworkMetricsDf = self.frameworkMetricsDf := rfl

@[simp] theorem withSysMetrics_sysMetricsDf (self : PandasFrameAnalysis) (rows : List SysRow) :
    (self.withSysMetrics rows).sysMetricsDf = rows := rfl

/-- `sys_metrics_df["timestamp_us"].min()`; NaN on an empty table. -/
def PandasFrameAnalysis.sysMin (self : PandasFrameAnalysis) : Option Int :=
  seriesMin (self.sysMetricsDf.map (some ·.timestampUs))

/-- `sys_metrics_df["timestamp_us"].max()`; NaN on an empty table. -/
def PandasFrameAnalysis.sysMax (self : PandasFrameAnalysis) : Option Int :=
  seriesMax (self.sysMetricsDf.map (some ·.timestampUs))

theorem sysMin_eq_min? (self : PandasFrameAnalysis) :
    self.sysMin = (self.sysMetricsDf.map (·.timestampUs)).min? := by
  simp only [PandasFrameAnalysis.sysMin, seriesMin, List.filterMap_map]
  rw [← List.filterMap_eq_map]
  rfl

theorem sysMax_eq_max? (self : PandasFrameAnalysis) :
    self.sysMax = (self.sysMetricsDf.map (·.timestampUs)).max? := by
  simp only [PandasFrameAnalysis.sysMax, seriesMax, List.filterMap_map]
  rw [← List.filterMap_eq_map]
  rfl

theorem sysMin_eq_none {self : PandasFrameAnalysis} : self.sysMin = none ↔ self.sysMetricsDf = [] := by
  simp [sysMin_eq_min?]

theorem sysMax_eq_none {self : PandasFrameAnalysis} : self.sysMax = none ↔ self.sysMetricsDf = [] := by
  simp [sysMax_eq_max?]

theorem sysMin_le_of_mem {self : PandasFrameAnalysis} {sample : SysRow}
    (member : sample ∈ self.sysMetricsDf) : ∃ least, self.sysMin = some least ∧ least ≤ sample.timestampUs :=
  seriesMin_le (List.mem_map_of_mem (some ·.timestampUs) member)

theorem le_sysMax_of_mem {self : PandasFrameAnalysis} {sample : SysRow}
    (member : sample ∈ self.sysMetricsDf) :
    ∃ greatest, self.sysMax = some greatest ∧ sample.timestampUs ≤ greatest :=
  le_seriesMax (List.mem_map_of_mem (some ·.timestampUs) member)

/-! ### Rows for the examples -/

/-- A framework event with the columns the analysis reads. -/
def stepEvent (metric : String) (startUs endUs : Int) : FrameworkRow where
  startTime := ""
  endTime := ""
  startTimeUs := startUs
  endTimeUs := endUs
  frameworkMetric := metric
  process := metric
  step := 0
  durationUs := endUs - startUs

/-- A utilization sample with the columns the analysis reads. -/
def utilSample (timestampUs : Int) (metric : String) (value : ℚ) : SysRow where
  timestamp := ""
  timestampUs := timestampUs
  systemMetric := metric
  value := value
  phase := none

end SmdebugProfiler.Analysis
