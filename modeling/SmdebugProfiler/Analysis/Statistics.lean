import SmdebugProfiler.Analysis.Tables

/-!
# Job statistics and step statistics

Source: pandas_data_analysis.py:11-123 (`JobStats`, `get_job_statistics`,
`get_step_statistics`).

`get_job_statistics` takes Python's `min`/`max` of whole columns (iterating a
Series yields Python scalars), so an empty system table raises `ValueError`,
and the job duration and the finalization are Python floats. `step_0` is a
boolean selection: it keeps the framework table's labels, and
`step_0[...][0]` looks the label `0` up. The first step-0 row is found only
when it is the table's first row (`job_statistics_returns_iff`), and each
failing case has its own error (`job_statistics_raises_iff`).

The initialization is `step_0["start_time_us"][0] / 1000`, the start measured
from the clock's zero and not from the first sample, so on a clock that does
not start at zero the three parts do not split the job
(`job_breakdown_exceeds_duration`). Times are exact rationals where Python has
floats; the results here do not depend on the rounding: a nonzero duration
stays nonzero, and the fixed values are exact in binary floating point.

`get_step_statistics` describes the `duration_us` column, which the object
keeps equal to end − start; so each reported phase carries the statistics of
its own rows' end − start durations (`step_statistics_by_phase`), and
whichever column it groups by, every row is ordered as a summary of a
non-empty group of durations (`step_statistics_rows_summarize`; the durations
are integers, so the float mean stays between the minimum and the maximum
while a group's total stays below 2^53 µs), the rows in
ascending key order (`step_statistics_rows_ascending`). It raises only on a
table with no row to group, with the `KeyError` pandas raises after describing
no group (`emptyDescribe`, `step_statistics_returns_iff`).
-/

namespace SmdebugProfiler.Analysis
open SmdebugProfiler.Pandas

/-- Python's `min(iterable)` under `lt`: the first least item. -/
def pyMin (lt : α → α → Bool) : List α → Except PyError α
  | [] => .error (.valueError "min() arg is an empty sequence")
  | first :: rest => .ok (rest.foldl (fun least item => if lt item least then item else least) first)

/-- Python's `max(iterable)` under `lt`: the first greatest item. -/
def pyMax (lt : α → α → Bool) : List α → Except PyError α
  | [] => .error (.valueError "max() arg is an empty sequence")
  | first :: rest => .ok (rest.foldl (fun greatest item => if lt greatest item then item else greatest) first)

/-- `<` on Python integers. -/
def intLt (a b : Int) : Bool := decide (a < b)

/-- The fields `get_job_statistics` sets on its `JobStats`. -/
structure JobStats where
  startTime : String
  endTime : String
  jobDuration : ℚ
  trainingLoopStart : String
  trainingLoopEnd : String
  trainingLoopDuration : Labelled ℚ
  initialization : ℚ
  finalization : ℚ
  initializationPct : ℚ
  trainingLoopPct : Labelled ℚ
  finalizationPct : ℚ
  deriving DecidableEq, Repr

/-- `["Step:ModeKeys.TRAIN", "Step:ModeKeys.GLOBAL"]`. -/
def loopStartMetrics : List String := ["Step:ModeKeys.TRAIN", "Step:ModeKeys.GLOBAL"]

/-- The row mask of `step_0`: step 0 of a training or global step. -/
def FrameworkRow.IsStepZero (row : FrameworkRow) : Prop := row.step = 0 ∧ row.frameworkMetric ∈ loopStartMetrics

instance (row : FrameworkRow) : Decidable row.IsStepZero := inferInstanceAs (Decidable (_ ∧ _))

/-- `step_0`: the masked rows under their labels in the framework table. -/
def stepZero (frameworkDf : List FrameworkRow) : Labelled FrameworkRow :=
  (positional frameworkDf).filter fun entry => entry.2.IsStepZero

/-- `get_job_statistics()`, in the source's order of evaluation. -/
def getJobStatistics (self : PandasFrameAnalysis) : Except PyError JobStats := do
  let timestamps := self.sysMetricsDf.map (·.timestamp)
  let timestampsUs := self.sysMetricsDf.map (·.timestampUs)
  let startTime ← pyMin strLt timestamps
  let endTime ← pyMax strLt timestamps
  let jobDuration : ℚ := ((← pyMax intLt timestampsUs) - (← pyMin intLt timestampsUs) : Int) / 1000
  let step0 := stepZero self.frameworkMetricsDf
  let trainingLoopStart ← loc (step0.map fun entry => (entry.1, entry.2.startTime)) (pyLabel 0)
  let trainingLoopEnd ← pyMax strLt (self.frameworkMetricsDf.map (·.endTime))
  let lastEndUs ← pyMax intLt (self.frameworkMetricsDf.map (·.endTimeUs))
  let trainingLoopDuration := step0.map fun entry =>
    (entry.1, ((lastEndUs - entry.2.startTimeUs : Int) : ℚ) / 1000)
  let initialization : ℚ :=
    ((← loc (step0.map fun entry => (entry.1, entry.2.startTimeUs)) (pyLabel 0) : Int) : ℚ) / 1000
  let finalization : ℚ :=
    ((← pyMax intLt timestampsUs) - (← pyMax intLt (self.frameworkMetricsDf.map (·.endTimeUs))) : Int) / 1000
  -- `initialization` is a numpy float and the loop duration a Series: divided by a
  -- zero duration they give `inf` or `nan`; `finalization` is a Python float and raises.
  if jobDuration = 0 then throw .zeroDivisionError
  pure { startTime, endTime, jobDuration, trainingLoopStart, trainingLoopEnd, trainingLoopDuration,
         initialization, finalization
         initializationPct := initialization / jobDuration * 100
         trainingLoopPct := trainingLoopDuration.map fun entry => (entry.1, entry.2 / jobDuration * 100)
         finalizationPct := finalization / jobDuration * 100 }

/-- `groupby([key])["duration_us"].describe(percentiles=[0.5, 0.95, 0.99])` and
the reshaping after it: one row per key. -/
def durationStats (key : FrameworkRow → String) (rows : List FrameworkRow) :
    Except PyError (List (String × Describe)) :=
  describeGroups (groupBy strLe (rows.map fun row => (some (key row), (row.durationUs : ℚ))))

/-- `get_step_statistics(by)`; `None` for any other `by`. -/
def getStepStatistics (self : PandasFrameAnalysis) (byColumn : String) :
    Except PyError (Option (List (String × Describe))) :=
  if byColumn = "framework_metric" then some <$> durationStats (·.frameworkMetric) self.frameworkMetricsDf
  else if byColumn = "process" then some <$> durationStats (·.process) self.frameworkMetricsDf
  else if byColumn = "training_phase" then
    some <$> durationStats (·.frameworkMetric)
      (self.frameworkMetricsDf.filter fun row => strContains row.frameworkMetric "Step:ModeKeys")
  else .ok none

/-! ### Python's `min` and `max` on integers -/

theorem pyMin_of_min? {values : List Int} {least : Int} (found : values.min? = some least) :
    pyMin intLt values = .ok least := by
  cases values with
  | nil => cases found
  | cons first rest =>
    have step : (fun least item => if intLt item least then item else least) = (min : Int → Int → Int) := by
      funext least item
      simp only [intLt, decide_eq_true_eq]
      split <;> omega
    simp only [pyMin, step]
    exact congrArg Except.ok (Option.some.inj found)

theorem pyMax_of_max? {values : List Int} {greatest : Int} (found : values.max? = some greatest) :
    pyMax intLt values = .ok greatest := by
  cases values with
  | nil => cases found
  | cons first rest =>
    have step : (fun greatest item => if intLt greatest item then item else greatest) = (max : Int → Int → Int) := by
      funext greatest item
      simp only [intLt, decide_eq_true_eq]
      split <;> omega
    simp only [pyMax, step]
    exact congrArg Except.ok (Option.some.inj found)

theorem pyMin_ok_of_ne_nil (lt : α → α → Bool) {values : List α} (nonempty : values ≠ []) :
    ∃ least, pyMin lt values = .ok least := by
  obtain ⟨first, rest, rfl⟩ := List.exists_cons_of_ne_nil nonempty
  exact ⟨_, rfl⟩

theorem pyMax_ok_of_ne_nil (lt : α → α → Bool) {values : List α} (nonempty : values ≠ []) :
    ∃ greatest, pyMax lt values = .ok greatest := by
  obtain ⟨first, rest, rfl⟩ := List.exists_cons_of_ne_nil nonempty
  exact ⟨_, rfl⟩

/-! ### The lookup of label `0` in `step_0` -/

theorem mem_stepZero {frameworkDf : List FrameworkRow} {label : Int} {row : FrameworkRow} :
    (label, row) ∈ stepZero frameworkDf ↔ ∃ i : Nat, frameworkDf[i]? = some row ∧ label = pyLabel i ∧ row.IsStepZero := by
  simp only [stepZero, List.mem_filter, mem_positional, decide_eq_true_eq]
  constructor
  · rintro ⟨⟨i, found, rfl⟩, chosen⟩
    exact ⟨i, found, rfl, chosen⟩
  · rintro ⟨i, found, rfl, chosen⟩
    exact ⟨⟨i, found, rfl⟩, chosen⟩

theorem stepZero_head {frameworkDf : List FrameworkRow} {row : FrameworkRow}
    (first : frameworkDf.head? = some row) (chosen : row.IsStepZero) :
    (stepZero frameworkDf).head? = some (pyLabel 0, row) := by
  cases frameworkDf with
  | nil => cases first
  | cons head rows =>
    obtain rfl := Option.some.inj first
    simp [stepZero, positional, List.enum_cons, chosen]

theorem loc_stepZero (frameworkDf : List FrameworkRow) (column : FrameworkRow → β) :
    loc ((stepZero frameworkDf).map fun entry => (entry.1, column entry.2)) (pyLabel 0) =
      match frameworkDf.head? with
      | some row => if row.IsStepZero then .ok (column row) else .error (.keyError (pyLabel 0))
      | none => .error (.keyError (pyLabel 0)) := by
  cases frameworkDf with
  | nil => rfl
  | cons row rows =>
    by_cases chosen : row.IsStepZero
    · simp [stepZero, positional, List.enum_cons, chosen, loc]
    · simp only [List.head?_cons, chosen, if_false]
      apply loc_of_not_mem
      simp only [List.map_map, List.mem_map, Function.comp_apply, not_exists, not_and]
      intro entry member label
      obtain ⟨i, found, labelEq, stepZero⟩ := mem_stepZero.mp member
      obtain rfl : i = 0 := by simpa [labelEq] using label
      exact chosen (by simp at found; exact found ▸ stepZero)

/-! ### What `get_job_statistics` returns -/

theorem getJobStatistics_of_empty {self : PandasFrameAnalysis} (empty : self.sysMetricsDf = []) :
    getJobStatistics self = .error (.valueError "min() arg is an empty sequence") := by
  simp only [getJobStatistics, empty, List.map_nil, pyMin, error_bind]

theorem sysMetricsDf_ne_nil {self : PandasFrameAnalysis} {least : Int} (leastEq : self.sysMin = some least) :
    self.sysMetricsDf ≠ [] :=
  fun empty => by simp [sysMin_eq_none.mpr empty] at leastEq

theorem getJobStatistics_of_not_stepZero {self : PandasFrameAnalysis} {least greatest : Int}
    (leastEq : self.sysMin = some least) (greatestEq : self.sysMax = some greatest)
    (notFirst : ∀ row, self.frameworkMetricsDf.head? = some row → ¬ row.IsStepZero) :
    getJobStatistics self = .error (.keyError (pyLabel 0)) := by
  have samples : self.sysMetricsDf.map (·.timestamp) ≠ [] := by simpa using sysMetricsDf_ne_nil leastEq
  obtain ⟨startTime, startEq⟩ := pyMin_ok_of_ne_nil strLt samples
  obtain ⟨endTime, endEq⟩ := pyMax_ok_of_ne_nil strLt samples
  rw [sysMin_eq_min?] at leastEq
  rw [sysMax_eq_max?] at greatestEq
  simp only [getJobStatistics, startEq, endEq, pyMin_of_min? leastEq, pyMax_of_max? greatestEq, ok_bind,
    loc_stepZero]
  cases head : self.frameworkMetricsDf.head? with
  | none => rfl
  | some row => simp only [notFirst row head, if_false, error_bind]

/-- On a first row of step 0, `get_job_statistics` raises only when the job
duration is zero; otherwise every field is as the source computes it, the
initialization counted from the clock's zero. -/
theorem getJobStatistics_of_stepZero {self : PandasFrameAnalysis} {row : FrameworkRow}
    (first : self.frameworkMetricsDf.head? = some row) (chosen : row.IsStepZero) {least greatest lastEnd : Int}
    (leastEq : self.sysMin = some least) (greatestEq : self.sysMax = some greatest)
    (lastEq : (self.frameworkMetricsDf.map (·.endTimeUs)).max? = some lastEnd) :
    ∃ startTime endTime trainingLoopEnd,
      let jobDuration : ℚ := ((greatest - least : Int) : ℚ) / 1000
      let trainingLoopDuration := (stepZero self.frameworkMetricsDf).map fun entry =>
        (entry.1, ((lastEnd - entry.2.startTimeUs : Int) : ℚ) / 1000)
      let initialization : ℚ := (row.startTimeUs : ℚ) / 1000
      let finalization : ℚ := ((greatest - lastEnd : Int) : ℚ) / 1000
      getJobStatistics self = if jobDuration = 0 then .error .zeroDivisionError else .ok
        { startTime, endTime, jobDuration, trainingLoopStart := row.startTime, trainingLoopEnd,
          trainingLoopDuration, initialization, finalization
          initializationPct := initialization / jobDuration * 100
          trainingLoopPct := trainingLoopDuration.map fun entry => (entry.1, entry.2 / jobDuration * 100)
          finalizationPct := finalization / jobDuration * 100 } := by
  have samples : self.sysMetricsDf.map (·.timestamp) ≠ [] := by simpa using sysMetricsDf_ne_nil leastEq
  have events : self.frameworkMetricsDf.map (·.endTime) ≠ [] := fun empty => by
    simp [List.map_eq_nil_iff.mp empty] at first
  obtain ⟨startTime, startEq⟩ := pyMin_ok_of_ne_nil strLt samples
  obtain ⟨endTime, endEq⟩ := pyMax_ok_of_ne_nil strLt samples
  obtain ⟨trainingLoopEnd, loopEndEq⟩ := pyMax_ok_of_ne_nil strLt events
  rw [sysMin_eq_min?] at leastEq
  rw [sysMax_eq_max?] at greatestEq
  refine ⟨startTime, endTime, trainingLoopEnd, ?_⟩
  simp only [getJobStatistics, startEq, endEq, loopEndEq, pyMin_of_min? leastEq, pyMax_of_max? greatestEq,
    pyMax_of_max? lastEq, ok_bind, loc_stepZero, first, if_pos chosen]
  split <;> rfl

theorem lastEnd_of_head {frameworkDf : List FrameworkRow} {row : FrameworkRow} (first : frameworkDf.head? = some row) :
    ∃ lastEnd, (frameworkDf.map (·.endTimeUs)).max? = some lastEnd := by
  cases frameworkDf with
  | nil => cases first
  | cons row rows => exact ⟨_, rfl⟩

theorem duration_eq_zero_iff (least greatest : Int) : ((greatest - least : Int) : ℚ) / 1000 = 0 ↔ least = greatest := by
  rw [div_eq_zero_iff]
  norm_num [sub_eq_zero, eq_comm]

/-- What a returned `JobStats` rests on: the first framework row is the step-0
row, and the samples span more than one timestamp. -/
theorem getJobStatistics_ok_inv {self : PandasFrameAnalysis} {stats : JobStats}
    (returned : getJobStatistics self = .ok stats) :
    ∃ row least greatest lastEnd, self.frameworkMetricsDf.head? = some row ∧ row.IsStepZero ∧
      self.sysMin = some least ∧ self.sysMax = some greatest ∧
      (self.frameworkMetricsDf.map (·.endTimeUs)).max? = some lastEnd ∧ least ≠ greatest := by
  have samples : self.sysMetricsDf ≠ [] := fun empty => by
    rw [getJobStatistics_of_empty empty] at returned
    cases returned
  obtain ⟨least, leastEq⟩ := Option.ne_none_iff_exists'.mp (mt sysMin_eq_none.mp samples)
  obtain ⟨greatest, greatestEq⟩ := Option.ne_none_iff_exists'.mp (mt sysMax_eq_none.mp samples)
  by_cases head : ∃ row, self.frameworkMetricsDf.head? = some row ∧ row.IsStepZero
  · obtain ⟨row, first, chosen⟩ := head
    obtain ⟨lastEnd, lastEq⟩ := lastEnd_of_head first
    obtain ⟨_, _, _, call⟩ := getJobStatistics_of_stepZero first chosen leastEq greatestEq lastEq
    dsimp only at call
    refine ⟨row, least, greatest, lastEnd, first, chosen, leastEq, greatestEq, lastEq, fun same => ?_⟩
    rw [call, if_pos ((duration_eq_zero_iff _ _).mpr same)] at returned
    cases returned
  · rw [getJobStatistics_of_not_stepZero leastEq greatestEq (by simpa using head)] at returned
    cases returned

/-- `get_job_statistics` returns exactly when the framework table's first row
is a step-0 training or global step and the samples span more than one
timestamp; a step-0 row further down is never found. -/
theorem job_statistics_returns_iff (self : PandasFrameAnalysis) :
    (∃ stats, getJobStatistics self = .ok stats) ↔
      (∃ row, self.frameworkMetricsDf.head? = some row ∧ row.IsStepZero) ∧ self.sysMin ≠ self.sysMax := by
  constructor
  · rintro ⟨stats, returned⟩
    obtain ⟨row, least, greatest, -, first, chosen, leastEq, greatestEq, -, spread⟩ := getJobStatistics_ok_inv returned
    exact ⟨⟨row, first, chosen⟩, by simpa [leastEq, greatestEq] using spread⟩
  · rintro ⟨⟨row, first, chosen⟩, spread⟩
    have samples : self.sysMetricsDf ≠ [] := fun empty =>
      spread ((sysMin_eq_none.mpr empty).trans (sysMax_eq_none.mpr empty).symm)
    obtain ⟨least, leastEq⟩ := Option.ne_none_iff_exists'.mp (mt sysMin_eq_none.mp samples)
    obtain ⟨greatest, greatestEq⟩ := Option.ne_none_iff_exists'.mp (mt sysMax_eq_none.mp samples)
    obtain ⟨lastEnd, lastEq⟩ := lastEnd_of_head first
    obtain ⟨_, _, _, call⟩ := getJobStatistics_of_stepZero first chosen leastEq greatestEq lastEq
    dsimp only at call
    have distinct : least ≠ greatest := fun same => spread (by rw [leastEq, greatestEq, same])
    rw [if_neg (mt (duration_eq_zero_iff _ _).mp distinct)] at call
    exact ⟨_, call⟩

/-- What `get_job_statistics` raises, for every object: `ValueError` from
`min()` on an empty system table; otherwise `KeyError: 0` when the framework
table's first row is not a step-0 row (an empty framework table included, the
lookup coming before the `max()` of its end times); otherwise
`ZeroDivisionError` when every sample has the same timestamp. -/
theorem job_statistics_raises_iff (self : PandasFrameAnalysis) (e : PyError) :
    getJobStatistics self = .error e ↔
      self.sysMetricsDf = [] ∧ e = .valueError "min() arg is an empty sequence" ∨
      self.sysMetricsDf ≠ [] ∧ (¬ ∃ row, self.frameworkMetricsDf.head? = some row ∧ row.IsStepZero) ∧
        e = .keyError (pyLabel 0) ∨
      self.sysMetricsDf ≠ [] ∧ (∃ row, self.frameworkMetricsDf.head? = some row ∧ row.IsStepZero) ∧
        self.sysMin = self.sysMax ∧ e = .zeroDivisionError := by
  by_cases empty : self.sysMetricsDf = []
  · rw [getJobStatistics_of_empty empty]
    simp [empty, eq_comm]
  obtain ⟨least, leastEq⟩ := Option.ne_none_iff_exists'.mp (mt sysMin_eq_none.mp empty)
  obtain ⟨greatest, greatestEq⟩ := Option.ne_none_iff_exists'.mp (mt sysMax_eq_none.mp empty)
  by_cases head : ∃ row, self.frameworkMetricsDf.head? = some row ∧ row.IsStepZero
  · obtain ⟨row, first, chosen⟩ := id head
    obtain ⟨lastEnd, lastEq⟩ := lastEnd_of_head first
    obtain ⟨_, _, _, call⟩ := getJobStatistics_of_stepZero first chosen leastEq greatestEq lastEq
    dsimp only at call
    rw [call, leastEq, greatestEq]
    by_cases same : least = greatest
    · rw [if_pos ((duration_eq_zero_iff _ _).mpr same)]
      simp [empty, same, head, eq_comm]
    · rw [if_neg (mt (duration_eq_zero_iff _ _).mp same)]
      simp [empty, same, head]
  · rw [getJobStatistics_of_not_stepZero leastEq greatestEq (by simpa using head)]
    simp [empty, head, eq_comm]

/-! ### What `get_step_statistics` reports -/

theorem some_map_eq_ok {stats : Except PyError (List (String × Describe))} {rows : List (String × Describe)} :
    some <$> stats = .ok (some rows) ↔ stats = .ok rows := by
  cases stats with
  | error e => constructor <;> intro returned <;> cases returned
  | ok out => constructor <;> intro returned <;> cases returned <;> rfl

theorem durationStats_spec (key : FrameworkRow → String) {events : List FrameworkRow}
    (consistent : ∀ row ∈ events, row.durationUs = row.endTimeUs - row.startTimeUs)
    {out : List (String × Describe)} (returned : durationStats key events = .ok out) :
    (out.map Prod.fst).Nodup ∧ (∀ group, group ∈ out.map Prod.fst ↔ ∃ row ∈ events, key row = group) ∧
      ∀ entry ∈ out, ∃ first rest, ((events.filter (key · = entry.1)).map fun row =>
        ((row.endTimeUs - row.startTimeUs : Int) : ℚ)) = first :: rest ∧ entry.2 = describe first rest := by
  obtain ⟨distinct, keys, entries⟩ := describeGroups_groupBy strLe returned
  refine ⟨distinct, fun group => by simpa using keys group, fun entry member => ?_⟩
  obtain ⟨first, rest, values, stats⟩ := entries entry member
  refine ⟨first, rest, Eq.trans ?_ values, stats⟩
  simp only [List.filter_map, List.map_map, Function.comp_def, Option.some.injEq]
  exact List.map_congr_left fun row member => by rw [consistent row (List.mem_of_mem_filter member)]

/-- `get_step_statistics()`, by training phase (the default), reports each
`Step:ModeKeys` metric of the framework table once, with the `describe` of the
end − start durations of exactly its rows. -/
theorem step_statistics_by_phase (self : PandasFrameAnalysis) {rows : List (String × Describe)}
    (returned : getStepStatistics self "training_phase" = .ok (some rows)) :
    (rows.map Prod.fst).Nodup ∧
      (∀ metric, metric ∈ rows.map Prod.fst ↔
        ∃ row ∈ self.frameworkMetricsDf, row.frameworkMetric = metric ∧ strContains metric "Step:ModeKeys") ∧
      ∀ entry ∈ rows, ∃ first rest, ((self.frameworkMetricsDf.filter (·.frameworkMetric = entry.1)).map fun row =>
        ((row.endTimeUs - row.startTimeUs : Int) : ℚ)) = first :: rest ∧ entry.2 = describe first rest := by
  let phaseRows := self.frameworkMetricsDf.filter fun row => strContains row.frameworkMetric "Step:ModeKeys"
  have computed : durationStats (·.frameworkMetric) phaseRows = .ok rows := by
    rw [getStepStatistics, if_neg (by decide), if_neg (by decide), if_pos rfl] at returned
    exact some_map_eq_ok.mp returned
  obtain ⟨distinct, keys, entries⟩ := durationStats_spec _
    (fun row member => self.durations_consistent row (List.mem_of_mem_filter member)) computed
  refine ⟨distinct, fun metric => ?_, fun entry member => ?_⟩
  · rw [keys metric]
    constructor
    · rintro ⟨row, inPhase, rfl⟩
      exact ⟨row, List.mem_of_mem_filter inPhase, rfl, by simpa using (List.mem_filter.mp inPhase).2⟩
    · rintro ⟨row, inTable, rfl, isPhase⟩
      exact ⟨row, List.mem_filter.mpr ⟨inTable, by simpa using isPhase⟩, rfl⟩
  · obtain ⟨first, rest, values, stats⟩ := entries entry member
    obtain ⟨row, inPhase, named⟩ := (keys entry.1).mp (List.mem_map_of_mem _ member)
    have isPhase : strContains entry.1 "Step:ModeKeys" := by
      simpa [← named] using (List.mem_filter.mp inPhase).2
    refine ⟨first, rest, Eq.trans ?_ values, stats⟩
    rw [List.filter_filter]
    congr 1
    exact List.filter_congr fun row _ => by by_cases same : row.frameworkMetric = entry.1 <;> simp [same, isPhase]

theorem getStepStatistics_some (self : PandasFrameAnalysis) {byColumn : String} {rows : List (String × Describe)}
    (returned : getStepStatistics self byColumn = .ok (some rows)) :
    ∃ (key : FrameworkRow → String) (events : List FrameworkRow), events.Sublist self.frameworkMetricsDf ∧
      durationStats key events = .ok rows := by
  unfold getStepStatistics at returned
  split_ifs at returned
  · exact ⟨_, _, List.Sublist.refl _, some_map_eq_ok.mp returned⟩
  · exact ⟨_, _, List.Sublist.refl _, some_map_eq_ok.mp returned⟩
  · exact ⟨_, _, List.filter_sublist _, some_map_eq_ok.mp returned⟩
  · cases returned

/-- `groupby` sorts its keys: whichever column `get_step_statistics` groups by,
its rows come in strictly ascending Python string order of their key. -/
theorem step_statistics_rows_ascending (self : PandasFrameAnalysis) (byColumn : String)
    {rows : List (String × Describe)} (returned : getStepStatistics self byColumn = .ok (some rows)) :
    (rows.map Prod.fst).Pairwise fun a b => strLt a b = true := by
  obtain ⟨key, events, -, computed⟩ := getStepStatistics_some self returned
  exact describeGroups_groupBy_ascending computed

theorem durationStats_ok_iff (key : FrameworkRow → String) (events : List FrameworkRow) :
    (∃ rows, durationStats key events = .ok rows) ↔ events ≠ [] := by
  rw [durationStats, describeGroups_groupBy_ok_iff]
  constructor
  · rintro ⟨entry, member, -⟩ empty
    simp [empty] at member
  · intro nonempty
    obtain ⟨row, rest, rfl⟩ := List.exists_cons_of_ne_nil nonempty
    exact ⟨_, List.mem_cons_self _ _, key row, rfl⟩

theorem some_map_cases (stats : Except PyError (List (String × Describe))) :
    ((∃ rows, some <$> stats = .ok (some rows)) ↔ ∃ rows, stats = .ok rows) ∧ some <$> stats ≠ .ok none ∧
      ∀ e, some <$> stats = .error e → stats = .error e := by
  cases stats with
  | error e => exact ⟨⟨(by rintro ⟨_, ⟨⟩⟩), (by rintro ⟨_, ⟨⟩⟩)⟩, (by rintro ⟨⟩), (by rintro _ ⟨⟩; rfl)⟩
  | ok out => exact ⟨⟨fun _ => ⟨out, rfl⟩, fun _ => ⟨out, rfl⟩⟩, (by rintro ⟨⟩), (by rintro _ ⟨⟩)⟩

/-- One of the three `by` columns the method knows: it describes the
durations of `events` grouped by `key`. -/
theorem durationStats_branch {byColumn : String} (listed : byColumn ∈ ["framework_metric", "process", "training_phase"])
    (key : FrameworkRow → String) (events : List FrameworkRow) {P : Prop} (nonempty : events ≠ [] ↔ P) :
    ((∃ rows, some <$> durationStats key events = .ok (some rows)) ↔ P) ∧
      (some <$> durationStats key events = .ok none ↔ byColumn ∉ ["framework_metric", "process", "training_phase"]) ∧
      ∀ e, some <$> durationStats key events = .error e → e = .emptyDescribe := by
  obtain ⟨returns, notNone, raises⟩ := some_map_cases (durationStats key events)
  exact ⟨returns.trans ((durationStats_ok_iff key events).trans nonempty), iff_of_false notNone (not_not.mpr listed),
    fun e raised => describeGroups_error (raises e raised)⟩

/-- `get_step_statistics` returns a table for `framework_metric` and `process`
exactly when the framework table has a row, and for `training_phase` exactly
when some `framework_metric` contains `Step:ModeKeys`; it returns `None` for
any other `by`. When it raises, it is on describing no group (`emptyDescribe`). -/
theorem step_statistics_returns_iff (self : PandasFrameAnalysis) (byColumn : String) :
    ((∃ rows, getStepStatistics self byColumn = .ok (some rows)) ↔
      (byColumn = "framework_metric" ∨ byColumn = "process") ∧ self.frameworkMetricsDf ≠ [] ∨
        byColumn = "training_phase" ∧ ∃ row ∈ self.frameworkMetricsDf, strContains row.frameworkMetric "Step:ModeKeys") ∧
      (getStepStatistics self byColumn = .ok none ↔ byColumn ∉ ["framework_metric", "process", "training_phase"]) ∧
      ∀ e, getStepStatistics self byColumn = .error e → e = .emptyDescribe := by
  unfold getStepStatistics
  split_ifs with metric process phase
  · exact durationStats_branch (by simp [metric]) _ _ (by simp [metric])
  · exact durationStats_branch (by simp [process]) _ _ (by simp [process])
  · exact durationStats_branch (by simp [phase]) _ _ (by simp [phase, List.filter_eq_nil_iff])
  · simp [metric, process, phase]

/-- A job whose clock starts at 1 ms: one training step from 2 to 4 ms, and
samples at 1 and 5 ms. -/
def lateClock : PandasFrameAnalysis :=
  .init [utilSample 1000 "cpu0" 10, utilSample 5000 "cpu0" 30] [stepEvent "Step:ModeKeys.TRAIN" 2000 4000]

theorem lateClock_call :
    ∃ startTime endTime trainingLoopEnd, getJobStatistics lateClock =
      .ok ⟨startTime, endTime, 4, "", trainingLoopEnd, [(pyLabel 0, 2)], 2, 1, 50, [(pyLabel 0, 50)], 25⟩ := by
  have steps : stepZero lateClock.frameworkMetricsDf = [(pyLabel 0, stepEvent "Step:ModeKeys.TRAIN" 2000 4000)] := by
    decide
  obtain ⟨startTime, endTime, trainingLoopEnd, call⟩ :=
    getJobStatistics_of_stepZero
      (show lateClock.frameworkMetricsDf.head? = some (stepEvent "Step:ModeKeys.TRAIN" 2000 4000) from rfl)
      (by decide) (show lateClock.sysMin = some 1000 from rfl) (show lateClock.sysMax = some 5000 from rfl)
      (show (lateClock.frameworkMetricsDf.map (·.endTimeUs)).max? = some 4000 from rfl)
  dsimp only at call
  rw [steps, if_neg (by norm_num)] at call
  refine ⟨startTime, endTime, trainingLoopEnd, call.trans ?_⟩
  norm_num [stepEvent, pyLabel]

/-- The first sample is at 1 ms, so the initialization, the training loop and
the finalization add up to 5 ms of a 4 ms job, and the percentages to 125. -/
theorem job_breakdown_exceeds_duration :
    ∃ stats, getJobStatistics lateClock = .ok stats ∧ stats.jobDuration = 4 ∧ stats.initialization = 2 ∧
      stats.trainingLoopDuration = [(pyLabel 0, 2)] ∧ stats.finalization = 1 ∧
      stats.initializationPct = 50 ∧ stats.trainingLoopPct = [(pyLabel 0, 50)] ∧ stats.finalizationPct = 25 := by
  obtain ⟨_, _, _, call⟩ := lateClock_call
  exact ⟨_, call, rfl, rfl, rfl, rfl, rfl, rfl, rfl⟩

/-- A data-loading event recorded before the first training step. -/
def loaderFirst : PandasFrameAnalysis :=
  .init [utilSample 0 "cpu0" 10, utilSample 3000 "cpu0" 30]
    [stepEvent "DataIterator" 0 500, stepEvent "Step:ModeKeys.TRAIN" 1000 2000]

/-- The step-0 training row is there, under label `1`, but `step_0[...][0]`
looks up label `0` and raises. -/
theorem job_statistics_misses_later_step_zero :
    (stepZero loaderFirst.frameworkMetricsDf).map Prod.fst = [pyLabel 1] ∧
      getJobStatistics loaderFirst = .error (.keyError (pyLabel 0)) := by
  decide

end SmdebugProfiler.Analysis
