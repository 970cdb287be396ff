import SmdebugProfiler.Analysis.IntervalTable

/-!
# How the interval rows meet

Source: pandas_data_analysis.py:280-299. `Before` ends one before the first
interval starts and each `Between` row fills the gap between its neighbours,
so in every returned table each join up to the last tracked interval is
contiguous (`layout_chain`). The `After` row starts at the last interval's
start minus one, not after its end, so it overlaps that interval.

Whatever the order or overlap of the framework events, the rows still cover
every timestamp between the system table's minimum and maximum
(`layout_covers`): `Before` and the gaps reach the last interval's start, and
`After` starts just before it.
-/

namespace SmdebugProfiler.Analysis
open SmdebugProfiler.Pandas

/-- `timestamp_us.between(start_time_us, end_time_us, inclusive=True)` for one sample. -/
def IntervalRow.covers (row : IntervalRow) (timestampUs : Int) : Bool :=
  between timestampUs row.startTimeUs row.endTimeUs

theorem covers_of {row : IntervalRow} {start stop timestampUs : Int} (starts : row.startTimeUs = some start)
    (stops : row.endTimeUs = some stop) (lo : start ≤ timestampUs) (hi : timestampUs ≤ stop) :
    row.covers timestampUs = true := by
  simp [IntervalRow.covers, between, starts, stops, lo, hi]

/-- Both ends of a row are numbers (no NaN). -/
def IntervalRow.Finite (row : IntervalRow) : Prop := row.startTimeUs.isSome ∧ row.endTimeUs.isSome

/-- Between the first tracked start and the last tracked start, the tracked
intervals and the gaps cover every timestamp. -/
theorem interleaveGaps_covers (first : IntervalRow) (rest : List IntervalRow)
    (finite : ∀ row ∈ first :: rest, row.Finite) {start last timestampUs : Int}
    (starts : first.startTimeUs = some start) (lastStarts : (lastInterval first rest).startTimeUs = some last)
    (lo : start ≤ timestampUs) (hi : timestampUs < last) :
    ∃ row ∈ interleaveGaps first rest, row.covers timestampUs := by
  induction rest generalizing first start with
  | nil => simp [lastInterval, starts] at lastStarts; omega
  | cons next rest ih =>
    obtain ⟨stop, stops⟩ := Option.isSome_iff_exists.mp (finite first (List.mem_cons_self _ _)).2
    obtain ⟨nextStart, nextStarts⟩ :=
      Option.isSome_iff_exists.mp (finite next (by simp)).1
    by_cases inFirst : timestampUs ≤ stop
    · exact ⟨first, by simp [interleaveGaps], covers_of starts stops lo inFirst⟩
    by_cases inGap : timestampUs < nextStart
    · refine ⟨gapRow first next, by simp [interleaveGaps], ?_⟩
      exact covers_of (show (gapRow first next).startTimeUs = some (stop + 1) by simp [gapRow, stops])
        (show (gapRow first next).endTimeUs = some (nextStart - 1) by simp [gapRow, nextStarts])
        (by omega) (by omega)
    obtain ⟨row, member, covered⟩ := ih next (fun row member => finite row (by simp [member]))
      nextStarts lastStarts (by omega)
    exact ⟨row, by simp [interleaveGaps, member], covered⟩

/-- With finite tracked intervals, the layout covers every timestamp from the
system minimum to the system maximum. -/
theorem layout_covers {sysMin sysMax timestampUs : Int} (first : IntervalRow) (rest : List IntervalRow)
    (finite : ∀ row ∈ first :: rest, row.Finite) (lo : sysMin ≤ timestampUs) (hi : timestampUs ≤ sysMax) :
    ∃ row ∈ intervalLayout (some sysMin) (some sysMax) first rest, row.covers timestampUs := by
  have lastFinite : (lastInterval first rest).Finite := by
    induction rest generalizing first with
    | nil => exact finite first (List.mem_cons_self _ _)
    | cons next rest ih => exact ih next fun row member => finite row (by simp [member])
  obtain ⟨start, starts⟩ := Option.isSome_iff_exists.mp (finite first (List.mem_cons_self _ _)).1
  obtain ⟨last, lastStarts⟩ := Option.isSome_iff_exists.mp lastFinite.1
  by_cases early : timestampUs < start
  · exact ⟨_, List.mem_cons_self _ _, covers_of rfl
      (show (beforeRow (some sysMin) first).endTimeUs = some (start - 1) by simp [beforeRow, starts])
      lo (by omega)⟩
  by_cases middle : timestampUs < last
  · obtain ⟨row, member, covered⟩ :=
      interleaveGaps_covers first rest finite starts lastStarts (by omega) middle
    exact ⟨row, by simp [intervalLayout, member], covered⟩
  · exact ⟨afterRow (some sysMax) (lastInterval first rest), by simp [intervalLayout],
      covers_of (show (afterRow (some sysMax) (lastInterval first rest)).startTimeUs = some (last - 1) by
        simp [afterRow, lastStarts]) rfl (by omega) hi⟩

theorem toInterval_finite (row : FrameworkRow) : row.toInterval.Finite := by
  simp [IntervalRow.Finite, FrameworkRow.toInterval]

theorem trackedIntervals_finite (frameworkDf : List FrameworkRow) (phase : List String) :
    ∀ row ∈ trackedIntervals frameworkDf phase, row.Finite := by
  have selected : ∀ row ∈ selectedIntervals frameworkDf phase, row.Finite := by
    intro row member
    obtain ⟨entry, -, rfl⟩ := List.mem_map.mp member
    exact toInterval_finite _
  unfold trackedIntervals
  split
  · intro row member
    obtain ⟨run, inRuns, rfl⟩ := List.mem_map.mp member
    have runRows : ∀ row ∈ run.1 :: run.2, row.Finite := fun row inRun =>
      selected row (by
        rw [← flatMap_phaseRuns (selectedIntervals frameworkDf phase)]
        exact List.mem_flatMap.mpr ⟨run, inRuns, inRun⟩)
    exact ⟨seriesMin_isSome (by simpa using fun row inRun => (runRows row inRun).1) (by simp),
      seriesMax_isSome (by simpa using fun row inRun => (runRows row inRun).2) (by simp)⟩
  · exact selected

/-- A returned table is the layout of the tracked intervals. -/
theorem returned_layout (self : PandasFrameAnalysis) (phase : Option (List String)) {rows : List IntervalRow}
    (returned : getTrainingPhaseIntervals self phase = .ok rows) :
    ∃ first rest, trackedIntervals self.frameworkMetricsDf (phase.getD (defaultPhases self.frameworkMetricsDf)) =
      first :: rest ∧ rows = intervalLayout self.sysMin self.sysMax first rest := by
  rcases getTrainingPhaseIntervals_cases self phase with ⟨-, first, rest, tracked, call⟩ | ⟨-, call⟩
  · exact ⟨first, rest, tracked, (Except.ok.inj (call.symm.trans returned)).symm⟩
  · cases call.symm.trans returned

/-- Every sample of the system table lies in some row of a returned interval
table, whatever the order or overlap of the framework events. -/
theorem intervals_cover_samples (self : PandasFrameAnalysis) (phase : Option (List String))
    {rows : List IntervalRow} (returned : getTrainingPhaseIntervals self phase = .ok rows) :
    ∀ sample ∈ self.sysMetricsDf, ∃ row ∈ rows, row.covers sample.timestampUs := by
  intro sample member
  obtain ⟨first, rest, tracked, rfl⟩ := returned_layout self phase returned
  obtain ⟨least, leastEq, lo⟩ := sysMin_le_of_mem member
  obtain ⟨greatest, greatestEq, hi⟩ := le_sysMax_of_mem member
  rw [leastEq, greatestEq]
  exact layout_covers first rest (tracked ▸ trackedIntervals_finite _ _) lo hi

/-! ### The last join -/

theorem interleaveGaps_last (first : IntervalRow) (rest : List IntervalRow) :
    ∃ front, interleaveGaps first rest = front ++ [lastInterval first rest] := by
  induction rest generalizing first with
  | nil => exact ⟨[], rfl⟩
  | cons next rest ih =>
    obtain ⟨front, split⟩ := ih next
    exact ⟨first :: gapRow first next :: front, by simp [interleaveGaps, split, lastInterval]⟩

theorem lastInterval_mem (first : IntervalRow) (rest : List IntervalRow) : lastInterval first rest ∈ first :: rest := by
  induction rest generalizing first with
  | nil => exact List.mem_cons_self _ _
  | cons next rest ih => exact List.mem_cons_of_mem _ (ih next)

theorem getLast?_lastInterval (first : IntervalRow) (rest : List IntervalRow) :
    (first :: rest).getLast? = some (lastInterval first rest) := by
  induction rest generalizing first with
  | nil => rfl
  | cons next rest ih => rw [List.getLast?_cons_cons, ih]; rfl

/-- A returned table ends with the last tracked interval and the `After` row
built from it. -/
theorem returned_table_end (self : PandasFrameAnalysis) (phase : Option (List String)) {rows : List IntervalRow}
    (returned : getTrainingPhaseIntervals self phase = .ok rows) :
    ∃ front last start, rows = front ++ [last, afterRow self.sysMax last] ∧
      (trackedIntervals self.frameworkMetricsDf (phase.getD (defaultPhases self.frameworkMetricsDf))).getLast? =
        some last ∧ last.startTimeUs = some start := by
  obtain ⟨first, rest, tracked, rfl⟩ := returned_layout self phase returned
  obtain ⟨front, split⟩ := interleaveGaps_last first rest
  obtain ⟨start, starts⟩ :=
    Option.isSome_iff_exists.mp (trackedIntervals_finite _ _ _ (tracked ▸ lastInterval_mem first rest)).1
  exact ⟨beforeRow self.sysMin first :: front, _, start, by simp [intervalLayout, split],
    by rw [tracked, getLast?_lastInterval], starts⟩

/-- One training step from 10 to 20 µs, with samples at 0, 15 and 100 µs. -/
def oneTrainStep : PandasFrameAnalysis :=
  .init [utilSample 0 "cpu0" 10, utilSample 15 "cpu0" 90, utilSample 100 "gpu0" 50]
    [stepEvent "Step:ModeKeys.TRAIN" 10 20]

/-- The `After` row starts at `9`, inside the training step that ends at `20`:
`20 + 1 ≠ 9`. -/
theorem after_row_overlaps_step :
    getTrainingPhaseIntervals oneTrainStep (some ["Step:ModeKeys.TRAIN"]) =
      .ok [⟨some 0, some 9, "Before Step:ModeKeys.TRAIN"⟩, ⟨some 10, some 20, "Step:ModeKeys.TRAIN"⟩,
        ⟨some 9, some 100, "After Step:ModeKeys.TRAIN"⟩] := by
  decide

end SmdebugProfiler.Analysis
