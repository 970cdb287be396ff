import SmdebugProfiler.Analysis.PhaseIntervals

/-!
# What `get_training_phase_intervals` returns

Source: pandas_data_analysis.py:249-300. `getTrainingPhaseIntervals_cases`
settles every call: it returns the `Before`/interval/`Between`/`After` layout
of the tracked intervals exactly when the frame the loop starts from holds
label `0`, and raises `KeyError: 0` otherwise. The merged branch renumbers
its rows from `0`; the single-phase branch keeps the labels the boolean mask
left, so label `0` is there only if the first framework row is selected.
-/

namespace SmdebugProfiler.Analysis
open SmdebugProfiler.Pandas

/-- The rows the loop starts from: the merged runs when more than one phase is
tracked, otherwise the selected rows. -/
def trackedIntervals (frameworkDf : List FrameworkRow) (phase : List String) : List IntervalRow :=
  if 1 < phase.length then (phaseRuns (selectedIntervals frameworkDf phase)).map runSummary
  else selectedIntervals frameworkDf phase

/-- Whether label `0` is in `mode_df` when the `Before` row reads it. -/
def labelZeroSelected (frameworkDf : List FrameworkRow) (phase : List String) : Prop :=
  if 1 < phase.length then selectedIntervals frameworkDf phase ≠ []
  else ∃ row, frameworkDf.head? = some row ∧ row.frameworkMetric ∈ phase

/-- What the loop needs of the frame it starts from, and where label `0` sits. -/
structure ModeFrameSpec (frameworkDf : List FrameworkRow) (phase : List String)
    (frame : Labelled IntervalRow) : Prop where
  labels : LoopLabels frame
  tracked : ∀ entry ∈ frame,
    entry.2.phase ∈ unique ((selectPhaseRows frameworkDf phase).map (·.2.frameworkMetric))
  rows : resetIndex frame = trackedIntervals frameworkDf phase
  labelZero : (∃ first rest, frame = first :: rest ∧ first.1 = 0) ↔ labelZeroSelected frameworkDf phase

theorem metric_mem_selected {frameworkDf : List FrameworkRow} {phase : List String}
    {entry : Nat × FrameworkRow} (member : entry ∈ selectPhaseRows frameworkDf phase) :
    entry.2.frameworkMetric ∈ unique ((selectPhaseRows frameworkDf phase).map (·.2.frameworkMetric)) :=
  mem_unique.mpr (List.mem_map_of_mem _ member)

theorem labels_positional (rows : List IntervalRow) :
    (positional rows).map Prod.fst = (List.range rows.length).map fun i : Nat => pyLabel i := by
  rw [← List.enum_map_fst, List.map_map, positional, List.map_map]
  rfl

theorem loopLabels_positional (rows : List IntervalRow) : LoopLabels (positional rows) where
  spaced := by
    rw [labels_positional]
    exact List.pairwise_map.mpr ((List.pairwise_lt_range _).imp fun less => pyLabel_spaced (by exact_mod_cast less))
  nonneg := by
    intro entry member
    have : entry.1 ∈ (positional rows).map Prod.fst := List.mem_map_of_mem _ member
    rw [labels_positional] at this
    obtain ⟨i, -, same⟩ := List.mem_map.mp this
    exact same ▸ pyLabel_nonneg.mpr (Int.natCast_nonneg i)

@[simp] theorem resetIndex_positional (rows : List IntervalRow) : resetIndex (positional rows) = rows := by
  simp [positional, resetIndex, Function.comp_def, ← List.map_map (f := Prod.snd)]

theorem positional_cons (row : IntervalRow) (rest : List IntervalRow) :
    ∃ tail, positional (row :: rest) = (pyLabel 0, row) :: tail :=
  ⟨_, by simp [positional, List.enum_cons]; rfl⟩

/-- The merged branch: label `0` is there whenever some row was selected. -/
theorem modeFrame_merged {frameworkDf : List FrameworkRow} {phase : List String}
    (several : 1 < phase.length) :
    ModeFrameSpec frameworkDf phase (positional ((phaseRuns (selectedIntervals frameworkDf phase)).map runSummary)) where
  labels := loopLabels_positional _
  tracked := by
    intro entry member
    have inRuns := List.mem_map_of_mem Prod.snd member
    rw [← resetIndex, resetIndex_positional, List.mem_map] at inRuns
    obtain ⟨run, inPhaseRuns, summary⟩ := inRuns
    rw [← summary]
    have first : run.1 ∈ selectedIntervals frameworkDf phase := by
      rw [← flatMap_phaseRuns (selectedIntervals frameworkDf phase)]
      exact List.mem_flatMap.mpr ⟨run, inPhaseRuns, List.mem_cons_self _ _⟩
    obtain ⟨selected, inSelected, same⟩ := List.mem_map.mp first
    simpa [runSummary, ← same, FrameworkRow.toInterval] using metric_mem_selected inSelected
  rows := by simp [trackedIntervals, several]
  labelZero := by
    simp only [labelZeroSelected, if_pos several]
    constructor
    · rintro ⟨first, rest, split, -⟩ none
      simp [none, phaseRuns, positional] at split
    · intro some
      obtain ⟨row, rows, split⟩ := List.exists_cons_of_ne_nil some
      obtain ⟨run, more, runs⟩ := phaseRuns_head row rows
      obtain ⟨tail, labelled⟩ := positional_cons (runSummary (row, run)) (more.map runSummary)
      exact ⟨_, tail, by rw [split, runs, List.map_cons, labelled], pyLabel_eq_zero.mpr rfl⟩

theorem head_selectPhaseRows {frameworkDf : List FrameworkRow} {phase : List String} :
    (∃ entry rest, selectPhaseRows frameworkDf phase = entry :: rest ∧ entry.1 = 0) ↔
      ∃ row, frameworkDf.head? = some row ∧ row.frameworkMetric ∈ phase := by
  cases frameworkDf with
  | nil => simp [selectPhaseRows]
  | cons row rows =>
    by_cases chosen : row.frameworkMetric ∈ phase
    · simp [selectPhaseRows, List.enum_cons, List.filter_cons, chosen]
    · simp only [selectPhaseRows, List.enum_cons, List.filter_cons, chosen, decide_False,
        Bool.false_eq_true, if_false, List.head?_cons, Option.some.injEq, exists_eq_left', iff_false]
      rintro ⟨entry, rest, split, zero⟩
      have member : entry ∈ (rows.enumFrom 1).filter fun entry => entry.2.frameworkMetric ∈ phase := by
        simp [split]
      have := List.le_fst_of_mem_enumFrom (List.mem_filter.mp member).1
      omega

/-- The single-phase branch: the selected rows keep their labels, so label `0`
is there only if the first framework row is selected. -/
theorem modeFrame_single {frameworkDf : List FrameworkRow} {phase : List String}
    (single : ¬ 1 < phase.length) :
    ModeFrameSpec frameworkDf phase
      ((selectPhaseRows frameworkDf phase).map fun entry => (pyLabel entry.1, entry.2.toInterval)) where
  labels := by
    refine ⟨?_, ?_⟩
    · have ascending : ((selectPhaseRows frameworkDf phase).map Prod.fst).Sorted (· < ·) := by
        have sub := (List.filter_sublist (p := fun entry : Nat × FrameworkRow =>
          decide (entry.2.frameworkMetric ∈ phase)) frameworkDf.enum).map Prod.fst
        rw [List.enum_map_fst] at sub
        exact (List.pairwise_lt_range _).sublist sub
      simp only [List.map_map, Function.comp_def]
      exact List.pairwise_map.mpr ((List.pairwise_map.mp ascending).imp fun less =>
        pyLabel_spaced (by exact_mod_cast less))
    · intro entry member
      obtain ⟨selected, -, rfl⟩ := List.mem_map.mp member
      exact pyLabel_nonneg.mpr (Int.natCast_nonneg _)
  tracked := by
    intro entry member
    obtain ⟨selected, inSelected, rfl⟩ := List.mem_map.mp member
    exact metric_mem_selected inSelected
  rows := by simp [trackedIntervals, single, resetIndex, selectedIntervals, Function.comp_def]
  labelZero := by
    simp only [labelZeroSelected, if_neg single, ← head_selectPhaseRows]
    constructor
    · rintro ⟨first, rest, split, zero⟩
      cases selected : selectPhaseRows frameworkDf phase with
      | nil => simp [selected] at split
      | cons entry more =>
        simp only [selected, List.map_cons, List.cons.injEq] at split
        exact ⟨entry, more, rfl, by simpa [← split.1] using zero⟩
    · rintro ⟨entry, rest, selected, zero⟩
      exact ⟨_, _, by rw [selected, List.map_cons], by simp [zero]⟩

theorem modeFrame_spec (frameworkDf : List FrameworkRow) (phase : List String) :
    ∃ frame, modeFrame frameworkDf phase = .ok frame ∧ ModeFrameSpec frameworkDf phase frame := by
  by_cases several : 1 < phase.length
  · exact ⟨_, by simp [modeFrame, several, mergePhaseRuns_eq], modeFrame_merged several⟩
  · exact ⟨_, by simp [modeFrame, several], modeFrame_single several⟩

/-- Every call either returns the layout of the tracked intervals (when label
`0` is present) or raises `KeyError: 0` (when it is not). -/
theorem getTrainingPhaseIntervals_cases (self : PandasFrameAnalysis) (phase : Option (List String)) :
    let tracked := phase.getD (defaultPhases self.frameworkMetricsDf)
    (labelZeroSelected self.frameworkMetricsDf tracked ∧
      ∃ first rest, trackedIntervals self.frameworkMetricsDf tracked = first :: rest ∧
        getTrainingPhaseIntervals self phase = .ok (intervalLayout self.sysMin self.sysMax first rest)) ∨
    (¬ labelZeroSelected self.frameworkMetricsDf tracked ∧
      getTrainingPhaseIntervals self phase = .error (.keyError 0)) := by
  intro tracked
  obtain ⟨frame, built, spec⟩ := modeFrame_spec self.frameworkMetricsDf tracked
  have call : getTrainingPhaseIntervals self phase =
      addBoundaryRows self (unique ((selectPhaseRows self.frameworkMetricsDf tracked).map
        (·.2.frameworkMetric))) frame := by
    simp only [getTrainingPhaseIntervals, built]
    rfl
  rw [call, addBoundaryRows_spec self spec.labels spec.tracked]
  match frame, spec with
  | [], spec =>
    exact .inr ⟨fun present => by simpa using spec.labelZero.mpr present, rfl⟩
  | first :: rest, spec =>
    by_cases zero : first.1 = 0
    · refine .inl ⟨spec.labelZero.mp ⟨first, rest, rfl, zero⟩, first.2, resetIndex rest, ?_, ?_⟩
      · simpa using spec.rows.symm
      · simp [zero]
    · refine .inr ⟨fun present => ?_, by simp [zero]⟩
      obtain ⟨head, tail, same, headZero⟩ := spec.labelZero.mpr present
      simp only [List.cons.injEq] at same
      exact zero (same.1 ▸ headZero)

/-- The call returns exactly when label `0` is present; otherwise it raises
`KeyError: 0`. -/
theorem training_phase_intervals_returns_iff (self : PandasFrameAnalysis)
    (phase : Option (List String)) :
    (∃ rows, getTrainingPhaseIntervals self phase = .ok rows) ↔
      labelZeroSelected self.frameworkMetricsDf (phase.getD (defaultPhases self.frameworkMetricsDf)) := by
  rcases getTrainingPhaseIntervals_cases self phase with ⟨present, _, _, _, call⟩ | ⟨absent, call⟩
  · exact ⟨fun _ => present, fun _ => ⟨_, call⟩⟩
  · simp [call, absent]

theorem length_interleaveGaps (first : IntervalRow) (rest : List IntervalRow) :
    (interleaveGaps first rest).length = 2 * rest.length + 1 := by
  induction rest generalizing first with
  | nil => rfl
  | cons next rest ih => simp [interleaveGaps, ih]; omega

/-- Whenever the interval table is returned it has `2k + 1` rows for the `k`
tracked intervals: `Before P₀`, then each tracked interval followed by the
`Between` row to the next one, and `After P_{k-1}` last. -/
theorem training_phase_intervals_layout (self : PandasFrameAnalysis) (phase : Option (List String))
    (rows : List IntervalRow) (returned : getTrainingPhaseIntervals self phase = .ok rows) :
    ∃ first rest,
      trackedIntervals self.frameworkMetricsDf (phase.getD (defaultPhases self.frameworkMetricsDf)) =
        first :: rest ∧
      rows = intervalLayout self.sysMin self.sysMax first rest ∧
      rows.length = 2 * (rest.length + 1) + 1 := by
  rcases getTrainingPhaseIntervals_cases self phase with ⟨-, first, rest, tracked, call⟩ | ⟨-, call⟩
  · rw [call] at returned
    obtain rfl := Except.ok.inj returned
    exact ⟨first, rest, tracked, rfl, by simp [intervalLayout, length_interleaveGaps]; omega⟩
  · rw [call] at returned
    cases returned

/-- Two training steps and one evaluation step, sampled from 0 to 100 µs. -/
def trainTrainEval : PandasFrameAnalysis :=
  .init [utilSample 0 "cpu0" 10, utilSample 100 "cpu0" 20]
    [stepEvent "Step:ModeKeys.TRAIN" 10 20, stepEvent "Step:ModeKeys.TRAIN" 25 30,
      stepEvent "Step:ModeKeys.EVAL" 40 50]

/-- The spec's example: one merged `TRAIN` row, one `EVAL` row, the canonical
`Between` row, `Before TRAIN` and `After EVAL`: five rows. -/
theorem train_train_eval_layout :
    getTrainingPhaseIntervals trainTrainEval (some ["Step:ModeKeys.TRAIN", "Step:ModeKeys.EVAL"]) =
      .ok [⟨some 0, some 9, "Before Step:ModeKeys.TRAIN"⟩, ⟨some 10, some 30, "Step:ModeKeys.TRAIN"⟩,
        ⟨some 31, some 39, "Between Step:ModeKeys.EVAL and Step:ModeKeys.TRAIN"⟩,
        ⟨some 40, some 50, "Step:ModeKeys.EVAL"⟩, ⟨some 39, some 100, "After Step:ModeKeys.EVAL"⟩] ∧
    ∃ first rest,
      trackedIntervals trainTrainEval.frameworkMetricsDf ["Step:ModeKeys.TRAIN", "Step:ModeKeys.EVAL"] =
        first :: rest ∧
      [⟨some 0, some 9, "Before Step:ModeKeys.TRAIN"⟩, ⟨some 10, some 30, "Step:ModeKeys.TRAIN"⟩,
        ⟨some 31, some 39, "Between Step:ModeKeys.EVAL and Step:ModeKeys.TRAIN"⟩,
        ⟨some 40, some 50, "Step:ModeKeys.EVAL"⟩, ⟨some 39, some 100, "After Step:ModeKeys.EVAL"⟩] =
        intervalLayout trainTrainEval.sysMin trainTrainEval.sysMax first rest ∧
      5 = 2 * (rest.length + 1) + 1 :=
  have returned : getTrainingPhaseIntervals trainTrainEval
      (some ["Step:ModeKeys.TRAIN", "Step:ModeKeys.EVAL"]) = .ok _ := by decide
  ⟨returned, training_phase_intervals_layout _ _ _ returned⟩

/-- An evaluation step before a training step. -/
def evalThenTrain : PandasFrameAnalysis :=
  .init [utilSample 0 "cpu0" 10, utilSample 100 "cpu0" 20]
    [stepEvent "Step:ModeKeys.EVAL" 0 5, stepEvent "Step:ModeKeys.TRAIN" 10 20]

/-- Tracking the training phase alone selects the second framework row, yet the
call raises: the single-phase branch keeps label `1` and `mode_df[...][0]` finds
no label `0`. -/
theorem single_phase_raises_with_selected_row :
    selectedIntervals evalThenTrain.frameworkMetricsDf ["Step:ModeKeys.TRAIN"] ≠ [] ∧
    getTrainingPhaseIntervals evalThenTrain (some ["Step:ModeKeys.TRAIN"]) = .error (.keyError 0) := by
  decide

end SmdebugProfiler.Analysis
