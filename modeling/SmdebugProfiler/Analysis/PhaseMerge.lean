import SmdebugProfiler.Analysis.Tables

/-!
# Merging consecutive rows of one training phase

Source: pandas_data_analysis.py:253-269. With more than one tracked phase,
`get_training_phase_intervals` groups the selected framework rows by
`framework_metric.ne(framework_metric.shift()).cumsum()` and keeps, per group,
the earliest start, the latest end and the first metric.

`phaseRuns` is an independent statement of what that pipeline is for: the
maximal runs of consecutive rows sharing a phase. `mergePhaseRuns_eq` proves
the pandas pipeline computes one summary per run, in table order; the run
decomposition is complete (`flatMap_phaseRuns`), uniform (`phase_of_mem_run`)
and maximal (`phaseRuns_chain`), and merging is idempotent.
-/

namespace SmdebugProfiler.Analysis
open SmdebugProfiler.Pandas

/-- The three columns of a framework row the merge and the interval loop read. -/
def FrameworkRow.toInterval (row : FrameworkRow) : IntervalRow where
  startTimeUs := some row.startTimeUs
  endTimeUs := some row.endTimeUs
  phase := row.frameworkMetric

/-- `mode_df`: the framework rows whose metric is in `phase`, with their labels. -/
def selectPhaseRows (frameworkDf : List FrameworkRow) (phase : List String) :
    List (Nat × FrameworkRow) :=
  frameworkDf.enum.filter fun entry => entry.2.frameworkMetric ∈ phase

/-- The selected rows as the merge sees them. -/
def selectedIntervals (frameworkDf : List FrameworkRow) (phase : List String) : List IntervalRow :=
  (selectPhaseRows frameworkDf phase).map (·.2.toInterval)

/-- `framework_metric.ne(framework_metric.shift())`: the first row meets NaN. -/
def changesPhase (phases : List String) : List Bool :=
  List.zipWith (fun phase previous => decide (some phase ≠ previous)) phases (none :: phases.map some)

/-- `Series.cumsum()` of a boolean series. -/
def cumsum (flags : List Bool) : List Nat :=
  (flags.scanl (fun total flag => total + flag.toNat) 0).tail

/-- The group key of every selected row. -/
def groupKeys (rows : List IntervalRow) : List Nat := cumsum (changesPhase (rows.map (·.phase)))

/-- The merge's `lambda x: pd.DataFrame(...)` on one group. -/
def summarizeRun (group : List IntervalRow) : Except PyError IntervalRow := do
  let first ← iloc group 0
  pure { startTimeUs := seriesMin (group.map (·.startTimeUs))
         endTimeUs := seriesMax (group.map (·.endTimeUs))
         phase := first.phase }

/-- `mode_df.groupby(keys).apply(...)`, in group order (`reset_index` only relabels). -/
def mergePhaseRuns (rows : List IntervalRow) : Except PyError (List IntervalRow) :=
  (groupBy (· ≤ ·) (((groupKeys rows).map some).zip rows)).mapM fun group => summarizeRun group.2

/-- The maximal runs of consecutive rows sharing a phase, each as its first row
and the rows after it. -/
def phaseRuns : List IntervalRow → List (IntervalRow × List IntervalRow)
  | [] => []
  | row :: rest =>
    match phaseRuns rest with
    | (next, run) :: more =>
      if row.phase = next.phase then (row, next :: run) :: more
      else (row, []) :: (next, run) :: more
    | [] => [(row, [])]

/-- One merged interval: earliest start and latest end of a run, under its phase. -/
def runSummary (run : IntervalRow × List IntervalRow) : IntervalRow where
  startTimeUs := seriesMin ((run.1 :: run.2).map (·.startTimeUs))
  endTimeUs := seriesMax ((run.1 :: run.2).map (·.endTimeUs))
  phase := run.1.phase

/-! ### The run decomposition -/

theorem phaseRuns_cons_of_eq {row : IntervalRow} {rest : List IntervalRow} {next : IntervalRow}
    {run : List IntervalRow} {more : List (IntervalRow × List IntervalRow)}
    (runs : phaseRuns rest = (next, run) :: more) :
    phaseRuns (row :: rest) =
      if row.phase = next.phase then (row, next :: run) :: more else (row, []) :: (next, run) :: more := by
  simp [phaseRuns, runs]

theorem phaseRuns_head (row : IntervalRow) (rest : List IntervalRow) :
    ∃ run more, phaseRuns (row :: rest) = (row, run) :: more := by
  cases runs : phaseRuns rest with
  | nil => exact ⟨[], [], by simp [phaseRuns, runs]⟩
  | cons head more =>
    rw [phaseRuns_cons_of_eq (show phaseRuns rest = (head.1, head.2) :: more from runs)]
    split
    · exact ⟨_, _, rfl⟩
    · exact ⟨_, _, rfl⟩

theorem flatMap_phaseRuns (rows : List IntervalRow) :
    (phaseRuns rows).flatMap (fun run => run.1 :: run.2) = rows := by
  induction rows with
  | nil => rfl
  | cons row rest ih =>
    cases runs : phaseRuns rest with
    | nil => simp_all [phaseRuns]
    | cons head more =>
      rw [runs] at ih
      rw [phaseRuns_cons_of_eq (show phaseRuns rest = (head.1, head.2) :: more from runs)]
      split <;> simpa using ih

theorem phase_of_mem_run {rows : List IntervalRow} :
    ∀ run ∈ phaseRuns rows, ∀ row ∈ run.2, row.phase = run.1.phase := by
  induction rows with
  | nil => simp [phaseRuns]
  | cons row rest ih =>
    cases runs : phaseRuns rest with
    | nil => simp [phaseRuns, runs]
    | cons head more =>
      rw [runs] at ih
      rw [phaseRuns_cons_of_eq (show phaseRuns rest = (head.1, head.2) :: more from runs)]
      split
      next same =>
        simp only [List.mem_cons, forall_eq_or_imp]
        exact ⟨⟨same.symm, fun other member => (ih head (by simp) other member).trans same.symm⟩,
          fun run member => ih run (by simp [member])⟩
      · simpa using ih

theorem phaseRuns_chain (rows : List IntervalRow) :
    (phaseRuns rows).Chain' fun a b => a.1.phase ≠ b.1.phase := by
  induction rows with
  | nil => simp [phaseRuns]
  | cons row rest ih =>
    cases runs : phaseRuns rest with
    | nil => simp [phaseRuns, runs]
    | cons head more =>
      rw [runs] at ih
      rw [phaseRuns_cons_of_eq (show phaseRuns rest = (head.1, head.2) :: more from runs)]
      split
      next same =>
        cases more with
        | nil => simp
        | cons third more => simpa [same] using ih
      next different => exact List.Chain'.cons different ih

/-- A table whose adjacent rows all differ in phase is its own run decomposition. -/
theorem phaseRuns_of_chain {rows : List IntervalRow}
    (alternating : rows.Chain' fun a b => a.phase ≠ b.phase) : phaseRuns rows = rows.map (·, []) := by
  induction rows with
  | nil => rfl
  | cons row rest ih =>
    cases rest with
    | nil => rfl
    | cons next rest =>
      have runs := ih alternating.tail
      rw [List.map_cons] at runs
      rw [phaseRuns_cons_of_eq runs, if_neg (List.chain'_cons.mp alternating).1]
      rfl

@[simp] theorem runSummary_single (row : IntervalRow) : runSummary (row, []) = row := by
  simp [runSummary]

/-! ### The pandas pipeline computes the runs -/

/-- The runs as `groupby` blocks, keyed `first, first + 1, …`. -/
def runBlocks (first : Nat) : List (IntervalRow × List IntervalRow) → List (Nat × List IntervalRow)
  | [] => []
  | run :: more => (first, run.1 :: run.2) :: runBlocks (first + 1) more

theorem keys_runBlocks (first : Nat) (runs : List (IntervalRow × List IntervalRow)) :
    (runBlocks first runs).map Prod.fst = List.range' first runs.length := by
  induction runs generalizing first with
  | nil => rfl
  | cons run more ih => simp [runBlocks, ih, List.range'_succ]

theorem runBlocks_nonempty (first : Nat) (runs : List (IntervalRow × List IntervalRow)) :
    ∀ block ∈ runBlocks first runs, block.2 ≠ [] := by
  induction runs generalizing first with
  | nil => simp [runBlocks]
  | cons run more ih => simpa [runBlocks] using ih (first + 1)

theorem scanl_count_shift (flags : List Bool) (base shift : Nat) :
    flags.scanl (fun total flag => total + flag.toNat) (base + shift) =
      (flags.scanl (fun total flag => total + flag.toNat) base).map (· + shift) := by
  induction flags generalizing base with
  | nil => rfl
  | cons flag flags ih =>
    have shifted := ih (base + flag.toNat)
    rw [show base + flag.toNat + shift = base + shift + flag.toNat by omega] at shifted
    simp [List.scanl_cons, shifted]

theorem cumsum_cons (flag : Bool) (flags : List Bool) :
    cumsum (flag :: flags) = flag.toNat :: (cumsum flags).map (· + flag.toNat) := by
  have shifted := scanl_count_shift flags 0 flag.toNat
  rw [Nat.zero_add] at shifted
  cases flags <;> simp_all [cumsum, List.scanl_cons]

/-- `ne(shift())` from the second row on: each row against the one before it. -/
def changesAfter (previous : String) (phases : List String) : List Bool :=
  List.zipWith (fun phase previous => decide (some phase ≠ previous)) phases
    (some previous :: phases.map some)

theorem changesPhase_cons (phase : String) (phases : List String) :
    changesPhase (phase :: phases) = true :: changesAfter phase phases := by
  simp [changesPhase, changesAfter]

theorem changesAfter_cons (previous phase : String) (phases : List String) :
    changesAfter previous (phase :: phases) = decide (phase ≠ previous) :: changesAfter phase phases := by
  simp [changesAfter]

theorem groupKeys_cons_cons (row next : IntervalRow) (rest : List IntervalRow) :
    groupKeys (row :: next :: rest) =
      1 :: if row.phase = next.phase then groupKeys (next :: rest)
        else (groupKeys (next :: rest)).map (· + 1) := by
  simp only [groupKeys, List.map_cons, changesPhase_cons, changesAfter_cons, cumsum_cons]
  by_cases same : row.phase = next.phase
  · simp [same]
  · simp [same, Ne.symm same, List.map_map, Function.comp_def]

/-- The `cumsum` keys tag the rows run by run: every row of the `i`-th run gets
key `i + 1` (shifted by `base`). -/
theorem zip_groupKeys (rows : List IntervalRow) (base : Nat) :
    ((groupKeys rows).map fun key => some (key + base)).zip rows =
      tagBlocks (runBlocks (base + 1) (phaseRuns rows)) := by
  induction rows generalizing base with
  | nil => rfl
  | cons row rest ih =>
    cases rest with
    | nil => simp [groupKeys, cumsum, changesPhase, phaseRuns, runBlocks, tagBlocks, Nat.add_comm]
    | cons next rest =>
      obtain ⟨run, more, runs⟩ := phaseRuns_head next rest
      rw [groupKeys_cons_cons, phaseRuns_cons_of_eq runs]
      by_cases same : row.phase = next.phase
      · have tail := ih base
        rw [runs] at tail
        simp only [if_pos same, List.map_cons, List.zip_cons_cons, tail]
        simp [runBlocks, tagBlocks, Nat.add_comm]
      · have tail := ih (base + 1)
        rw [runs] at tail
        simp only [if_neg same, List.map_cons, List.map_map, Function.comp_def, List.zip_cons_cons]
        rw [show (fun key => some (key + 1 + base)) = fun key => some (key + (base + 1)) by
          funext key; rw [Nat.add_assoc, Nat.add_comm 1 base], tail]
        simp [runBlocks, tagBlocks, Nat.add_comm]

theorem summarizeRun_cons (first : IntervalRow) (rest : List IntervalRow) :
    summarizeRun (first :: rest) = .ok (runSummary (first, rest)) := by
  simp [summarizeRun, iloc, runSummary]

theorem mapM_summarizeRun_runBlocks (first : Nat) (runs : List (IntervalRow × List IntervalRow)) :
    (runBlocks first runs).mapM (fun group => summarizeRun group.2) = .ok (runs.map runSummary) := by
  induction runs generalizing first with
  | nil => rfl
  | cons run more ih =>
    simp only [runBlocks, List.mapM_cons, ih, summarizeRun_cons]
    rfl

/-- The pandas merge returns one summary per maximal run, in table order. -/
theorem mergePhaseRuns_eq (rows : List IntervalRow) :
    mergePhaseRuns rows = .ok ((phaseRuns rows).map runSummary) := by
  have tagged := zip_groupKeys rows 0
  simp only [Nat.add_zero] at tagged
  have ascending : ((runBlocks 1 (phaseRuns rows)).map Prod.fst).Sorted (· < ·) := by
    rw [keys_runBlocks]
    exact List.pairwise_lt_range' _ _
  rw [mergePhaseRuns, tagged, groupBy_tagBlocks ascending (runBlocks_nonempty 1 _)]
  exact mapM_summarizeRun_runBlocks 1 _

/-- The merge applied to the selected rows of any framework table: one row per
maximal run of consecutive selected rows sharing a metric, in table order, with
the run's earliest start, latest end and metric. No two adjacent rows of the
result share a phase, and merging the result again returns it unchanged. -/
theorem merge_phase_runs_spec (frameworkDf : List FrameworkRow) (phase : List String) :
    let rows := selectedIntervals frameworkDf phase
    mergePhaseRuns rows = .ok ((phaseRuns rows).map runSummary) ∧
    (phaseRuns rows).flatMap (fun run => run.1 :: run.2) = rows ∧
    (∀ run ∈ phaseRuns rows, ∀ row ∈ run.2, row.phase = run.1.phase) ∧
    (phaseRuns rows).Chain' (fun a b => a.1.phase ≠ b.1.phase) ∧
    ((phaseRuns rows).map runSummary).Chain' (fun a b => a.phase ≠ b.phase) ∧
    mergePhaseRuns ((phaseRuns rows).map runSummary) = .ok ((phaseRuns rows).map runSummary) := by
  intro rows
  have alternating : ((phaseRuns rows).map runSummary).Chain' fun a b => a.phase ≠ b.phase :=
    List.chain'_map_of_chain' runSummary (fun _ _ different => different) (phaseRuns_chain rows)
  refine ⟨mergePhaseRuns_eq rows, flatMap_phaseRuns rows, phase_of_mem_run, phaseRuns_chain rows,
    alternating, ?_⟩
  rw [mergePhaseRuns_eq, phaseRuns_of_chain alternating, List.map_map]
  simp [Function.comp_def]

example :
    mergePhaseRuns [⟨some 0, some 5, "TRAIN"⟩, ⟨some 6, some 9, "TRAIN"⟩, ⟨some 12, some 20, "EVAL"⟩] =
      .ok [⟨some 0, some 9, "TRAIN"⟩, ⟨some 12, some 20, "EVAL"⟩] := by
  decide

end SmdebugProfiler.Analysis
