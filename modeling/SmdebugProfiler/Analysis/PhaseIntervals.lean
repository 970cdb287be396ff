import SmdebugProfiler.Analysis.PhaseMerge

/-!
# `get_training_phase_intervals`

Source: pandas_data_analysis.py:242-300. The tracked intervals (`modeFrame`)
enter a loop that appends a `Between` row under label `ind + 0.5` for every
consecutive pair, looked up by position among the rows the loop started with;
a `Before` row goes under label `-1`, the frame is sorted by label and
renumbered, and an `After` row is appended.

The loop is proved here once: its step lemma (`betweenStep_spec`) and its run
lemma (`betweenLoop_spec`) under the label discipline `LoopLabels`, and then
what `sort_index` makes of the result (`sortIndex_boundary`).
-/

namespace SmdebugProfiler.Analysis
open SmdebugProfiler.Pandas

/-- `phase=None`: the processes, in order of appearance, containing `Step:ModeKeys`. -/
def defaultPhases (frameworkDf : List FrameworkRow) : List String :=
  (unique (frameworkDf.map (·.process))).filter (strContains · "Step:ModeKeys")

/-- `mode_df` when the loop starts: with more than one phase the merged runs,
renumbered by `reset_index`; otherwise the selected rows under their own labels. -/
def modeFrame (frameworkDf : List FrameworkRow) (phase : List String) :
    Except PyError (Labelled IntervalRow) :=
  if 1 < phase.length then positional <$> mergePhaseRuns (selectedIntervals frameworkDf phase)
  else .ok ((selectPhaseRows frameworkDf phase).map fun entry => (pyLabel entry.1, entry.2.toInterval))

/-- The `Between` row for two consecutive intervals. -/
def gapRow (this next : IntervalRow) : IntervalRow where
  startTimeUs := this.endTimeUs.map (· + 1)
  endTimeUs := next.startTimeUs.map (· - 1)
  phase := "Between " ++ " and ".intercalate (sortedPair this.phase next.phase)

/-- One pass of `for i in range(len(mode_df.index) - 1)`. -/
def betweenStep (trainingPhases : List String) (modeDf : Labelled IntervalRow) (i : Nat) :
    Except PyError (Labelled IntervalRow) := do
  let ind ← indexAt modeDf i
  let this ← loc modeDf ind
  let next ← loc modeDf (← indexAt modeDf (i + 1))
  if this.phase ∈ trainingPhases ∧ next.phase ∈ trainingPhases then
    pure (setLoc modeDf (halfPast ind) (gapRow this next))
  else pure modeDf

/-- The `Before` row, from the row under label `0`. -/
def beforeRow (sysMin : Option Int) (first : IntervalRow) : IntervalRow where
  startTimeUs := sysMin
  endTimeUs := first.startTimeUs.map (· - 1)
  phase := "Before " ++ first.phase

/-- The `After` row, from the last row of the sorted frame; its start is that
row's start minus one, as the source writes it. -/
def afterRow (sysMax : Option Int) (last : IntervalRow) : IntervalRow where
  startTimeUs := last.startTimeUs.map (· - 1)
  endTimeUs := sysMax
  phase := "After " ++ last.phase

/-- pandas_data_analysis.py:274-300. After `reset_index` the labels are the
positions, so `mode_df.index[-1] + 1` is a new last label. -/
def addBoundaryRows (self : PandasFrameAnalysis) (trainingPhases : List String)
    (modeDf : Labelled IntervalRow) : Except PyError (List IntervalRow) := do
  let modeDf ← (List.range (modeDf.length - 1)).foldlM (betweenStep trainingPhases) modeDf
  let first ← loc modeDf (pyLabel 0)
  let table := resetIndex (sortIndex (setLoc modeDf (pyLabel (-1)) (beforeRow self.sysMin first)))
  let last ← iloc table (table.length - 1)
  pure (table ++ [afterRow self.sysMax last])

/-- `get_training_phase_intervals(phase)`. -/
def getTrainingPhaseIntervals (self : PandasFrameAnalysis) (phase : Option (List String)) :
    Except PyError (List IntervalRow) := do
  let phase := phase.getD (defaultPhases self.frameworkMetricsDf)
  let trainingPhases := unique ((selectPhaseRows self.frameworkMetricsDf phase).map (·.2.frameworkMetric))
  addBoundaryRows self trainingPhases (← modeFrame self.frameworkMetricsDf phase)

/-! ### The loop -/

/-- The labels `mode_df` has when the loop starts: non-negative integers, at
least one apart, increasing (in half units, consecutive labels differ by two or more). -/
structure LoopLabels (frame : Labelled IntervalRow) : Prop where
  spaced : (frame.map Prod.fst).Sorted fun a b => a + 1 < b
  nonneg : ∀ entry ∈ frame, 0 ≤ entry.1

/-- The `Between` rows the loop appends, one per consecutive pair. -/
def gapRows (frame : Labelled IntervalRow) : Labelled IntervalRow :=
  List.zipWith (fun this next => (halfPast this.1, gapRow this.2 next.2)) frame frame.tail

theorem length_gapRows (frame : Labelled IntervalRow) : (gapRows frame).length = frame.length - 1 := by
  simp [gapRows]

theorem LoopLabels.nodup {frame : Labelled IntervalRow} (labels : LoopLabels frame) :
    (frame.map Prod.fst).Nodup :=
  labels.spaced.imp fun spaced => by omega

theorem LoopLabels.lt_of_lt {frame : Labelled IntervalRow} (labels : LoopLabels frame) {i j : Nat}
    (before : i < j) (bound : j < frame.length) :
    frame[i].1 + 1 < frame[j].1 := by
  have := List.pairwise_iff_getElem.mp labels.spaced i j (by simp; omega) (by simpa using bound) before
  simpa using this

/-- The label `ind + 0.5` of step `i` is new: it is neither an original label
nor the label of an earlier `Between` row. -/
theorem halfPast_fresh {frame : Labelled IntervalRow} (labels : LoopLabels frame) {i : Nat}
    (bound : i + 1 < frame.length) :
    halfPast frame[i].1 ∉ (frame ++ (gapRows frame).take i).map Prod.fst := by
  simp only [List.map_append, List.mem_append, List.mem_map, not_or, not_exists, not_and]
  constructor
  · intro entry member same
    obtain ⟨j, inFrame, rfl⟩ := List.getElem_of_mem member
    rcases Nat.lt_trichotomy j i with less | rfl | greater
    · have := labels.lt_of_lt less (by omega); simp [halfPast] at same; omega
    · simp [halfPast] at same
    · have := labels.lt_of_lt greater inFrame; simp [halfPast] at same; omega
  · intro entry member same
    obtain ⟨j, inGaps, rfl⟩ := List.getElem_of_mem member
    have inTake : j < i := by simp at inGaps; omega
    have := labels.lt_of_lt inTake (by omega)
    simp [gapRows, halfPast] at same
    omega

theorem getElem?_gapRows {frame : Labelled IntervalRow} {i : Nat} (bound : i + 1 < frame.length) :
    (gapRows frame)[i]? = some (halfPast frame[i].1, gapRow frame[i].2 frame[i + 1].2) := by
  have inGaps : i < (gapRows frame).length := by rw [length_gapRows]; omega
  rw [List.getElem?_eq_getElem inGaps]
  simp [gapRows]

theorem label_of_mem_gapRows {frame : Labelled IntervalRow} {entry : Int × IntervalRow}
    (member : entry ∈ gapRows frame) : ∃ row ∈ frame, entry.1 = halfPast row.1 := by
  obtain ⟨i, found⟩ := List.mem_iff_getElem?.mp member
  obtain ⟨bound, -⟩ := List.getElem?_eq_some_iff.mp found
  have inFrame : i + 1 < frame.length := by rw [length_gapRows] at bound; omega
  rw [getElem?_gapRows inFrame, Option.some.injEq] at found
  exact ⟨frame[i], List.getElem_mem _, by rw [← found]⟩

/-- Step lemma: pass `i` of the loop appends the `i`-th `Between` row. -/
theorem betweenStep_spec {trainingPhases : List String} {frame : Labelled IntervalRow}
    (labels : LoopLabels frame) (tracked : ∀ entry ∈ frame, entry.2.phase ∈ trainingPhases)
    (i : Nat) (bound : i + 1 < frame.length) :
    betweenStep trainingPhases (frame ++ (gapRows frame).take i) i =
      .ok (frame ++ (gapRows frame).take (i + 1)) := by
  simp only [betweenStep, indexAt_append (Nat.lt_of_succ_lt bound), indexAt_append bound,
    loc_append_getElem (Nat.lt_of_succ_lt bound) labels.nodup, loc_append_getElem bound labels.nodup,
    bind, Except.bind, pure, Except.pure]
  rw [if_pos ⟨tracked _ (List.getElem_mem _), tracked _ (List.getElem_mem _)⟩,
    setLoc_of_not_mem _ (halfPast_fresh labels bound), List.take_succ, getElem?_gapRows bound]
  simp

/-- Run lemma: after `m` passes the frame is the original rows followed by the
first `m` `Between` rows. -/
theorem betweenLoop_take {trainingPhases : List String} {frame : Labelled IntervalRow}
    (labels : LoopLabels frame) (tracked : ∀ entry ∈ frame, entry.2.phase ∈ trainingPhases) :
    ∀ m, m ≤ frame.length - 1 →
      (List.range m).foldlM (betweenStep trainingPhases) frame = .ok (frame ++ (gapRows frame).take m)
  | 0, _ => by simp [pure, Except.pure]
  | m + 1, bound => by
    rw [List.range_succ, List.foldlM_append, betweenLoop_take labels tracked m (by omega)]
    show (betweenStep trainingPhases (frame ++ (gapRows frame).take m) m >>= pure) = _
    rw [betweenStep_spec labels tracked m (by omega)]
    rfl

/-- The whole loop appends every `Between` row after the original rows. -/
theorem betweenLoop_spec {trainingPhases : List String} {frame : Labelled IntervalRow}
    (labels : LoopLabels frame) (tracked : ∀ entry ∈ frame, entry.2.phase ∈ trainingPhases) :
    (List.range (frame.length - 1)).foldlM (betweenStep trainingPhases) frame =
      .ok (frame ++ gapRows frame) := by
  rw [betweenLoop_take labels tracked _ le_rfl, List.take_of_length_le (by rw [length_gapRows])]

/-! ### Sorting and the boundary rows -/

/-- Each tracked interval followed by the gap to the next one. -/
def interleaveGaps (first : IntervalRow) : List IntervalRow → List IntervalRow
  | [] => [first]
  | next :: rest => first :: gapRow first next :: interleaveGaps next rest

/-- The last tracked interval. -/
def lastInterval (first : IntervalRow) : List IntervalRow → IntervalRow
  | [] => first
  | next :: rest => lastInterval next rest

/-- The table the interval construction is meant to return: `Before`, the
tracked intervals with the gaps between them, `After`. -/
def intervalLayout (sysMin sysMax : Option Int) (first : IntervalRow) (rest : List IntervalRow) :
    List IntervalRow :=
  beforeRow sysMin first :: interleaveGaps first rest ++ [afterRow sysMax (lastInterval first rest)]

/-- The frame the loop leaves, in label order. -/
def weave (first : Int × IntervalRow) : Labelled IntervalRow → Labelled IntervalRow
  | [] => [first]
  | next :: rest => first :: (halfPast first.1, gapRow first.2 next.2) :: weave next rest

theorem gapRows_cons_cons (first next : Int × IntervalRow) (rest : Labelled IntervalRow) :
    gapRows (first :: next :: rest) = (halfPast first.1, gapRow first.2 next.2) :: gapRows (next :: rest) :=
  rfl

theorem resetIndex_weave (first : Int × IntervalRow) (rest : Labelled IntervalRow) :
    resetIndex (weave first rest) = interleaveGaps first.2 (resetIndex rest) := by
  induction rest generalizing first with
  | nil => rfl
  | cons next rest ih =>
    rw [weave, resetIndex_cons, resetIndex_cons, ih]
    rfl

theorem perm_weave (first : Int × IntervalRow) (rest : Labelled IntervalRow) :
    (first :: rest ++ gapRows (first :: rest)).Perm (weave first rest) := by
  induction rest generalizing first with
  | nil => rfl
  | cons next rest ih =>
    rw [gapRows_cons_cons, weave, List.cons_append]
    exact List.Perm.cons _ (List.perm_middle.trans (List.Perm.cons _ (ih next)))

theorem weave_chain (first : Int × IntervalRow) (rest : Labelled IntervalRow)
    (labels : LoopLabels (first :: rest)) : (weave first rest).Chain' fun a b => a.1 < b.1 := by
  induction rest generalizing first with
  | nil => exact List.chain'_singleton _
  | cons next rest ih =>
    have spaced : first.1 + 1 < next.1 := by
      have := labels.spaced
      simp only [List.map_cons, List.sorted_cons, List.mem_cons] at this
      exact this.1 _ (Or.inl rfl)
    have tail : LoopLabels (next :: rest) :=
      ⟨labels.spaced.of_cons, fun entry member => labels.nonneg entry (List.mem_cons_of_mem _ member)⟩
    have chain := ih next tail
    cases rest with
    | nil => simp [weave, halfPast]; omega
    | cons third rest =>
      simp only [weave] at chain ⊢
      exact List.Chain'.cons (by simp [halfPast]) (List.Chain'.cons (by simpa [halfPast] using spaced) chain)

theorem last_interleaveGaps (before first : IntervalRow) (rest : List IntervalRow) :
    (before :: interleaveGaps first rest).getLast? = some (lastInterval first rest) := by
  induction rest generalizing before first with
  | nil => rfl
  | cons next rest ih =>
    simp only [interleaveGaps, List.getLast?_cons, lastInterval] at ih ⊢
    simp [ih]

/-- `sort_index` puts the `Before` row first and every `Between` row right
after the row it was built from. -/
theorem sortIndex_boundary (first : Int × IntervalRow) (rest : Labelled IntervalRow)
    (labels : LoopLabels (first :: rest)) (before : IntervalRow) :
    sortIndex ((first :: rest ++ gapRows (first :: rest)) ++ [(pyLabel (-1), before)]) =
      (pyLabel (-1), before) :: weave first rest := by
  apply sortIndex_eq_of_perm ((List.perm_append_singleton _ _).trans (List.Perm.cons _ (perm_weave _ _)))
  rw [List.Sorted, ← List.chain'_iff_pairwise]
  have chain := weave_chain first rest labels
  have least : pyLabel (-1) < first.1 := by
    have := labels.nonneg first (List.mem_cons_self _ _)
    rw [pyLabel]
    omega
  cases rest with
  | nil => exact List.Chain'.cons least chain
  | cons next rest => exact List.Chain'.cons least chain

/-- After the loop no label lies below the first one. -/
theorem first_le_of_mem_loopTable {first : Int × IntervalRow} {rest : Labelled IntervalRow}
    (labels : LoopLabels (first :: rest)) {entry : Int × IntervalRow}
    (member : entry ∈ first :: rest ++ gapRows (first :: rest)) : first.1 ≤ entry.1 := by
  have aboveFirst : ∀ entry ∈ rest, first.1 < entry.1 := fun entry member => by
    have := (List.sorted_cons.mp labels.spaced).1 entry.1 (List.mem_map_of_mem _ member)
    omega
  rcases List.mem_append.mp member with inFrame | inGaps
  · rcases List.mem_cons.mp inFrame with rfl | inRest
    · exact le_rfl
    · exact le_of_lt (aboveFirst entry inRest)
  · obtain ⟨row, inFrame, label⟩ := label_of_mem_gapRows inGaps
    rcases List.mem_cons.mp inFrame with rfl | inRest
    · simp [label, halfPast]
    · have := aboveFirst row inRest
      simp only [label, halfPast]
      omega

theorem not_mem_loopTable_of_lt {first : Int × IntervalRow} {rest : Labelled IntervalRow}
    (labels : LoopLabels (first :: rest)) {label : Int} (below : label < first.1) :
    label ∉ (first :: rest ++ gapRows (first :: rest)).map Prod.fst := by
  simp only [List.mem_map, not_exists, not_and]
  intro entry member same
  have := first_le_of_mem_loopTable labels member
  omega

/-- What the rows after the loop become, for any frame with the loop's labels:
the intervals laid out with `Before`, gaps and `After` when the first label is
`0`, and `KeyError` on label `0` otherwise. -/
theorem addBoundaryRows_spec (self : PandasFrameAnalysis) {trainingPhases : List String}
    {frame : Labelled IntervalRow} (labels : LoopLabels frame)
    (tracked : ∀ entry ∈ frame, entry.2.phase ∈ trainingPhases) :
    addBoundaryRows self trainingPhases frame =
      match frame with
      | first :: rest =>
        if first.1 = 0 then .ok (intervalLayout self.sysMin self.sysMax first.2 (resetIndex rest))
        else .error (.keyError 0)
      | [] => .error (.keyError 0) := by
  rw [addBoundaryRows, betweenLoop_spec labels tracked, ok_bind]
  match frame, labels with
  | [], _ => rfl
  | first :: rest, labels =>
    have nonneg := labels.nonneg first (List.mem_cons_self _ _)
    by_cases zero : first.1 = 0
    · have found : loc (first :: rest ++ gapRows (first :: rest)) (pyLabel 0) = .ok first.2 := by
        simp [loc, pyLabel, zero]
      have fresh := not_mem_loopTable_of_lt labels (show pyLabel (-1) < first.1 by rw [pyLabel]; omega)
      simp only [found, ok_bind, setLoc_of_not_mem _ fresh, sortIndex_boundary first rest labels, resetIndex_cons,
        resetIndex_weave, iloc_last, last_interleaveGaps, if_pos zero]
      rfl
    · have absent := not_mem_loopTable_of_lt labels (show pyLabel 0 < first.1 by rw [pyLabel]; omega)
      rw [loc_of_not_mem absent, error_bind]
      exact (if_neg zero).symm

end SmdebugProfiler.Analysis
