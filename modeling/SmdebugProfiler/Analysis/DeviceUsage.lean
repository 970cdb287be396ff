import SmdebugProfiler.Analysis.Utilization

/-!
# Device usage buckets

Source: pandas_data_analysis.py:215-240 (`get_device_usage_stats`).

For each range tuple the loop first unpacks `start, end = ranges`, which
raises `ValueError` on a tuple of any length but two, and only then tests
`len(ranges) < 2`: the branch that logs `Invalid range` and returns `{}` is
dead (`invalid_range_unreachable`), and a short tuple raises wherever it sits
after well-formed pairs (`short_range_raises`).

`between(start, end, inclusive=True)` includes both ends, so the default
buckets `(90, 100)`, `(10, 90)` and `(0, 10)` share the values `90` and `10`:
a sample sitting exactly there is counted twice (`default_usage_counts`).
Over any list of well-formed pairs the loop fills the dict one assignment at a
time: one key per distinct pair, each counting its own samples
(`device_usage_counts`, from the run lemma `usageLoop_pairs`).
A tuple is the list of its values; the values are numbers, as the callers pass.

The device's samples are selected by `str.contains(device)`, a regular
expression search: a device such as `"("` raises `re.error` there, and
`"cpu."` also matches `"cpux"`. The model's substring search is that search
only for a device without metacharacters, so the results about a caller's
device assume `RegexFree device`.
-/

namespace SmdebugProfiler.Analysis
open SmdebugProfiler.Pandas

/-- `start, end = ranges` for a tuple, with CPython's messages. -/
def unpackPair : List ℚ → Except PyError (ℚ × ℚ)
  | [start, stop] => .ok (start, stop)
  | _ :: _ :: _ :: _ => .error (.valueError "too many values to unpack (expected 2)")
  | short => .error (.valueError ("not enough values to unpack (expected 2, got " ++ toString short.length ++ ")"))

/-- What `get_device_usage_stats` returns: the `usage_dict`, or the `{}` of
the branch that logs `Invalid range {ranges} for usage stats`. -/
inductive UsageStats where
  | counts (usage : List (List ℚ × Nat))
  | invalidRange (ranges : List ℚ)
  deriving DecidableEq, Repr

/-- `len(device_sys_df[device_sys_df["value"].between(start, end, inclusive=True)])`. -/
def countBetween (deviceSysDf : List SysRow) (start stop : ℚ) : Nat :=
  (deviceSysDf.filter fun sample => between sample.value (some start) (some stop)).length

/-- The `for ranges in utilization_ranges` loop, from the dict built so far;
`usage_dict[ranges] = between_range` is an insertion-ordered assignment. -/
def usageLoop (deviceSysDf : List SysRow) : List (List ℚ) → List (List ℚ × Nat) → Except PyError UsageStats
  | [], usage => .ok (.counts usage)
  | ranges :: rest, usage => do
    let (start, stop) ← unpackPair ranges
    if ranges.length < 2 then .ok (.invalidRange ranges)
    else usageLoop deviceSysDf rest (setLoc usage ranges (countBetween deviceSysDf start stop))

/-- `[(90, 100), (10, 90), (0, 10)]`. -/
def defaultRanges : List (List ℚ) := [[90, 100], [10, 90], [0, 10]]

/-- `get_device_usage_stats(device, utilization_ranges)`. -/
def getDeviceUsageStats (self : PandasFrameAnalysis) (device : String) (utilizationRanges : Option (List (List ℚ))) :
    Except PyError UsageStats :=
  usageLoop (resourceRows self.sysMetricsDf device) (utilizationRanges.getD defaultRanges) []

/-! ### The unpacking decides every malformed tuple -/

theorem unpackPair_ok {ranges : List ℚ} {start stop : ℚ} (unpacked : unpackPair ranges = .ok (start, stop)) :
    ranges = [start, stop] := by
  match ranges, unpacked with
  | [_, _], rfl => rfl

theorem unpackPair_of_short {ranges : List ℚ} (short : ranges.length < 2) :
    unpackPair ranges = .error (.valueError
      ("not enough values to unpack (expected 2, got " ++ toString ranges.length ++ ")")) := by
  match ranges, short with
  | [], _ => rfl
  | [_], _ => rfl

theorem usageLoop_ne_invalidRange (deviceSysDf : List SysRow) (rangesList : List (List ℚ))
    (usage : List (List ℚ × Nat)) (ranges : List ℚ) :
    usageLoop deviceSysDf rangesList usage ≠ .ok (.invalidRange ranges) := by
  induction rangesList generalizing usage with
  | nil => simp [usageLoop]
  | cons head rest ih =>
    cases unpacked : unpackPair head with
    | error e => simp [usageLoop, unpacked]
    | ok pair =>
      obtain rfl := unpackPair_ok unpacked
      simpa [usageLoop, unpacked] using ih _

/-- No call returns from the `Invalid range` branch: the unpacking before it
has already raised on every tuple that branch tests for. -/
theorem invalid_range_unreachable (self : PandasFrameAnalysis) (device : String)
    (utilizationRanges : Option (List (List ℚ))) (ranges : List ℚ) :
    getDeviceUsageStats self device utilizationRanges ≠ .ok (.invalidRange ranges) :=
  usageLoop_ne_invalidRange _ _ _ _

/-- One pass of the loop on a well-formed pair: `usage_dict[ranges] = between_range`. -/
theorem usageLoop_pair (deviceSysDf : List SysRow) (start stop : ℚ) (rest : List (List ℚ))
    (usage : List (List ℚ × Nat)) :
    usageLoop deviceSysDf ([start, stop] :: rest) usage =
      usageLoop deviceSysDf rest (setLoc usage [start, stop] (countBetween deviceSysDf start stop)) :=
  rfl

theorem usageLoop_append_short (deviceSysDf : List SysRow) {pairs : List (List ℚ)} (wellFormed : ∀ ranges ∈ pairs, ranges.length = 2)
    {short : List ℚ} (tooShort : short.length < 2) (rest : List (List ℚ)) (usage : List (List ℚ × Nat)) :
    usageLoop deviceSysDf (pairs ++ short :: rest) usage = .error (.valueError
      ("not enough values to unpack (expected 2, got " ++ toString short.length ++ ")")) := by
  induction pairs generalizing usage with
  | nil => simp [usageLoop, unpackPair_of_short tooShort]
  | cons ranges pairs ih =>
    obtain ⟨start, stop, rfl⟩ := List.length_eq_two.mp (wellFormed ranges (List.mem_cons_self _ _))
    exact (usageLoop_pair ..).trans (ih (fun ranges member => wellFormed ranges (List.mem_cons_of_mem _ member)) _)

/-- A tuple with fewer than two values, after any number of well-formed pairs,
makes the call raise the unpacking `ValueError` instead of returning `{}`. -/
theorem short_range_raises (self : PandasFrameAnalysis) (device : String) (_plain : RegexFree device)
    {pairs : List (List ℚ)}
    (wellFormed : ∀ ranges ∈ pairs, ranges.length = 2) {short : List ℚ} (tooShort : short.length < 2)
    (rest : List (List ℚ)) :
    getDeviceUsageStats self device (some (pairs ++ short :: rest)) = .error (.valueError
      ("not enough values to unpack (expected 2, got " ++ toString short.length ++ ")")) :=
  usageLoop_append_short _ wellFormed tooShort rest []

theorem short_range_after_pair_raises :
    RegexFree "cpu" ∧ (∀ ranges ∈ [[(90 : ℚ), 100]], ranges.length = 2) ∧ ([5] : List ℚ).length < 2 ∧
      getDeviceUsageStats (.init [] []) "cpu" (some ([[90, 100]] ++ [5] :: [[0, 10]])) = .error (.valueError
        ("not enough values to unpack (expected 2, got " ++ toString ([5] : List ℚ).length ++ ")")) :=
  ⟨by decide, by decide, by decide, short_range_raises (.init [] []) "cpu" (by decide) (by decide) (by decide) [[0, 10]]⟩

/-- The single tuple `(5,)` raises; the `Invalid range` branch is not taken. -/
theorem single_value_range_raises (self : PandasFrameAnalysis) (device : String) (_plain : RegexFree device) :
    getDeviceUsageStats self device (some [[5]]) =
      .error (.valueError "not enough values to unpack (expected 2, got 1)") := by
  rfl

theorem single_value_range_raises_on_cpu :
    RegexFree "cpu" ∧ getDeviceUsageStats oneTrainStep "cpu" (some [[5]]) =
      .error (.valueError "not enough values to unpack (expected 2, got 1)") :=
  ⟨by decide, single_value_range_raises oneTrainStep "cpu" (by decide)⟩

/-! ### The dict the loop builds -/

/-- The run of the loop over well-formed pairs, from a dict whose entries each
count the samples of their own pair: one key per distinct pair, new pairs
appended in order, every entry counting its pair's samples. -/
theorem usageLoop_pairs (deviceSysDf : List SysRow) {pairs : List (List ℚ)}
    (wellFormed : ∀ ranges ∈ pairs, ranges.length = 2) {usage : List (List ℚ × Nat)}
    (distinct : (usage.map Prod.fst).Nodup)
    (counted : ∀ entry ∈ usage, ∃ start stop, entry.1 = [start, stop] ∧ entry.2 = countBetween deviceSysDf start stop) :
    ∃ final, usageLoop deviceSysDf pairs usage = .ok (.counts final) ∧ (final.map Prod.fst).Nodup ∧
      (∀ ranges, ranges ∈ final.map Prod.fst ↔ ranges ∈ usage.map Prod.fst ∨ ranges ∈ pairs) ∧
      (pairs.Nodup → (∀ ranges ∈ pairs, ranges ∉ usage.map Prod.fst) →
        final.map Prod.fst = usage.map Prod.fst ++ pairs) ∧
      ∀ entry ∈ final, ∃ start stop, entry.1 = [start, stop] ∧ entry.2 = countBetween deviceSysDf start stop := by
  induction pairs generalizing usage with
  | nil => exact ⟨usage, rfl, distinct, by simp, fun _ _ => by simp, counted⟩
  | cons ranges pairs ih =>
    obtain ⟨start, stop, rfl⟩ := List.length_eq_two.mp (wellFormed ranges (List.mem_cons_self _ _))
    have nextCounted : ∀ entry ∈ setLoc usage [start, stop] (countBetween deviceSysDf start stop),
        ∃ start stop, entry.1 = [start, stop] ∧ entry.2 = countBetween deviceSysDf start stop := by
      intro entry member
      rcases mem_setLoc member with rfl | old
      · exact ⟨start, stop, rfl, rfl⟩
      · exact counted entry old
    obtain ⟨final, run, finalDistinct, finalKeys, finalOrder, finalCounted⟩ :=
      ih (fun other member => wellFormed other (List.mem_cons_of_mem _ member)) (nodup_keys_setLoc distinct _ _)
        nextCounted
    refine ⟨final, (usageLoop_pair ..).trans run, finalDistinct, fun other => ?_, fun nodup fresh => ?_, finalCounted⟩
    · rw [finalKeys, mem_keys_setLoc, List.mem_cons]
      exact or_assoc
    · obtain ⟨notLater, restNodup⟩ := List.nodup_cons.mp nodup
      have absent := fresh _ (List.mem_cons_self _ _)
      rw [finalOrder restNodup fun other member => ?_, setLoc_of_not_mem _ absent]
      · simp
      · rw [mem_keys_setLoc]
        rintro (old | rfl)
        · exact fresh other (List.mem_cons_of_mem _ member) old
        · exact notLater member

/-- For any list of `(start, end)` pairs, `get_device_usage_stats` returns a
dict with one key per distinct pair (the pairs in their order when none
repeats), and under each the number of the device's samples whose value lies
in `[start, end]`, both ends included. -/
theorem device_usage_counts (self : PandasFrameAnalysis) (device : String) (_plain : RegexFree device)
    {pairs : List (List ℚ)} (wellFormed : ∀ ranges ∈ pairs, ranges.length = 2) :
    ∃ usage, getDeviceUsageStats self device (some pairs) = .ok (.counts usage) ∧ (usage.map Prod.fst).Nodup ∧
      (∀ ranges, ranges ∈ usage.map Prod.fst ↔ ranges ∈ pairs) ∧ (pairs.Nodup → usage.map Prod.fst = pairs) ∧
      ∀ entry ∈ usage, ∃ start stop, entry.1 = [start, stop] ∧
        entry.2 = countBetween (resourceRows self.sysMetricsDf device) start stop := by
  obtain ⟨usage, run, distinct, keys, order, counted⟩ :=
    usageLoop_pairs (resourceRows self.sysMetricsDf device) wellFormed
      (show (([] : List (List ℚ × Nat)).map Prod.fst).Nodup from List.nodup_nil)
      (fun _ member => absurd member (List.not_mem_nil _))
  exact ⟨usage, run, distinct, fun ranges => by simpa using keys ranges,
    fun nodup => by simpa using order nodup fun _ _ => List.not_mem_nil _, counted⟩

theorem repeated_range_counts :
    RegexFree "cpu" ∧ (∀ ranges ∈ [[(0 : ℚ), 50], [40, 100], [0, 50]], ranges.length = 2) ∧
      ∃ usage, getDeviceUsageStats (.init [utilSample 0 "cpu0" 90] []) "cpu"
          (some [[0, 50], [40, 100], [0, 50]]) = .ok (.counts usage) ∧ (usage.map Prod.fst).Nodup ∧
        (∀ ranges, ranges ∈ usage.map Prod.fst ↔ ranges ∈ [[(0 : ℚ), 50], [40, 100], [0, 50]]) ∧
        (([[(0 : ℚ), 50], [40, 100], [0, 50]]).Nodup → usage.map Prod.fst = [[0, 50], [40, 100], [0, 50]]) ∧
        ∀ entry ∈ usage, ∃ start stop, entry.1 = [start, stop] ∧
          entry.2 = countBetween (resourceRows (PandasFrameAnalysis.init [utilSample 0 "cpu0" 90] []).sysMetricsDf "cpu")
            start stop :=
  ⟨by decide, by decide, device_usage_counts (.init [utilSample 0 "cpu0" 90] []) "cpu" (by decide) (by decide)⟩

/-! ### The default buckets -/

theorem usageLoop_defaults (deviceSysDf : List SysRow) :
    usageLoop deviceSysDf defaultRanges [] = .ok (.counts [([90, 100], countBetween deviceSysDf 90 100),
      ([10, 90], countBetween deviceSysDf 10 90), ([0, 10], countBetween deviceSysDf 0 10)]) := by
  simp [usageLoop, defaultRanges, unpackPair, setLoc]

/-- The buckets a utilization in `[0, 100]` falls into: one, or two at `90`
and at `10`. -/
theorem buckets_of_percentage {value : ℚ} (lo : 0 ≤ value) (hi : value ≤ 100) :
    ((if between value (some 90) (some 100) then 1 else 0) + (if between value (some 10) (some 90) then 1 else 0) +
        (if between value (some 0) (some 10) then 1 else 0) : Nat) =
      1 + (if value = 90 then 1 else 0) + (if value = 10 then 1 else 0) := by
  rcases lt_trichotomy value 10 with low | rfl | aboveLow
  · have middle : value < 90 := by linarith
    simp [between, lo, low.le, low.not_le, middle.not_le, low.ne, middle.ne]
  · norm_num [between]
  rcases lt_trichotomy value 90 with middle | rfl | high
  · simp [between, aboveLow.le, aboveLow.not_le, middle.le, middle.not_le, aboveLow.ne', middle.ne]
  · norm_num [between]
  · have aboveMiddle : 10 < value := by linarith
    simp [between, hi, high.le, high.not_le, aboveMiddle.not_le, high.ne', aboveMiddle.ne']

theorem countBetween_defaults (deviceSysDf : List SysRow)
    (percentages : ∀ sample ∈ deviceSysDf, 0 ≤ sample.value ∧ sample.value ≤ 100) :
    countBetween deviceSysDf 90 100 + countBetween deviceSysDf 10 90 + countBetween deviceSysDf 0 10 =
      deviceSysDf.length + (deviceSysDf.filter (·.value = 90)).length + (deviceSysDf.filter (·.value = 10)).length := by
  induction deviceSysDf with
  | nil => rfl
  | cons sample rest ih =>
    have here := buckets_of_percentage (percentages sample (List.mem_cons_self _ _)).1
      (percentages sample (List.mem_cons_self _ _)).2
    have later := ih fun other member => percentages other (List.mem_cons_of_mem _ member)
    simp only [countBetween, ← List.countP_eq_length_filter, List.countP_cons, List.length_cons,
      decide_eq_true_eq] at later ⊢
    omega

/-- With the default ranges and every matching utilization in `[0, 100]`, the
three counts add up to the number of matching samples plus the samples at
exactly `90` and at exactly `10`, which two buckets each count. -/
theorem default_usage_counts (self : PandasFrameAnalysis) (device : String) (_plain : RegexFree device)
    (percentages : ∀ sample ∈ resourceRows self.sysMetricsDf device, 0 ≤ sample.value ∧ sample.value ≤ 100) :
    ∃ high middle low, getDeviceUsageStats self device none =
        .ok (.counts [([90, 100], high), ([10, 90], middle), ([0, 10], low)]) ∧
      high + middle + low = (resourceRows self.sysMetricsDf device).length +
        ((resourceRows self.sysMetricsDf device).filter (·.value = 90)).length +
        ((resourceRows self.sysMetricsDf device).filter (·.value = 10)).length :=
  ⟨_, _, _, usageLoop_defaults _, countBetween_defaults _ percentages⟩

/-- One cpu sample at 90 %. -/
def boundarySample : PandasFrameAnalysis := .init [utilSample 0 "cpu0" 90] []

theorem boundary_sample_counts :
    RegexFree "cpu" ∧ (∀ sample ∈ resourceRows boundarySample.sysMetricsDf "cpu", 0 ≤ sample.value ∧ sample.value ≤ 100) ∧
      ∃ high middle low, getDeviceUsageStats boundarySample "cpu" none =
          .ok (.counts [([90, 100], high), ([10, 90], middle), ([0, 10], low)]) ∧
        high + middle + low = (resourceRows boundarySample.sysMetricsDf "cpu").length +
          ((resourceRows boundarySample.sysMetricsDf "cpu").filter (·.value = 90)).length +
          ((resourceRows boundarySample.sysMetricsDf "cpu").filter (·.value = 10)).length :=
  have percentages : ∀ sample ∈ resourceRows boundarySample.sysMetricsDf "cpu",
      0 ≤ sample.value ∧ sample.value ≤ 100 := by decide
  ⟨by decide, percentages, default_usage_counts boundarySample "cpu" (by decide) percentages⟩

/-- The one sample at 90 % lands in two buckets: the counts add up to two. -/
theorem boundary_sample_counted_twice :
    resourceRows boundarySample.sysMetricsDf "cpu" = [utilSample 0 "cpu0" 90] ∧
      getDeviceUsageStats boundarySample "cpu" none = .ok (.counts [([90, 100], 1), ([10, 90], 1), ([0, 10], 0)]) := by
  decide

end SmdebugProfiler.Analysis
