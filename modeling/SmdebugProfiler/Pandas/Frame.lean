import Mathlib

/-!
# The pandas operations `PandasFrameAnalysis` relies on

Source: smdebug/profiler/analysis/utils/pandas_data_analysis.py.
Only the pandas and Python behaviour the analysis exercises is modelled:
label lookup `series[label]` (a label, never a position, on an integer or
float index), enlargement by `.loc[label] = row`, positional `index[i]`,
`sort_index`, `reset_index(drop=True)`, `between(..., inclusive=True)`, the
NaN-skipping `min`/`max`, and Python's string order and `in` on strings.

A frame is its rows with their index labels, in row order. The labels the
source creates are integers or an integer plus `0.5`, so a label is stored in
half units (twice its value): every label stays an exact integer.
Numeric cells that may hold NaN are `Option Int`, with `none` for NaN.
-/

namespace SmdebugProfiler.Pandas

/-- The exceptions the modelled code can raise. -/
inductive PyError where
  /-- `KeyError` of a label lookup; the label is in half units. -/
  | keyError (label : Int)
  /-- `IndexError` of a positional lookup past the end (`index[i]`, `iloc[0]`). -/
  | indexError
  /-- `ValueError` with Python's message. -/
  | valueError (message : String)
  /-- `ZeroDivisionError: float division by zero`. -/
  | zeroDivisionError
  /-- What pandas raises after `describe` of no group: the `pivot` and the
  column selection that follow find no column to work on and raise a
  `KeyError`, whose key depends on the pandas version; the key is not modelled. -/
  | emptyDescribe
  deriving DecidableEq, Repr

/-- Results of the model are compared by `decide` in the tests. -/
instance decidableEqExcept [DecidableEq ε] [DecidableEq α] : DecidableEq (Except ε α)
  | .ok a, .ok b => if same : a = b then isTrue (same ▸ rfl) else isFalse fun e => same (Except.ok.inj e)
  | .error a, .error b =>
    if same : a = b then isTrue (same ▸ rfl) else isFalse fun e => same (Except.error.inj e)
  | .ok _, .error _ => isFalse Except.noConfusion
  | .error _, .ok _ => isFalse Except.noConfusion

/-- A frame: rows with their index labels (in half units), in row order. -/
abbrev Labelled (α : Type) := List (Int × α)

/-- The half-unit form of the integer label `i`. -/
def pyLabel (i : Int) : Int := 2 * i

@[simp] theorem pyLabel_inj {i j : Int} : pyLabel i = pyLabel j ↔ i = j := by
  rw [pyLabel, pyLabel]
  omega

@[simp] theorem pyLabel_eq_zero {i : Int} : pyLabel i = 0 ↔ i = 0 := by
  rw [pyLabel]
  omega

@[simp] theorem pyLabel_nonneg {i : Int} : 0 ≤ pyLabel i ↔ 0 ≤ i := by
  rw [pyLabel]
  omega

/-- Consecutive integer labels leave room for a `label + 0.5` between them. -/
theorem pyLabel_spaced {i j : Int} (less : i < j) : pyLabel i + 1 < pyLabel j := by
  rw [pyLabel, pyLabel]
  omega

/-- The half-unit form of `label + 0.5`. -/
def halfPast (label : Int) : Int := label + 1

/-- A freshly built frame: rows labelled by their positions `0..n-1`. -/
def positional (rows : List α) : Labelled α :=
  rows.enum.map fun entry => (pyLabel entry.1, entry.2)

/-- `series[label]`: the row under the label, or `KeyError`. -/
def loc (frame : Labelled α) (label : Int) : Except PyError α :=
  match frame.find? (·.1 = label) with
  | some entry => .ok entry.2
  | none => .error (.keyError label)

/-- `frame.loc[label] = row`: overwrite the row under an existing label, or
append a new last row under a new label. A Python dict's `d[key] = value`
does the same on its insertion-ordered items. -/
def setLoc [DecidableEq κ] (frame : List (κ × α)) (label : κ) (row : α) : List (κ × α) :=
  if frame.any (·.1 = label) then
    frame.map fun entry => if entry.1 = label then (label, row) else entry
  else frame ++ [(label, row)]

/-- `frame.index[i]`: the label at position `i`, or `IndexError`. -/
def indexAt (frame : Labelled α) (i : Nat) : Except PyError Int :=
  match frame[i]? with
  | some entry => .ok entry.1
  | none => .error .indexError

/-- `frame.sort_index()`; the labels are distinct wherever the source sorts,
so pandas' unstable quicksort and this insertion sort agree. -/
def sortIndex (frame : Labelled α) : Labelled α :=
  frame.insertionSort fun a b => a.1 ≤ b.1

/-- `frame.reset_index(drop=True)`: the rows, relabelled by position. -/
def resetIndex (frame : Labelled α) : List α := frame.map Prod.snd

/-- `iloc[i]` on a frame labelled by position. -/
def iloc (rows : List α) (i : Nat) : Except PyError α :=
  match rows[i]? with
  | some row => .ok row
  | none => .error .indexError

/-- `Series.between(lo, hi, inclusive=True)` at one value: comparisons with a
NaN bound are false. -/
def between [LE β] [DecidableRel (α := β) (· ≤ ·)] (value : β) (lo hi : Option β) : Bool :=
  match lo, hi with
  | some lo, some hi => decide (lo ≤ value) && decide (value ≤ hi)
  | _, _ => false

/-- `Series.min()`: NaN cells are skipped; an all-NaN or empty series gives NaN. -/
def seriesMin (cells : List (Option Int)) : Option Int := (cells.filterMap id).min?

/-- `Series.max()`, as `seriesMin`. -/
def seriesMax (cells : List (Option Int)) : Option Int := (cells.filterMap id).max?

/-- `Series.unique()`: each value once, in order of first appearance. -/
def unique [DecidableEq β] : List β → List β
  | [] => []
  | value :: rest => value :: (unique rest).filter (· ≠ value)

/-- Python's `a < b` on `str`: lexicographic in code points. -/
def strLt (a b : String) : Bool := decide (a.data < b.data)

/-- Python's `a <= b` on `str`. -/
def strLe (a b : String) : Prop := strLt b a = false

instance : DecidableRel strLe := fun a b => inferInstanceAs (Decidable (strLt b a = false))

theorem strLe_iff {a b : String} : strLe a b ↔ a.data ≤ b.data := by
  simp [strLe, strLt, not_lt]

instance : IsTotal String strLe := ⟨fun a b => (le_total a.data b.data).imp strLe_iff.mpr strLe_iff.mpr⟩

instance : IsTrans String strLe :=
  ⟨fun _ _ _ first second => strLe_iff.mpr (le_trans (strLe_iff.mp first) (strLe_iff.mp second))⟩

theorem strLt_of_strLe {a b : String} (le : strLe a b) (ne : a ≠ b) : strLt a b = true := by
  rw [strLe_iff] at le
  simpa [strLt] using lt_of_le_of_ne le fun same => ne (String.ext same)

/-- Python's `sorted([a, b])` on two strings (a stable sort). -/
def sortedPair (a b : String) : List String := if strLt b a then [b, a] else [a, b]

/-- Python's `pattern in s`, and `Series.str.contains(pattern)` for a pattern
without regular-expression metacharacters. -/
def strContains (s pattern : String) : Bool := s.data.tails.any (pattern.data.isPrefixOf ·)

/-- The characters of Python's `re` syntax that stand for something other than
themselves: `. ^ $ * + ? { } [ ] \ | ( )`. -/
def regexMetachars : List Char :=
  ['.', '^', '$', '*', '+', '?', '\x7b', '\x7d', '[', ']', '\x5c', '|', '(', ')']

/-- A pattern every character of which matches itself. `str.contains` searches
a regular expression; for such a pattern `re.search` finds it exactly where
the substring search `strContains` does. -/
def RegexFree (pattern : String) : Prop := ∀ c ∈ pattern.data, c ∉ regexMetachars

instance (pattern : String) : Decidable (RegexFree pattern) :=
  inferInstanceAs (Decidable (∀ c ∈ pattern.data, c ∉ regexMetachars))

@[simp] theorem mem_unique [DecidableEq β] {values : List β} {value : β} :
    value ∈ unique values ↔ value ∈ values := by
  induction values with
  | nil => rfl
  | cons head rest ih => by_cases same : value = head <;> simp [unique, ih, same]

@[simp] theorem ok_bind (value : α) (next : α → Except ε β) : (Except.ok value >>= next) = next value :=
  rfl

@[simp] theorem error_bind (e : ε) (next : α → Except ε β) : (Except.error e >>= next) = .error e :=
  rfl

theorem exists_map_eq_ok (f : α → β) (x : Except ε α) : (∃ b, f <$> x = .ok b) ↔ ∃ a, x = .ok a := by
  cases x with
  | error e => exact ⟨(by rintro ⟨_, ⟨⟩⟩), (by rintro ⟨_, ⟨⟩⟩)⟩
  | ok a => exact ⟨fun _ => ⟨a, rfl⟩, fun _ => ⟨f a, rfl⟩⟩

/-! ### Lookup and enlargement -/

theorem mem_positional {rows : List α} {label : Int} {row : α} :
    (label, row) ∈ positional rows ↔ ∃ i : Nat, rows[i]? = some row ∧ label = pyLabel i := by
  simp only [positional, List.mem_map, Prod.mk.injEq]
  constructor
  · rintro ⟨⟨i, _⟩, member, rfl, rfl⟩
    exact ⟨i, List.mem_enum_iff_getElem?.mp member, rfl⟩
  · rintro ⟨i, found, rfl⟩
    exact ⟨(i, row), List.mem_enum_iff_getElem?.mpr found, rfl, rfl⟩

theorem loc_append_of_mem {frame extra : Labelled α} {label : Int} {row : α}
    (found : frame.find? (·.1 = label) = some (label, row)) :
    loc (frame ++ extra) label = .ok row := by
  simp [loc, List.find?_append, found]

theorem find_label_of_nodup {frame : Labelled α} {i : Nat} (bound : i < frame.length)
    (distinct : (frame.map Prod.fst).Nodup) :
    frame.find? (·.1 = frame[i].1) = some frame[i] := by
  induction frame generalizing i with
  | nil => simp at bound
  | cons head tail ih =>
    rw [List.map_cons, List.nodup_cons] at distinct
    cases i with
    | zero => simp
    | succ i =>
      have inTail : i < tail.length := by simpa using bound
      have different : head.1 ≠ tail[i].1 := fun same =>
        distinct.1 (same ▸ List.mem_map_of_mem Prod.fst (List.getElem_mem _))
      simpa [List.find?_cons, different] using ih inTail distinct.2

theorem loc_append_getElem {frame extra : Labelled α} {i : Nat} (bound : i < frame.length)
    (distinct : (frame.map Prod.fst).Nodup) :
    loc (frame ++ extra) frame[i].1 = .ok frame[i].2 :=
  loc_append_of_mem (find_label_of_nodup bound distinct)

theorem loc_of_not_mem {frame : Labelled α} {label : Int} (absent : label ∉ frame.map Prod.fst) :
    loc frame label = .error (.keyError label) := by
  have none : frame.find? (·.1 = label) = none := by
    rw [List.find?_eq_none]
    intro entry member same
    exact absent (List.mem_map.mpr ⟨entry, member, by simpa using same⟩)
  simp [loc, none]

theorem setLoc_of_not_mem [DecidableEq κ] {frame : List (κ × α)} {label : κ} (row : α)
    (fresh : label ∉ frame.map Prod.fst) : setLoc frame label row = frame ++ [(label, row)] := by
  have absent : frame.any (·.1 = label) = false := by
    simpa [List.any_eq_false] using fun entry member same => fresh (List.mem_map.mpr ⟨entry, member, same⟩)
  simp [setLoc, absent]

theorem keys_setLoc_of_mem [DecidableEq κ] {frame : List (κ × α)} {label : κ} (row : α)
    (present : label ∈ frame.map Prod.fst) : (setLoc frame label row).map Prod.fst = frame.map Prod.fst := by
  have found : frame.any (·.1 = label) = true := by
    obtain ⟨entry, member, rfl⟩ := List.mem_map.mp present
    exact List.any_eq_true.mpr ⟨entry, member, decide_eq_true rfl⟩
  simp only [setLoc, found, if_true, List.map_map]
  exact List.map_congr_left fun entry _ => by by_cases same : entry.1 = label <;> simp [same]

/-- `.loc[label] = row` keeps the labels there are and adds `label` if it is new. -/
theorem mem_keys_setLoc [DecidableEq κ] (frame : List (κ × α)) (label : κ) (row : α) (key : κ) :
    key ∈ (setLoc frame label row).map Prod.fst ↔ key ∈ frame.map Prod.fst ∨ key = label := by
  by_cases present : label ∈ frame.map Prod.fst
  · rw [keys_setLoc_of_mem row present]
    exact ⟨.inl, fun | .inl old => old | .inr rfl => present⟩
  · simp [setLoc_of_not_mem row present]

theorem nodup_keys_setLoc [DecidableEq κ] {frame : List (κ × α)} (distinct : (frame.map Prod.fst).Nodup)
    (label : κ) (row : α) : ((setLoc frame label row).map Prod.fst).Nodup := by
  by_cases present : label ∈ frame.map Prod.fst
  · rwa [keys_setLoc_of_mem row present]
  · simpa [setLoc_of_not_mem row present, List.nodup_append, distinct] using present

theorem mem_setLoc [DecidableEq κ] {frame : List (κ × α)} {label : κ} {row : α} {entry : κ × α}
    (member : entry ∈ setLoc frame label row) : entry = (label, row) ∨ entry ∈ frame := by
  unfold setLoc at member
  split at member
  · obtain ⟨old, inFrame, rfl⟩ := List.mem_map.mp member
    by_cases same : old.1 = label <;> simp [same, inFrame]
  · simpa [or_comm] using member

theorem indexAt_append {frame extra : Labelled α} {i : Nat} (bound : i < frame.length) :
    indexAt (frame ++ extra) i = .ok frame[i].1 := by
  simp [indexAt, List.getElem?_append_left bound, List.getElem?_eq_getElem bound]

@[simp] theorem resetIndex_append (frame extra : Labelled α) :
    resetIndex (frame ++ extra) = resetIndex frame ++ resetIndex extra := List.map_append _ _ _

@[simp] theorem resetIndex_cons (entry : Int × α) (frame : Labelled α) :
    resetIndex (entry :: frame) = entry.2 :: resetIndex frame := rfl

@[simp] theorem length_resetIndex (frame : Labelled α) : (resetIndex frame).length = frame.length :=
  List.length_map _ _

/-! ### `sort_index` on distinct labels -/

instance labelLe_total : IsTotal (Int × α) (fun a b => a.1 ≤ b.1) :=
  ⟨fun a b => le_total a.1 b.1⟩

instance labelLe_trans : IsTrans (Int × α) (fun a b => a.1 ≤ b.1) :=
  ⟨fun _ _ _ => le_trans⟩

instance labelLt_trans : IsTrans (Int × α) (fun a b => a.1 < b.1) :=
  ⟨fun _ _ _ => lt_trans⟩

/-- The strict label order is vacuously antisymmetric, which is what the
uniqueness of sorted permutations needs. -/
instance labelLt_antisymm : IsAntisymm (Int × α) (fun a b => a.1 < b.1) :=
  ⟨fun _ _ less greater => absurd (lt_trans less greater) (lt_irrefl _)⟩

/-- Sorting a frame whose labels are distinct gives the permutation of it that
is strictly increasing in its labels. -/
theorem sortIndex_eq_of_perm {frame sorted : Labelled α} (perm : frame.Perm sorted)
    (ascending : sorted.Sorted fun a b => a.1 < b.1) : sortIndex frame = sorted := by
  have distinct : ((sortIndex frame).map Prod.fst).Nodup := by
    have : (sorted.map Prod.fst).Nodup :=
      (List.pairwise_map.mpr ascending).imp fun less => ne_of_lt less
    exact ((List.perm_insertionSort _ frame).trans perm).map Prod.fst |>.nodup_iff.mpr this
  have strict : (sortIndex frame).Sorted fun a b => a.1 < b.1 :=
    List.pairwise_map.mp <| ((List.pairwise_map.mpr (List.sorted_insertionSort _ frame)).and
      distinct).imp fun both => lt_of_le_of_ne both.1 both.2
  exact List.eq_of_perm_of_sorted ((List.perm_insertionSort _ frame).trans perm) strict ascending

theorem iloc_last (rows : List α) :
    iloc rows (rows.length - 1) = match rows.getLast? with
      | some row => .ok row
      | none => .error .indexError := by
  rw [List.getLast?_eq_getElem?]
  rfl

/-! ### NaN-skipping aggregates -/

@[simp] theorem seriesMin_singleton (cell : Option Int) : seriesMin [cell] = cell := by
  cases cell <;> rfl

@[simp] theorem seriesMax_singleton (cell : Option Int) : seriesMax [cell] = cell := by
  cases cell <;> rfl

theorem seriesMin_isSome {cells : List (Option Int)} (finite : ∀ cell ∈ cells, cell.isSome)
    (nonempty : cells ≠ []) : (seriesMin cells).isSome := by
  obtain ⟨cell, rest, rfl⟩ := List.exists_cons_of_ne_nil nonempty
  obtain ⟨value, same⟩ := Option.isSome_iff_exists.mp (finite cell (by simp))
  simp [seriesMin, same, List.min?]

theorem seriesMax_isSome {cells : List (Option Int)} (finite : ∀ cell ∈ cells, cell.isSome)
    (nonempty : cells ≠ []) : (seriesMax cells).isSome := by
  obtain ⟨cell, rest, rfl⟩ := List.exists_cons_of_ne_nil nonempty
  obtain ⟨value, same⟩ := Option.isSome_iff_exists.mp (finite cell (by simp))
  simp [seriesMax, same, List.max?]

theorem seriesMin_le {cells : List (Option Int)} {value : Int} (member : some value ∈ cells) :
    ∃ least, seriesMin cells = some least ∧ least ≤ value := by
  have present : value ∈ cells.filterMap id := List.mem_filterMap.mpr ⟨_, member, rfl⟩
  obtain ⟨least, same⟩ := Option.isSome_iff_exists.mp (List.isSome_min?_of_mem present)
  exact ⟨least, same, (List.le_min?_iff (fun _ _ _ => Int.le_min) same).1 le_rfl value present⟩

theorem le_seriesMax {cells : List (Option Int)} {value : Int} (member : some value ∈ cells) :
    ∃ greatest, seriesMax cells = some greatest ∧ value ≤ greatest := by
  have present : value ∈ cells.filterMap id := List.mem_filterMap.mpr ⟨_, member, rfl⟩
  obtain ⟨greatest, same⟩ := Option.isSome_iff_exists.mp (List.isSome_max?_of_mem present)
  exact ⟨greatest, same, (List.max?_le_iff (fun _ _ _ => Int.max_le) same).1 le_rfl value present⟩

end SmdebugProfiler.Pandas
