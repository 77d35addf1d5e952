import SimEngine.Python
import Mathlib.Algebra.Order.BigOperators.Group.List

/-!
# The table formatter

`_format_as_table` (`storcli_emu.py:353-391`) lays out rows of values under a header line.
It keeps `header_lengths`, a dict from column name to width that starts at each name's length
and is raised while the rows are formatted; each value row is padded cell by cell as it is
formatted, to one more than the longer of the value and the column name, and the header line
is padded to the final widths.

A row is modelled as a dict of the strings its values print as. For a string or an integer
that string is both `str(v)`, which the width is measured on, and what the format pads; a
`None`, a list or a dict, whose format raises `TypeError`, is outside the model, and every
result below is about rows of the first kind.

`formatAsTable_layout` gives the output in terms of `headerCells` and `rowCells`, the cells
of each line, and
`formatAsTable_aligned` shows that the columns line up when no value is longer than its
column's name, and `formatAsTable_one_row_aligned` that they always do in a table of one row,
as the per-drive tables are. When a value is longer and there are more rows, the rows
formatted before the widest one keep their narrower cells while the header takes the widest:
`formatAsTable_misaligned`.

Every result above is about rows that have every column. `formatAsTable_eq_error_iff` is the
other side: `table_row[col_key]` raises the `KeyError` of the first column a row lacks, and
nothing else raises, since `header_lengths` has every header as a key from the start.
-/

namespace SimEngine

/-- Python's `'{val:<{width}}'.format(val=v, width=w)`: `v` left-aligned, padded with spaces to
`w` characters and never cut. -/
def ljust (v : String) (w : Nat) : String := v.pushn ' ' (w - v.length)

@[simp] theorem length_ljust (v : String) (w : Nat) : (ljust v w).length = max v.length w := by
  simp [ljust]; omega

/-- `{key: len(str(key)) for key in headers}` (`storcli_emu.py:365`). -/
def initHeaderLengths (headers : List String) : PyDict Nat :=
  headers.foldl (fun d k => d.setItem k k.length) PyDict.empty

/-- The cells of one value row (`storcli_emu.py:369-378`), with `header_lengths` raised to
each cell's width where it is wider. `row` holds each value as the string it prints as. -/
def formatRow (row : PyDict String) : List String → PyDict Nat →
    Except PyError (List String × PyDict Nat)
  | [], headerLengths => .ok ([], headerLengths)
  | colKey :: rest, headerLengths =>
    match row.getItem colKey with
    | .error err => .error err
    | .ok val =>
      let valLen := if val.length ≥ colKey.length then val.length else colKey.length
      match headerLengths.getItem colKey with
      | .error err => .error err
      | .ok current =>
        let headerLengths :=
          if valLen > current then headerLengths.setItem colKey valLen else headerLengths
        match formatRow row rest headerLengths with
        | .error err => .error err
        | .ok (cells, headerLengths) => .ok (ljust val (valLen + 1) :: cells, headerLengths)

/-- The loop over the rows (`storcli_emu.py:367-380`): each row's string is its cells
joined. -/
def formatRows (headers : List String) : List (PyDict String) → PyDict Nat →
    Except PyError (List String × PyDict Nat)
  | [], headerLengths => .ok ([], headerLengths)
  | row :: rows, headerLengths =>
    match formatRow row headers headerLengths with
    | .error err => .error err
    | .ok (cells, headerLengths) =>
      match formatRows headers rows headerLengths with
      | .error err => .error err
      | .ok (valueRows, headerLengths) => .ok (String.join cells :: valueRows, headerLengths)

/-- The text around the lines: a divider as long as the header line above and below it, the
value rows, and a divider at the end (`storcli_emu.py:382-391`). -/
def tableText (header : String) (valueRows : List String) : String :=
  let divider := "".pushn '-' header.length ++ "\n"
  divider ++ header ++ "\n" ++ divider ++ "\n".intercalate valueRows ++ "\n" ++ divider

/-- `_format_as_table` (`storcli_emu.py:353-391`). -/
def formatAsTable (headers : List String) (tableOptions : List (PyDict String)) :
    Except PyError String :=
  match formatRows headers tableOptions (initHeaderLengths headers) with
  | .error err => .error err
  | .ok (valueRows, headerLengths) =>
    .ok (tableText (" ".intercalate (headerLengths.entries.map fun e => ljust e.1 e.2)) valueRows)

/-- The value of column `k` in `row`, `""` where the row has none. -/
def cellValue (row : PyDict String) (k : String) : String := (row.get? k).getD ""

/-- `val_len` (`storcli_emu.py:371-373`): the longer of the value and the column name. -/
def valueWidth (row : PyDict String) (k : String) : Nat := max (cellValue row k).length k.length

/-- `header_lengths` as a function, raised by one row over the columns `cols`. -/
def widen (row : PyDict String) (cols : List String) (w : String → Nat) : String → Nat :=
  cols.foldl (fun w c => Function.update w c (max (w c) (valueWidth row c))) w

/-- The width the header line gives each column: its name's length, raised by every row. -/
def columnWidth (headers : List String) (rows : List (PyDict String)) : String → Nat :=
  rows.foldl (fun w r => widen r headers w) String.length

/-- Where the `j`-th of the cells of a line starts, the cells being joined with `sep`. -/
def cellStart (sep : String) (cells : List String) (j : Nat) : Nat :=
  ((cells.take j).map fun c => c.length + sep.length).sum

/-- The cells of the header line: each column name padded to its column's width
(`storcli_emu.py:382`). -/
def headerCells (headers : List String) (rows : List (PyDict String)) : List String :=
  headers.map fun k => ljust k (columnWidth headers rows k)

/-- The cells of a row's line: each value padded to one more than its width
(`storcli_emu.py:371-378`). -/
def rowCells (headers : List String) (r : PyDict String) : List String :=
  headers.map fun k => ljust (cellValue r k) (valueWidth r k + 1)

/-- A dict whose keys are `keys`, in order, with the values of `w`. -/
def HasWidths (d : PyDict Nat) (keys : List String) (w : String → Nat) : Prop :=
  d.entries = keys.map fun k => (k, w k)

theorem initHeaderLengths_widths {headers : List String} (hH : headers.Nodup) :
    HasWidths (initHeaderLengths headers) headers String.length := by
  suffices h : ∀ (hs : List String) (d : PyDict Nat), hs.Nodup → (∀ k ∈ hs, k ∉ d.keys) →
      (hs.foldl (fun d k => d.setItem k k.length) d).entries =
        d.entries ++ hs.map fun k => (k, k.length) by
    simpa [HasWidths, initHeaderLengths, PyDict.empty] using h headers PyDict.empty hH (by simp [PyDict.empty, PyDict.keys])
  intro hs
  induction hs with
  | nil => simp
  | cons k hs ih =>
    intro d hnd hfresh
    have hk := hfresh k (List.mem_cons_self _ _)
    rw [List.foldl_cons, ih _ (List.nodup_cons.mp hnd).2, PyDict.setItem_entries_of_not_mem hk]
    · simp
    · intro k' hk' hmem
      have hne : k' ≠ k := fun he => (List.nodup_cons.mp hnd).1 (he ▸ hk')
      simp only [PyDict.keys, PyDict.setItem_entries_of_not_mem hk, List.map_append,
        List.mem_append, List.map_cons, List.map_nil, List.mem_singleton] at hmem
      exact hmem.elim (hfresh k' (List.mem_cons_of_mem _ hk')) hne

theorem HasWidths.get? {d : PyDict Nat} {keys : List String} {w : String → Nat}
    (h : HasWidths d keys w) {k : String} (hk : k ∈ keys) : d.get? k = some (w k) :=
  PyDict.get?_of_mem (h ▸ List.mem_map_of_mem _ hk)

theorem HasWidths.setItem {d : PyDict Nat} {keys : List String} {w : String → Nat}
    (h : HasWidths d keys w) {k : String} (hk : k ∈ keys) (v : Nat) :
    HasWidths (d.setItem k v) keys (Function.update w k v) := by
  have hmem : k ∈ d.keys := by
    show k ∈ d.entries.map Prod.fst
    rw [h]
    exact List.mem_map_of_mem Prod.fst (List.mem_map_of_mem _ hk)
  unfold HasWidths
  rw [PyDict.setItem_entries_of_mem hmem, h, List.map_map]
  refine List.map_congr_left fun k' _ => ?_
  by_cases he : k' = k
  · subst he; simp
  · simp [he]

/-- One row's loop, for columns that are all keys of `header_lengths` and of the row. -/
theorem formatRow_spec (row : PyDict String) {keys : List String} :
    ∀ (cols : List String) (hl : PyDict Nat) (w : String → Nat), HasWidths hl keys w →
      (∀ c ∈ cols, c ∈ keys ∧ c ∈ row.keys) →
      ∃ hl', formatRow row cols hl =
          .ok (cols.map (fun c => ljust (cellValue row c) (valueWidth row c + 1)), hl') ∧
        HasWidths hl' keys (widen row cols w)
  | [], hl, w, hw, _ => ⟨hl, rfl, hw⟩
  | c :: cols, hl, w, hw, hc => by
    obtain ⟨hck, hcr⟩ := hc c (List.mem_cons_self _ _)
    obtain ⟨v, hv⟩ := PyDict.mem_keys_iff.mp hcr
    have hvalue : cellValue row c = v := by simp [cellValue, hv]
    have hwidth : (if v.length ≥ c.length then v.length else c.length) = valueWidth row c := by
      simp only [valueWidth, hvalue]; split_ifs <;> omega
    have hw' : HasWidths (if valueWidth row c > w c then hl.setItem c (valueWidth row c) else hl)
        keys (Function.update w c (max (w c) (valueWidth row c))) := by
      split_ifs with hgt
      · rw [max_eq_right hgt.le]; exact hw.setItem hck _
      · rw [max_eq_left (not_lt.mp hgt), Function.update_eq_self]; exact hw
    obtain ⟨hl', hrest, hwrest⟩ := formatRow_spec row cols _ _ hw'
      (fun c' h => hc c' (List.mem_cons_of_mem _ h))
    refine ⟨hl', ?_, hwrest⟩
    simp only [formatRow, PyDict.getItem_of_get? hv, hwidth, PyDict.getItem_of_get? (hw.get? hck),
      hrest, List.map_cons, hvalue]

/-- The loop over the rows, for rows that define every column. -/
theorem formatRows_spec (headers : List String) :
    ∀ (rows : List (PyDict String)) (hl : PyDict Nat) (w : String → Nat),
      HasWidths hl headers w → (∀ r ∈ rows, ∀ k ∈ headers, k ∈ r.keys) →
      ∃ hl', formatRows headers rows hl =
          .ok (rows.map (fun r => String.join (rowCells headers r)), hl') ∧
        HasWidths hl' headers (rows.foldl (fun w r => widen r headers w) w)
  | [], hl, w, hw, _ => ⟨hl, rfl, hw⟩
  | r :: rows, hl, w, hw, hr => by
    obtain ⟨hl₁, h₁, hw₁⟩ := formatRow_spec r headers hl w hw
      (fun k hk => ⟨hk, hr r (List.mem_cons_self _ _) k hk⟩)
    obtain ⟨hl₂, h₂, hw₂⟩ := formatRows_spec headers rows hl₁ _ hw₁
      (fun r' h => hr r' (List.mem_cons_of_mem _ h))
    exact ⟨hl₂, by simp only [formatRows, h₁, h₂, List.map_cons, rowCells], hw₂⟩

/-- For distinct column names and rows that define every column, the output is the header line
of the names padded to their columns' widths, and one line per row of its cells. -/
theorem formatAsTable_layout {headers : List String} {rows : List (PyDict String)}
    (hH : headers.Nodup) (hR : ∀ r ∈ rows, ∀ k ∈ headers, k ∈ r.keys) :
    formatAsTable headers rows =
      .ok (tableText (" ".intercalate (headerCells headers rows))
        (rows.map fun r => String.join (rowCells headers r))) := by
  obtain ⟨hl, h, hw⟩ := formatRows_spec headers rows _ _
    (initHeaderLengths_widths hH) hR
  unfold HasWidths at hw
  simp only [formatAsTable, h, hw, List.map_map]
  rfl

/-- Columns of one row never narrower than their names leave the widths as they are. -/
theorem widen_eq_self {row : PyDict String} {w : String → Nat} :
    ∀ {cols : List String}, (∀ c ∈ cols, valueWidth row c ≤ w c) → widen row cols w = w
  | [], _ => rfl
  | c :: cols, h => by
    rw [widen, List.foldl_cons, max_eq_left (h c (List.mem_cons_self _ _)),
      Function.update_eq_self]
    exact widen_eq_self fun c' hc' => h c' (List.mem_cons_of_mem _ hc')

/-- `header_lengths` after one row: each of the row's columns is raised to its width. -/
theorem widen_apply (row : PyDict String) (c : String) :
    ∀ (cols : List String) (w : String → Nat),
      widen row cols w c = if c ∈ cols then max (w c) (valueWidth row c) else w c
  | [], w => by simp [widen]
  | c' :: cols, w => by
    rw [widen, List.foldl_cons, ← widen, widen_apply row c cols]
    by_cases h : c = c'
    · subst h; simp [Function.update_apply]
    · simp [Function.update_apply, h]

theorem le_widen (row : PyDict String) (cols : List String) (w : String → Nat) (c : String) :
    w c ≤ widen row cols w c := by
  rw [widen_apply]
  split_ifs
  exacts [le_max_left _ _, le_rfl]

theorem le_foldl_widen (headers : List String) (c : String) :
    ∀ (rows : List (PyDict String)) (w : String → Nat),
      w c ≤ rows.foldl (fun w r => widen r headers w) w c
  | [], _ => le_rfl
  | r :: rows, w => (le_widen r headers w c).trans (le_foldl_widen headers c rows _)

/-- Each header cell is as wide as its column, and a space follows it. -/
theorem cellStart_headerCells (headers : List String) (rows : List (PyDict String)) (j : Nat) :
    cellStart " " (headerCells headers rows) j =
      ((headers.take j).map fun k => columnWidth headers rows k + 1).sum := by
  simp only [cellStart, headerCells, ← List.map_take, List.map_map]
  refine congrArg List.sum (List.map_congr_left fun k _ => ?_)
  have h1 : " ".length = 1 := rfl
  have := le_foldl_widen headers k rows String.length
  simp only [Function.comp, length_ljust, h1, columnWidth] at this ⊢
  omega

/-- Each cell of a row is one wider than the row's value width, and nothing follows it. -/
theorem cellStart_rowCells (headers : List String) (r : PyDict String) (j : Nat) :
    cellStart "" (rowCells headers r) j = ((headers.take j).map fun k => valueWidth r k + 1).sum := by
  simp only [cellStart, rowCells, ← List.map_take, List.map_map]
  refine congrArg List.sum (List.map_congr_left fun k _ => ?_)
  simp only [Function.comp, length_ljust, valueWidth, String.length_empty]
  omega

/-- When no value is longer than its column's name, every column starts at the same offset in
the header line (cells joined by a space) as in every value row (cells joined as they are). -/
theorem formatAsTable_aligned {headers : List String} {rows : List (PyDict String)}
    (hH : headers.Nodup) (hR : ∀ r ∈ rows, ∀ k ∈ headers, k ∈ r.keys)
    (hshort : ∀ r ∈ rows, ∀ k ∈ headers, (cellValue r k).length ≤ k.length) :
    formatAsTable headers rows =
        .ok (tableText (" ".intercalate (headerCells headers rows))
          (rows.map fun r => String.join (rowCells headers r))) ∧
      ∀ r ∈ rows, ∀ j, cellStart " " (headerCells headers rows) j =
        cellStart "" (rowCells headers r) j := by
  have hvw : ∀ r ∈ rows, ∀ k ∈ headers, valueWidth r k = k.length := fun r hr k hk =>
    max_eq_right (hshort r hr k hk)
  have hcol : columnWidth headers rows = String.length := by
    unfold columnWidth
    induction rows with
    | nil => rfl
    | cons r rows ih =>
      rw [List.foldl_cons, widen_eq_self fun c hc =>
        (hvw r (List.mem_cons_self _ _) c hc).le, ih
          (fun r' h => hR r' (List.mem_cons_of_mem _ h))
          (fun r' h => hshort r' (List.mem_cons_of_mem _ h))
          (fun r' h => hvw r' (List.mem_cons_of_mem _ h))]
  refine ⟨formatAsTable_layout hH hR, fun r hr j => ?_⟩
  rw [cellStart_headerCells, cellStart_rowCells, hcol]
  refine congrArg List.sum (List.map_congr_left fun k hk => ?_)
  rw [hvw r hr k (List.mem_of_mem_take hk)]

theorem formatAsTable_aligned_short :
    let headers := ["AA", "B"]
    let rows : List (PyDict String) := [⟨[("AA", "x"), ("B", "y")], by decide⟩]
    headers.Nodup ∧ (∀ r ∈ rows, ∀ k ∈ headers, k ∈ r.keys) ∧
      (∀ r ∈ rows, ∀ k ∈ headers, (cellValue r k).length ≤ k.length) ∧
      formatAsTable headers rows =
          .ok (tableText (" ".intercalate (headerCells headers rows))
            (rows.map fun r => String.join (rowCells headers r))) ∧
        ∀ r ∈ rows, ∀ j, cellStart " " (headerCells headers rows) j =
          cellStart "" (rowCells headers r) j := by
  intro headers rows
  have hH : headers.Nodup := by decide
  have hR : ∀ r ∈ rows, ∀ k ∈ headers, k ∈ r.keys := by decide
  have hs : ∀ r ∈ rows, ∀ k ∈ headers, (cellValue r k).length ≤ k.length := by decide
  exact ⟨hH, hR, hs, formatAsTable_aligned hH hR hs⟩

/-- A table of one row has aligned columns whatever its values: the header takes the row's
widths, and the space between header cells makes up for the one added to each value. -/
theorem formatAsTable_one_row_aligned {headers : List String} {row : PyDict String}
    (hH : headers.Nodup) (hR : ∀ k ∈ headers, k ∈ row.keys) :
    formatAsTable headers [row] =
        .ok (tableText (" ".intercalate (headerCells headers [row]))
          [String.join (rowCells headers row)]) ∧
      ∀ j, cellStart " " (headerCells headers [row]) j = cellStart "" (rowCells headers row) j := by
  refine ⟨formatAsTable_layout hH (by simpa using hR), fun j => ?_⟩
  rw [cellStart_headerCells, cellStart_rowCells]
  refine congrArg List.sum (List.map_congr_left fun k hk => ?_)
  have hcol : columnWidth headers [row] k = valueWidth row k := by
    rw [columnWidth, List.foldl_cons, List.foldl_nil, widen_apply,
      if_pos (List.mem_of_mem_take hk)]
    exact max_eq_right (le_max_right _ _)
  rw [hcol]

theorem formatAsTable_one_row_long_value :
    let headers := ["A", "B"]
    let row : PyDict String := ⟨[("A", "xxx"), ("B", "y")], by decide⟩
    headers.Nodup ∧ (∀ k ∈ headers, k ∈ row.keys) ∧
      formatAsTable headers [row] =
          .ok (tableText (" ".intercalate (headerCells headers [row]))
            [String.join (rowCells headers row)]) ∧
        ∀ j, cellStart " " (headerCells headers [row]) j =
          cellStart "" (rowCells headers row) j := by
  intro headers row
  have hH : headers.Nodup := by decide
  have hR : ∀ k ∈ headers, k ∈ row.keys := by decide
  exact ⟨hH, hR, formatAsTable_one_row_aligned hH hR⟩

/-! ### Which cells line up -/

/-- A column is at least as wide as the value width of each row in it. -/
theorem valueWidth_le_foldl_widen {headers : List String} {k : String} (hk : k ∈ headers) :
    ∀ {rows : List (PyDict String)} (w : String → Nat) {r : PyDict String}, r ∈ rows →
      valueWidth r k ≤ rows.foldl (fun w r => widen r headers w) w k
  | [], _, _, hr => absurd hr (List.not_mem_nil _)
  | r' :: rows, w, r, hr => by
    rcases List.mem_cons.mp hr with rfl | hr
    · calc valueWidth r k ≤ widen r headers w k := by
            rw [widen_apply, if_pos hk]; exact le_max_right _ _
        _ ≤ _ := le_foldl_widen headers k rows _
    · rw [List.foldl_cons]
      exact valueWidth_le_foldl_widen hk _ hr

theorem formatAsTable_aligned_iff {headers : List String} {rows : List (PyDict String)}
    (hH : headers.Nodup) (hR : ∀ r ∈ rows, ∀ k ∈ headers, k ∈ r.keys) :
    formatAsTable headers rows =
        .ok (tableText (" ".intercalate (headerCells headers rows))
          (rows.map fun r => String.join (rowCells headers r))) ∧
      ∀ r ∈ rows, ∀ j, (cellStart " " (headerCells headers rows) j =
          cellStart "" (rowCells headers r) j ↔
        ∀ k ∈ headers.take j, valueWidth r k = columnWidth headers rows k) := by
  refine ⟨formatAsTable_layout hH hR, fun r hr j => ?_⟩
  have hle : ∀ k ∈ headers.take j, valueWidth r k + 1 ≤ columnWidth headers rows k + 1 :=
    fun k hk => Nat.succ_le_succ (valueWidth_le_foldl_widen (List.mem_of_mem_take hk) _ hr)
  rw [cellStart_headerCells, cellStart_rowCells]
  constructor
  · intro heq k hk
    by_contra hne
    have hk' : valueWidth r k + 1 < columnWidth headers rows k + 1 := by
      have := hle k hk
      omega
    exact absurd heq (ne_of_gt (List.sum_lt_sum (fun k => valueWidth r k + 1)
      (fun k => columnWidth headers rows k + 1) hle ⟨k, hk, hk'⟩))
  · intro h
    exact congrArg List.sum (List.map_congr_left fun k hk => by rw [h k hk])

/-- In the table of `formatAsTable_misaligned`, only the second row is as wide as the first
column, and only its second cell lines up. -/
theorem formatAsTable_aligned_iff_two_rows :
    let headers := ["A", "B"]
    let rows : List (PyDict String) :=
      [⟨[("A", "xx"), ("B", "y")], by decide⟩, ⟨[("A", "xxx"), ("B", "y")], by decide⟩]
    headers.Nodup ∧ (∀ r ∈ rows, ∀ k ∈ headers, k ∈ r.keys) ∧
      formatAsTable headers rows =
          .ok (tableText (" ".intercalate (headerCells headers rows))
            (rows.map fun r => String.join (rowCells headers r))) ∧
        ∀ r ∈ rows, ∀ j, (cellStart " " (headerCells headers rows) j =
            cellStart "" (rowCells headers r) j ↔
          ∀ k ∈ headers.take j, valueWidth r k = columnWidth headers rows k) := by
  intro headers rows
  have hH : headers.Nodup := by decide
  have hR : ∀ r ∈ rows, ∀ k ∈ headers, k ∈ r.keys := by decide
  exact ⟨hH, hR, formatAsTable_aligned_iff hH hR⟩

/-- Two rows whose first column's values are two and three characters long, under the
one-letter names `A` and `B`: the header line puts `B` at offset 4, the first row at 3. -/
theorem formatAsTable_misaligned :
    formatAsTable ["A", "B"]
        [⟨[("A", "xx"), ("B", "y")], by decide⟩, ⟨[("A", "xxx"), ("B", "y")], by decide⟩] =
      .ok "-----\nA   B\n-----\nxx y \nxxx y \n-----\n" := by
  rfl

/-! ### When the formatter raises -/

/-- The first column a row lacks, the rows taken in order and each row's columns in the order
of the headers. -/
def missingColumn (headers : List String) (rows : List (PyDict String)) : Option String :=
  rows.findSome? fun r => headers.find? fun k => k ∉ r.keys

theorem missingColumn_cons (headers : List String) (r : PyDict String)
    (rows : List (PyDict String)) :
    missingColumn headers (r :: rows) =
      (headers.find? fun k => k ∉ r.keys).or (missingColumn headers rows) := by
  rw [missingColumn, List.findSome?_cons]
  cases headers.find? fun k => k ∉ r.keys <;> rfl

/-- `header_lengths` starts with every header as a key. -/
theorem mem_keys_initHeaderLengths {headers : List String} {k : String} (hk : k ∈ headers) :
    k ∈ (initHeaderLengths headers).keys := by
  suffices key : ∀ (hs : List String) (d : PyDict Nat), k ∈ hs ∨ k ∈ d.keys →
      k ∈ (hs.foldl (fun d k => d.setItem k k.length) d).keys from key headers _ (.inl hk)
  intro hs
  induction hs with
  | nil => simp
  | cons h hs ih =>
    intro d hd
    refine ih _ ?_
    rw [PyDict.mem_keys_setItem]
    rcases hd with hd | hd
    · rcases List.mem_cons.mp hd with rfl | hd
      exacts [.inr (.inl rfl), .inl hd]
    · exact .inr (.inr hd)

/-- One row's loop, on a `header_lengths` that has every column as a key: it raises the
`KeyError` of the first column the row lacks, and otherwise gives a `header_lengths` that keeps
every key. -/
theorem formatRow_cases (row : PyDict String) :
    ∀ (cols : List String) (hl : PyDict Nat), (∀ c ∈ cols, c ∈ hl.keys) →
      (∃ k, cols.find? (fun k => k ∉ row.keys) = some k ∧
          formatRow row cols hl = .error (.keyError k)) ∨
        (cols.find? (fun k => k ∉ row.keys) = none ∧ ∃ cells hl',
          formatRow row cols hl = .ok (cells, hl') ∧ ∀ k ∈ hl.keys, k ∈ hl'.keys)
  | [], hl, _ => .inr ⟨rfl, [], hl, rfl, fun _ h => h⟩
  | c :: cols, hl, hc => by
    obtain ⟨current, hcur⟩ := PyDict.mem_keys_iff.mp (hc c (List.mem_cons_self _ _))
    by_cases hcr : c ∈ row.keys
    case neg =>
      refine .inl ⟨c, by simp [hcr], ?_⟩
      simp only [formatRow, PyDict.getItem_of_not_mem hcr]
    case pos =>
      obtain ⟨v, hv⟩ := PyDict.mem_keys_iff.mp hcr
      have hfind : (c :: cols).find? (fun k => k ∉ row.keys) =
          cols.find? fun k => k ∉ row.keys := by
        simp [hcr]
      -- `header_lengths` after this cell keeps every key
      have hkeys : ∀ k ∈ hl.keys, k ∈ (if (if v.length ≥ c.length then v.length else c.length) >
          current then hl.setItem c (if v.length ≥ c.length then v.length else c.length)
          else hl).keys := by
        intro k hk
        split_ifs <;> simp [PyDict.mem_keys_setItem, hk]
      rw [hfind]
      rcases formatRow_cases row cols _ fun c' h => hkeys _ (hc c' (List.mem_cons_of_mem _ h)) with
        ⟨k, hk, he⟩ | ⟨hn, cells, hl', ho, hks⟩
      · exact .inl ⟨k, hk, by simp only [formatRow, PyDict.getItem_of_get? hv,
          PyDict.getItem_of_get? hcur, he]⟩
      · exact .inr ⟨hn, _, hl', by simp only [formatRow, PyDict.getItem_of_get? hv,
          PyDict.getItem_of_get? hcur, ho]; rfl, fun k hk => hks k (hkeys k hk)⟩

/-- The loop over the rows raises exactly the `KeyError` of the first missing column. -/
theorem formatRows_eq_error (headers : List String) {e : PyError} :
    ∀ (rows : List (PyDict String)) (hl : PyDict Nat), (∀ c ∈ headers, c ∈ hl.keys) →
      (formatRows headers rows hl = .error e ↔
        (missingColumn headers rows).map .keyError = some e)
  | [], _, _ => by simp [formatRows, missingColumn]
  | r :: rows, hl, hc => by
    rw [missingColumn_cons]
    rcases formatRow_cases r headers hl hc with ⟨k, hk, he⟩ | ⟨hn, cells, hl', ho, hks⟩
    · simp only [formatRows, he, hk, Option.or_some, Option.map_some', Option.some.injEq,
        Except.error.injEq]
    · simp only [formatRows, ho, hn, Option.none_or]
      rw [← formatRows_eq_error headers rows hl' fun c h => hks c (hc c h)]
      cases formatRows headers rows hl' <;> simp

theorem formatAsTable_eq_error_iff {headers : List String} {rows : List (PyDict String)}
    {e : PyError} :
    formatAsTable headers rows = .error e ↔
      (missingColumn headers rows).map .keyError = some e := by
  rw [← formatRows_eq_error headers rows _ fun c hc => mem_keys_initHeaderLengths hc, formatAsTable]
  cases formatRows headers rows (initHeaderLengths headers) <;> simp

end SimEngine
