import Mathlib.Data.Rat.Floor
import Mathlib.Data.Int.Bitwise
import Mathlib.Data.List.Nodup

/-!
# The Python the models rest on

Both `asset.py` and `storcli_emu.py` are Python; the facilities of the language they rely on
are modelled here once. `PyError` lists the exceptions a modelled function can raise, so that
fallible code returns `Except PyError _` and every raise is an `.error` naming its kind.
`PyDict` is a `dict` with string keys: its entries in insertion order with no key twice, the
invariant carried as a field, so that iteration, `d[k]` and `d[k] = v` keep Python's meaning.
`pyInt` is `int(x)` on a number, the truncation `asset.py:191` applies to a voltage.
-/

namespace SimEngine

/-- The Python exceptions a modelled function can raise. -/
inductive PyError where
  | keyError (key : String)
  | indexError
  | typeError
  | attributeError
  | unboundLocalError (name : String)
  deriving DecidableEq, Repr

/-- A Python `dict` with string keys: its entries in insertion order, no key twice. -/
structure PyDict (α : Type) where
  entries : List (String × α)
  nodup : (entries.map Prod.fst).Nodup
  deriving DecidableEq

namespace PyDict

variable {α : Type}

/-- The keys, in the order `for k in d` visits them. -/
def keys (d : PyDict α) : List String := d.entries.map Prod.fst

/-- `{}`. -/
def empty : PyDict α := ⟨[], List.nodup_nil⟩

/-- `d.get(k)`. -/
def get? (d : PyDict α) (k : String) : Option α := d.entries.lookup k

/-- `d[k]`: a missing key raises `KeyError`. -/
def getItem (d : PyDict α) (k : String) : Except PyError α :=
  match d.get? k with
  | some v => .ok v
  | none => .error (.keyError k)

/-- Replacing the value of `k` in place leaves the keys as they were. -/
theorem map_replace_keys (es : List (String × α)) (k : String) (v : α) :
    (es.map (fun e => if e.1 = k then (k, v) else e)).map Prod.fst = es.map Prod.fst := by
  rw [List.map_map]
  exact List.map_congr_left fun e _ => by by_cases h : e.1 = k <;> simp [h]

/-- `d[k] = v`: an existing key keeps its position and takes the new value, a new key is
appended. -/
def setItem (d : PyDict α) (k : String) (v : α) : PyDict α :=
  if h : k ∈ d.keys then
    ⟨d.entries.map (fun e => if e.1 = k then (k, v) else e),
      (map_replace_keys d.entries k v).symm ▸ d.nodup⟩
  else
    ⟨d.entries ++ [(k, v)], by
      rw [List.map_append]
      exact d.nodup.append (List.nodup_singleton _) (List.disjoint_singleton.mpr h)⟩

@[ext] theorem ext {d d' : PyDict α} (h : d.entries = d'.entries) : d = d' := by
  cases d; cases d'; cases h; rfl

theorem lookup_cons_eq (es : List (String × α)) (k k' : String) (v : α) :
    ((k', v) :: es).lookup k = if k = k' then some v else es.lookup k := by
  rw [List.lookup_cons]
  by_cases h : k = k'
  · simp [h]
  · simp [beq_eq_false_iff_ne.mpr h, h]

@[simp] theorem getItem_of_get? {d : PyDict α} {k : String} {v : α} (h : d.get? k = some v) :
    d.getItem k = .ok v := by
  simp [getItem, h]

theorem get?_eq_none {d : PyDict α} {k : String} : d.get? k = none ↔ k ∉ d.keys := by
  simp only [get?, keys, List.lookup_eq_none_iff, bne_iff_ne, ne_eq, List.mem_map, not_exists,
    not_and]
  exact ⟨fun h p hp he => h p hp he.symm, fun h p hp he => h p hp he.symm⟩

/-- With no key twice, an entry is what its key looks up. -/
theorem get?_of_mem {d : PyDict α} {k : String} {v : α} (h : (k, v) ∈ d.entries) :
    d.get? k = some v := by
  obtain ⟨es, nd⟩ := d
  simp only [get?]
  induction es with
  | nil => simp at h
  | cons e es ih =>
    obtain ⟨k', v'⟩ := e
    simp only [List.map_cons, List.nodup_cons, List.mem_map] at nd
    rw [lookup_cons_eq]
    rcases List.mem_cons.mp h with he | hm
    · cases he; simp
    · have hk : k ≠ k' := fun hk => nd.1 ⟨(k, v), hm, hk⟩
      simp [hk, ih nd.2 hm]

/-- `d[k]` finds exactly the entries. -/
theorem get?_eq_some_iff {d : PyDict α} {k : String} {v : α} :
    d.get? k = some v ↔ (k, v) ∈ d.entries := by
  refine ⟨fun h => ?_, get?_of_mem⟩
  obtain ⟨l₁, l₂, he, -⟩ := List.lookup_eq_some_iff.mp h
  rw [he]
  exact List.mem_append_right _ (List.mem_cons_self _ _)

/-- The keys are exactly what `d[k]` finds. -/
theorem mem_keys_iff {d : PyDict α} {k : String} : k ∈ d.keys ↔ ∃ v, d.get? k = some v := by
  constructor
  · intro h
    obtain ⟨⟨k', v⟩, hm, rfl⟩ := List.mem_map.mp h
    exact ⟨v, get?_of_mem hm⟩
  · rintro ⟨v, hv⟩
    by_contra h
    rw [get?_eq_none.mpr h] at hv
    cases hv

theorem getItem_of_not_mem {d : PyDict α} {k : String} (h : k ∉ d.keys) :
    d.getItem k = .error (.keyError k) := by
  simp [getItem, get?_eq_none.mpr h]

theorem setItem_entries_of_not_mem {d : PyDict α} {k : String} (h : k ∉ d.keys) (v : α) :
    (d.setItem k v).entries = d.entries ++ [(k, v)] := by
  unfold setItem keys at *
  rw [dif_neg h]

theorem setItem_entries_of_mem {d : PyDict α} {k : String} (h : k ∈ d.keys) (v : α) :
    (d.setItem k v).entries = d.entries.map (fun e => if e.1 = k then (k, v) else e) := by
  unfold setItem keys at *
  rw [dif_pos h]

theorem keys_setItem_of_mem {d : PyDict α} {k : String} (h : k ∈ d.keys) (v : α) :
    (d.setItem k v).keys = d.keys := by
  unfold setItem keys at *
  rw [dif_pos h]
  exact map_replace_keys _ _ _

@[simp] theorem get?_setItem_self (d : PyDict α) (k : String) (v : α) :
    (d.setItem k v).get? k = some v := by
  by_cases h : k ∈ d.keys
  · refine get?_of_mem ?_
    obtain ⟨⟨k', v'⟩, hm, rfl⟩ := List.mem_map.mp h
    simp only [setItem, h, dite_true, List.mem_map]
    exact ⟨(k', v'), hm, by simp⟩
  · simp only [setItem, h, dite_false, get?, List.lookup_append]
    rw [show d.entries.lookup k = none from get?_eq_none.mpr h]
    simp

@[simp] theorem get?_setItem_ne (d : PyDict α) {k k' : String} (v : α) (hk : k' ≠ k) :
    (d.setItem k v).get? k' = d.get? k' := by
  by_cases h : k ∈ d.keys
  · simp only [setItem, h, dite_true, get?]
    induction d.entries with
    | nil => rfl
    | cons e es ih =>
      obtain ⟨k'', v''⟩ := e
      by_cases he : k'' = k
      · subst he; simp [lookup_cons_eq, hk, ih]
      · simp [lookup_cons_eq, he, ih]
  · simp only [setItem, h, dite_false, get?, List.lookup_append]
    cases d.entries.lookup k' <;> simp [lookup_cons_eq, hk]

/-- `d[k] = v` adds `k` to the keys and keeps the others. -/
theorem mem_keys_setItem (d : PyDict α) {k k' : String} (v : α) :
    k' ∈ (d.setItem k v).keys ↔ k' = k ∨ k' ∈ d.keys := by
  by_cases h : k' = k
  · subst h; simp [mem_keys_iff]
  · simp [mem_keys_iff, get?_setItem_ne _ _ h, h]

/-- The display `{k₁: v₁, k₂: v₂, ...}`: each pair stored in turn, so a repeated key keeps its
first position and its last value. -/
def ofList (l : List (String × α)) : PyDict α := l.foldl (fun d e => d.setItem e.1 e.2) empty

/-- An entry with the key `k` is the one `d[k]` finds. -/
theorem eq_of_mem_of_get? {d : PyDict α} {k : String} {v : α} (h : d.get? k = some v)
    {e : String × α} (he : e ∈ d.entries) (hk : e.1 = k) : e = (k, v) := by
  obtain ⟨k', v'⟩ := e
  cases hk
  rw [get?_of_mem he] at h
  cases h
  rfl

/-- Writing back the value a key has changes nothing. -/
theorem setItem_of_get? {d : PyDict α} {k : String} {v : α} (h : d.get? k = some v) :
    d.setItem k v = d := by
  ext1
  rw [setItem_entries_of_mem (mem_keys_iff.mpr ⟨v, h⟩)]
  conv_rhs => rw [← List.map_id d.entries]
  refine List.map_congr_left fun e he => ?_
  split_ifs with hk
  · exact (eq_of_mem_of_get? h he hk).symm
  · rfl

/-- The second of two writes to one key is the one that stays. -/
@[simp] theorem setItem_setItem (d : PyDict α) (k : String) (v w : α) :
    (d.setItem k v).setItem k w = d.setItem k w := by
  have h' : k ∈ (d.setItem k v).keys := mem_keys_iff.mpr ⟨v, get?_setItem_self d k v⟩
  ext1
  rw [setItem_entries_of_mem h']
  by_cases h : k ∈ d.keys
  · rw [setItem_entries_of_mem h, setItem_entries_of_mem h, List.map_map]
    exact List.map_congr_left fun e _ => by by_cases he : e.1 = k <;> simp [he]
  · rw [setItem_entries_of_not_mem h, setItem_entries_of_not_mem h, List.map_append]
    congr 1
    · conv_rhs => rw [← List.map_id d.entries]
      exact List.map_congr_left fun e he =>
        if_neg fun (hk : e.1 = k) => h (hk ▸ List.mem_map_of_mem Prod.fst he)
    · simp

end PyDict

/-- A computation that returns ran its first step to a value. -/
theorem bind_eq_ok {ε α β : Type} {x : Except ε α} {f : α → Except ε β} {b : β} :
    x >>= f = .ok b ↔ ∃ a, x = .ok a ∧ f a = .ok b := by
  cases x <;> simp [bind, Except.bind]

@[simp] theorem ok_bind {ε α β : Type} (a : α) (f : α → Except ε β) :
    (Except.ok a : Except ε α) >>= f = f a := rfl

/-- `int(x)` on a number: truncation toward zero. -/
def pyInt (x : ℚ) : ℤ := if 0 ≤ x then ⌊x⌋ else ⌈x⌉

theorem pyInt_of_nonneg {x : ℚ} (h : 0 ≤ x) : pyInt x = ⌊x⌋ := if_pos h

@[simp] theorem pyInt_zero : pyInt 0 = 0 := by simp [pyInt]

/-! ### Splitting and joining on one character -/

/-- No piece of a split holds a separator. -/
theorem mem_splitOnP {α : Type} (p : α → Bool) :
    ∀ {xs l : List α}, l ∈ xs.splitOnP p → ∀ y ∈ l, p y = false
  | [], l, hl => by
    rw [List.splitOnP_nil, List.mem_singleton] at hl
    subst hl
    simp
  | a :: as, l, hl => by
    rw [List.splitOnP_cons] at hl
    split_ifs at hl with ha
    · rcases List.mem_cons.mp hl with rfl | hl
      · simp
      · exact mem_splitOnP p hl
    · obtain ⟨h, t, ht⟩ := List.exists_cons_of_ne_nil (List.splitOnP_ne_nil p as)
      rw [ht, List.modifyHead_cons] at hl
      rcases List.mem_cons.mp hl with rfl | hl
      · intro y hy
        rcases List.mem_cons.mp hy with rfl | hy
        · simpa using ha
        · exact mem_splitOnP p (ht ▸ List.mem_cons_self h t) y hy
      · exact mem_splitOnP p (ht ▸ List.mem_cons_of_mem h hl)

/-- `s.split(sep)` for a one-character separator: the pieces between the separators, empty
ones included. -/
def pySplit (s : String) (sep : Char) : List String := (s.toList.splitOn sep).map String.mk

/-- `sep.join(parts)` for a one-character separator. -/
def pyJoin (sep : Char) (parts : List String) : String :=
  String.mk ([sep].intercalate (parts.map String.toList))

theorem pySplit_ne_nil (s : String) (sep : Char) : pySplit s sep ≠ [] := by
  simpa [pySplit, List.splitOn] using List.splitOnP_ne_nil _ s.toList

theorem not_mem_of_mem_pySplit {s p : String} {sep : Char} (hp : p ∈ pySplit s sep) :
    sep ∉ p.toList := by
  obtain ⟨l, hl, rfl⟩ := List.mem_map.mp hp
  intro hs
  simpa using mem_splitOnP _ hl sep hs

/-- Joining the pieces of a split gives the string back. -/
theorem pyJoin_pySplit (s : String) (sep : Char) : pyJoin sep (pySplit s sep) = s := by
  simp only [pyJoin, pySplit, List.map_map]
  rw [show String.toList ∘ String.mk = id from rfl, List.map_id, List.intercalate_splitOn]
  rfl

/-- Splitting a join of pieces without a separator gives the pieces back. -/
theorem pySplit_pyJoin {parts : List String} {sep : Char} (h : ∀ p ∈ parts, sep ∉ p.toList)
    (hne : parts ≠ []) : pySplit (pyJoin sep parts) sep = parts := by
  have h' : ∀ l ∈ parts.map String.toList, sep ∉ l := by
    simpa using h
  simp only [pySplit, pyJoin, String.toList]
  rw [List.splitOn_intercalate _ sep h' (by simpa using hne), List.map_map]
  exact List.map_id _

end SimEngine
