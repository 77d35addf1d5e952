import SimEngine.Python
import Mathlib.Algebra.BigOperators.Group.List

/-!
# Drive counters

The emulator turns a virtual drive's physical drives into counters before it looks up the
drive's state: for each physical drive it adds the media and other error counts, and one for
an offline drive, to a row of counters (`storcli_emu.py:211-216` and `428-436`, one `+=` per
counter). The controller does the same with its offline drives (`storcli_emu.py:240-245`).

The graph queries (`GraphReference`) are not in this repository; a controller's drives are
modelled by the fields of them these loops read.

`addPdCounters_eq` gives the loop's closed form: on a row that has the three counters, it adds
to each counter `k` the sum `pdIncrement pds k` of what the drives contribute to it.
-/

namespace SimEngine

/-- A physical drive, with the fields the state computations read. -/
structure PhysDrive where
  mediaErrorCount : Int
  otherErrorCount : Int
  state : String
  deriving DecidableEq, Repr

/-- A virtual drive, with its physical drives (`v_drive['pd']`). -/
structure VirtDrive where
  pd : List PhysDrive
  deriving DecidableEq, Repr

/-- What the graph holds for one controller: its memory error counts, its virtual drives and
its physical drives (`get_controller_details`, `get_all_drives`, and
`get_virtual_drive_details`, which lists the same virtual drives). -/
structure CtrlSnapshot where
  memoryCorrectableErrors : Int
  memoryUncorrectableErrors : Int
  vd : List VirtDrive
  pd : List PhysDrive
  deriving DecidableEq, Repr

namespace PyDict

/-- Each value `v` of a key `k` becomes `v + f k`. -/
def addTo (d : PyDict Int) (f : String → Int) : PyDict Int :=
  ⟨d.entries.map fun e => (e.1, e.2 + f e.1), by rw [List.map_map]; exact d.nodup⟩

@[simp] theorem keys_addTo (d : PyDict Int) (f : String → Int) : (d.addTo f).keys = d.keys := by
  simp only [keys, addTo, List.map_map]
  rfl

@[simp] theorem get?_addTo (d : PyDict Int) (f : String → Int) (k : String) :
    (d.addTo f).get? k = (d.get? k).map (· + f k) := by
  cases h : d.get? k with
  | none =>
    rw [Option.map_none', get?_eq_none, keys_addTo]
    exact get?_eq_none.mp h
  | some v =>
    refine get?_of_mem (List.mem_map.mpr ⟨(k, v), get?_eq_some_iff.mp h, rfl⟩)

@[simp] theorem addTo_addTo (d : PyDict Int) (f g : String → Int) :
    (d.addTo f).addTo g = d.addTo (fun k => f k + g k) := by
  ext1
  simp only [addTo, List.map_map, Function.comp_def, Int.add_assoc]

@[simp] theorem addTo_zero (d : PyDict Int) : d.addTo (fun _ => 0) = d := by
  ext1
  simp [addTo]

/-- `d[k] = d[k] + n` on a present key adds `n` to `k` alone. -/
theorem setItem_add {d : PyDict Int} {k : String} {v : Int} (h : d.get? k = some v) (n : Int) :
    d.setItem k (v + n) = d.addTo (fun j => if j = k then n else 0) := by
  ext1
  rw [setItem_entries_of_mem (mem_keys_iff.mpr ⟨v, h⟩)]
  refine List.map_congr_left fun e he => ?_
  by_cases hk : e.1 = k
  · simp [hk, eq_of_mem_of_get? h he hk]
  · simp [hk]

end PyDict

/-- `row[k] += n`. -/
def addCounter (row : PyDict Int) (k : String) (n : Int) : Except PyError (PyDict Int) := do
  return row.setItem k ((← row.getItem k) + n)

/-- The loop over a virtual drive's physical drives (`storcli_emu.py:211-216`). -/
def addPdCounters (row : PyDict Int) : List PhysDrive → Except PyError (PyDict Int)
  | [] => .ok row
  | p :: ps => do
    let row ← addCounter row "mediaErrorCount" p.mediaErrorCount
    let row ← addCounter row "otherErrorCount" p.otherErrorCount
    let row ← if p.state = "Offln" then addCounter row "numPdOffline" 1 else pure row
    addPdCounters row ps

/-- The loop over a controller's physical drives (`storcli_emu.py:240-245`). -/
def addOffline (row : PyDict Int) : List PhysDrive → Except PyError (PyDict Int)
  | [] => .ok row
  | p :: ps => do
    let row ← if p.state = "Offln" then addCounter row "numPdOffline" 1 else pure row
    addOffline row ps

/-! ### Closed forms -/

/-- What a physical drive adds to the counter `k` of its virtual drive. -/
def PhysDrive.increment (p : PhysDrive) (k : String) : Int :=
  if k = "mediaErrorCount" then p.mediaErrorCount
  else if k = "otherErrorCount" then p.otherErrorCount
  else if k = "numPdOffline" ∧ p.state = "Offln" then 1
  else 0

/-- What a list of physical drives adds to the counter `k`. -/
def pdIncrement (pds : List PhysDrive) (k : String) : Int := (pds.map (·.increment k)).sum

@[simp] theorem pdIncrement_nil : pdIncrement [] = fun _ => 0 := rfl

theorem pdIncrement_append (ps qs : List PhysDrive) (k : String) :
    pdIncrement (ps ++ qs) k = pdIncrement ps k + pdIncrement qs k := by
  simp only [pdIncrement, List.map_append, List.sum_append]

theorem addTo_pdIncrement_append (row : PyDict Int) (ps qs : List PhysDrive) :
    (row.addTo (pdIncrement ps)).addTo (pdIncrement qs) = row.addTo (pdIncrement (ps ++ qs)) := by
  rw [PyDict.addTo_addTo]
  congr; funext k
  exact (pdIncrement_append ps qs k).symm

/-- The number of offline drives, as the controller counts them. -/
def offlineCount (pds : List PhysDrive) : Int := (pds.filter (·.state = "Offln")).length

/-- The row has the counters a virtual drive's physical drives add to. -/
def HasCounters (row : PyDict Int) : Prop :=
  "mediaErrorCount" ∈ row.keys ∧ "otherErrorCount" ∈ row.keys ∧ "numPdOffline" ∈ row.keys

instance (row : PyDict Int) : Decidable (HasCounters row) :=
  inferInstanceAs (Decidable (_ ∧ _ ∧ _))

theorem addCounter_of_mem {row : PyDict Int} {k : String} (h : k ∈ row.keys) (n : Int) :
    addCounter row k n = .ok (row.addTo fun j => if j = k then n else 0) := by
  obtain ⟨v, hv⟩ := PyDict.mem_keys_iff.mp h
  simp only [addCounter, PyDict.getItem_of_get? hv, bind, Except.bind, pure, Except.pure,
    PyDict.setItem_add hv]

theorem hasCounters_addTo {row : PyDict Int} (h : HasCounters row) (f : String → Int) :
    HasCounters (row.addTo f) := by
  simpa only [HasCounters, PyDict.keys_addTo] using h

theorem addCounter_addTo {row : PyDict Int} {k : String} (h : k ∈ row.keys) (f : String → Int)
    (n : Int) :
    addCounter (row.addTo f) k n = .ok (row.addTo fun j => f j + if j = k then n else 0) := by
  rw [addCounter_of_mem (by rwa [PyDict.keys_addTo]), PyDict.addTo_addTo]

/-- One physical drive: the three `+=` add its `increment`. -/
theorem addPdCounters_cons {row : PyDict Int} (h : HasCounters row) (p : PhysDrive)
    (ps : List PhysDrive) :
    addPdCounters row (p :: ps) = addPdCounters (row.addTo p.increment) ps := by
  obtain ⟨hm, ho, hn⟩ := h
  simp only [addPdCounters, addCounter_of_mem hm, addCounter_addTo ho, bind, Except.bind]
  by_cases hs : p.state = "Offln"
  all_goals
    simp only [hs, if_true, if_false, addCounter_addTo hn, pure, Except.pure]
    -- the single-counter additions make up the drive's `increment`
    congr 2; funext k
    unfold PhysDrive.increment
    split_ifs <;> simp_all

theorem addPdCounters_eq {row : PyDict Int} (h : HasCounters row) (pds : List PhysDrive) :
    addPdCounters row pds = .ok (row.addTo (pdIncrement pds)) := by
  induction pds generalizing row with
  | nil => exact congrArg Except.ok (PyDict.addTo_zero row).symm
  | cons p ps ih =>
    rw [addPdCounters_cons h, ih (hasCounters_addTo h _), PyDict.addTo_addTo]
    rfl

theorem addOffline_eq {row : PyDict Int} (h : "numPdOffline" ∈ row.keys) (pds : List PhysDrive) :
    addOffline row pds =
      .ok (row.addTo fun k => if k = "numPdOffline" then offlineCount pds else 0) := by
  induction pds generalizing row with
  | nil => simp [addOffline, offlineCount]
  | cons p ps ih =>
    have h' : ∀ f, "numPdOffline" ∈ (row.addTo f).keys := fun f => by rwa [PyDict.keys_addTo]
    by_cases hs : p.state = "Offln"
    · simp only [addOffline, hs, if_true, addCounter_of_mem h, bind, Except.bind, ih (h' _),
        PyDict.addTo_addTo]
      congr 2; funext k
      split_ifs <;> simp [offlineCount, List.filter_cons, hs, Int.add_comm]
    · simp only [addOffline, hs, if_false, pure, Except.pure, bind, Except.bind, ih h]
      simp [offlineCount, List.filter_cons, hs]

end SimEngine
