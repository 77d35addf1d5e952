import SimEngine.Storcli.Drives
import SimEngine.Storcli.Threshold
import SimEngine.Storcli.Dispatch

/-!
# The emulator's configuration across commands

The emulator reads its state configuration once, at construction (`storcli_emu.py:53-54`), and
every state it reports is looked up in it. Two handlers read the `virtualDrive` table's `Optl`
row as the baseline of a virtual drive's counters. `_get_virtual_drives` adds to a deep copy of
it (`storcli_emu.py:418`). `_strcli_ctrl_info` takes the row itself (`storcli_emu.py:204`), so
its `+=` write into the configuration: each drive starts from the counters of the drives and
the calls before it. The other handlers do not touch the configuration.

The configuration is the emulator's state; a run is a list of commands, each a route with the
snapshot of the addressed controller it reads. `runCmds_config` is the run invariant: the
configuration after a run is the initial one with the `Optl` row raised by every physical
drive of every `/cN show all` so far. Over it, `getVirtualDrives_eq` and
`strcliCtrlInfo_status` say what the two handlers report from a configuration, and the
handlers never report a status the configuration does not declare (`callHandler_declared`).

Of the handlers that only fill templates, `/cN/cv show all` computes one value: the date it
shows is the stored date with its fields reversed (`cachevaultMfgDate_reverse`).
-/

namespace SimEngine

/-- `stateConfig['virtualDrive']['Optl']`. -/
def optlRow (cfg : StateConfig) : Except PyError (PyDict Int) := do
  (← cfg.getItem "virtualDrive").getItem "Optl"

/-- The configuration after a write through `stateConfig['virtualDrive']['Optl']`: that row
replaced. -/
def setOptlRow (cfg : StateConfig) (row : PyDict Int) : Except PyError StateConfig := do
  return cfg.setItem "virtualDrive" ((← cfg.getItem "virtualDrive").setItem "Optl" row)

/-- The virtual-drive loop of `_strcli_ctrl_info` (`storcli_emu.py:202-218`): each drive's
counters are added into the configuration's own `Optl` row, and its state is looked up in the
configuration so changed. It returns the configuration after the loop and the drives' states,
shown in the virtual-drive table and in the topology. -/
def ctrlInfoVdStates (cfg : StateConfig) : List VirtDrive → Except PyError (StateConfig × List String)
  | [] => .ok (cfg, [])
  | v :: vs => do
    let row ← addPdCounters (← optlRow cfg) v.pd
    let cfg ← setOptlRow cfg row
    let st ← getStateFromConfig cfg "virtualDrive" row "Optl"
    let out ← ctrlInfoVdStates cfg vs
    return (out.1, st :: out.2)

/-- `ctrl_state` before the physical-drive loop (`storcli_emu.py:198-200`): a deep copy of the
controller's `Optimal` row with the controller's memory error counts. -/
def ctrlStateInit (cfg : StateConfig) (snap : CtrlSnapshot) : Except PyError (PyDict Int) := do
  let row ← (← cfg.getItem "controller").getItem "Optimal"
  return (row.setItem "memoryCorrectableErrors" snap.memoryCorrectableErrors).setItem
    "memoryUncorrectableErrors" snap.memoryUncorrectableErrors

/-- The states `/cN show all` reports: the controller's status and each virtual drive's
state. -/
structure CtrlInfo where
  status : String
  vdStates : List String
  deriving DecidableEq, Repr

/-- `_strcli_ctrl_info` (`storcli_emu.py:167-292`), on the states it computes. -/
def strcliCtrlInfo (cfg : StateConfig) (snap : CtrlSnapshot) :
    Except PyError (StateConfig × CtrlInfo) := do
  let ctrlState ← ctrlStateInit cfg snap
  let (cfg, vdStates) ← ctrlInfoVdStates cfg snap.vd
  let ctrlState ← addOffline ctrlState snap.pd
  let status ← getStateFromConfig cfg "controller" ctrlState "Optimal"
  return (cfg, ⟨status, vdStates⟩)

/-- `_get_virtual_drives` (`storcli_emu.py:406-446`), on the states it computes: each drive's
counters are added to a deep copy of the `Optl` row. -/
def getVirtualDrives (cfg : StateConfig) : List VirtDrive → Except PyError (List String)
  | [] => .ok []
  | v :: vs => do
    let row ← addPdCounters (← optlRow cfg) v.pd
    let st ← getStateFromConfig cfg "virtualDrive" row "Optl"
    return st :: (← getVirtualDrives cfg vs)

/-- What a handler reports that depends on the configuration. -/
inductive Output where
  | ctrlInfo (info : CtrlInfo)
  | virtDisk (states : List String)
  /-- The reply of a handler that does not read the configuration. -/
  | text
  deriving DecidableEq, Repr

/-- The states an output reports, each with the entry of the configuration it is looked up
in. -/
def Output.states : Output → List (String × String)
  | .ctrlInfo info => ("controller", info.status) :: info.vdStates.map ("virtualDrive", ·)
  | .virtDisk sts => sts.map ("virtualDrive", ·)
  | .text => []

/-- The handler a route calls, on the snapshot of the controller it addresses. `/cN show all`
and `/cN /vall show all` read the configuration and are modelled; every other handler fills a
template from files and graph queries that are not in `src/`, and is modelled as answering
`Output.text` without raising, so the exceptions of a connection are those of these two. -/
def callHandler (cfg : StateConfig) (snap : CtrlSnapshot) : Route → Except PyError (StateConfig × Output)
  | .ctrlInfo _ => do
    let (cfg, info) ← strcliCtrlInfo cfg snap
    return (cfg, .ctrlInfo info)
  | .virtDisk _ => do return (cfg, .virtDisk (← getVirtualDrives cfg snap.vd))
  | _ => .ok (cfg, .text)

/-- A run of commands: the configuration at its end and the outputs, in order. -/
def runCmds (cfg : StateConfig) : List (Route × CtrlSnapshot) →
    Except PyError (StateConfig × List Output)
  | [] => .ok (cfg, [])
  | (r, snap) :: cmds => do
    let (cfg, out) ← callHandler cfg snap r
    let (cfg, outs) ← runCmds cfg cmds
    return (cfg, out :: outs)

/-- The physical drives whose counters a command adds into the `Optl` row: for `/cN show all`,
those of every virtual drive. -/
def cmdDrives : Route × CtrlSnapshot → List PhysDrive
  | (.ctrlInfo _, snap) => snap.vd.flatMap VirtDrive.pd
  | _ => []

/-! ### A sample configuration -/

/-- The baseline of the controller's counters in `sampleStateConfig`. -/
def sampleOptimal : PyDict Int :=
  .ofList [("memoryCorrectableErrors", 0), ("memoryUncorrectableErrors", 0), ("numPdOffline", 0)]

/-- The baseline of a virtual drive's counters in `sampleStateConfig`. -/
def sampleOptl : PyDict Int :=
  .ofList [("mediaErrorCount", 0), ("otherErrorCount", 0), ("numPdOffline", 0)]

/-- A configuration of the shape the emulator reads, with a degraded status for each entry:
one offline drive degrades a virtual drive or the controller. -/
def sampleStateConfig : StateConfig :=
  .ofList [
    ("controller", .ofList [("Optimal", sampleOptimal),
      ("Dgrd", .ofList [("memoryCorrectableErrors", -1), ("memoryUncorrectableErrors", -1),
        ("numPdOffline", 1)])]),
    ("virtualDrive", .ofList [("Optl", sampleOptl),
      ("Dgrd", .ofList [("mediaErrorCount", -1), ("otherErrorCount", -1), ("numPdOffline", 1)])])]

/-- A controller with two virtual drives: the first has an offline drive, the second a healthy
one. -/
def degradedSnapshot : CtrlSnapshot :=
  ⟨0, 0, [⟨[⟨0, 0, "Offln"⟩]⟩, ⟨[⟨0, 0, "Onln"⟩]⟩], [⟨0, 0, "Offln"⟩, ⟨0, 0, "Onln"⟩]⟩

/-- A controller with one healthy virtual drive. -/
def healthySnapshot : CtrlSnapshot := ⟨0, 0, [⟨[⟨0, 0, "Onln"⟩]⟩], [⟨0, 0, "Onln"⟩]⟩

/-! ### Reading and writing the `Optl` row -/

section OptlRow

variable {cfg cfg₁ cfg' : StateConfig} {row r₁ r₂ : PyDict Int}

theorem optlRow_ok (h : optlRow cfg = .ok row) :
    ∃ t, cfg.get? "virtualDrive" = some t ∧ t.get? "Optl" = some row := by
  simp only [optlRow, bind_eq_ok, PyDict.getItem] at h
  obtain ⟨t, ht, hr⟩ := h
  split at ht <;> cases ht
  split at hr <;> cases hr
  exact ⟨t, ‹_›, ‹_›⟩

/-- What a write of the `Optl` row that succeeds does: it replaces the row in the table. -/
theorem setOptlRow_ok (h : setOptlRow cfg row = .ok cfg') :
    ∃ t, cfg.get? "virtualDrive" = some t ∧
      cfg' = cfg.setItem "virtualDrive" (t.setItem "Optl" row) := by
  simp only [setOptlRow, bind_eq_ok, PyDict.getItem, pure, Except.pure, Except.ok.injEq] at h
  obtain ⟨t, ht, rfl⟩ := h
  split at ht <;> cases ht
  exact ⟨t, ‹_›, rfl⟩

theorem optlRow_of_setOptlRow (h : setOptlRow cfg row = .ok cfg') : optlRow cfg' = .ok row := by
  obtain ⟨t, -, rfl⟩ := setOptlRow_ok h
  simp [optlRow, bind, Except.bind]

/-- Of two writes of the `Optl` row, the second is the one that stays. -/
theorem setOptlRow_trans (h₁ : setOptlRow cfg r₁ = .ok cfg₁) (h₂ : setOptlRow cfg₁ r₂ = .ok cfg') :
    setOptlRow cfg r₂ = .ok cfg' := by
  obtain ⟨t, ht, rfl⟩ := setOptlRow_ok h₁
  obtain ⟨t', ht', rfl⟩ := setOptlRow_ok h₂
  rw [PyDict.get?_setItem_self] at ht'
  cases ht'
  simp [setOptlRow, ht, bind, Except.bind, pure, Except.pure]

/-- A write of the `Optl` row leaves the other entries of the configuration as they were. -/
theorem setOptlRow_get?_ne (h : setOptlRow cfg row = .ok cfg') {k : String}
    (hk : k ≠ "virtualDrive") : cfg'.get? k = cfg.get? k := by
  obtain ⟨t, -, rfl⟩ := setOptlRow_ok h
  exact PyDict.get?_setItem_ne _ _ hk

/-- Writing back the row read changes nothing. -/
theorem setOptlRow_self (hrow : optlRow cfg = .ok row) : setOptlRow cfg row = .ok cfg := by
  obtain ⟨t, ht, hr⟩ := optlRow_ok hrow
  simp [setOptlRow, ht, PyDict.setItem_of_get? hr, PyDict.setItem_of_get? ht, bind, Except.bind,
    pure, Except.pure]

end OptlRow

/-! ### `/cN show all` -/

/-- The virtual-drive loop of `/cN show all` leaves the configuration with the `Optl` row
raised by the counters of every physical drive of every virtual drive. -/
theorem ctrlInfoVdStates_config {vs : List VirtDrive} {cfg cfg' : StateConfig} {row : PyDict Int}
    {sts : List String} (hrow : optlRow cfg = .ok row) (hc : HasCounters row)
    (h : ctrlInfoVdStates cfg vs = .ok (cfg', sts)) :
    setOptlRow cfg (row.addTo (pdIncrement (vs.flatMap VirtDrive.pd))) = .ok cfg' := by
  induction vs generalizing cfg row sts with
  | nil =>
    simp only [ctrlInfoVdStates, Except.ok.injEq, Prod.mk.injEq] at h
    rw [← h.1, List.flatMap_nil, pdIncrement_nil, PyDict.addTo_zero]
    exact setOptlRow_self hrow
  | cons v vs ih =>
    simp only [ctrlInfoVdStates, hrow, addPdCounters_eq hc, ok_bind, bind_eq_ok, pure,
      Except.pure, Except.ok.injEq, Prod.mk.injEq] at h
    obtain ⟨cfg₁, h₁, -, -, ⟨c, l⟩, hout, rfl, -⟩ := h
    have h₂ := ih (optlRow_of_setOptlRow h₁) (hasCounters_addTo hc _) hout
    rw [addTo_pdIncrement_append] at h₂
    rw [List.flatMap_cons]
    exact setOptlRow_trans h₁ h₂

/-- The loop writes no entry but `virtualDrive`. -/
theorem ctrlInfoVdStates_get?_ne {vs : List VirtDrive} {cfg cfg' : StateConfig} {sts : List String}
    (h : ctrlInfoVdStates cfg vs = .ok (cfg', sts)) {k : String} (hk : k ≠ "virtualDrive") :
    cfg'.get? k = cfg.get? k := by
  induction vs generalizing cfg sts with
  | nil =>
    simp only [ctrlInfoVdStates, Except.ok.injEq, Prod.mk.injEq] at h
    rw [h.1]
  | cons v vs ih =>
    simp only [ctrlInfoVdStates, bind_eq_ok, pure, Except.pure, Except.ok.injEq,
      Prod.mk.injEq] at h
    obtain ⟨row, -, row', -, cfg₁, h₁, -, -, ⟨c, l⟩, hout, rfl, -⟩ := h
    rw [ih hout, setOptlRow_get?_ne h₁ hk]

/-- What a `/cN show all` that returns has computed, step by step. -/
theorem strcliCtrlInfo_inv {cfg cfg' : StateConfig} {snap : CtrlSnapshot} {info : CtrlInfo}
    (h : strcliCtrlInfo cfg snap = .ok (cfg', info)) :
    ∃ c, ctrlStateInit cfg snap = .ok c ∧
      ctrlInfoVdStates cfg snap.vd = .ok (cfg', info.vdStates) ∧
      ∃ c', addOffline c snap.pd = .ok c' ∧
        getStateFromConfig cfg' "controller" c' "Optimal" = .ok info.status := by
  simp only [strcliCtrlInfo, bind_eq_ok, pure, Except.pure, Except.ok.injEq] at h
  obtain ⟨c, hc, ⟨c1, l⟩, hvd, c', hc', st, hst, h⟩ := h
  cases h
  exact ⟨c, hc, hvd, c', hc', hst⟩

theorem strcliCtrlInfo_config {cfg cfg' : StateConfig} {row : PyDict Int} {snap : CtrlSnapshot}
    {info : CtrlInfo} (hrow : optlRow cfg = .ok row) (hc : HasCounters row)
    (h : strcliCtrlInfo cfg snap = .ok (cfg', info)) :
    setOptlRow cfg (row.addTo (pdIncrement (snap.vd.flatMap VirtDrive.pd))) = .ok cfg' := by
  obtain ⟨-, -, hvd, -⟩ := strcliCtrlInfo_inv h
  exact ctrlInfoVdStates_config hrow hc hvd

/-- The controller status `/cN show all` reports is the evaluator's answer, on the
configuration the command starts from, for the `Optimal` row with the controller's memory error
counts and its offline drives added. -/
theorem strcliCtrlInfo_status {cfg cfg' : StateConfig} {snap : CtrlSnapshot} {info : CtrlInfo}
    {c : PyDict Int} (hinit : ctrlStateInit cfg snap = .ok c) (hn : "numPdOffline" ∈ c.keys)
    (h : strcliCtrlInfo cfg snap = .ok (cfg', info)) :
    getStateFromConfig cfg "controller"
      (c.addTo fun k => if k = "numPdOffline" then offlineCount snap.pd else 0) "Optimal" =
      .ok info.status := by
  obtain ⟨c₀, hc₀, hvd, c', hc', hst⟩ := strcliCtrlInfo_inv h
  rw [hinit] at hc₀
  cases hc₀
  rw [addOffline_eq hn] at hc'
  cases hc'
  rwa [getStateFromConfig_congr (ctrlInfoVdStates_get?_ne hvd (by decide))] at hst

theorem strcliCtrlInfo_status_degraded :
    ctrlStateInit sampleStateConfig degradedSnapshot = .ok sampleOptimal ∧
    "numPdOffline" ∈ sampleOptimal.keys ∧
    ∃ cfg' info, strcliCtrlInfo sampleStateConfig degradedSnapshot = .ok (cfg', info) ∧
      getStateFromConfig sampleStateConfig "controller"
        (sampleOptimal.addTo fun k =>
          if k = "numPdOffline" then offlineCount degradedSnapshot.pd else 0) "Optimal" =
        .ok info.status :=
  have h : ctrlStateInit sampleStateConfig degradedSnapshot = .ok sampleOptimal := rfl
  ⟨h, by decide, _, _, rfl, strcliCtrlInfo_status h (by decide) rfl⟩

/-! ### `/cN/vall show all` -/

/-- `/cN/vall show all` reports for each virtual drive the evaluator's answer for the `Optl`
row the configuration holds, plus that drive's own counters. -/
theorem getVirtualDrives_eq {cfg : StateConfig} {row : PyDict Int} (hrow : optlRow cfg = .ok row)
    (hc : HasCounters row) (vds : List VirtDrive) :
    getVirtualDrives cfg vds = vds.mapM fun v =>
      getStateFromConfig cfg "virtualDrive" (row.addTo (pdIncrement v.pd)) "Optl" := by
  induction vds with
  | nil => rfl
  | cons v vs ih =>
    simp only [getVirtualDrives, hrow, addPdCounters_eq hc, ok_bind, ih, List.mapM_cons]

theorem getVirtualDrives_eq_healthy :
    optlRow sampleStateConfig = .ok sampleOptl ∧ HasCounters sampleOptl ∧
    getVirtualDrives sampleStateConfig healthySnapshot.vd = healthySnapshot.vd.mapM fun v =>
      getStateFromConfig sampleStateConfig "virtualDrive" (sampleOptl.addTo (pdIncrement v.pd))
        "Optl" :=
  have h : optlRow sampleStateConfig = .ok sampleOptl := rfl
  ⟨h, by decide, getVirtualDrives_eq h (by decide) _⟩

/-! ### Runs -/

/-- One command: `/cN show all` raises the `Optl` row by its drives, every other command
leaves the configuration as it is. -/
theorem callHandler_config {cfg cfg' : StateConfig} {row : PyDict Int} {snap : CtrlSnapshot}
    {r : Route} {out : Output} (hrow : optlRow cfg = .ok row) (hc : HasCounters row)
    (h : callHandler cfg snap r = .ok (cfg', out)) :
    setOptlRow cfg (row.addTo (pdIncrement (cmdDrives (r, snap)))) = .ok cfg' := by
  cases r
  case ctrlInfo =>
    simp only [callHandler, bind_eq_ok, pure, Except.pure, Except.ok.injEq] at h
    obtain ⟨⟨c, info⟩, hci, h⟩ := h
    cases h
    exact strcliCtrlInfo_config hrow hc hci
  case virtDisk =>
    simp only [callHandler, bind_eq_ok, pure, Except.pure, Except.ok.injEq] at h
    obtain ⟨sts, -, h⟩ := h
    cases h
    simpa [cmdDrives] using setOptlRow_self hrow
  all_goals
    simp only [callHandler, Except.ok.injEq, Prod.mk.injEq] at h
    rw [← h.1]
    simpa [cmdDrives] using setOptlRow_self hrow

/-- The run invariant: after any run the handlers complete, the configuration is the initial
one with the `Optl` row raised by every physical drive of every `/cN show all` of the run. -/
theorem runCmds_config {cmds : List (Route × CtrlSnapshot)} {cfg cfg' : StateConfig}
    {row : PyDict Int} {outs : List Output} (hrow : optlRow cfg = .ok row) (hc : HasCounters row)
    (h : runCmds cfg cmds = .ok (cfg', outs)) :
    setOptlRow cfg (row.addTo (pdIncrement (cmds.flatMap cmdDrives))) = .ok cfg' := by
  induction cmds generalizing cfg row outs with
  | nil =>
    simp only [runCmds, Except.ok.injEq, Prod.mk.injEq] at h
    rw [← h.1, List.flatMap_nil, pdIncrement_nil, PyDict.addTo_zero]
    exact setOptlRow_self hrow
  | cons cmd cmds ih =>
    obtain ⟨r, snap⟩ := cmd
    simp only [runCmds, bind_eq_ok, pure, Except.pure, Except.ok.injEq] at h
    obtain ⟨⟨c, out⟩, hh, ⟨c', outs'⟩, hrun, h⟩ := h
    cases h
    have h₁ := callHandler_config hrow hc hh
    have h₂ := ih (optlRow_of_setOptlRow h₁) (hasCounters_addTo hc _) hrun
    rw [addTo_pdIncrement_append] at h₂
    rw [List.flatMap_cons]
    exact setOptlRow_trans h₁ h₂

theorem runCmds_config_degraded :
    optlRow sampleStateConfig = .ok sampleOptl ∧ HasCounters sampleOptl ∧
    ∃ cfg' outs, runCmds sampleStateConfig [(.ctrlInfo "0", degradedSnapshot)] = .ok (cfg', outs) ∧
      setOptlRow sampleStateConfig (sampleOptl.addTo
        (pdIncrement ([(Route.ctrlInfo "0", degradedSnapshot)].flatMap cmdDrives))) = .ok cfg' :=
  have h : optlRow sampleStateConfig = .ok sampleOptl := rfl
  ⟨h, by decide, _, _, rfl, runCmds_config h (by decide) rfl⟩

/-! ### The states the handlers report -/

section Declared

variable {cfg cfg' : StateConfig} {row row' : PyDict Int}

theorem optlRow_declared (hrow : optlRow cfg = .ok row) :
    "Optl" ∈ declaredStates cfg "virtualDrive" :=
  let ⟨_, ht, hr⟩ := optlRow_ok hrow
  mem_declaredStates ht hr

theorem ctrlStateInit_declared {snap : CtrlSnapshot} {c : PyDict Int}
    (h : ctrlStateInit cfg snap = .ok c) : "Optimal" ∈ declaredStates cfg "controller" := by
  simp only [ctrlStateInit, bind_eq_ok, PyDict.getItem] at h
  obtain ⟨t, ht, r, hr, -⟩ := h
  split at ht <;> cases ht
  split at hr <;> cases hr
  exact mem_declaredStates ‹_› ‹_›

/-- A write of the `Optl` row read before keeps every declared status. -/
theorem declaredStates_setOptlRow (hrow : optlRow cfg = .ok row)
    (h : setOptlRow cfg row' = .ok cfg') : declaredStates cfg' = declaredStates cfg := by
  obtain ⟨t, ht, hr⟩ := optlRow_ok hrow
  obtain ⟨t', ht', rfl⟩ := setOptlRow_ok h
  rw [ht] at ht'
  cases ht'
  funext entry
  by_cases he : entry = "virtualDrive"
  · subst he
    simp [declaredStates, ht, PyDict.keys_setItem_of_mem (PyDict.mem_keys_iff.mpr ⟨row, hr⟩)]
  · simp [declaredStates, he]

theorem ctrlInfoVdStates_declared {vs : List VirtDrive} {sts : List String}
    (h : ctrlInfoVdStates cfg vs = .ok (cfg', sts)) :
    declaredStates cfg' = declaredStates cfg ∧
      ∀ s ∈ sts, s ∈ declaredStates cfg "virtualDrive" := by
  induction vs generalizing cfg sts with
  | nil =>
    simp only [ctrlInfoVdStates, Except.ok.injEq, Prod.mk.injEq] at h
    obtain ⟨rfl, rfl⟩ := h
    exact ⟨rfl, by simp⟩
  | cons v vs ih =>
    simp only [ctrlInfoVdStates, bind_eq_ok, pure, Except.pure, Except.ok.injEq,
      Prod.mk.injEq] at h
    obtain ⟨row, hrow, row', -, cfg₁, h₁, st, hst, ⟨c, l⟩, hout, rfl, rfl⟩ := h
    have hd₁ := declaredStates_setOptlRow hrow h₁
    obtain ⟨hd, hl⟩ := ih hout
    refine ⟨hd.trans hd₁, fun s hs => hd₁ ▸ ?_⟩
    rcases List.mem_cons.mp hs with rfl | hs
    · exact getStateFromConfig_declared (optlRow_declared (optlRow_of_setOptlRow h₁)) hst
    · exact hl s hs

theorem getVirtualDrives_declared {vds : List VirtDrive} {sts : List String}
    (h : getVirtualDrives cfg vds = .ok sts) :
    ∀ s ∈ sts, s ∈ declaredStates cfg "virtualDrive" := by
  induction vds generalizing sts with
  | nil =>
    cases h
    simp
  | cons v vs ih =>
    simp only [getVirtualDrives, bind_eq_ok, pure, Except.pure, Except.ok.injEq] at h
    obtain ⟨row, hrow, row', -, st, hst, l, hl, rfl⟩ := h
    intro s hs
    rcases List.mem_cons.mp hs with rfl | hs
    · exact getStateFromConfig_declared (optlRow_declared hrow) hst
    · exact ih hl s hs

/-- A handler keeps every declared status, and reports only declared ones. -/
theorem callHandler_declared {snap : CtrlSnapshot} {r : Route} {out : Output}
    (h : callHandler cfg snap r = .ok (cfg', out)) :
    declaredStates cfg' = declaredStates cfg ∧
      ∀ s ∈ out.states, s.2 ∈ declaredStates cfg s.1 := by
  cases r
  case ctrlInfo =>
    simp only [callHandler, bind_eq_ok, pure, Except.pure, Except.ok.injEq] at h
    obtain ⟨⟨c, info⟩, hci, h⟩ := h
    cases h
    obtain ⟨c₀, hc₀, hvd, c', -, hst⟩ := strcliCtrlInfo_inv hci
    obtain ⟨hd, hvs⟩ := ctrlInfoVdStates_declared hvd
    refine ⟨hd, ?_⟩
    simp only [Output.states, List.mem_cons, List.mem_map]
    rintro s (rfl | ⟨st, hs, rfl⟩)
    · exact hd ▸ getStateFromConfig_declared (hd ▸ ctrlStateInit_declared hc₀) hst
    · exact hvs st hs
  case virtDisk =>
    simp only [callHandler, bind_eq_ok, pure, Except.pure, Except.ok.injEq] at h
    obtain ⟨sts, hsts, h⟩ := h
    cases h
    refine ⟨rfl, ?_⟩
    simp only [Output.states, List.mem_map]
    rintro s ⟨st, hs, rfl⟩
    exact getVirtualDrives_declared hsts st hs
  all_goals
    simp only [callHandler, Except.ok.injEq, Prod.mk.injEq] at h
    obtain ⟨rfl, rfl⟩ := h
    exact ⟨rfl, by simp [Output.states]⟩

end Declared

/-- One `/c0 show all` on a controller with an offline drive leaves the `Optl` row of the
configuration counting an offline drive. -/
theorem runCmds_writes_config :
    optlRow sampleStateConfig = .ok sampleOptl ∧
    ∃ cfg' outs, runCmds sampleStateConfig [(.ctrlInfo "0", degradedSnapshot)] = .ok (cfg', outs) ∧
      optlRow cfg' =
        .ok (.ofList [("mediaErrorCount", 0), ("otherErrorCount", 0), ("numPdOffline", 1)]) :=
  ⟨rfl, _, _, rfl, rfl⟩

/-- `/c0 show all` reports the healthy second drive degraded, and so does a later
`/c0/vall show all` on a controller whose only drive is healthy. -/
theorem runCmds_stale_vd_states :
    ∃ cfg', runCmds sampleStateConfig
        [(.ctrlInfo "0", degradedSnapshot), (.virtDisk "0", healthySnapshot)] =
      .ok (cfg', [.ctrlInfo ⟨"Dgrd", ["Dgrd", "Dgrd"]⟩, .virtDisk ["Dgrd"]]) :=
  ⟨_, rfl⟩

/-! ### `/cN/cv show all` -/

/-- The manufacturing date `_strcli_ctrl_cachevault` shows (`storcli_emu.py:302`):
`'/'.join(reversed(cv_info['mfgDate'].split('/')))`. -/
def cachevaultMfgDate (mfgDate : String) : String := pyJoin '/' (pySplit mfgDate '/').reverse

/-- Whatever the stored date, the date shown has its `/`-separated fields in reverse order, and
converting it again gives the stored date back. -/
theorem cachevaultMfgDate_reverse (mfgDate : String) :
    pySplit (cachevaultMfgDate mfgDate) '/' = (pySplit mfgDate '/').reverse ∧
      cachevaultMfgDate (cachevaultMfgDate mfgDate) = mfgDate := by
  have hfields : pySplit (cachevaultMfgDate mfgDate) '/' = (pySplit mfgDate '/').reverse :=
    pySplit_pyJoin (fun p hp => not_mem_of_mem_pySplit (List.mem_reverse.mp hp))
      (by simpa using pySplit_ne_nil mfgDate '/')
  refine ⟨hfields, ?_⟩
  show pyJoin '/' (pySplit (cachevaultMfgDate mfgDate) '/').reverse = mfgDate
  rw [hfields, List.reverse_reverse, pyJoin_pySplit]

example : cachevaultMfgDate "2018/07/25" = "25/07/2018" := by decide

end SimEngine
