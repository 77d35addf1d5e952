import SimEngine.Asset.Asset

/-!
# The voltage-driven transition

What one call of `_process_parent_volt_e` does, for every asset state and every pair of
voltages. The transition step (`voltTransition`) and the load step (`applyLoadDelta`) get
their lemmas separately; `processParentVoltE` is their composition, so its properties are
assembled from them: the status it leaves, the loads it reports and the load it stores, and
the output voltages it hands to the children.

The last are where the code and the specification part: on a transition the new output
voltage is `new_out_volt * (int(old_out_volt) ^ 1)`, which is `new_out_volt` or `0` only for
old voltages below `2` V.
-/

namespace SimEngine.Asset

variable {s : AssetState} {e : PowerEvent}

theorem powerAction_eq_none_iff {m v : ℚ} {st : PowerStatus} :
    powerAction m v st = none ↔ (st = .up ↔ m < v) := by
  cases st <;> by_cases h : v ≤ m <;> simp [powerAction, h]; linarith

theorem voltTransition_of_none (h : powerAction s.minVoltage e.outVolt.new s.status = none) :
    voltTransition s e = (s, { e with state.old := s.status }) := by
  simp [voltTransition, h]

theorem voltTransition_of_some {act : Bool}
    (h : powerAction s.minVoltage e.outVolt.new s.status = some act) :
    voltTransition s e = (applyPowerAction s act,
      { e with
        state := ⟨s.status, (applyPowerAction s act).status⟩
        outVolt := resetOutVolt s.status e.outVolt }) := by
  simp [voltTransition, h]

/-- The transition step only ever changes the status. -/
theorem voltTransition_state (s : AssetState) (e : PowerEvent) :
    (voltTransition s e).1 = { s with status := (voltTransition s e).1.status } := by
  cases h : powerAction s.minVoltage e.outVolt.new s.status with
  | none => rw [voltTransition_of_none h]
  | some act => rw [voltTransition_of_some h]; cases act <;> rfl

/-- After the transition step the asset is up exactly when the new voltage exceeds
`min_voltage`. -/
theorem voltTransition_status_eq_up_iff :
    (voltTransition s e).1.status = .up ↔ s.minVoltage < e.outVolt.new := by
  cases h : powerAction s.minVoltage e.outVolt.new s.status with
  | none => rw [voltTransition_of_none h]; exact powerAction_eq_none_iff.mp h
  | some act =>
    rw [voltTransition_of_some h]
    cases hs : s.status <;> by_cases hv : e.outVolt.new ≤ s.minVoltage <;>
      simp_all [powerAction, applyPowerAction]

theorem voltTransition_outVolt (s : AssetState) (e : PowerEvent) :
    (voltTransition s e).2.outVolt =
      if powerAction s.minVoltage e.outVolt.new s.status = none then e.outVolt
      else resetOutVolt s.status e.outVolt := by
  cases h : powerAction s.minVoltage e.outVolt.new s.status with
  | none => rw [voltTransition_of_none h]; rfl
  | some act => rw [voltTransition_of_some h]; simp

@[simp] theorem voltTransition_load : (voltTransition s e).1.load = s.load := by
  rw [voltTransition_state]

@[simp] theorem voltTransition_powerConsumption :
    (voltTransition s e).1.powerConsumption = s.powerConsumption := by
  rw [voltTransition_state]

@[simp] theorem voltTransition_minVoltage :
    (voltTransition s e).1.minVoltage = s.minVoltage := by
  rw [voltTransition_state]

@[simp] theorem voltTransition_inputVoltage :
    (voltTransition s e).1.inputVoltage = s.inputVoltage := by
  rw [voltTransition_state]

/-- The load step reports the loads of the two output voltages. -/
@[simp] theorem applyLoadDelta_event :
    (applyLoadDelta s e).2 =
      { e with load := ⟨calcLoad s.powerConsumption e.outVolt.old,
        calcLoad s.powerConsumption e.outVolt.new⟩ } := rfl

/-- The load step moves the stored load by the difference of the two loads it reports; when
they are equal it skips `update_load`, which comes to the same. -/
theorem applyLoadDelta_load :
    (applyLoadDelta s e).1.load = s.load - (applyLoadDelta s e).2.load.old +
      (applyLoadDelta s e).2.load.new := by
  dsimp only [applyLoadDelta]
  split_ifs with h
  · rfl
  · simp only [not_not] at h; simp [h]

/-- The load step changes nothing of the state but the load. -/
theorem applyLoadDelta_state :
    (applyLoadDelta s e).1 = s.updateLoad (applyLoadDelta s e).1.load := by
  dsimp only [applyLoadDelta]
  split_ifs <;> rfl

theorem voltTransition_updateLoad (l : ℚ) :
    voltTransition (s.updateLoad l) e =
      ((voltTransition s e).1.updateLoad l, (voltTransition s e).2) := by
  cases h : powerAction s.minVoltage e.outVolt.new s.status with
  | none => rw [voltTransition_of_none h, voltTransition_of_none (by simpa using h)]; rfl
  | some act =>
    rw [voltTransition_of_some h, voltTransition_of_some (by simpa using h)]
    cases act <;> rfl

/-- The load step never reads the stored load: a load raised by `x` before it is raised by
`x` after it. -/
theorem applyLoadDelta_updateLoad_add (x : ℚ) :
    applyLoadDelta (s.updateLoad (s.load + x)) e =
      ((applyLoadDelta s e).1.updateLoad ((applyLoadDelta s e).1.load + x),
        (applyLoadDelta s e).2) := by
  simp only [applyLoadDelta, AssetState.updateLoad_powerConsumption, AssetState.updateLoad_load]
  split_ifs
  · refine Prod.ext ?_ rfl
    simp only [AssetState.updateLoad]
    congr 1
    ring
  · rfl

/-- `_process_parent_volt_e` leaves the status the transition step sets. -/
theorem processParentVoltE_status_eq (a : Asset) (e : PowerEvent) :
    (a.processParentVoltE e).1.state.status = (voltTransition a.state e).1.status := by
  show (applyLoadDelta _ _).1.status = _
  rw [applyLoadDelta_state, AssetState.updateLoad_status]

/-- `_process_parent_volt_e` leaves the asset up exactly when the new voltage exceeds
`min_voltage`, from either status. -/
theorem processParentVoltE_status_eq_up_iff (a : Asset) (e : PowerEvent) :
    (a.processParentVoltE e).1.state.status = .up ↔ a.state.minVoltage < e.outVolt.new := by
  rw [processParentVoltE_status_eq, voltTransition_status_eq_up_iff]

/-- The status `_process_parent_volt_e` leaves, decided by the threshold alone. -/
theorem processParentVoltE_status (a : Asset) (e : PowerEvent) :
    (a.processParentVoltE e).1.state.status =
      if a.state.minVoltage < e.outVolt.new then .up else .down := by
  have h : (voltTransition a.state e).1.status = .up ↔ _ := voltTransition_status_eq_up_iff
  rw [processParentVoltE_status_eq]
  split_ifs with hv
  · exact h.mpr hv
  · cases hs : (voltTransition a.state e).1.status
    · rfl
    · exact absurd (h.mp hs) hv

/-- The loads `_process_parent_volt_e` reports are those of the voltages it hands to the
children, `0` at `0` V. -/
theorem processParentVoltE_event_load (a : Asset) (e : PowerEvent) :
    (a.processParentVoltE e).2.load =
      ⟨calcLoad a.state.powerConsumption (a.processParentVoltE e).2.outVolt.old,
        calcLoad a.state.powerConsumption (a.processParentVoltE e).2.outVolt.new⟩ := by
  simp [processParentVoltE]

/-- The stored load moves by exactly the difference of the two loads reported. -/
theorem processParentVoltE_stored_load (a : Asset) (e : PowerEvent) :
    (a.processParentVoltE e).1.state.load =
      a.state.load - (a.processParentVoltE e).2.load.old + (a.processParentVoltE e).2.load.new := by
  show (applyLoadDelta _ _).1.load = _
  rw [applyLoadDelta_load, voltTransition_load]
  rfl

/-- The output voltages `_process_parent_volt_e` hands to the children: the event's own when
the status stays, the re-set ones (`resetOutVolt`) when it changes. -/
theorem processParentVoltE_outVolt (a : Asset) (e : PowerEvent) :
    (a.processParentVoltE e).2.outVolt =
      if powerAction a.state.minVoltage e.outVolt.new a.state.status = none then e.outVolt
      else resetOutVolt a.state.status e.outVolt := by
  rw [← voltTransition_outVolt]
  rfl

@[simp] theorem processParentVoltE_minVoltage (a : Asset) (e : PowerEvent) :
    (a.processParentVoltE e).1.state.minVoltage = a.state.minVoltage := by
  show (applyLoadDelta _ _).1.minVoltage = _
  rw [applyLoadDelta_state]; simp

@[simp] theorem processParentVoltE_powerConsumption (a : Asset) (e : PowerEvent) :
    (a.processParentVoltE e).1.state.powerConsumption = a.state.powerConsumption := by
  show (applyLoadDelta _ _).1.powerConsumption = _
  rw [applyLoadDelta_state]; simp

@[simp] theorem processParentVoltE_inputVoltage (a : Asset) (e : PowerEvent) :
    (a.processParentVoltE e).1.state.inputVoltage = a.state.inputVoltage := by
  show (applyLoadDelta _ _).1.inputVoltage = _
  rw [applyLoadDelta_state]; simp

/-- `int(x) ^ 1` for `x ≥ 0` is `0` exactly when `⌊x⌋ = 1`. -/
theorem xor_pyInt_one_eq_zero_iff {x : ℚ} (hx : 0 ≤ x) : Int.xor (pyInt x) 1 = 0 ↔ ⌊x⌋ = 1 := by
  obtain ⟨n, hn⟩ := Int.eq_ofNat_of_zero_le (Int.floor_nonneg.mpr hx)
  rw [pyInt_of_nonneg hx, hn]
  show ((n ^^^ 1 : ℕ) : ℤ) = 0 ↔ (n : ℤ) = 1
  norm_cast
  exact Nat.xor_eq_zero

/-- `int(x) ^ 1` for `x ≥ 0` is `1` exactly when `⌊x⌋ = 0`. -/
theorem xor_pyInt_one_eq_one_iff {x : ℚ} (hx : 0 ≤ x) : Int.xor (pyInt x) 1 = 1 ↔ ⌊x⌋ = 0 := by
  obtain ⟨n, hn⟩ := Int.eq_ofNat_of_zero_le (Int.floor_nonneg.mpr hx)
  rw [pyInt_of_nonneg hx, hn]
  show ((n ^^^ 1 : ℕ) : ℤ) = 1 ↔ (n : ℤ) = 0
  norm_cast
  exact @Nat.xor_left_inj 1 n 0

/-- Powering up from `0` V, the re-set hands the children `0` V and then the new voltage. -/
theorem resetOutVolt_from_zero (st : PowerStatus) (v : ℚ) : resetOutVolt st ⟨0, v⟩ = ⟨0, v⟩ := by
  simp [resetOutVolt, show Int.xor 0 1 = 1 from rfl]

/-- Powering an up asset off to `0` V, the re-set hands the children the old voltage and then
`0` V. -/
theorem resetOutVolt_up_to_zero (v : ℚ) : resetOutVolt .up ⟨v, 0⟩ = ⟨v, 0⟩ := by
  simp [resetOutVolt]

/-- When a sag powers the asset off, the children are shown `0` V only if the sag is to `0` V
or the old voltage lies in `[1, 2)`: `new_out_volt * (int(old_out_volt) ^ 1)` zeroes nothing
else. -/
theorem processParentVoltE_powerOff_outVolt_new (a : Asset) (e : PowerEvent)
    (hup : a.state.status = .up) (hv : e.outVolt.new ≤ a.state.minVoltage)
    (h0 : 0 ≤ e.outVolt.old) :
    (a.processParentVoltE e).2.outVolt.new = 0 ↔ e.outVolt.new = 0 ∨ ⌊e.outVolt.old⌋ = 1 := by
  have hact : powerAction a.state.minVoltage e.outVolt.new a.state.status = some false := by
    simp [powerAction, hup, hv]
  rw [processParentVoltE_outVolt, hact, if_neg (by simp), resetOutVolt]
  simp only [mul_eq_zero, Int.cast_eq_zero, xor_pyInt_one_eq_zero_iff h0]

theorem processParentVoltE_powerOff_sag :
    let a : Asset := ⟨⟨0, "server", 120, 2, .up, 100, 240⟩, .buttonPowerUpPressed⟩
    let e : PowerEvent := ⟨⟨.up, .up⟩, ⟨120, 80⟩, ⟨0, 0⟩⟩
    a.state.status = .up ∧ e.outVolt.new ≤ a.state.minVoltage ∧ 0 ≤ e.outVolt.old ∧
      ((a.processParentVoltE e).2.outVolt.new = 0 ↔ e.outVolt.new = 0 ∨ ⌊e.outVolt.old⌋ = 1) := by
  intro a e
  have hv : e.outVolt.new ≤ a.state.minVoltage := by norm_num [a, e]
  have h0 : 0 ≤ e.outVolt.old := by norm_num [e]
  exact ⟨rfl, hv, h0, processParentVoltE_powerOff_outVolt_new a e rfl hv h0⟩

/-- When a rise powers a down asset up, the children are shown the new voltage only if the old
voltage was below `1` V. -/
theorem processParentVoltE_powerUp_outVolt_new (a : Asset) (e : PowerEvent)
    (hdown : a.state.status = .down) (hv : a.state.minVoltage < e.outVolt.new)
    (hm : 0 ≤ a.state.minVoltage) (h0 : 0 ≤ e.outVolt.old) :
    (a.processParentVoltE e).2.outVolt.new = e.outVolt.new ↔ e.outVolt.old < 1 := by
  have hact : powerAction a.state.minVoltage e.outVolt.new a.state.status = some true := by
    simp [powerAction, hdown, hv]
  have hne : e.outVolt.new ≠ 0 := by linarith
  rw [processParentVoltE_outVolt, hact, if_neg (by simp), resetOutVolt]
  simp only [mul_right_eq_self₀, hne, or_false, Int.cast_eq_one, xor_pyInt_one_eq_one_iff h0,
    Int.floor_eq_zero_iff, Set.mem_Ico, h0, true_and]

theorem processParentVoltE_powerUp_from_zero :
    let a : Asset := ⟨⟨0, "server", 0, 0, .down, 100, 240⟩, .buttonPowerUpPressed⟩
    let e : PowerEvent := ⟨⟨.down, .down⟩, ⟨0, 120⟩, ⟨0, 0⟩⟩
    a.state.status = .down ∧ a.state.minVoltage < e.outVolt.new ∧ 0 ≤ a.state.minVoltage ∧
      0 ≤ e.outVolt.old ∧
      ((a.processParentVoltE e).2.outVolt.new = e.outVolt.new ↔ e.outVolt.old < 1) := by
  intro a e
  have hv : a.state.minVoltage < e.outVolt.new := by norm_num [a, e]
  have hm : 0 ≤ a.state.minVoltage := by norm_num [a]
  have h0 : 0 ≤ e.outVolt.old := le_rfl
  exact ⟨rfl, hv, hm, h0, processParentVoltE_powerUp_outVolt_new a e rfl hv hm h0⟩

/-- The spec's voltage cascade on the code: an asset with `min_voltage` 100 and power
consumption 240, up at 120 V with load 2, sees its voltage drop to 80 V. It goes down and
reports the old load 2, but hands its children `80 * (120 ^ 1) = 9680` V, so the new load it
reports and stores is `240 / 9680 = 3/121` and not `0`. -/
theorem processParentVoltE_sag_to_80 :
    processParentVoltE ⟨⟨0, "server", 120, 2, .up, 100, 240⟩, .buttonPowerUpPressed⟩
        ⟨⟨.up, .up⟩, ⟨120, 80⟩, ⟨0, 0⟩⟩ =
      (⟨⟨0, "server", 120, 3 / 121, .down, 100, 240⟩, .buttonPowerUpPressed⟩,
        ⟨⟨.up, .down⟩, ⟨120, 9680⟩, ⟨2, 3 / 121⟩⟩) := by
  have hx : Int.xor (pyInt 120) 1 = 121 := by rw [pyInt_of_nonneg (by norm_num)]; norm_num; decide
  simp [processParentVoltE, voltTransition, powerAction, applyPowerAction, resetOutVolt, hx,
    applyLoadDelta, calcLoad, AssetState.powerOff, AssetState.updateLoad]
  norm_num

end SimEngine.Asset
