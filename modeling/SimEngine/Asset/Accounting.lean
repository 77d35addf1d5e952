import SimEngine.Asset.Voltage

/-!
# Load accounting over runs

An asset's stored load accumulates the contributions of its children, announced by load
events, and its own draw, recomputed by voltage events as a difference of two loads. The
specification's accounting for it is `Ledger`: the status, the input voltage and the net load
the children announced, the load being the asset's own draw (nothing when down) plus that net
load. A run delivers `Stimulus`es; for voltage events the bus presents the voltage of the
previous voltage event as the old one, which is the input voltage `detect_input_voltage`
committed.

The old voltage is the committed one only because of the declared priorities: the voltage
handler runs before `detect_input_voltage`. `step_handler_priority` shows that the order
decides the load, against `stepDetectFirst`, the step with the two swapped.

`run_simulates` is the refinement: on every run whose voltages are each `0` or above
`min_voltage` (power present or absent, no sag in between), the asset's status, input voltage
and load are the ledger's after every step. `run_accounting_sag` shows that a sag breaks it.
-/

namespace SimEngine

/-- What the bus delivers to an asset in a run: a voltage event at a new voltage `v`, built
from `next` (the rest of what `get_next_power_event` returns) with the previous voltage as
`out_volt.old`, or a child's load change. -/
inductive Stimulus where
  | inputVoltageUp (v : ℚ) (next : PowerEvent)
  | inputVoltageDown (v : ℚ) (next : PowerEvent)
  | childAssetLoadIncreased (x : ℚ)
  | childAssetPowerUp (x : ℚ)
  | childAssetLoadDecreased (x : ℚ)
  | childAssetPowerDown (x : ℚ)

namespace Stimulus

/-- The event the bus builds from a stimulus for the asset `a`. -/
def toEvent (a : Asset) : Stimulus → AssetEvent
  | inputVoltageUp v next =>
    .inputVoltageUpEvent v { next with outVolt := ⟨a.state.inputVoltage, v⟩ }
  | inputVoltageDown v next =>
    .inputVoltageDownEvent v { next with outVolt := ⟨a.state.inputVoltage, v⟩ }
  | childAssetLoadIncreased x => .childAssetLoadIncreased x
  | childAssetPowerUp x => .childAssetPowerUp x
  | childAssetLoadDecreased x => .childAssetLoadDecreased x
  | childAssetPowerDown x => .childAssetPowerDown x

/-- The net load a stimulus announces from a child. -/
def childLoad : Stimulus → ℚ
  | childAssetLoadIncreased x | childAssetPowerUp x => x
  | childAssetLoadDecreased x | childAssetPowerDown x => -x
  | inputVoltageUp .. | inputVoltageDown .. => 0

/-- The new voltage of a voltage stimulus. -/
def voltage? : Stimulus → Option ℚ
  | inputVoltageUp v _ | inputVoltageDown v _ => some v
  | _ => none

theorem childLoad_of_voltage {σ : Stimulus} {v : ℚ} (h : σ.voltage? = some v) :
    σ.childLoad = 0 := by
  cases σ <;> simp_all [voltage?, childLoad]

/-- A voltage at or below which no power is delivered, `0`, or one above `min_voltage`. -/
def Clean (m : ℚ) (σ : Stimulus) : Prop := ∀ v, σ.voltage? = some v → v = 0 ∨ m < v

end Stimulus

namespace Asset

/-- One step of a run: the asset handles the event built from the stimulus. -/
def step (a : Asset) (σ : Stimulus) : Asset := (a.handle (σ.toEvent a)).1

/-- A run. -/
def run (a : Asset) (σs : List Stimulus) : Asset := σs.foldl step a

/-- The load an asset draws itself: `power_consumption / v` at its input voltage when up,
nothing when down. -/
def ownLoad (s : AssetState) : ℚ :=
  if s.status = .up then calcLoad s.powerConsumption s.inputVoltage else 0

end Asset

/-- The specification's accounting of one asset's load. -/
structure Ledger where
  status : PowerStatus
  voltage : ℚ
  children : ℚ

namespace Ledger

/-- The load the asset should carry: its own draw plus the net load of its children. -/
def load (powerConsumption : ℚ) (l : Ledger) : ℚ :=
  (if l.status = .up then Asset.calcLoad powerConsumption l.voltage else 0) + l.children

/-- The specification's step: a voltage event sets the status by the threshold and the
voltage; a child's load change moves the children's net load. -/
def step (minVoltage : ℚ) (l : Ledger) (σ : Stimulus) : Ledger :=
  match σ.voltage? with
  | some v => { l with status := if minVoltage < v then .up else .down, voltage := v }
  | none => { l with children := l.children + σ.childLoad }

/-- The ledger after a run. -/
def run (minVoltage : ℚ) (l : Ledger) (σs : List Stimulus) : Ledger := σs.foldl (step minVoltage) l

/-- The ledger states a run with only clean voltages reaches: voltage `0` or above the
threshold, and `0` whenever the asset is down. -/
structure Clean (minVoltage : ℚ) (l : Ledger) : Prop where
  voltage : l.voltage = 0 ∨ minVoltage < l.voltage
  down : l.status = .down → l.voltage = 0

theorem run_children (m : ℚ) (σs : List Stimulus) :
    ∀ l : Ledger, (l.run m σs).children = l.children + (σs.map Stimulus.childLoad).sum := by
  induction σs with
  | nil => simp [run]
  | cons σ σs ih =>
    intro l
    simp only [run, List.foldl_cons, List.map_cons, List.sum_cons] at ih ⊢
    rw [ih]
    cases h : σ.voltage? with
    | none => simp [step, h, add_assoc]
    | some v => simp [step, h, Stimulus.childLoad_of_voltage h]

end Ledger

namespace Asset

/-- The asset's state is the ledger's: same status, same input voltage, and the stored load is
the ledger's load. -/
def Simulates (a : Asset) (l : Ledger) : Prop :=
  a.state.status = l.status ∧ a.state.inputVoltage = l.voltage ∧
    a.state.load = l.load a.state.powerConsumption

theorem step_voltage (a : Asset) (σ : Stimulus) {v : ℚ} (h : σ.voltage? = some v) :
    ∃ next : PowerEvent, step a σ =
      (a.processParentVoltE { next with outVolt := ⟨a.state.inputVoltage, v⟩ }).1.detectInputVoltage v := by
  cases σ <;> simp only [Stimulus.voltage?, Option.some.injEq, reduceCtorEq] at h <;> subst h <;>
    exact ⟨_, rfl⟩

theorem step_childLoad (a : Asset) (σ : Stimulus) (h : σ.voltage? = none) :
    step a σ = { a with state := a.state.updateLoad (a.state.load + σ.childLoad) } := by
  cases σ <;> simp only [Stimulus.voltage?, reduceCtorEq] at h <;>
    simp [step, Stimulus.toEvent, Stimulus.childLoad, sub_eq_add_neg]

@[simp] theorem step_minVoltage (a : Asset) (σ : Stimulus) :
    (step a σ).state.minVoltage = a.state.minVoltage := by
  cases h : σ.voltage? with
  | none => rw [step_childLoad a σ h]; rfl
  | some v => obtain ⟨_, hs⟩ := step_voltage a σ h; rw [hs]; simp [detectInputVoltage]

@[simp] theorem step_powerConsumption (a : Asset) (σ : Stimulus) :
    (step a σ).state.powerConsumption = a.state.powerConsumption := by
  cases h : σ.voltage? with
  | none => rw [step_childLoad a σ h]; rfl
  | some v => obtain ⟨_, hs⟩ := step_voltage a σ h; rw [hs]; simp [detectInputVoltage]

@[simp] theorem detectInputVoltage_state (a : Asset) (v : ℚ) :
    (a.detectInputVoltage v).state = a.state.updateInputVoltage v := rfl

/-- On a clean voltage event the asset's own draw is exchanged for the draw at the new voltage,
and nothing else of the stored load moves. -/
theorem processParentVoltE_clean_load (a : Asset) (next : PowerEvent) {v : ℚ}
    (hm : 0 ≤ a.state.minVoltage) (hv : v = 0 ∨ a.state.minVoltage < v)
    (hdown : a.state.status = .down → a.state.inputVoltage = 0) :
    (a.processParentVoltE { next with outVolt := ⟨a.state.inputVoltage, v⟩ }).1.state.load =
      a.state.load - ownLoad a.state +
        (if a.state.minVoltage < v then calcLoad a.state.powerConsumption v else 0) := by
  rw [processParentVoltE_stored_load, processParentVoltE_event_load, processParentVoltE_outVolt]
  cases hs : a.state.status <;> by_cases hmv : a.state.minVoltage < v
  · -- down, rising above the threshold: powered up from `0` V
    simp [ownLoad, hs, hmv, powerAction, hdown hs, resetOutVolt_from_zero, calcLoad]
  · -- down, staying at `0` V
    simp [ownLoad, hs, hmv, powerAction, hdown hs, hv.resolve_right hmv, hm, calcLoad]
  · -- up, staying above the threshold
    simp [ownLoad, hs, hmv, powerAction, not_le.mpr hmv]
  · -- up, power gone: powered off to `0` V
    simp [ownLoad, hs, hmv, powerAction, hv.resolve_right hmv, hm, resetOutVolt_up_to_zero,
      calcLoad]

/-- One step keeps the asset in step with the ledger, as long as the voltage is clean. -/
theorem step_simulates {a : Asset} {l : Ledger} {σ : Stimulus} (hm : 0 ≤ a.state.minVoltage)
    (hsim : a.Simulates l) (hl : l.Clean a.state.minVoltage) (hσ : σ.Clean a.state.minVoltage) :
    (step a σ).Simulates (l.step a.state.minVoltage σ) ∧
      (l.step a.state.minVoltage σ).Clean a.state.minVoltage := by
  obtain ⟨hst, hvolt, hload⟩ := hsim
  cases h : σ.voltage? with
  | none =>
    rw [step_childLoad a σ h]
    simp only [Ledger.step, h]
    refine ⟨⟨hst, hvolt, ?_⟩, ⟨hl.voltage, hl.down⟩⟩
    simp only [AssetState.updateLoad_load, AssetState.updateLoad_powerConsumption, hload,
      Ledger.load]
    ring
  | some v =>
    obtain ⟨next, hs⟩ := step_voltage a σ h
    have hv := hσ v h
    rw [hs]
    simp only [Ledger.step, h]
    refine ⟨⟨by simp [processParentVoltE_status, hst], rfl, ?_⟩, ⟨hv, fun hd => ?_⟩⟩
    · simp only [detectInputVoltage_state, AssetState.updateInputVoltage_load,
        AssetState.updateInputVoltage_powerConsumption, processParentVoltE_powerConsumption]
      rw [processParentVoltE_clean_load a next hm hv (fun hd => hvolt ▸ hl.down (hst ▸ hd)),
        hload, ownLoad, hst, hvolt, Ledger.load, Ledger.load]
      split_ifs <;> simp_all [add_comm]
    · split_ifs at hd with hmv
      exact hv.resolve_right hmv

/-- Every run whose voltages are clean keeps the asset in step with the ledger. -/
theorem run_simulates (σs : List Stimulus) :
    ∀ (a : Asset) (l : Ledger), 0 ≤ a.state.minVoltage → a.Simulates l →
      l.Clean a.state.minVoltage → (∀ σ ∈ σs, σ.Clean a.state.minVoltage) →
      (run a σs).Simulates (l.run a.state.minVoltage σs) ∧
        (l.run a.state.minVoltage σs).Clean a.state.minVoltage := by
  induction σs with
  | nil => exact fun _ _ _ hsim hl _ => ⟨hsim, hl⟩
  | cons σ σs ih =>
    intro a l hm hsim hl hσs
    obtain ⟨hsim', hl'⟩ := step_simulates hm hsim hl (hσs σ (List.mem_cons_self _ _))
    have h := ih (step a σ) _ (by simpa using hm) hsim' (by simpa using hl')
      (fun τ hτ => by simpa using hσs τ (List.mem_cons_of_mem _ hτ))
    simpa [run, Ledger.run] using h

@[simp] theorem run_powerConsumption (a : Asset) (σs : List Stimulus) :
    (run a σs).state.powerConsumption = a.state.powerConsumption := by
  induction σs generalizing a with
  | nil => rfl
  | cons σ σs ih => exact (ih (step a σ)).trans (step_powerConsumption a σ)

@[simp] theorem init_powerConsumption (s : AssetState) :
    (init s).state.powerConsumption = s.powerConsumption := rfl

/-- A fresh asset is in step with the ledger of its status at `0` V with no child load. -/
theorem init_simulates (s : AssetState) :
    (init s).Simulates ⟨s.status, 0, 0⟩ ∧ Ledger.Clean s.minVoltage ⟨s.status, 0, 0⟩ :=
  ⟨⟨rfl, rfl, by simp [init, Ledger.load, calcLoad]⟩, ⟨Or.inl rfl, fun _ => rfl⟩⟩

/-- A fresh asset fed any run of clean voltages and child load changes carries, after every
step, its own draw plus the net load its children announced: nothing of a child's
contribution is lost across a power transition, and a down asset carries only its children's
load. So the load is never negative while the children's net load is not, for a power
consumption that is not negative. -/
theorem run_init_load (s : AssetState) (σs : List Stimulus) (hm : 0 ≤ s.minVoltage)
    (hσs : ∀ σ ∈ σs, σ.Clean s.minVoltage) :
    (run (init s) σs).state.load =
        ownLoad (run (init s) σs).state + (σs.map Stimulus.childLoad).sum ∧
      (0 ≤ s.powerConsumption → 0 ≤ (σs.map Stimulus.childLoad).sum →
        0 ≤ (run (init s) σs).state.load) := by
  obtain ⟨⟨hst, hvolt, hload⟩, hclean⟩ :=
    run_simulates σs (init s) _ hm (init_simulates s).1 (init_simulates s).2 hσs
  have hL : (run (init s) σs).state.load =
      ownLoad (run (init s) σs).state + (σs.map Stimulus.childLoad).sum := by
    rw [hload, Ledger.load, Ledger.run_children, ownLoad, hst, hvolt]
    simp
  refine ⟨hL, fun hP hD => ?_⟩
  have hv : 0 ≤ (run (init s) σs).state.inputVoltage := by
    rw [hvolt]; rcases hclean.voltage with h | h <;> [simp [h]; exact hm.trans h.le]
  have hown : 0 ≤ ownLoad (run (init s) σs).state := by
    unfold ownLoad calcLoad
    split_ifs <;> first | exact le_rfl | exact div_nonneg (by simpa) hv
  rw [hL]
  exact add_nonneg hown hD

theorem run_init_load_restart :
    let s : AssetState := ⟨0, "server", 0, 0, .down, 100, 240⟩
    let e : PowerEvent := ⟨⟨.down, .down⟩, ⟨0, 0⟩, ⟨0, 0⟩⟩
    let σs : List Stimulus := [.inputVoltageUp 120 e, .childAssetPowerUp 3,
      .inputVoltageDown 0 e, .inputVoltageUp 120 e]
    0 ≤ s.minVoltage ∧ (∀ σ ∈ σs, σ.Clean s.minVoltage) ∧
      0 ≤ s.powerConsumption ∧ 0 ≤ (σs.map Stimulus.childLoad).sum ∧
      (run (init s) σs).state.load =
        ownLoad (run (init s) σs).state + (σs.map Stimulus.childLoad).sum ∧
      0 ≤ (run (init s) σs).state.load := by
  intro s e σs
  have hm : 0 ≤ s.minVoltage := by norm_num [s]
  have hσs : ∀ σ ∈ σs, σ.Clean s.minVoltage := by
    simp [σs, s, Stimulus.Clean, Stimulus.voltage?]; norm_num
  have hP : 0 ≤ s.powerConsumption := by norm_num [s]
  have hD : 0 ≤ (σs.map Stimulus.childLoad).sum := by norm_num [σs, Stimulus.childLoad]
  exact ⟨hm, hσs, hP, hD, (run_init_load s σs hm hσs).1, (run_init_load s σs hm hσs).2 hP hD⟩

/-- Two runs of a fresh down asset with `min_voltage` 100 and power consumption 240 and no
child load, each ending down: after a rise to 120 V and a sag to 80 V the stored load is
`3/121`, and after a rise to 50 V alone it is `24/5`. -/
theorem run_accounting_sag :
    let s : AssetState := ⟨0, "server", 0, 0, .down, 100, 240⟩
    let e : PowerEvent := ⟨⟨.down, .down⟩, ⟨0, 0⟩, ⟨0, 0⟩⟩
    (run (init s) [.inputVoltageUp 120 e, .inputVoltageDown 80 e]).state =
        ⟨0, "server", 80, 3 / 121, .down, 100, 240⟩ ∧
      (run (init s) [.inputVoltageUp 50 e]).state = ⟨0, "server", 50, 24 / 5, .down, 100, 240⟩ := by
  have hx : Int.xor (pyInt 120) 1 = 121 := by rw [pyInt_of_nonneg (by norm_num)]; norm_num; decide
  have hx0 : Int.xor 0 1 = 1 := rfl
  simp [run, step, Stimulus.toEvent, init, processParentVoltE, voltTransition, powerAction,
    applyPowerAction, resetOutVolt, hx, hx0, applyLoadDelta, calcLoad, AssetState.powerOff,
    AssetState.powerUp, AssetState.updateLoad, AssetState.updateInputVoltage, detectInputVoltage]
  norm_num

end Asset

end SimEngine
