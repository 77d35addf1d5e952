import SimEngine.Python

/-!
# Asset state and the event vocabulary

An `Asset` (`asset.py`) owns a state manager and exchanges immutable results and cascading
events with the bus. Neither the state manager (`enginecore.state.state_managers`) nor the
modules `event_results` and `asset_events` are among the sources: what `asset.py` reads and
writes of them is modelled here from the specification, field by field, and nothing more.
Voltages, loads and power consumption are exact rationals.
-/

namespace SimEngine

/-- An asset's power status: the state manager's `status`, `1` when up and `0` when down. -/
inductive PowerStatus where
  | down
  | up
  deriving DecidableEq, Repr

/-- The status as the number Python computes with (`old_out_volt * asset_event.state.old`,
`asset.py:190`). -/
def PowerStatus.toRat : PowerStatus → ℚ
  | .down => 0
  | .up => 1

@[simp] theorem PowerStatus.toRat_down : PowerStatus.down.toRat = 0 := rfl
@[simp] theorem PowerStatus.toRat_up : PowerStatus.up.toRat = 1 := rfl

/-- Modelled from the spec: the state manager an asset owns (`AssetState`, spec §3), with
the fields `asset.py` reads or writes. `minVoltage` is `min_voltage_prop()` and
`powerConsumption` is `power_consumption`, both static per asset type. -/
structure AssetState where
  key : Nat
  assetType : String
  inputVoltage : ℚ
  load : ℚ
  status : PowerStatus
  minVoltage : ℚ
  powerConsumption : ℚ
  deriving DecidableEq

namespace AssetState

/-- Modelled from the spec: `update_input_voltage(v)` stores `v`. -/
def updateInputVoltage (s : AssetState) (v : ℚ) : AssetState := { s with inputVoltage := v }

/-- Modelled from the spec: `update_load(l)` stores `l`. -/
def updateLoad (s : AssetState) (l : ℚ) : AssetState := { s with load := l }

/-- Modelled from the spec: `power_up()` sets the status to up, unconditionally, and returns
the new status (spec §4.2). -/
def powerUp (s : AssetState) : AssetState := { s with status := .up }

/-- Modelled from the spec: `power_off()` sets the status to down, unconditionally. -/
def powerOff (s : AssetState) : AssetState := { s with status := .down }

/-- Modelled from the spec: `shut_down()` has `power_off()`'s contract; the two differ only
in what downstream logging makes of them. -/
def shutDown (s : AssetState) : AssetState := { s with status := .down }

@[simp] theorem updateLoad_load (s : AssetState) (l : ℚ) : (s.updateLoad l).load = l := rfl
@[simp] theorem updateLoad_status (s : AssetState) (l : ℚ) :
    (s.updateLoad l).status = s.status := rfl
@[simp] theorem updateLoad_inputVoltage (s : AssetState) (l : ℚ) :
    (s.updateLoad l).inputVoltage = s.inputVoltage := rfl
@[simp] theorem updateLoad_minVoltage (s : AssetState) (l : ℚ) :
    (s.updateLoad l).minVoltage = s.minVoltage := rfl
@[simp] theorem updateLoad_powerConsumption (s : AssetState) (l : ℚ) :
    (s.updateLoad l).powerConsumption = s.powerConsumption := rfl
@[simp] theorem updateInputVoltage_inputVoltage (s : AssetState) (v : ℚ) :
    (s.updateInputVoltage v).inputVoltage = v := rfl
@[simp] theorem updateInputVoltage_load (s : AssetState) (v : ℚ) :
    (s.updateInputVoltage v).load = s.load := rfl
@[simp] theorem updateInputVoltage_status (s : AssetState) (v : ℚ) :
    (s.updateInputVoltage v).status = s.status := rfl
@[simp] theorem updateInputVoltage_minVoltage (s : AssetState) (v : ℚ) :
    (s.updateInputVoltage v).minVoltage = s.minVoltage := rfl
@[simp] theorem updateInputVoltage_powerConsumption (s : AssetState) (v : ℚ) :
    (s.updateInputVoltage v).powerConsumption = s.powerConsumption := rfl
@[simp] theorem powerUp_status (s : AssetState) : s.powerUp.status = .up := rfl
@[simp] theorem powerUp_load (s : AssetState) : s.powerUp.load = s.load := rfl
@[simp] theorem powerUp_inputVoltage (s : AssetState) : s.powerUp.inputVoltage = s.inputVoltage :=
  rfl
@[simp] theorem powerUp_minVoltage (s : AssetState) : s.powerUp.minVoltage = s.minVoltage := rfl
@[simp] theorem powerUp_powerConsumption (s : AssetState) :
    s.powerUp.powerConsumption = s.powerConsumption := rfl
@[simp] theorem powerOff_status (s : AssetState) : s.powerOff.status = .down := rfl
@[simp] theorem powerOff_load (s : AssetState) : s.powerOff.load = s.load := rfl
@[simp] theorem powerOff_inputVoltage (s : AssetState) :
    s.powerOff.inputVoltage = s.inputVoltage := rfl
@[simp] theorem powerOff_minVoltage (s : AssetState) : s.powerOff.minVoltage = s.minVoltage := rfl
@[simp] theorem powerOff_powerConsumption (s : AssetState) :
    s.powerOff.powerConsumption = s.powerConsumption := rfl

end AssetState

/-- An old/new pair of a quantity in flux, as results and cascading events carry it. -/
structure Change (α : Type) where
  old : α
  new : α
  deriving DecidableEq, Repr

/-- Modelled from the spec: `PowerEventResult` (spec §3), the result of every direct power
transition; `load_change` defaults to `0`. -/
structure PowerEventResult where
  assetKey : Nat
  assetType : String
  oldState : PowerStatus
  newState : PowerStatus
  loadChange : ℚ := 0
  deriving DecidableEq

/-- Modelled from the spec: `LoadEventResult` (spec §3), the result of a load-only change. -/
structure LoadEventResult where
  assetKey : Nat
  oldLoad : ℚ
  newLoad : ℚ
  deriving DecidableEq

/-- Modelled from the spec: the cascading power event `get_next_power_event` builds for an
asset's children (spec §3): power state, output voltage and load, each old and new. -/
structure PowerEvent where
  state : Change PowerStatus
  outVolt : Change ℚ
  load : Change ℚ
  deriving DecidableEq

/-- Modelled from the spec: the cascading load event `get_next_load_event` builds for an
asset's children: the load, old and new. -/
structure LoadEvent where
  load : Change ℚ
  deriving DecidableEq

/-- The names of the events an asset subscribes to or records as the reason of its power
state (`asset_events`). -/
inductive EventName where
  | childAssetLoadIncreased
  | childAssetPowerUp
  | childAssetLoadDecreased
  | childAssetPowerDown
  | childLoadUpEvent
  | childLoadDownEvent
  | buttonPowerDownPressed
  | buttonPowerUpPressed
  | inputVoltageUpEvent
  | inputVoltageDownEvent
  deriving DecidableEq, Repr

end SimEngine
