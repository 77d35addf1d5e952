import SimEngine.Asset.State

/-!
# The propagation engine

`Asset` (`asset.py:16-241`) owns one state manager and reacts to a fixed vocabulary of
events. Each handler is a function from the asset to the asset and the value it returns to
the bus; `Asset.handle` runs the handlers an event name is subscribed to, in the order of
their declared priorities.

The central one is `processParentVoltE` (`_process_parent_volt_e`, `asset.py:163-203`): it
decides a power transition from the new output voltage, re-sets the voltages it hands to the
children when the status changes, and applies the difference of the two computed loads to the
stored load. The re-set is translated as written, `new_out_volt * (int(old_out_volt) ^ 1)`
included.
-/

namespace SimEngine

/-- An `Asset` component (`asset.py:16-26`): the state manager it owns and `_state_reason`. -/
structure Asset where
  state : AssetState
  stateReason : EventName
  deriving DecidableEq

namespace Asset

/-- `Asset.__init__` (`asset.py:19-26`): stores zero input voltage and zero load and records
`ButtonPowerUpPressed` as the reason of the power state. -/
def init (state : AssetState) : Asset :=
  ⟨(state.updateInputVoltage 0).updateLoad 0, .buttonPowerUpPressed⟩

/-- `power_state_caused_by_user` (`asset.py:52-58`). -/
def powerStateCausedByUser (a : Asset) : Bool :=
  a.stateReason = .buttonPowerDownPressed || a.stateReason = .buttonPowerUpPressed

/-- The `PowerEventResult` of a direct transition from `a` to the state `s'`. -/
def powerResult (a : Asset) (s' : AssetState) : PowerEventResult :=
  { assetKey := a.state.key, assetType := a.state.assetType, oldState := a.state.status,
    newState := s'.status }

/-- `power_up` (`asset.py:60-72`). -/
def powerUp (a : Asset) : Asset × PowerEventResult :=
  ({ a with state := a.state.powerUp }, a.powerResult a.state.powerUp)

/-- `shut_down` (`asset.py:74-86`). -/
def shutDown (a : Asset) : Asset × PowerEventResult :=
  ({ a with state := a.state.shutDown }, a.powerResult a.state.shutDown)

/-- `power_off` (`asset.py:88-99`). -/
def powerOff (a : Asset) : Asset × PowerEventResult :=
  ({ a with state := a.state.powerOff }, a.powerResult a.state.powerOff)

/-- `_update_load` (`asset.py:101-122`): the new load is `arithmetic_op(old_load,
load_change)`. -/
def updateLoad (a : Asset) (loadChange : ℚ) (arithmeticOp : ℚ → ℚ → ℚ) :
    Asset × LoadEventResult :=
  let newLoad := arithmeticOp a.state.load loadChange
  ({ a with state := a.state.updateLoad newLoad },
    { assetKey := a.state.key, oldLoad := a.state.load, newLoad := newLoad })

/-- `on_load_increase` (`asset.py:124-132`), for `ChildAssetLoadIncreased` and
`ChildAssetPowerUp`. -/
def onLoadIncrease (a : Asset) (childLoad : ℚ) : Asset × LoadEventResult :=
  a.updateLoad childLoad (fun old change => old + change)

/-- `on_load_decrease` (`asset.py:134-142`), for `ChildAssetLoadDecreased` and
`ChildAssetPowerDown`. -/
def onLoadDecrease (a : Asset) (childLoad : ℚ) : Asset × LoadEventResult :=
  a.updateLoad childLoad (fun old change => old - change)

/-- `on_child_load_update` (`asset.py:144-151`): `next` is the event `get_next_load_event`
builds for the children, `difference` the inbound event's `load.difference`. -/
def onChildLoadUpdate (a : Asset) (difference : ℚ) (next : LoadEvent) : Asset × LoadEvent :=
  let newLoad := next.load.old + difference
  ({ a with state := a.state.updateLoad newLoad }, { next with load.new := newLoad })

/-- `on_btn_power_down` (`asset.py:153-156`). -/
def onBtnPowerDown (a : Asset) : Asset := { a with stateReason := .buttonPowerDownPressed }

/-- `on_btn_power_up` (`asset.py:158-161`). -/
def onBtnPowerUp (a : Asset) : Asset := { a with stateReason := .buttonPowerUpPressed }

/-- `calc_load` (`asset.py:168`): `power_consumption / v if v else 0`. -/
def calcLoad (powerConsumption v : ℚ) : ℚ := if v = 0 then 0 else powerConsumption / v

/-- The transition `_process_parent_volt_e` picks (`asset.py:178-183`): `some true` is
`power_up`, `some false` is `power_off`, `none` leaves the status. -/
def powerAction (minVoltage newOutVolt : ℚ) : PowerStatus → Option Bool
  | .up => if newOutVolt ≤ minVoltage then some false else none
  | .down => if minVoltage < newOutVolt then some true else none

/-- The state a power action leaves. -/
def applyPowerAction (s : AssetState) : Bool → AssetState
  | true => s.powerUp
  | false => s.powerOff

/-- The output voltages handed to the children after a power action (`asset.py:190-191`):
`old_out_volt * state.old` and `new_out_volt * (int(old_out_volt) ^ 1)`. -/
def resetOutVolt (oldState : PowerStatus) (outVolt : Change ℚ) : Change ℚ :=
  ⟨outVolt.old * oldState.toRat, outVolt.new * (Int.xor (pyInt outVolt.old) 1 : ℤ)⟩

/-- Applying the load difference (`asset.py:198-201`): the event records both loads, and the
stored load moves by their difference when they differ. -/
def applyLoadDelta (s : AssetState) (event : PowerEvent) : AssetState × PowerEvent :=
  let oldLoad := calcLoad s.powerConsumption event.outVolt.old
  let newLoad := calcLoad s.powerConsumption event.outVolt.new
  (if newLoad ≠ oldLoad then s.updateLoad (s.load - oldLoad + newLoad) else s,
    { event with load := ⟨oldLoad, newLoad⟩ })

/-- The power transition of `_process_parent_volt_e` (`asset.py:170-191`): the event records
the old status and, when the status changes, the new status and the re-set output voltages. -/
def voltTransition (s : AssetState) (event : PowerEvent) : AssetState × PowerEvent :=
  let event := { event with state.old := s.status }
  match powerAction s.minVoltage event.outVolt.new s.status with
  | none => (s, event)
  | some act =>
    let s' := applyPowerAction s act
    (s', { event with state.new := s'.status, outVolt := resetOutVolt s.status event.outVolt })

/-- `_process_parent_volt_e` (`asset.py:163-203`). `event` is what `get_next_power_event`
builds for the children; its `out_volt` is the old and the new voltage. -/
def processParentVoltE (a : Asset) (event : PowerEvent) : Asset × PowerEvent :=
  let t := voltTransition a.state event
  let r := applyLoadDelta t.1 t.2
  ({ a with state := r.1 }, r.2)

/-- `detect_input_voltage` (`asset.py:205-213`): commits the new input voltage. -/
def detectInputVoltage (a : Asset) (newInVolt : ℚ) : Asset :=
  { a with state := a.state.updateInputVoltage newInVolt }

/-- `on_parent_volt_up` (`asset.py:215-220`). -/
def onParentVoltUp (a : Asset) (event : PowerEvent) : Asset × PowerEvent :=
  a.processParentVoltE event

/-- `on_parent_volt_down` (`asset.py:222-227`). -/
def onParentVoltDown (a : Asset) (event : PowerEvent) : Asset × PowerEvent :=
  a.processParentVoltE event

end Asset

/-- An event delivered to an asset, with the payload its handlers read: the `child_load` and
`new_in_volt` keyword arguments, the inbound load event's `difference`, and the event that
`get_next_load_event` or `get_next_power_event` builds for the children. -/
inductive AssetEvent where
  | childAssetLoadIncreased (childLoad : ℚ)
  | childAssetPowerUp (childLoad : ℚ)
  | childAssetLoadDecreased (childLoad : ℚ)
  | childAssetPowerDown (childLoad : ℚ)
  | childLoadUpEvent (difference : ℚ) (next : LoadEvent)
  | childLoadDownEvent (difference : ℚ) (next : LoadEvent)
  | buttonPowerDownPressed
  | buttonPowerUpPressed
  | inputVoltageUpEvent (newInVolt : ℚ) (next : PowerEvent)
  | inputVoltageDownEvent (newInVolt : ℚ) (next : PowerEvent)

/-- What a handler returns to the bus. -/
inductive HandlerResult where
  | loadResult (r : LoadEventResult)
  | loadEvent (e : LoadEvent)
  | powerEvent (e : PowerEvent)
  | none
  deriving DecidableEq

namespace Asset

/-- The bus delivering one event to an asset (`@handler` declarations, `asset.py:124-227`):
the handlers subscribed to the event's name run in order of decreasing priority, each on the
asset the previous one left. A voltage event runs `on_parent_volt_up` or
`on_parent_volt_down` (priority `0`) before `detect_input_voltage` (priority `-1`). -/
def handle (a : Asset) : AssetEvent → Asset × List HandlerResult
  | .childAssetLoadIncreased x | .childAssetPowerUp x =>
    let (a, r) := a.onLoadIncrease x
    (a, [.loadResult r])
  | .childAssetLoadDecreased x | .childAssetPowerDown x =>
    let (a, r) := a.onLoadDecrease x
    (a, [.loadResult r])
  | .childLoadUpEvent d next | .childLoadDownEvent d next =>
    let (a, e) := a.onChildLoadUpdate d next
    (a, [.loadEvent e])
  | .buttonPowerDownPressed => (a.onBtnPowerDown, [.none])
  | .buttonPowerUpPressed => (a.onBtnPowerUp, [.none])
  | .inputVoltageUpEvent v next =>
    let (a, e) := a.onParentVoltUp next
    (a.detectInputVoltage v, [.powerEvent e, .none])
  | .inputVoltageDownEvent v next =>
    let (a, e) := a.onParentVoltDown next
    (a.detectInputVoltage v, [.powerEvent e, .none])

/-! The asset each event leaves, one lemma per event. -/

@[simp] theorem handle_childAssetLoadIncreased (a : Asset) (x : ℚ) :
    (a.handle (.childAssetLoadIncreased x)).1 =
      { a with state := a.state.updateLoad (a.state.load + x) } := rfl

@[simp] theorem handle_childAssetPowerUp (a : Asset) (x : ℚ) :
    (a.handle (.childAssetPowerUp x)).1 =
      { a with state := a.state.updateLoad (a.state.load + x) } := rfl

@[simp] theorem handle_childAssetLoadDecreased (a : Asset) (x : ℚ) :
    (a.handle (.childAssetLoadDecreased x)).1 =
      { a with state := a.state.updateLoad (a.state.load - x) } := rfl

@[simp] theorem handle_childAssetPowerDown (a : Asset) (x : ℚ) :
    (a.handle (.childAssetPowerDown x)).1 =
      { a with state := a.state.updateLoad (a.state.load - x) } := rfl

@[simp] theorem handle_childLoadUpEvent (a : Asset) (d : ℚ) (next : LoadEvent) :
    (a.handle (.childLoadUpEvent d next)).1 =
      { a with state := a.state.updateLoad (next.load.old + d) } := rfl

@[simp] theorem handle_childLoadDownEvent (a : Asset) (d : ℚ) (next : LoadEvent) :
    (a.handle (.childLoadDownEvent d next)).1 =
      { a with state := a.state.updateLoad (next.load.old + d) } := rfl

@[simp] theorem handle_buttonPowerDownPressed (a : Asset) :
    (a.handle .buttonPowerDownPressed).1 = { a with stateReason := .buttonPowerDownPressed } := rfl

@[simp] theorem handle_buttonPowerUpPressed (a : Asset) :
    (a.handle .buttonPowerUpPressed).1 = { a with stateReason := .buttonPowerUpPressed } := rfl

@[simp] theorem handle_inputVoltageUpEvent (a : Asset) (v : ℚ) (next : PowerEvent) :
    (a.handle (.inputVoltageUpEvent v next)).1 = (a.processParentVoltE next).1.detectInputVoltage v :=
  rfl

@[simp] theorem handle_inputVoltageDownEvent (a : Asset) (v : ℚ) (next : PowerEvent) :
    (a.handle (.inputVoltageDownEvent v next)).1 =
      (a.processParentVoltE next).1.detectInputVoltage v := rfl

end Asset

end SimEngine
