import SimEngine.Asset.Voltage

/-!
# Runs of events

The bus may deliver any of the events an asset subscribes to, in any order (`asset.py:124-227`).
Over every such run, each of the asset's power status, input voltage and state reason is set by
one kind of event alone, and the last event of that kind decides it: the status and the input
voltage by the last voltage event (`handleAll_voltage`), the reason by the last button press.
Load events and button presses never move the power status.

The reason is only ever a button press: `_state_reason` starts as `ButtonPowerUpPressed`
(`asset.py:22`) and the two button handlers are the only ones to write it (`asset.py:156`,
`161`), so `power_state_caused_by_user` answers `True` after every run, a loss of input power
that powered the asset off included (`handleAll_init_powerStateCausedByUser`).
-/

namespace SimEngine

namespace AssetEvent

/-- The new input voltage and the next power event of a voltage event. -/
def voltage? : AssetEvent → Option (ℚ × PowerEvent)
  | inputVoltageUpEvent v next | inputVoltageDownEvent v next => some (v, next)
  | _ => none

/-- The reason a button press records. -/
def reason? : AssetEvent → Option EventName
  | buttonPowerDownPressed => some .buttonPowerDownPressed
  | buttonPowerUpPressed => some .buttonPowerUpPressed
  | _ => none

/-- The signed load a child's load change announces. -/
def childLoad? : AssetEvent → Option ℚ
  | childAssetLoadIncreased x | childAssetPowerUp x => some x
  | childAssetLoadDecreased x | childAssetPowerDown x => some (-x)
  | _ => none

/-- A cascading load event, which sets the load from the event `get_next_load_event` builds. -/
def isCascade : AssetEvent → Bool
  | childLoadUpEvent .. | childLoadDownEvent .. => true
  | _ => false

end AssetEvent

namespace Asset

/-- The asset after the bus delivers `evs`, one after another. -/
def handleAll (a : Asset) (evs : List AssetEvent) : Asset := evs.foldl (fun a e => (a.handle e).1) a

@[simp] theorem handleAll_nil (a : Asset) : a.handleAll [] = a := rfl

@[simp] theorem handleAll_cons (a : Asset) (e : AssetEvent) (evs : List AssetEvent) :
    a.handleAll (e :: evs) = (a.handle e).1.handleAll evs := rfl

/-! ### One event -/

/-- The status after a voltage event, decided by the threshold alone. -/
def voltStatus (minVoltage : ℚ) (next : PowerEvent) : PowerStatus :=
  if minVoltage < next.outVolt.new then .up else .down

theorem handle_status (a : Asset) (e : AssetEvent) :
    (a.handle e).1.state.status =
      ((e.voltage?).map fun p => voltStatus a.state.minVoltage p.2).getD a.state.status := by
  cases e <;> simp [detectInputVoltage, AssetEvent.voltage?, processParentVoltE_status, voltStatus]

theorem handle_inputVoltage (a : Asset) (e : AssetEvent) :
    (a.handle e).1.state.inputVoltage =
      ((e.voltage?).map Prod.fst).getD a.state.inputVoltage := by
  cases e <;> simp [detectInputVoltage, AssetEvent.voltage?]

@[simp] theorem handle_minVoltage (a : Asset) (e : AssetEvent) :
    (a.handle e).1.state.minVoltage = a.state.minVoltage := by
  cases e <;> simp [detectInputVoltage]

theorem handle_stateReason (a : Asset) (e : AssetEvent) :
    (a.handle e).1.stateReason = (e.reason?).getD a.stateReason := by
  cases e <;> simp [detectInputVoltage, processParentVoltE, AssetEvent.reason?]

/-! ### Runs -/

/-- A field that one kind of event sets, each event of that kind to its own value, and every
other event leaves: after a run it holds the value of the last event of that kind. -/
theorem handleAll_last {β : Type} (field : Asset → β) (set? : Asset → AssetEvent → Option β)
    (hset : ∀ a e, field (a.handle e).1 = (set? a e).getD (field a))
    (hstable : ∀ a e, set? (a.handle e).1 = set? a) :
    ∀ (evs : List AssetEvent) (a : Asset),
      field (a.handleAll evs) = ((evs.filterMap (set? a)).getLast?).getD (field a)
  | [], _ => rfl
  | e :: evs, a => by
    rw [handleAll_cons, handleAll_last field set? hset hstable evs, hstable, hset,
      List.filterMap_cons]
    cases set? a e with
    | none => rfl
    | some b => simp only [Option.getD_some, List.getLast?_cons]

/-- The status and the input voltage after any run are those the last voltage event set, or the
asset's own when there was none. -/
theorem handleAll_voltage (a : Asset) (evs : List AssetEvent) :
    (a.handleAll evs).state.status =
        (((evs.filterMap AssetEvent.voltage?).getLast?).map fun p =>
          voltStatus a.state.minVoltage p.2).getD a.state.status ∧
      (a.handleAll evs).state.inputVoltage =
        (((evs.filterMap AssetEvent.voltage?).getLast?).map Prod.fst).getD a.state.inputVoltage := by
  constructor
  · have h := handleAll_last (fun a => a.state.status)
      (fun a e => (e.voltage?).map fun p : ℚ × PowerEvent => voltStatus a.state.minVoltage p.2)
      handle_status (fun a e => by simp) evs a
    simpa [List.filterMap_map, List.getLast?_map] using h
  · have h := handleAll_last (fun a => a.state.inputVoltage) (fun _ e => (e.voltage?).map Prod.fst)
      handle_inputVoltage (fun _ _ => rfl) evs a
    simpa [List.filterMap_map, List.getLast?_map] using h

theorem handleAll_init_powerStateCausedByUser (s : AssetState) (evs : List AssetEvent) :
    ((init s).handleAll evs).powerStateCausedByUser = true := by
  have h := handleAll_last Asset.stateReason (fun _ e => e.reason?) handle_stateReason
    (fun _ _ => rfl) evs (init s)
  rw [powerStateCausedByUser, h]
  cases hl : (evs.filterMap AssetEvent.reason?).getLast? with
  | none => rfl
  | some r =>
    obtain ⟨e, -, he⟩ := List.mem_filterMap.mp (List.mem_of_getLast?_eq_some hl)
    cases e <;> simp_all [AssetEvent.reason?]

/-! ### Interleavings of load changes -/

/-- The asset with `x` added to its stored load. -/
def shiftLoad (a : Asset) (x : ℚ) : Asset := { a with state := a.state.updateLoad (a.state.load + x) }

theorem handleAll_append (a : Asset) (evs evs' : List AssetEvent) :
    a.handleAll (evs ++ evs') = (a.handleAll evs).handleAll evs' :=
  List.foldl_append _ _ _ _

theorem processParentVoltE_shiftLoad (a : Asset) (e : PowerEvent) (x : ℚ) :
    (a.shiftLoad x).processParentVoltE e =
      ((a.processParentVoltE e).1.shiftLoad x, (a.processParentVoltE e).2) := by
  have h : a.state.load = (voltTransition a.state e).1.load := voltTransition_load.symm
  simp only [processParentVoltE, shiftLoad, voltTransition_updateLoad]
  rw [h, applyLoadDelta_updateLoad_add]

/-- A child's load change raises the load by its amount and does nothing else. -/
theorem handle_childLoad (a : Asset) {e : AssetEvent} {x : ℚ} (he : e.childLoad? = some x) :
    (a.handle e).1 = a.shiftLoad x := by
  cases e <;> simp only [AssetEvent.childLoad?, Option.some.injEq, reduceCtorEq] at he <;>
    subst he <;> simp [shiftLoad, sub_eq_add_neg]

theorem shiftLoad_comm (a : Asset) (x y : ℚ) :
    (a.shiftLoad x).shiftLoad y = (a.shiftLoad y).shiftLoad x := by
  simp only [shiftLoad, AssetState.updateLoad_load, AssetState.updateLoad, add_right_comm]

/-- Every event but a cascading load event moves the stored load by an amount that does not
read it. -/
theorem handle_shiftLoad (a : Asset) (x : ℚ) {e : AssetEvent} (he : e.isCascade = false) :
    ((a.shiftLoad x).handle e).1 = (a.handle e).1.shiftLoad x := by
  cases hc : e.childLoad? with
  | some y => rw [handle_childLoad _ hc, handle_childLoad _ hc, shiftLoad_comm]
  | none =>
    cases e <;> simp only [AssetEvent.isCascade, AssetEvent.childLoad?, reduceCtorEq] at he hc
    case inputVoltageUpEvent v next | inputVoltageDownEvent v next =>
      simp only [handle_inputVoltageUpEvent, handle_inputVoltageDownEvent,
        processParentVoltE_shiftLoad]
      rfl
    case buttonPowerDownPressed | buttonPowerUpPressed => rfl

theorem handleAll_shiftLoad (x : ℚ) :
    ∀ (evs : List AssetEvent) (a : Asset), (∀ e ∈ evs, e.isCascade = false) →
      (a.shiftLoad x).handleAll evs = (a.handleAll evs).shiftLoad x
  | [], _, _ => rfl
  | e :: evs, a, h => by
    rw [handleAll_cons, handle_shiftLoad a x (h e (List.mem_cons_self _ _)),
      handleAll_shiftLoad x evs _ fun e' he' => h e' (List.mem_cons_of_mem _ he')]
    rfl

/-- A child's load change is never lost, wherever it is delivered in a run: with no cascading
load event after it, the run leaves the state it leaves without the change, with the load raised
by the change's amount. -/
theorem handleAll_childLoad_insert (a : Asset) (evs₁ evs₂ : List AssetEvent) {c : AssetEvent}
    {x : ℚ} (hc : c.childLoad? = some x) (h₂ : ∀ e ∈ evs₂, e.isCascade = false) :
    a.handleAll (evs₁ ++ c :: evs₂) = (a.handleAll (evs₁ ++ evs₂)).shiftLoad x := by
  rw [handleAll_append, handleAll_cons, handle_childLoad _ hc, handleAll_shiftLoad x evs₂ _ h₂,
    handleAll_append]

/-- A child powering up between a rise of the input voltage and its loss, a button press
after it: the run ends with the child's load added to what it ends with without it. -/
theorem handleAll_childLoad_insert_restart :
    let s : AssetState := ⟨0, "server", 0, 0, .down, 100, 240⟩
    let e : PowerEvent := ⟨⟨.down, .down⟩, ⟨0, 120⟩, ⟨0, 0⟩⟩
    let after : List AssetEvent := [.inputVoltageDownEvent 0 e, .buttonPowerDownPressed]
    (AssetEvent.childAssetPowerUp 3).childLoad? = some 3 ∧
      (∀ ev ∈ after, ev.isCascade = false) ∧
      (init s).handleAll ([.inputVoltageUpEvent 120 e] ++ .childAssetPowerUp 3 :: after) =
        ((init s).handleAll ([.inputVoltageUpEvent 120 e] ++ after)).shiftLoad 3 := by
  intro s e after
  have hc : (AssetEvent.childAssetPowerUp 3).childLoad? = some 3 := rfl
  have h₂ : ∀ ev ∈ after, ev.isCascade = false := by decide
  exact ⟨hc, h₂, handleAll_childLoad_insert (init s) [.inputVoltageUpEvent 120 e] after hc h₂⟩

end Asset

end SimEngine
