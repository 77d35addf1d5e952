import SimEngine.Python

/-!
# The threshold evaluator

`_get_state_from_config` (`storcli_emu.py:394-402`) maps measured counters to a status through
the ordered table of the configuration entry it is given: the first status, in declared order
and other than the optimal one, for which some counter reaches a threshold that is not the
sentinel `-1`. Its loops are `triggersStatus` (over the counters, for one status) and
`firstTriggered` (over the statuses). A threshold the table does not define is a `KeyError`,
raised when the loop reaches it.

`escalation` is the specification's statement of the same lookup, by `List.find?`;
`getStateFromConfig_eq_escalation` says the loops compute it whenever every row defines the
counters. `getStateFromConfig_monotone` is the two-run property: raising counters never
de-escalates.
-/

namespace SimEngine

/-- The storcli state configuration (`_storcli_details['stateConfig']`): for each entry
(`controller`, `virtualDrive`) an ordered table from status name to counter thresholds. -/
abbrev StateConfig := PyDict (PyDict (PyDict Int))

/-- The inner loop of `_get_state_from_config` over the counters of `current_state`, for one
status (`storcli_emu.py:398-400`): whether some counter triggers it. -/
def triggersStatus (row : PyDict Int) (status optimal : String) :
    List (String × Int) → Except PyError Bool
  | [] => .ok false
  | (prop, value) :: rest =>
    match row.getItem prop with
    | .error err => .error err
    | .ok threshold =>
      if value ≥ threshold ∧ threshold ≠ -1 ∧ status ≠ optimal then .ok true
      else triggersStatus row status optimal rest

/-- The outer loop of `_get_state_from_config` over the statuses of the table, in declared
order (`storcli_emu.py:397-402`). -/
def firstTriggered (currentState : PyDict Int) (optimal : String) :
    List (String × PyDict Int) → Except PyError String
  | [] => .ok optimal
  | (status, row) :: rest =>
    match triggersStatus row status optimal currentState.entries with
    | .error err => .error err
    | .ok true => .ok status
    | .ok false => firstTriggered currentState optimal rest

/-- `_get_state_from_config` (`storcli_emu.py:394-402`). -/
def getStateFromConfig (stateConfig : StateConfig) (configEntry : String)
    (currentState : PyDict Int) (optimal : String) : Except PyError String :=
  match stateConfig.getItem configEntry with
  | .error err => .error err
  | .ok sConf => firstTriggered currentState optimal sConf.entries

/-- Whether the counter `pv.1` at the value `pv.2` reaches its threshold in `row`, in the
specification's words: the row defines a threshold for it, the threshold is not `-1`, and the
value is at least the threshold. -/
def reaches (row : PyDict Int) (pv : String × Int) : Bool :=
  match row.get? pv.1 with
  | some t => t != -1 && decide (t ≤ pv.2)
  | none => false

/-- Whether some counter of `c` triggers the status whose row is `row`. -/
def triggeredBy (row : PyDict Int) (c : PyDict Int) : Bool := c.entries.any (reaches row)

/-- The status the specification says `_get_state_from_config` returns: the first of the table, other
than the optimal one, that some counter triggers; the optimal one when none does. -/
def escalation (table : PyDict (PyDict Int)) (c : PyDict Int) (optimal : String) : String :=
  match table.entries.find? (fun e => e.1 != optimal && triggeredBy e.2 c) with
  | some e => e.1
  | none => optimal

/-- Every row of the table defines a threshold for every counter of `c`. -/
def DefinesCounters (table : PyDict (PyDict Int)) (c : PyDict Int) : Prop :=
  ∀ e ∈ table.entries, ∀ p ∈ c.keys, p ∈ e.2.keys

instance (table : PyDict (PyDict Int)) (c : PyDict Int) : Decidable (DefinesCounters table c) :=
  inferInstanceAs (Decidable (∀ e ∈ table.entries, ∀ p ∈ c.keys, p ∈ e.2.keys))

/-- `c'` has the counters of `c`, each at least as large. -/
def Dominates (c c' : PyDict Int) : Prop :=
  (∀ p, p ∈ c.keys ↔ p ∈ c'.keys) ∧ ∀ p v v', c.get? p = some v → c'.get? p = some v' → v ≤ v'

theorem getStateFromConfig_of_get? {cfg : StateConfig} {entry : String}
    {table : PyDict (PyDict Int)} (hT : cfg.get? entry = some table) (c : PyDict Int)
    (o : String) : getStateFromConfig cfg entry c o = firstTriggered c o table.entries := by
  simp [getStateFromConfig, hT]

/-- The evaluator reads only its own entry of the configuration. -/
theorem getStateFromConfig_congr {cfg cfg' : StateConfig} {entry : String}
    (h : cfg'.get? entry = cfg.get? entry) (c : PyDict Int) (o : String) :
    getStateFromConfig cfg' entry c o = getStateFromConfig cfg entry c o := by
  simp only [getStateFromConfig, PyDict.getItem, h]

/-- With every counter's threshold defined, the counter loop returns whether the status is
not the optimal one and some counter reaches its threshold. -/
theorem triggersStatus_eq (row : PyDict Int) (status optimal : String) :
    ∀ l : List (String × Int), (∀ pv ∈ l, pv.1 ∈ row.keys) →
      triggersStatus row status optimal l = .ok (status != optimal && l.any (reaches row))
  | [], _ => by simp [triggersStatus]
  | (prop, value) :: rest, hkeys => by
    obtain ⟨t, ht⟩ := PyDict.mem_keys_iff.mp (hkeys (prop, value) (List.mem_cons_self _ _))
    have ih := triggersStatus_eq row status optimal rest
      (fun pv h => hkeys pv (List.mem_cons_of_mem _ h))
    simp only [triggersStatus, PyDict.getItem_of_get? ht, ih, List.any_cons, reaches, ht]
    by_cases hs : status = optimal <;> by_cases hv : t ≤ value <;> by_cases hm : t = -1 <;>
      simp [hs, hv, hm, ge_iff_le]

/-- With every counter's threshold defined in every row, the status loop returns the first
status, other than the optimal one, that some counter triggers. -/
theorem firstTriggered_eq (c : PyDict Int) (o : String) :
    ∀ L : List (String × PyDict Int), (∀ e ∈ L, ∀ p ∈ c.keys, p ∈ e.2.keys) →
      firstTriggered c o L =
        .ok (match L.find? (fun e => e.1 != o && triggeredBy e.2 c) with
          | some e => e.1
          | none => o)
  | [], _ => rfl
  | (st, row) :: rest, hdef => by
    have hrow : triggersStatus row st o c.entries = .ok (st != o && triggeredBy row c) :=
      triggersStatus_eq row st o c.entries
        (fun pv hpv => hdef _ (List.mem_cons_self _ _) pv.1 (List.mem_map_of_mem _ hpv))
    simp only [firstTriggered, hrow, List.find?_cons]
    cases (st != o && triggeredBy row c)
    · exact firstTriggered_eq c o rest (fun e he => hdef e (List.mem_cons_of_mem _ he))
    · rfl

theorem triggeredBy_iff {row c : PyDict Int} :
    triggeredBy row c = true ↔ ∃ p v, c.get? p = some v ∧ reaches row (p, v) = true := by
  simp only [triggeredBy, List.any_eq_true, PyDict.get?_eq_some_iff]
  exact ⟨fun ⟨pv, hm, hr⟩ => ⟨pv.1, pv.2, hm, hr⟩, fun ⟨p, v, hm, hr⟩ => ⟨(p, v), hm, hr⟩⟩

/-- Whether a status is triggered depends on the counters as a mapping, not on their order. -/
theorem triggeredBy_congr {row c c' : PyDict Int} (h : ∀ p, c'.get? p = c.get? p) :
    triggeredBy row c' = triggeredBy row c := by
  rw [Bool.eq_iff_iff, triggeredBy_iff, triggeredBy_iff]
  simp only [h]

/-- `_get_state_from_config` is the specification's escalation lookup whenever every row defines every
measured counter, and it reads the counters only as a mapping: listing them in another order
changes nothing. -/
theorem getStateFromConfig_eq_escalation {cfg : StateConfig} {entry : String}
    {table : PyDict (PyDict Int)} (hT : cfg.get? entry = some table) (c : PyDict Int)
    (o : String) (hdef : DefinesCounters table c) :
    getStateFromConfig cfg entry c o = .ok (escalation table c o) ∧
      ∀ c' : PyDict Int, (∀ p, c'.get? p = c.get? p) →
        getStateFromConfig cfg entry c' o = .ok (escalation table c o) := by
  have key : ∀ c' : PyDict Int, (∀ p, c'.get? p = c.get? p) →
      getStateFromConfig cfg entry c' o = .ok (escalation table c o) := by
    intro c' h
    have hdef' : DefinesCounters table c' := fun e he p hp =>
      hdef e he p (PyDict.mem_keys_iff.mpr (h p ▸ PyDict.mem_keys_iff.mp hp))
    rw [getStateFromConfig_of_get? hT, firstTriggered_eq c' o _ hdef', escalation]
    simp only [triggeredBy_congr h]
  exact ⟨key c fun _ => rfl, key⟩

/-- The spec's first-match example: with `errors = 5` the table
`{Critical: {errors: 5}, Degraded: {errors: 1}, Optimal: {errors: 0}}` gives `Critical`. -/
theorem getStateFromConfig_critical_first :
    let table : PyDict (PyDict Int) := ⟨[("Critical", ⟨[("errors", 5)], by decide⟩),
      ("Degraded", ⟨[("errors", 1)], by decide⟩), ("Optimal", ⟨[("errors", 0)], by decide⟩)],
      by decide⟩
    let cfg : StateConfig := ⟨[("controller", table)], by decide⟩
    let c : PyDict Int := ⟨[("errors", 5)], by decide⟩
    (cfg.get? "controller" = some table ∧ DefinesCounters table c) ∧
      getStateFromConfig cfg "controller" c "Optimal" = .ok "Critical" := by
  intro table cfg c
  have hT : cfg.get? "controller" = some table := rfl
  have hdef : DefinesCounters table c := by decide
  refine ⟨⟨hT, hdef⟩, ?_⟩
  rw [(getStateFromConfig_eq_escalation hT c "Optimal" hdef).1]
  rfl

/-- A status the loop returns, other than the optimal one, is a status of the table. -/
theorem firstTriggered_mem {c : PyDict Int} {o s : String} :
    ∀ {L : List (String × PyDict Int)}, firstTriggered c o L = .ok s → s ≠ o →
      s ∈ L.map Prod.fst
  | [], h, hso => by cases h; exact absurd rfl hso
  | (st, row) :: rest, h, hso => by
    simp only [firstTriggered] at h
    split at h
    · cases h
    · cases h; exact List.mem_cons_self _ _
    · exact List.mem_cons_of_mem _ (firstTriggered_mem h hso)

/-- The status names the configuration declares for `entry`: the keys of its table, none when
there is no such entry. -/
def declaredStates (cfg : StateConfig) (entry : String) : List String :=
  ((cfg.get? entry).map PyDict.keys).getD []

theorem mem_declaredStates {cfg : StateConfig} {entry k : String} {table : PyDict (PyDict Int)}
    {row : PyDict Int} (hT : cfg.get? entry = some table) (hr : table.get? k = some row) :
    k ∈ declaredStates cfg entry := by
  simpa [declaredStates, hT] using PyDict.mem_keys_iff.mpr ⟨row, hr⟩

/-- Given a declared optimal status, the evaluator answers a declared status. -/
theorem getStateFromConfig_declared {cfg : StateConfig} {entry o s : String} {c : PyDict Int}
    (ho : o ∈ declaredStates cfg entry) (h : getStateFromConfig cfg entry c o = .ok s) :
    s ∈ declaredStates cfg entry := by
  cases hT : cfg.get? entry with
  | none => simp [getStateFromConfig, PyDict.getItem, hT] at h
  | some table =>
    rw [getStateFromConfig_of_get? hT] at h
    by_cases hso : s = o
    · rwa [hso]
    · simpa [declaredStates, hT, PyDict.keys] using firstTriggered_mem h hso

/-- The counter loop never triggers the optimal status. -/
theorem triggersStatus_true_ne {row : PyDict Int} {st o : String} :
    ∀ {l : List (String × Int)}, triggersStatus row st o l = .ok true → st ≠ o
  | [], h => by cases h
  | (p, v) :: rest, h => by
    simp only [triggersStatus] at h
    split at h
    · cases h
    · split_ifs at h with hc
      · exact hc.2.2
      · exact triggersStatus_true_ne h

/-- Raising the counters, kept in the same order, never turns the counter loop from
"triggered" to anything else, nor from an answer to a `KeyError`. -/
theorem triggersStatus_mono (row : PyDict Int) (st o : String) :
    ∀ {l l' : List (String × Int)}, List.Forall₂ (fun a b => a.1 = b.1 ∧ a.2 ≤ b.2) l l' →
      ∀ b, triggersStatus row st o l = .ok b →
        ∃ b', triggersStatus row st o l' = .ok b' ∧ (b = true → b' = true)
  | [], [], .nil, b, h => by cases h; exact ⟨false, rfl, id⟩
  | (p, v) :: l, (p', v') :: l', .cons ⟨hp, hv⟩ hrest, b, h => by
    simp only at hp hv
    subst hp
    simp only [triggersStatus] at h ⊢
    cases ht : row.getItem p with
    | error err => rw [ht] at h; cases h
    | ok t =>
      simp only [ht] at h ⊢
      by_cases hc : v ≥ t ∧ t ≠ -1 ∧ st ≠ o
      · rw [if_pos hc] at h
        cases h
        exact ⟨true, if_pos ⟨le_trans hc.1 hv, hc.2⟩, fun _ => rfl⟩
      · rw [if_neg hc] at h
        by_cases hc' : v' ≥ t ∧ t ≠ -1 ∧ st ≠ o
        · exact ⟨true, if_pos hc', fun _ => rfl⟩
        · rw [if_neg hc']
          exact triggersStatus_mono row st o hrest b h

/-- Dicts with the same keys in the same order, the second's values at least the first's. -/
theorem forall₂_of_keys_eq :
    ∀ {l l' : List (String × Int)}, l'.map Prod.fst = l.map Prod.fst →
      (∀ k v v', (k, v) ∈ l → (k, v') ∈ l' → v ≤ v') →
      List.Forall₂ (fun a b => a.1 = b.1 ∧ a.2 ≤ b.2) l l'
  | [], [], _, _ => .nil
  | (k, v) :: l, (k', v') :: l', hk, hle => by
    simp only [List.map_cons, List.cons.injEq] at hk
    exact .cons ⟨hk.1.symm, hle k v v' (List.mem_cons_self _ _) (hk.1 ▸ List.mem_cons_self _ _)⟩
      (forall₂_of_keys_eq hk.2 fun k v v' h h' =>
        hle k v v' (List.mem_cons_of_mem _ h) (List.mem_cons_of_mem _ h'))

/-- A counter that reaches its threshold still does at a larger value. -/
theorem reaches_mono {row : PyDict Int} {p : String} {v v' : Int} (hv : v ≤ v')
    (h : reaches row (p, v) = true) : reaches row (p, v') = true := by
  unfold reaches at *
  split at h <;> simp_all
  omega

/-- Raising the counters never turns a triggered status into an untriggered one. -/
theorem triggeredBy_mono {row c c' : PyDict Int} (hdom : Dominates c c')
    (h : triggeredBy row c = true) : triggeredBy row c' = true := by
  obtain ⟨p, v, hv, hr⟩ := triggeredBy_iff.mp h
  obtain ⟨v', hv'⟩ := PyDict.mem_keys_iff.mp
    ((hdom.1 p).mp (PyDict.mem_keys_iff.mpr ⟨v, hv⟩))
  exact triggeredBy_iff.mpr ⟨p, v', hv', reaches_mono (hdom.2 p v v' hv hv') hr⟩

/-- The status loop for raised counters, row by row: wherever the loop for `c` answers, the
loop for `c'` answers too, and "triggered" wherever `c`'s does. -/
def LoopDominates (c c' : PyDict Int) (o : String) (L : List (String × PyDict Int)) : Prop :=
  ∀ e ∈ L, ∀ b, triggersStatus e.2 e.1 o c.entries = .ok b →
    ∃ b', triggersStatus e.2 e.1 o c'.entries = .ok b' ∧ (b = true → b' = true)

/-- The two-run property of the status loop: if it returns a status other than the optimal
one for `c`, it returns one for `c'` too, declared no later. -/
theorem firstTriggered_mono {c c' : PyDict Int} {o : String} :
    ∀ {L : List (String × PyDict Int)} {s : String}, (L.map Prod.fst).Nodup →
      LoopDominates c c' o L → firstTriggered c o L = .ok s → s ≠ o →
      ∃ s', firstTriggered c' o L = .ok s' ∧ s' ≠ o ∧ s' ∈ L.map Prod.fst ∧
        (L.map Prod.fst).indexOf s' ≤ (L.map Prod.fst).indexOf s
  | [], _, _, _, h, hso => by cases h; exact absurd rfl hso
  | (st, row) :: rest, s, hnd, hdom, h, hso => by
    have hnd' := List.nodup_cons.mp (by simpa only [List.map_cons] using hnd)
    have hdom' : LoopDominates c c' o rest := fun e he => hdom e (List.mem_cons_of_mem _ he)
    simp only [firstTriggered] at h
    cases hb : triggersStatus row st o c.entries with
    | error err => rw [hb] at h; cases h
    | ok b =>
      obtain ⟨b', hb', himp⟩ := hdom (st, row) (List.mem_cons_self _ _) b hb
      rw [hb] at h
      cases b with
      | true =>
        cases h
        exact ⟨st, by simp [firstTriggered, hb', himp rfl], hso, List.mem_cons_self _ _, le_rfl⟩
      | false =>
        obtain ⟨s', h', hso', hmem', hidx⟩ := firstTriggered_mono hnd'.2 hdom' h hso
        have hs : st ≠ s := fun he => hnd'.1 (he ▸ firstTriggered_mem h hso)
        cases b' with
        | true =>
          refine ⟨st, by simp [firstTriggered, hb'], triggersStatus_true_ne hb',
            List.mem_cons_self _ _, ?_⟩
          simp [List.indexOf_cons_self]
        | false =>
          have hs' : st ≠ s' := fun he => hnd'.1 (he ▸ hmem')
          refine ⟨s', by simp [firstTriggered, hb', h'], hso', List.mem_cons_of_mem _ hmem', ?_⟩
          simp only [List.map_cons, List.indexOf_cons_ne _ hs, List.indexOf_cons_ne _ hs']
          omega

/-- Raising counters never de-escalates: if `_get_state_from_config` returns a status other
than the optimal one, then for counters as large or larger, listed in the same order or all
defined by every row, it returns a status other than the optimal one, declared no later. -/
theorem getStateFromConfig_monotone {cfg : StateConfig} {entry : String}
    {table : PyDict (PyDict Int)} (hT : cfg.get? entry = some table) {c c' : PyDict Int}
    (o : String) (hdom : Dominates c c') (hcase : c'.keys = c.keys ∨ DefinesCounters table c)
    {s : String} (hs : getStateFromConfig cfg entry c o = .ok s) (hso : s ≠ o) :
    ∃ s', getStateFromConfig cfg entry c' o = .ok s' ∧ s' ≠ o ∧ s' ∈ table.keys ∧
      table.keys.indexOf s' ≤ table.keys.indexOf s := by
  rw [getStateFromConfig_of_get? hT] at hs ⊢
  refine firstTriggered_mono table.nodup ?_ hs hso
  rcases hcase with hk | hdef
  · intro e _ b hb
    exact triggersStatus_mono e.2 e.1 o (forall₂_of_keys_eq hk fun k v v' h h' =>
      hdom.2 k v v' (PyDict.get?_of_mem h) (PyDict.get?_of_mem h')) b hb
  · intro e he b hb
    have hdef' : DefinesCounters table c' := fun e he p hp => hdef e he p ((hdom.1 p).mpr hp)
    have hc : triggersStatus e.2 e.1 o c.entries = .ok (e.1 != o && triggeredBy e.2 c) :=
      triggersStatus_eq _ _ _ _ fun pv hpv => hdef e he pv.1 (List.mem_map_of_mem _ hpv)
    have hc' : triggersStatus e.2 e.1 o c'.entries = .ok (e.1 != o && triggeredBy e.2 c') :=
      triggersStatus_eq _ _ _ _ fun pv hpv => hdef' e he pv.1 (List.mem_map_of_mem _ hpv)
    rw [hc] at hb
    cases hb
    refine ⟨_, hc', fun h => ?_⟩
    simp only [Bool.and_eq_true] at h ⊢
    exact ⟨h.1, triggeredBy_mono hdom h.2⟩

/-- Raising `errors` from 1 to 5 in the spec's example table escalates `Degraded` to
`Critical`, the status declared before it. -/
theorem getStateFromConfig_degraded_to_critical :
    let table : PyDict (PyDict Int) := ⟨[("Critical", ⟨[("errors", 5)], by decide⟩),
      ("Degraded", ⟨[("errors", 1)], by decide⟩), ("Optimal", ⟨[("errors", 0)], by decide⟩)],
      by decide⟩
    let cfg : StateConfig := ⟨[("controller", table)], by decide⟩
    let c : PyDict Int := ⟨[("errors", 1)], by decide⟩
    let c' : PyDict Int := ⟨[("errors", 5)], by decide⟩
    (cfg.get? "controller" = some table ∧ Dominates c c' ∧ c'.keys = c.keys ∧
      getStateFromConfig cfg "controller" c "Optimal" = .ok "Degraded") ∧
      ∃ s', getStateFromConfig cfg "controller" c' "Optimal" = .ok s' ∧ s' ≠ "Optimal" ∧
        s' ∈ table.keys ∧ table.keys.indexOf s' ≤ table.keys.indexOf "Degraded" := by
  intro table cfg c c'
  have hT : cfg.get? "controller" = some table := rfl
  have hdom : Dominates c c' := by
    refine ⟨fun p => Iff.rfl, fun p v v' h h' => ?_⟩
    by_cases hp : p = "errors" <;> simp_all [c, c', PyDict.get?, PyDict.lookup_cons_eq]
    omega
  have hs : getStateFromConfig cfg "controller" c "Optimal" = .ok "Degraded" := rfl
  exact ⟨⟨hT, hdom, rfl, hs⟩,
    getStateFromConfig_monotone hT "Optimal" hdom (.inl rfl) hs (by decide)⟩

/-- Raising counters can turn a status into a `KeyError`: the `Dgrd` row defines no
`numPdOffline` threshold, and the same counters listed with `numPdOffline` first make the loop
look it up before `mediaErrorCount` triggers `Dgrd`. -/
theorem getStateFromConfig_reordered_keyError :
    let table : PyDict (PyDict Int) :=
      ⟨[("Optl", ⟨[("mediaErrorCount", 0), ("numPdOffline", 0)], by decide⟩),
        ("Dgrd", ⟨[("mediaErrorCount", 1)], by decide⟩)], by decide⟩
    let cfg : StateConfig := ⟨[("virtualDrive", table)], by decide⟩
    let c : PyDict Int := ⟨[("mediaErrorCount", 5), ("numPdOffline", 0)], by decide⟩
    let c' : PyDict Int := ⟨[("numPdOffline", 0), ("mediaErrorCount", 5)], by decide⟩
    Dominates c c' ∧ getStateFromConfig cfg "virtualDrive" c "Optl" = .ok "Dgrd" ∧
      getStateFromConfig cfg "virtualDrive" c' "Optl" = .error (.keyError "numPdOffline") := by
  intro table cfg c c'
  refine ⟨⟨fun p => ?_, fun p v v' h h' => ?_⟩, rfl, rfl⟩
  · simp [c, c', PyDict.keys, or_comm]
  · by_cases hp : p = "mediaErrorCount" <;> by_cases hq : p = "numPdOffline" <;>
      simp_all [c, c', PyDict.get?, PyDict.lookup_cons_eq]

end SimEngine
