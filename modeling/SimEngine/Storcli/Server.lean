import SimEngine.Storcli.Dispatch

/-!
# The receive loop of the emulator

`_listen_cmds` (`storcli_emu.py:463-533`) serves one connection. Each turn of its loop receives
a chunk, decodes it with `json.loads`, reads `received['argv']`, dispatches and sends one
reply, until the peer closes the connection. A chunk that is not JSON is only logged
(`storcli_emu.py:480-485`): the loop goes on with the variable `received` of the turn before,
so the last decoded message is the loop's state, unbound before the first one.

A chunk is modelled by what `json.loads` makes of it, `some v` for a value `v` and `none` when
it raises `JSONDecodeError`; the reply by its route, which fixes the handler and the status.
An exception ends the loop, and with it the connection.

Each well-formed chunk, a decoded object whose `argv` is a non-empty list of strings, is
answered by the route `dispatch_strings` gives (`listenStep_status`): the usage message outside
the accepted shapes, and within them status `0`, with no output for a command the emulator does
not support. A chunk that does not decode is answered with the previous reply, or ends the loop
when it comes first (`listenCmds_stale_reply`). What the handlers do with the routes, and the
exceptions they raise, is `Service`.
-/

namespace SimEngine

namespace Json

/-- `v[k]` for a string key `k`: a decoded `dict` has its entries, and a list, a string or a
number cannot be subscripted by a string. -/
def getKey (v : Json) (k : String) : Except PyError Json :=
  match v with
  | obj kvs => match kvs.lookup k with
    | some x => .ok x
    | none => .error (.keyError k)
  | _ => .error .typeError

end Json

/-- One turn of the loop on a non-empty chunk, from the value of `received` left by the turns
before: the new value of `received` and the route of the reply. -/
def listenStep (received chunk : Option Json) : Except PyError (Json × Route) :=
  match chunk <|> received with
  | none => .error (.unboundLocalError "received")
  | some v => do
    let argv ← v.getKey "argv"
    return (v, ← dispatch argv)

/-- The loop over the chunks of a connection until `recv` returns `b''`: the replies sent, in
order, and the exception that ended the loop, if one did. It picks the routes only; the
handlers they call, which run before each reply is sent, are added by `serveConn`. -/
def listenCmds (received : Option Json) : List (Option Json) → List Route × Option PyError
  | [] => ([], none)
  | chunk :: chunks =>
    match listenStep received chunk with
    | .error e => ([], some e)
    | .ok (v, r) => let out := listenCmds (some v) chunks; (r :: out.1, out.2)

/-- The reply to a chunk that opens a connection. -/
def serveChunk : Option Json → Except PyError Route
  | none => .error (.unboundLocalError "received")
  | some v => do dispatch (← v.getKey "argv")

/-- A decoded chunk replaces `received`: the turn forgets the turns before. -/
theorem listenStep_some (received : Option Json) (v : Json) :
    listenStep received (some v) = (serveChunk (some v)).map (v, ·) := by
  simp only [listenStep, serveChunk, HOrElse.hOrElse, OrElse.orElse, Option.orElse]
  cases v.getKey "argv" with
  | error e => rfl
  | ok argv => cases dispatch argv <;> rfl

/-! ### Well-formed messages -/

/-- A decoded object whose `argv` is a non-empty list of strings: what a storcli client
sends. -/
def WellFormed (chunk : Option Json) : Prop :=
  ∃ kvs l, chunk = some (.obj kvs) ∧ kvs.lookup "argv" = some (.arr (l.map .str)) ∧ l ≠ []

theorem serveChunk_strings {kvs : List (String × Json)} {l : List String} (hl : l ≠ [])
    (hargv : kvs.lookup "argv" = some (.arr (l.map .str))) :
    ∃ r, serveChunk (some (.obj kvs)) = .ok r ∧ (r.status = 0 ↔ acceptedShape l = true) ∧
      (acceptedShape l = false → r = .usage ("Usage: " ++ l.head hl ++ " --version")) ∧
      (r = .noOutput ↔ acceptedShape l = true ∧ supportedCommand l = false) := by
  obtain ⟨r, hr, hs⟩ := dispatch_strings l hl
  refine ⟨r, ?_, hs⟩
  simp only [serveChunk, Json.getKey, hargv, bind, Except.bind, hr]

theorem listenStep_status (received : Option Json) (kvs : List (String × Json)) (l : List String)
    (hl : l ≠ []) (hargv : kvs.lookup "argv" = some (.arr (l.map .str))) :
    ∃ r, listenStep received (some (.obj kvs)) = .ok (.obj kvs, r) ∧
      (r.status = 0 ↔ acceptedShape l = true) ∧
      (acceptedShape l = false → r = .usage ("Usage: " ++ l.head hl ++ " --version")) ∧
      (r = .noOutput ↔ acceptedShape l = true ∧ supportedCommand l = false) := by
  obtain ⟨r, hr, hs⟩ := serveChunk_strings hl hargv
  exact ⟨r, by rw [listenStep_some, hr]; rfl, hs⟩

/-- `{"argv": ["storcli64", "--version"]}`, a well-formed message. -/
theorem listenStep_status_version :
    let l : List String := ["storcli64", "--version"]
    ∃ hl : l ≠ [], [("argv", Json.arr (l.map .str))].lookup "argv" = some (.arr (l.map .str)) ∧
      ∃ r, listenStep none (some (.obj [("argv", .arr (l.map .str))])) =
          .ok (.obj [("argv", .arr (l.map .str))], r) ∧
        (r.status = 0 ↔ acceptedShape l = true) ∧
        (acceptedShape l = false → r = .usage ("Usage: " ++ l.head hl ++ " --version")) ∧
        (r = .noOutput ↔ acceptedShape l = true ∧ supportedCommand l = false) :=
  ⟨List.cons_ne_nil _ _, rfl, listenStep_status none _ _ (List.cons_ne_nil _ _) rfl⟩

/-- Two unsupported commands of accepted shapes, an unknown option and a controller command
with an unknown property, are each answered with no output and status `0`. -/
theorem listenCmds_unsupported_ok :
    listenCmds none
        [some (.obj [("argv", .arr [.str "storcli64", .str "--help"])]),
          some (.obj [("argv", .arr [.str "storcli64", .str "/c0", .str "show",
            .str "temperature"])])] = ([.noOutput, .noOutput], none) ∧
      Route.noOutput.status = 0 :=
  ⟨rfl, rfl⟩

/-! ### A chunk that does not decode -/

/-- After `{"argv": ["storcli64", "--version"]}`, a chunk that is not JSON is answered with the
version again; as the first chunk it ends the loop with `UnboundLocalError`. A number, and an
object whose `argv` is empty, end the loop as well. -/
theorem listenCmds_stale_reply :
    listenCmds none [some (.obj [("argv", .arr [.str "storcli64", .str "--version"])]), none] =
      ([.version, .version], none) ∧
    listenCmds none [none] = ([], some (.unboundLocalError "received")) ∧
    listenCmds none [some (.num 1)] = ([], some .typeError) ∧
    listenCmds none [some (.obj [("argv", .arr [])])] = ([], some .indexError) :=
  ⟨rfl, rfl, rfl, rfl⟩

end SimEngine
