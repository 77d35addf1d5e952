import SimEngine.Python
import Mathlib.Data.Nat.Digits

/-!
# The command dispatcher

`_listen_cmds` (`storcli_emu.py:491-530`) picks the handler for a decoded message's `argv` by
its length, by `argv[1].startswith("/c")` and by comparing the other words; the controller is
`argv[1][-1]`, the last character of the second word. `dispatch` is that choice, over any
JSON value `argv` may be, with Python's `len`, indexing, `startswith`, `==` and `+` on it, so
that every path that raises is an `.error`.

Two things follow for an `argv` of strings. The reply is decided by the shape of `argv` and
its words (`dispatch_strings`): outside the accepted shapes it is the usage message naming
`argv[0]`, with status `1`; within them the status is `0`, and a command that is not in the
storcli command set the emulator answers gets no output. And the controller handed to a handler
is `argv[1][-1]`, the last digit of the index (`dispatch_controller`), so `/c10` addresses
controller `0`. That character is what the handlers pass to `_strcli_header` as `ctrl_num`, and
as a non-empty string it is true: every header names it in a `Controller = c` line, for
controller `0` too, except the controller count's, which passes the integer `0` and has none
(`dispatch_controllerLine`).
-/

namespace SimEngine

/-- A JSON value as `json.loads` returns it; `obj` holds the entries of the decoded `dict`. -/
inductive Json where
  | null
  | bool (b : Bool)
  | num (n : ℚ)
  | str (s : String)
  | arr (xs : List Json)
  | obj (kvs : List (String × Json))

namespace Json

/-- `len(v)`. -/
def pyLen : Json → Except PyError Nat
  | str s => .ok s.length
  | arr xs => .ok xs.length
  | obj kvs => .ok kvs.length
  | _ => .error .typeError

/-- `v[i]` for an index `0 ≤ i`: a character of a string, an element of a list; a `dict`
decoded from JSON has only string keys, so an integer key is missing. -/
def getIndex (v : Json) (i : Nat) : Except PyError Json :=
  match v with
  | str s => match s.toList.get? i with
    | some c => .ok (str (String.singleton c))
    | none => .error .indexError
  | arr xs => match xs.get? i with
    | some x => .ok x
    | none => .error .indexError
  | obj _ => .error (.keyError (toString i))
  | _ => .error .typeError

/-- `v == s` for a string `s`: only an equal string compares equal. -/
def eqStr : Json → String → Bool
  | str t, s => t == s
  | _, _ => false

/-- `v.startswith(p)`: only strings have the method. -/
def startsWith (v : Json) (p : String) : Except PyError Bool :=
  match v with
  | str s => .ok (p.toList.isPrefixOf s.toList)
  | _ => .error .attributeError

/-- `v[-1]` on a string: its last character. -/
def lastChar (v : Json) : Except PyError String :=
  match v with
  | str s => match s.toList.getLast? with
    | some c => .ok (String.singleton c)
    | none => .error .indexError
  | _ => .error .typeError

/-- `"Usage: " + v + " --version"`: only a string can be concatenated. -/
def usageText (v : Json) : Except PyError String :=
  match v with
  | str s => .ok ("Usage: " ++ s ++ " --version")
  | _ => .error .typeError

end Json

/-- The handler `_listen_cmds` calls, with its arguments, or the reply it builds itself. The
controller is the string `argv[1][-1]`. -/
inductive Route where
  | version
  /-- The reply as initialised: empty `stdout` and `stderr`, status `0`. -/
  | noOutput
  | ctrlcount
  | perfMode (ctrl : String)
  | rateProp (ctrl rateType : String)
  | alarmState (ctrl : String)
  | ctrlInfo (ctrl : String)
  | bbu (ctrl : String)
  | cachevault (ctrl : String)
  | virtDisk (ctrl : String)
  | physDisks (ctrl : String)
  /-- The reply of the last branch: empty `stdout`, `text` on `stderr`, status `1`. -/
  | usage (text : String)
  deriving DecidableEq, Repr

/-- The status of the reply to a route: `1` for the usage message, `0` otherwise. -/
def Route.status : Route → Nat
  | .usage _ => 1
  | _ => 0

/-- The `/cN show X` commands (`storcli_emu.py:504-517`). -/
def showRoute (ctrl : String) : String → Route
  | "perfmode" => .perfMode ctrl
  | "bgirate" => .rateProp ctrl "bgi_rate"
  | "ccrate" => .rateProp ctrl "cc_rate"
  | "rebuildrate" => .rateProp ctrl "rebuild_rate"
  | "prrate" => .rateProp ctrl "pr_rate"
  | "alarm" => .alarmState ctrl
  | "all" => .ctrlInfo ctrl
  | _ => .noOutput

/-- The `/cN /X show all` commands (`storcli_emu.py:520-525`). -/
def unitRoute (ctrl : String) : String → Route
  | "/bbu" => .bbu ctrl
  | "/cv" => .cachevault ctrl
  | "/vall" => .virtDisk ctrl
  | _ => .noOutput

/-- The word comparisons of the controller commands of length 4 (`storcli_emu.py:504-517`). -/
def route4 (ctrl : String) (w2 w3 : Json) : Route :=
  match w2, w3 with
  | .str "show", .str x => showRoute ctrl x
  | _, _ => .noOutput

/-- The word comparisons of the controller commands of length 5 (`storcli_emu.py:520-525`). -/
def route5 (ctrl : String) (w2 w3 w4 : Json) : Route :=
  match w2, w3, w4 with
  | .str x, .str "show", .str "all" => unitRoute ctrl x
  | _, _, _ => .noOutput

/-- The word comparisons of the controller command of length 6 (`storcli_emu.py:527-528`). -/
def route6 (ctrl : String) (w2 w3 w4 w5 : Json) : Route :=
  if w2.eqStr "/eall" && w3.eqStr "/sall" && w4.eqStr "show" && w5.eqStr "all" then
    .physDisks ctrl
  else .noOutput

/-- The controller branches: `len(argv) == n and argv[1].startswith("/c")`, then the word
comparisons; a false test falls through to the usage branch. -/
def controllerRoute (argv : Json) (n : Nat) : Except PyError Route := do
  let w1 ← argv.getIndex 1
  if ← w1.startsWith "/c" then
    let ctrl ← w1.lastChar
    let w2 ← argv.getIndex 2
    let w3 ← argv.getIndex 3
    match n with
    | 4 => return route4 ctrl w2 w3
    | 5 => return route5 ctrl w2 w3 (← argv.getIndex 4)
    | _ => do
      let w4 ← argv.getIndex 4
      let w5 ← argv.getIndex 5
      return route6 ctrl w2 w3 w4 w5
  else
    return .usage (← (← argv.getIndex 0).usageText)

/-- The dispatch of `_listen_cmds` (`storcli_emu.py:494-530`). -/
def dispatch (argv : Json) : Except PyError Route := do
  let n ← argv.pyLen
  if n = 2 then
    return if (← argv.getIndex 1).eqStr "--version" then .version else .noOutput
  else if n = 3 then
    if (← argv.getIndex 1).eqStr "show" then
      return if (← argv.getIndex 2).eqStr "ctrlcount" then .ctrlcount else .noOutput
    else return .noOutput
  else if n = 4 ∨ n = 5 ∨ n = 6 then controllerRoute argv n
  else return .usage (← (← argv.getIndex 0).usageText)

/-! ### The status of the reply -/

theorem showRoute_status (ctrl x : String) : (showRoute ctrl x).status = 0 := by
  unfold showRoute; split <;> rfl

theorem unitRoute_status (ctrl x : String) : (unitRoute ctrl x).status = 0 := by
  unfold unitRoute; split <;> rfl

theorem route4_status (ctrl : String) (w2 w3 : Json) : (route4 ctrl w2 w3).status = 0 := by
  unfold route4; split
  exacts [showRoute_status _ _, rfl]

theorem route5_status (ctrl : String) (w2 w3 w4 : Json) : (route5 ctrl w2 w3 w4).status = 0 := by
  unfold route5; split
  exacts [unitRoute_status _ _, rfl]

theorem route6_status (ctrl : String) (w2 w3 w4 w5 : Json) :
    (route6 ctrl w2 w3 w4 w5).status = 0 := by
  unfold route6; split <;> rfl

theorem getLast?_of_isPrefixOf {p s : List Char} (hp : p ≠ []) (h : p.isPrefixOf s = true) :
    ∃ c, s.getLast? = some c := by
  obtain ⟨t, rfl⟩ := List.isPrefixOf_iff_prefix.mp h
  exact ⟨_, List.getLast?_eq_getLast (p ++ t) (by simp [hp])⟩

/-- The shapes of an `argv` of strings that the dispatcher does not answer with the usage
message: two or three words, or four to six words whose second starts with `/c`. -/
def acceptedShape : List String → Bool
  | [_, _] | [_, _, _] => true
  | [_, w1, _, _] | [_, w1, _, _, _] | [_, w1, _, _, _, _] => "/c".toList.isPrefixOf w1.toList
  | _ => false

/-- The properties `/cN show X` answers (`storcli_emu.py:504-517`). -/
def showWords : List String :=
  ["perfmode", "bgirate", "ccrate", "rebuildrate", "prrate", "alarm", "all"]

/-- The units `/cN /X show all` answers (`storcli_emu.py:520-525`). -/
def unitWords : List String := ["/bbu", "/cv", "/vall"]

/-- The commands of the storcli command set the emulator answers, by the words of `argv`:
`--version`, `show ctrlcount`, and the controller commands, whose controller word is one that
starts with `/c`, the dispatcher's own test. -/
def supportedCommand : List String → Bool
  | [_, w] => decide (w = "--version")
  | [_, w1, w2] => decide (w1 = "show" ∧ w2 = "ctrlcount")
  | [_, w1, w2, w3] => "/c".toList.isPrefixOf w1.toList && decide (w2 = "show" ∧ w3 ∈ showWords)
  | [_, w1, w2, w3, w4] =>
    "/c".toList.isPrefixOf w1.toList && decide (w2 ∈ unitWords ∧ w3 = "show" ∧ w4 = "all")
  | [_, w1, w2, w3, w4, w5] =>
    "/c".toList.isPrefixOf w1.toList &&
      decide (w2 = "/eall" ∧ w3 = "/sall" ∧ w4 = "show" ∧ w5 = "all")
  | _ => false

theorem showRoute_eq_noOutput (ctrl x : String) : showRoute ctrl x = .noOutput ↔ x ∉ showWords := by
  unfold showRoute; split <;> simp_all [showWords]

theorem unitRoute_eq_noOutput (ctrl x : String) : unitRoute ctrl x = .noOutput ↔ x ∉ unitWords := by
  unfold unitRoute; split <;> simp_all [unitWords]

theorem route4_eq_noOutput (ctrl w2 w3 : String) :
    route4 ctrl (.str w2) (.str w3) = .noOutput ↔ ¬(w2 = "show" ∧ w3 ∈ showWords) := by
  unfold route4; split
  · simp_all [showRoute_eq_noOutput]
  · simp_all

theorem route5_eq_noOutput (ctrl w2 w3 w4 : String) :
    route5 ctrl (.str w2) (.str w3) (.str w4) = .noOutput ↔
      ¬(w2 ∈ unitWords ∧ w3 = "show" ∧ w4 = "all") := by
  unfold route5; split
  · simp_all [unitRoute_eq_noOutput]
  · simp_all

theorem route6_eq_noOutput (ctrl w2 w3 w4 w5 : String) :
    route6 ctrl (.str w2) (.str w3) (.str w4) (.str w5) = .noOutput ↔
      ¬(w2 = "/eall" ∧ w3 = "/sall" ∧ w4 = "show" ∧ w5 = "all") := by
  unfold route6; split <;> simp_all [Json.eqStr]

/-- The reply to every non-empty `argv` of strings: the usage message, naming `argv[0]`, outside
the accepted shapes, and within them a status of `0`, with no output exactly when the words
name no supported command. -/
theorem dispatch_strings (l : List String) (hl : l ≠ []) :
    ∃ r, dispatch (.arr (l.map .str)) = .ok r ∧ (r.status = 0 ↔ acceptedShape l = true) ∧
      (acceptedShape l = false → r = .usage ("Usage: " ++ l.head hl ++ " --version")) ∧
      (r = .noOutput ↔ acceptedShape l = true ∧ supportedCommand l = false) := by
  rcases l with _ | ⟨a, _ | ⟨b, _ | ⟨c, _ | ⟨d, _ | ⟨e, _ | ⟨f, _ | ⟨g, l⟩⟩⟩⟩⟩⟩⟩
  case nil => exact absurd rfl hl
  case cons.nil | cons.cons.cons.cons.cons.cons.cons =>
    exact ⟨_, rfl, by simp [Route.status, acceptedShape], fun _ => rfl, by simp [acceptedShape]⟩
  case cons.cons.nil =>
    refine ⟨_, rfl, ?_⟩
    by_cases hb : b = "--version" <;>
      simp [Json.eqStr, hb, Route.status, acceptedShape, supportedCommand]
  case cons.cons.cons.nil =>
    refine ⟨if b = "show" ∧ c = "ctrlcount" then .ctrlcount else .noOutput, ?_⟩
    by_cases hb : b = "show" <;> by_cases hc : c = "ctrlcount" <;>
      simp [dispatch, Json.pyLen, Json.getIndex, Json.eqStr, hb, hc, bind, Except.bind, pure,
        Except.pure, Route.status, acceptedShape, supportedCommand]
  -- the controller lengths: the prefix test decides between the usage message and a handler
  all_goals
    cases hp : "/c".toList.isPrefixOf b.toList
    · refine ⟨_, by
        simp only [dispatch, Json.pyLen, controllerRoute, Json.getIndex, Json.startsWith, hp,
          Json.usageText, bind, Except.bind, pure, Except.pure, List.map, List.length_cons,
          List.length_nil, List.get?]
        rfl, ?_⟩
      simp only [acceptedShape, supportedCommand, hp, Bool.false_and]
      simp [Route.status]
    · obtain ⟨z, hz⟩ := getLast?_of_isPrefixOf (by decide) hp
      refine ⟨_, by
        simp only [dispatch, Json.pyLen, controllerRoute, Json.getIndex, Json.startsWith, hp,
          Json.lastChar, hz, bind, Except.bind, pure, Except.pure, List.map, List.length_cons,
          List.length_nil, List.get?]
        rfl, ?_⟩
      simp only [acceptedShape, supportedCommand, hp, Bool.true_and]
      simp [route4_status, route5_status, route6_status, route4_eq_noOutput, route5_eq_noOutput,
        route6_eq_noOutput]
/-! ### The controller index -/

theorem toDigitsCore_getLast (b : Nat) : ∀ (f n : Nat) (ds : List Char),
    ∃ l, Nat.toDigitsCore b (f + 1) n ds = l ++ Nat.digitChar (n % b) :: ds
  | 0, n, ds => ⟨[], by simp [Nat.toDigitsCore]⟩
  | f + 1, n, ds => by
    by_cases h : n / b = 0
    · exact ⟨[], by simp [Nat.toDigitsCore, h]⟩
    · obtain ⟨l, hl⟩ := toDigitsCore_getLast b f (n / b) (Nat.digitChar (n % b) :: ds)
      refine ⟨l ++ [Nat.digitChar (n / b % b)], ?_⟩
      rw [Nat.toDigitsCore]
      simp only [h, if_false]
      rw [hl]
      simp

/-- The last character of the decimal numeral of `n` is the digit of `n % 10`. -/
theorem getLast?_repr (n : Nat) :
    (toString n).toList.getLast? = some (Nat.digitChar (n % 10)) := by
  obtain ⟨l, hl⟩ := toDigitsCore_getLast 10 n n []
  show (Nat.toDigits 10 n).getLast? = _
  rw [Nat.toDigits, hl]
  simp

theorem toString_digit {d : Nat} (h : d < 10) :
    toString d = String.singleton (Nat.digitChar d) := by
  show (Nat.toDigits 10 d).asString = _
  simp [Nat.toDigits, Nat.toDigitsCore, Nat.div_eq_of_lt h, Nat.mod_eq_of_lt h]
  rfl

/-- `("/c" + str(n))[-1]` is the last digit of `n`. -/
theorem lastChar_controller (n : Nat) :
    (Json.str ("/c" ++ toString n)).lastChar = .ok (toString (n % 10)) := by
  rw [toString_digit (Nat.mod_lt _ (by norm_num))]
  show (match ("/c".data ++ (toString n).toList).getLast? with
    | some c => Except.ok (String.singleton c) | none => Except.error PyError.indexError) = _
  rw [List.getLast?_append, getLast?_repr]
  rfl

theorem startsWith_append (p s : String) : (Json.str (p ++ s)).startsWith p = .ok true := by
  show Except.ok (p.data.isPrefixOf (p.data ++ s.data)) = _
  rw [List.isPrefixOf_iff_prefix.mpr (List.prefix_append _ _)]

/-- The controller commands of every accepted length, addressed to `/c` and the numeral of
`n`, reach the word comparisons with the last digit of `n` as the controller. -/
theorem dispatch_controller (p : String) (n : Nat) (w2 w3 w4 w5 : Json) :
    dispatch (.arr [.str p, .str ("/c" ++ toString n), w2, w3]) =
      .ok (route4 (toString (n % 10)) w2 w3) ∧
    dispatch (.arr [.str p, .str ("/c" ++ toString n), w2, w3, w4]) =
      .ok (route5 (toString (n % 10)) w2 w3 w4) ∧
    dispatch (.arr [.str p, .str ("/c" ++ toString n), w2, w3, w4, w5]) =
      .ok (route6 (toString (n % 10)) w2 w3 w4 w5) := by
  refine ⟨?_, ?_, ?_⟩ <;>
  simp only [dispatch, Json.pyLen, controllerRoute, Json.getIndex, startsWith_append,
    lastChar_controller, bind, Except.bind, pure, Except.pure, List.length_cons, List.length_nil,
    List.get?] <;> rfl

/-- `/c10 show all` is answered with the information of controller `0`, and `/cx show all`
reaches the handler with the controller `x`. -/
theorem dispatch_last_char :
    dispatch (.arr [.str "storcli64", .str "/c10", .str "show", .str "all"]) =
      .ok (.ctrlInfo "0") ∧
    dispatch (.arr [.str "storcli64", .str "/cx", .str "show", .str "all"]) = .ok (.ctrlInfo "x") :=
  ⟨rfl, rfl⟩

/-! ### The header's controller line -/

/-- The `ctrl_num` argument of `_strcli_header`: its default, the integer `0`, or the
controller string `argv[1][-1]` a handler passes on. -/
inductive CtrlNum where
  | default
  | str (s : String)
  deriving DecidableEq, Repr

/-- `'Controller = {}\n'.format(ctrl_num) if ctrl_num else ''` (`storcli_emu.py:80`): the
integer `0` and the empty string are false, every other string is true. -/
def controllerLine : CtrlNum → String
  | .default => ""
  | .str s => if s = "" then "" else "Controller = " ++ s ++ "\n"

/-- The `ctrl_num` a route's handler passes to `_strcli_header`; `none` for the replies built
without a header. -/
def Route.headerCtrlNum : Route → Option CtrlNum
  | .ctrlcount => some .default
  | .perfMode c | .rateProp c _ | .alarmState c | .ctrlInfo c | .bbu c | .cachevault c
  | .virtDisk c | .physDisks c => some (.str c)
  | _ => none

/-- The headers of a route name the controller `ctrl`, if any. -/
def HeaderNames (ctrl : String) (r : Route) : Prop :=
  ∀ c, r.headerCtrlNum = some (.str c) → c = ctrl

theorem showRoute_headerNames (ctrl x : String) : HeaderNames ctrl (showRoute ctrl x) := by
  unfold showRoute; split <;> simp [HeaderNames, Route.headerCtrlNum, eq_comm]

theorem unitRoute_headerNames (ctrl x : String) : HeaderNames ctrl (unitRoute ctrl x) := by
  unfold unitRoute; split <;> simp [HeaderNames, Route.headerCtrlNum, eq_comm]

theorem Json.lastChar_ok {v : Json} {s : String} (h : v.lastChar = .ok s) :
    ∃ ch, s = String.singleton ch := by
  unfold Json.lastChar at h
  split at h
  · split at h
    · cases h; exact ⟨_, rfl⟩
    · cases h
  · cases h

theorem route4_headerNames (ctrl : String) (w2 w3 : Json) :
    HeaderNames ctrl (route4 ctrl w2 w3) := by
  unfold route4; split
  exacts [showRoute_headerNames _ _, by simp [HeaderNames, Route.headerCtrlNum]]
theorem route5_headerNames (ctrl : String) (w2 w3 w4 : Json) :
    HeaderNames ctrl (route5 ctrl w2 w3 w4) := by
  unfold route5; split
  exacts [unitRoute_headerNames _ _, by simp [HeaderNames, Route.headerCtrlNum]]
theorem route6_headerNames (ctrl : String) (w2 w3 w4 w5 : Json) :
    HeaderNames ctrl (route6 ctrl w2 w3 w4 w5) := by
  unfold route6; split <;> simp [HeaderNames, Route.headerCtrlNum, eq_comm]

/-- The controller a controller command's header names is `argv[1][-1]`. -/
theorem controllerRoute_header {argv : Json} {n : Nat} {r : Route}
    (h : controllerRoute argv n = .ok r) {c : String} (hc : r.headerCtrlNum = some (.str c)) :
    ∃ w1, argv.getIndex 1 = .ok w1 ∧ w1.lastChar = .ok c := by
  simp only [controllerRoute, bind_eq_ok] at h
  obtain ⟨w1, hw1, b, -, h⟩ := h
  cases b
  · simp only [Bool.false_eq_true, if_false, bind_eq_ok, pure, Except.pure, Except.ok.injEq] at h
    obtain ⟨_, -, _, -, rfl⟩ := h
    simp [Route.headerCtrlNum] at hc
  · simp only [if_true, bind_eq_ok] at h
    obtain ⟨ctrl, hctrl, w2, -, w3, -, h⟩ := h
    suffices HeaderNames ctrl r from ⟨w1, hw1, this c hc ▸ hctrl⟩
    split at h
    · cases h; exact route4_headerNames _ _ _
    · simp only [bind_eq_ok, pure, Except.pure, Except.ok.injEq] at h
      obtain ⟨w4, -, rfl⟩ := h
      exact route5_headerNames _ _ _ _
    · simp only [bind_eq_ok, pure, Except.pure, Except.ok.injEq] at h
      obtain ⟨w4, -, w5, -, rfl⟩ := h
      exact route6_headerNames _ _ _ _ _

/-- Every header of a dispatched reply that names a controller names `argv[1][-1]`: the
branches of length two and three route to no controller. -/
theorem dispatch_header {argv : Json} {r : Route} (h : dispatch argv = .ok r) {c : String}
    (hc : r.headerCtrlNum = some (.str c)) :
    ∃ w1, argv.getIndex 1 = .ok w1 ∧ w1.lastChar = .ok c := by
  simp only [dispatch, bind_eq_ok] at h
  obtain ⟨n, -, h⟩ := h
  split_ifs at h
  · simp only [bind_eq_ok, pure, Except.pure, Except.ok.injEq] at h
    obtain ⟨w, -, rfl⟩ := h
    split at hc <;> simp_all [Route.headerCtrlNum]
  · simp only [bind_eq_ok, pure, Except.pure] at h
    obtain ⟨w, -, h⟩ := h
    split at h
    · obtain ⟨w', -, h⟩ := bind_eq_ok.mp h
      cases h
      split at hc <;> simp_all [Route.headerCtrlNum]
    · cases h
      simp [Route.headerCtrlNum] at hc
  · exact controllerRoute_header h hc
  · simp only [bind_eq_ok, pure, Except.pure, Except.ok.injEq] at h
    obtain ⟨_, -, _, -, rfl⟩ := h
    simp [Route.headerCtrlNum] at hc

/-- Every header of a reply to a dispatched message is the controller count's, whose
`ctrl_num` is the default `0` and which has no controller line, or names the controller
`argv[1][-1]`, a one-character string and so true for `if ctrl_num`: the line
`Controller = c` is printed, for controller `0` too. -/
theorem dispatch_controllerLine {argv : Json} {r : Route} (h : dispatch argv = .ok r)
    {n : CtrlNum} (hn : r.headerCtrlNum = some n) :
    (r = .ctrlcount ∧ controllerLine n = "") ∨
      ∃ w1 c, argv.getIndex 1 = .ok w1 ∧ w1.lastChar = .ok c ∧ n = .str c ∧
        controllerLine n = "Controller = " ++ c ++ "\n" := by
  cases n with
  | default =>
    left
    cases r <;> simp_all [Route.headerCtrlNum, controllerLine]
  | str c =>
    right
    obtain ⟨w1, hw1, hc⟩ := dispatch_header h hn
    obtain ⟨ch, rfl⟩ := Json.lastChar_ok hc
    have hne : String.singleton ch ≠ "" := fun h => by simpa using congrArg String.length h
    exact ⟨w1, _, hw1, hc, rfl, by rw [controllerLine, if_neg hne]⟩

/-- `/c0 show all`: the header names controller `0`, the last character of `/c0`. -/
theorem dispatch_controllerLine_c0 :
    dispatch (.arr [.str "storcli64", .str "/c0", .str "show", .str "all"]) =
        .ok (.ctrlInfo "0") ∧
      (Route.ctrlInfo "0").headerCtrlNum = some (.str "0") ∧
      ((Route.ctrlInfo "0" = .ctrlcount ∧ controllerLine (.str "0") = "") ∨
        ∃ w1 c, (Json.arr [.str "storcli64", .str "/c0", .str "show", .str "all"]).getIndex 1 =
            .ok w1 ∧ w1.lastChar = .ok c ∧ CtrlNum.str "0" = .str c ∧
          controllerLine (.str "0") = "Controller = " ++ c ++ "\n") :=
  have h : dispatch (.arr [.str "storcli64", .str "/c0", .str "show", .str "all"]) =
      .ok (.ctrlInfo "0") := rfl
  ⟨h, rfl, dispatch_controllerLine h rfl⟩

end SimEngine
