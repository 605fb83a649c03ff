import MmwaveOs.Driver.Command

/-!
# Concurrent Configuration Requests: `mmwave_ioctl`

A configuration request of `mmwave_ioctl` makes three sends: `mmwave_enter_config`, the
request's command and `mmwave_exit_config`. Each send takes `cmd_sem` for itself, so a send is
atomic, but no lock spans the three. The model runs any number of callers under any schedule:
a step is one caller's next send, and the schedule also chooses what `nxsem_wait` and `write`
return for it. Each caller, seen alone, is where its own sends would take it had it run alone,
and has written what they alone would write (`ioctlRun_inv`): the schedule decides only how the
callers' frames interleave on the UART. They do interleave: a command can be written after
another caller's exit-config has closed configuration mode (`ioctl_brackets_interleave`).

## Layout
- §1 the requests, what one send writes and returns, the callers' phases, one step and a run
- §2 one caller alone, and each caller under any schedule
- §3 an interleaving of two brackets
-/

namespace MmwaveOs

/-! ## §1 Callers and Steps -/

/-- The configuration requests of `mmwave_ioctl` with their arguments. -/
inductive ConfigReq
  | setSensitivity (gate motionThreshold staticThreshold : UInt8)
  | setMaxgate (maxMotionGate maxStaticGate : UInt8) (timeoutS : UInt16)
  | engMode (enable : Bool)
  | restart
  | factoryReset
  deriving DecidableEq, Repr

namespace ConfigReq

/-- `sens->gate >= LD2410_MAX_GATES` rejects `SET_SENSITIVITY` before any send. -/
def admits : ConfigReq → Bool
  | setSensitivity gate _ _ => gate.toNat < ld2410MaxGates
  | _ => true

/-- The command word the request sends. -/
def cmdWord : ConfigReq → UInt16
  | setSensitivity .. => ld2410CmdSetSensitivity
  | setMaxgate .. => ld2410CmdSetMaxgate
  | engMode true => ld2410CmdEngModeOn
  | engMode false => ld2410CmdEngModeOff
  | restart => ld2410CmdRestart
  | factoryReset => ld2410CmdFactoryReset

/-- The command data the request sends: its `uint8_t data[18]`, or `NULL`. -/
def data : ConfigReq → Option (List UInt8)
  | setSensitivity gate motionVal staticVal =>
    some [0x00, 0x00, gate, 0x00, 0x00, 0x00, 0x01, 0x00, motionVal, 0x00, 0x00, 0x00,
      0x02, 0x00, staticVal, 0x00, 0x00, 0x00]
  | setMaxgate motionGate staticGate timeout =>
    some [0x00, 0x00, motionGate, 0x00, 0x00, 0x00, 0x01, 0x00, staticGate, 0x00, 0x00, 0x00,
      0x02, 0x00, (timeout &&& 0xFF).toUInt8, ((timeout >>> 8) &&& 0xFF).toUInt8, 0x00, 0x00]
  | _ => none

/-- The length passed with the data: `sizeof(data)`, or 0. -/
def datalen : ConfigReq → UInt16
  | setSensitivity .. | setMaxgate .. => 18
  | _ => 0

theorem length_data_le (r : ConfigReq) : (r.data.getD []).length ≤ 52 := by
  cases r <;> simp [data]

/-- The bytes of the command frame the request writes. -/
def frame (r : ConfigReq) : List UInt8 := (cmdFrame r.cmdWord (r.data.getD []) r.length_data_le).bytes

/-- The request's send hands its frame to `write` once the wait on `cmd_sem` succeeded, and
returns `sendOutcome` of that frame. -/
theorem send_outcome (r : ConfigReq) (e : SendEnv) :
    mmwaveSendCommand r.cmdWord r.data r.datalen e.waitRet e.written =
      some (if e.waitRet < 0 then none else some r.frame, sendOutcome r.frame e) := by
  have key : mmwaveSendCommand r.cmdWord r.data r.datalen e.waitRet e.written =
      mmwaveSendCommand r.cmdWord (some (r.data.getD []))
        (UInt16.ofNat (r.data.getD []).length) e.waitRet e.written := by
    cases r <;> rfl
  rw [key]; exact sendCommand_outcome _ _ r.length_data_le e

end ConfigReq

/-- The bytes `mmwave_enter_config` writes. -/
def enterFrame : List UInt8 := (cmdFrame ld2410CmdEnableConfig [0x01, 0x00] (by decide)).bytes

/-- The bytes `mmwave_exit_config` writes. -/
def exitFrame : List UInt8 := (cmdFrame ld2410CmdDisableConfig [] (by decide)).bytes

theorem enterConfig_outcome (e : SendEnv) :
    mmwaveEnterConfig e.waitRet e.written =
      some (if e.waitRet < 0 then none else some enterFrame, sendOutcome enterFrame e) :=
  sendCommand_outcome _ [0x01, 0x00] (by decide) e

theorem exitConfig_outcome (e : SendEnv) :
    mmwaveExitConfig e.waitRet e.written =
      some (if e.waitRet < 0 then none else some exitFrame, sendOutcome exitFrame e) :=
  (sendCommand_none_data _ _ _).trans (sendCommand_outcome _ [] (by decide) e)

/-- The frames a send hands to `write`: its frame, once the wait on `cmd_sem` succeeded. -/
def handed (frame : List UInt8) (e : SendEnv) : List (List UInt8) :=
  if e.waitRet < 0 then [] else [frame]

theorem toList_sent (frame : List UInt8) (e : SendEnv) :
    (if e.waitRet < 0 then none else some frame).toList = handed frame e := by
  unfold handed; split_ifs <;> rfl

/-- Where a caller is in `mmwave_ioctl`: before `mmwave_enter_config`, before its command,
before `mmwave_exit_config`, or returned. -/
inductive Phase
  | enter
  | command
  | exit
  | done
  deriving DecidableEq, Repr

/-- A caller of `mmwave_ioctl`: its request and where it is. -/
structure Caller where
  req : ConfigReq
  phase : Phase

/-- The callers, the device's `eng_mode`, and the UART: the frames written, each with the
index of the caller that wrote it. -/
structure IoctlSys where
  callers : List Caller
  engMode : Bool
  uart : List (Nat × List UInt8)

namespace IoctlSys

/-- Callers with the given requests, none of them started, and nothing written. -/
def init (reqs : List ConfigReq) (engMode : Bool) : IoctlSys :=
  ⟨reqs.map fun r => ⟨r, .enter⟩, engMode, []⟩

/-- The bytes a send of caller `i` hands to `write`, if any, appended to the UART. -/
def emit (s : IoctlSys) (i : Nat) : Option (List UInt8) → IoctlSys
  | some f => { s with uart := s.uart ++ [(i, f)] }
  | none => s

/-- Caller `i`, whose record is `c`, moves to phase `p`. -/
def moveTo (s : IoctlSys) (i : Nat) (c : Caller) (p : Phase) : IoctlSys :=
  { s with callers := s.callers.set i { c with phase := p } }

/-- The frames caller `i` wrote, in order. -/
def framesOf (s : IoctlSys) (i : Nat) : List (List UInt8) :=
  (s.uart.filter fun e => e.1 == i).map Prod.snd

end IoctlSys

/-- Caller `i` takes its next step of `mmwave_ioctl`, one send, for which `nxsem_wait(&cmd_sem)`
returns `waitRet` and `write` returns `written`; `none` when there is no caller `i` or it has
returned. -/
def ioctlStep (s : IoctlSys) (i : Nat) (waitRet written : Int) : Option IoctlSys := do
  let c ← s.callers[i]?
  match c.phase with
  | .enter =>
    if c.req.admits then do
      let (out, ret) ← mmwaveEnterConfig waitRet written
      pure ((s.emit i out).moveTo i c (if ret = .ok then .command else .done))
    else pure (s.moveTo i c .done)
  | .command => do
    let (out, ret) ← mmwaveSendCommand c.req.cmdWord c.req.data c.req.datalen waitRet written
    let s := (s.emit i out).moveTo i c .exit
    pure (match c.req with
      | .engMode enable => if ret = .ok then { s with engMode := enable } else s
      | _ => s)
  | .exit => do
    let (out, _) ← mmwaveExitConfig waitRet written
    pure ((s.emit i out).moveTo i c .done)
  | .done => none

/-- One step of a schedule: the caller that moves, and what `nxsem_wait` and `write` return for
its send. -/
structure Move where
  caller : Nat
  waitRet : Int
  written : Int

/-- The callers run under a schedule; `none` when the schedule moves a caller that cannot. -/
def ioctlRun (s : IoctlSys) : List Move → Option IoctlSys
  | [] => some s
  | m :: ms => (ioctlStep s m.caller m.waitRet m.written).bind fun s => ioctlRun s ms

/-! ## §2 One Caller Alone, and Each Caller under Any Schedule -/

/-- One send of a caller with request `r`, run alone: where it goes from where it is, and the
frames it has written after the send. -/
def soloStep (r : ConfigReq) : Phase × List (List UInt8) → SendEnv → Phase × List (List UInt8)
  | (.enter, fs), e =>
    if r.admits then
      (if sendOutcome enterFrame e = .ok then .command else .done, fs ++ handed enterFrame e)
    else (.done, fs)
  | (.command, fs), e => (.exit, fs ++ handed r.frame e)
  | (.exit, fs), e => (.done, fs ++ handed exitFrame e)
  | (.done, fs), _ => (.done, fs)

/-- A caller with request `r` run alone from before `mmwave_enter_config` through the sends
whose results are `es`. -/
def soloRun (r : ConfigReq) (es : List SendEnv) : Phase × List (List UInt8) :=
  es.foldl (soloStep r) (.enter, [])

/-- What `nxsem_wait` and `write` returned for the sends of caller `i` in a schedule, in
order. -/
def envsOf (moves : List Move) (i : Nat) : List SendEnv :=
  (moves.filter fun m => m.caller = i).map fun m => ⟨m.waitRet, m.written⟩

theorem envsOf_append_singleton (moves : List Move) (m : Move) (j : Nat) :
    envsOf (moves ++ [m]) j =
      envsOf moves j ++ if m.caller = j then [⟨m.waitRet, m.written⟩] else [] := by
  by_cases hj : m.caller = j <;> simp [envsOf, List.filter_append, hj]

namespace IoctlSys

theorem framesOf_emit (s : IoctlSys) (i j : Nat) (out : Option (List UInt8)) :
    (s.emit i out).framesOf j = s.framesOf j ++ if j = i then out.toList else [] := by
  cases out with
  | none => simp [emit]
  | some f =>
    by_cases hj : j = i
    · subst hj; simp [emit, framesOf, List.filter_append]
    · simp [emit, framesOf, List.filter_append, hj, Ne.symm hj]

@[simp] theorem callers_emit (s : IoctlSys) (i : Nat) (out : Option (List UInt8)) :
    (s.emit i out).callers = s.callers := by
  cases out <;> rfl

theorem callers_moveTo {s : IoctlSys} {i : Nat} {c : Caller} (hc : s.callers[i]? = some c)
    (p : Phase) (j : Nat) :
    (s.moveTo i c p).callers[j]? = if j = i then some { c with phase := p } else s.callers[j]? := by
  have hi : i < s.callers.length := (List.getElem?_eq_some_iff.mp hc).1
  simp only [moveTo, List.getElem?_set]
  by_cases hj : j = i
  · simp [hj, hi]
  · simp [hj, Ne.symm hj]

end IoctlSys

/-- Under the schedule `moves` so far, the callers keep the requests `reqs`; each caller is
where its own sends would take it run alone, and has written what they alone would write; no
frame is written under a caller that does not exist. -/
def IoctlInv (reqs : List ConfigReq) (moves : List Move) (s : IoctlSys) : Prop :=
  s.callers.map Caller.req = reqs ∧
    ∀ i, match s.callers[i]? with
      | some c => (c.phase, s.framesOf i) = soloRun c.req (envsOf moves i)
      | none => s.framesOf i = []

theorem IoctlInv.init (reqs : List ConfigReq) (engMode : Bool) :
    IoctlInv reqs [] (IoctlSys.init reqs engMode) := by
  refine ⟨by simp [IoctlSys.init, Function.comp_def], fun i => ?_⟩
  simp only [IoctlSys.init, List.getElem?_map]
  cases reqs[i]? <;> rfl

/-- A move `m` of caller `i` that writes `out` and moves it to `p` keeps the invariant when
that is what the caller's send does alone. -/
theorem IoctlInv.emit_moveTo {reqs : List ConfigReq} {moves : List Move} {s : IoctlSys}
    {c : Caller} {m : Move} (h : IoctlInv reqs moves s) (hc : s.callers[m.caller]? = some c)
    (out : Option (List UInt8)) (p : Phase)
    (hp : soloStep c.req (c.phase, s.framesOf m.caller) ⟨m.waitRet, m.written⟩ =
      (p, s.framesOf m.caller ++ out.toList)) :
    IoctlInv reqs (moves ++ [m]) ((s.emit m.caller out).moveTo m.caller c p) := by
  have hc' : (s.emit m.caller out).callers[m.caller]? = some c := by
    rw [IoctlSys.callers_emit]; exact hc
  refine ⟨?_, fun j => ?_⟩
  · obtain ⟨hi, hci⟩ := List.getElem?_eq_some_iff.mp hc
    rw [← h.1]
    simp only [IoctlSys.moveTo, IoctlSys.callers_emit, List.map_set]
    apply List.ext_getElem?; intro j
    by_cases hj : m.caller = j
    · subst hj; simp [List.getElem?_set, hi, hci]
    · simp [List.getElem?_set, hj]
  · rw [IoctlSys.callers_moveTo hc', show ((s.emit m.caller out).moveTo m.caller c p).framesOf j =
      (s.emit m.caller out).framesOf j from rfl, IoctlSys.framesOf_emit, envsOf_append_singleton]
    by_cases hj : j = m.caller
    · subst hj
      have hi := h.2 m.caller
      rw [hc] at hi
      simp only [if_true, soloRun, List.foldl_append, List.foldl_cons, List.foldl_nil]
      rw [← soloRun, ← hi, hp]
    · simpa [hj, Ne.symm hj] using h.2 j

/-- `eng_mode` plays no part in the invariant. -/
theorem IoctlInv.setEngMode {reqs : List ConfigReq} {moves : List Move} {s : IoctlSys}
    (h : IoctlInv reqs moves s) (e : Bool) : IoctlInv reqs moves { s with engMode := e } := h

/-- **One step.** A move of any caller does to it what its send does alone, and to no other
caller anything. -/
theorem ioctlStep_inv {reqs : List ConfigReq} {moves : List Move} {s s' : IoctlSys} {m : Move}
    (h : IoctlInv reqs moves s) (hs : ioctlStep s m.caller m.waitRet m.written = some s') :
    IoctlInv reqs (moves ++ [m]) s' := by
  unfold ioctlStep at hs
  cases hc : s.callers[m.caller]? with
  | none => simp [hc] at hs
  | some c =>
    simp only [hc, Option.bind_eq_bind, Option.some_bind] at hs
    cases hp : c.phase with
    | enter =>
      simp only [hp] at hs
      split_ifs at hs with ha
      · simp only [enterConfig_outcome (⟨m.waitRet, m.written⟩ : SendEnv), Option.some_bind,
          pure, Option.some.injEq] at hs
        subst hs
        exact h.emit_moveTo hc _ _ (by rw [hp, soloStep, if_pos ha, handed]; split_ifs <;> rfl)
      · simp only [pure, Option.some.injEq] at hs
        subst hs
        exact h.emit_moveTo hc none .done (by rw [hp, soloStep, if_neg ha]; simp)
    | command =>
      simp only [hp] at hs
      simp only [c.req.send_outcome ⟨m.waitRet, m.written⟩, Option.some_bind, pure,
        Option.some.injEq] at hs
      have key := h.emit_moveTo hc _ .exit (by rw [hp, soloStep, toList_sent])
      subst hs
      split
      · split
        · exact key.setEngMode _
        · exact key
      · exact key
    | exit =>
      simp only [hp] at hs
      simp only [exitConfig_outcome ⟨m.waitRet, m.written⟩, Option.some_bind, pure,
        Option.some.injEq] at hs
      subst hs
      exact h.emit_moveTo hc _ _ (by rw [hp, soloStep, handed]; split_ifs <;> rfl)
    | done => simp [hp] at hs

/-- **Each caller under any schedule.** Every schedule keeps the invariant: each caller is
where its own sends alone would take it and has written what they alone would write. -/
theorem ioctlRun_inv {reqs : List ConfigReq} {past : List Move} {s s' : IoctlSys}
    (h : IoctlInv reqs past s) (moves : List Move) (hs : ioctlRun s moves = some s') :
    IoctlInv reqs (past ++ moves) s' := by
  induction moves generalizing s past with
  | nil => cases hs; simpa using h
  | cons m ms ih =>
    simp only [ioctlRun, Option.bind_eq_some] at hs
    obtain ⟨s₁, h₁, hs⟩ := hs
    simpa using ih (ioctlStep_inv h h₁) hs

/-! ## §3 Two Brackets Interleaved -/

/-- Two callers, `RESTART` and `FACTORY_RESET`, under the schedule A.enter, B.enter, A.command,
A.exit, B.command, B.exit with every send succeeding: the UART gets two enter-configs in a row,
and B's command is written after A's exit-config has closed configuration mode. -/
theorem ioctl_brackets_interleave :
    (ioctlRun (IoctlSys.init [.restart, .factoryReset] false)
      [⟨0, 0, 14⟩, ⟨1, 0, 14⟩, ⟨0, 0, 12⟩, ⟨0, 0, 12⟩, ⟨1, 0, 12⟩, ⟨1, 0, 12⟩]).map
        IoctlSys.uart =
      some [(0, enterFrame), (1, enterFrame), (0, ConfigReq.restart.frame), (0, exitFrame),
        (1, ConfigReq.factoryReset.frame), (1, exitFrame)] := by
  rfl

end MmwaveOs
