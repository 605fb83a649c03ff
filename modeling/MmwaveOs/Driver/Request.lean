import MmwaveOs.Driver.Ioctl

/-!
# One Configuration Request: `mmwave_ioctl`

`mmwave_ioctl` serves a configuration request with three sends: `mmwave_enter_config`, the
request's command and `mmwave_exit_config`. The only argument it checks is the gate of
`SET_SENSITIVITY`; the thresholds and the gates of `SET_MAXGATE` go to the radar as they are.
It returns the error of enter-config when that fails, and otherwise the result of the command:
exit-config runs on a best-effort basis and its result is dropped. `ENG_MODE` sets `eng_mode`
when its command returned `OK`, and nothing touches the reading.

This module runs one request alone, with the results of the three sends as parameters, and
states what it writes and returns (`ioctl_request_outcome`). A caller among others under any
schedule writes exactly what its request writes alone with the results of its own sends
(`ioctl_caller_writes_request`).

## Layout
- §1 the request
- §2 what a request writes and returns
- §3 each caller under any schedule writes its own request
-/

namespace MmwaveOs

/-! ## §1 The Request -/

/-- After the command of `ENG_MODE`, `if (ret == OK) priv->eng_mode = enable;`; the other
requests leave the device as it is. -/
def ConfigReq.afterCommand (r : ConfigReq) (priv : MmwaveDev) (ret : DrvRet) : MmwaveDev :=
  match r with
  | .engMode enable => if ret = .ok then { priv with engMode := enable } else priv
  | _ => priv

/-- `mmwave_ioctl` for a configuration request, run alone: the device after it, the frames
handed to `write` in order, and the return code. `enter`, `command` and `exit` are what
`nxsem_wait` and `write` return for the three sends; `none` when a send reads or writes out of
bounds. -/
def mmwaveIoctl (priv : MmwaveDev) (r : ConfigReq) (enter command exit : SendEnv) :
    Option (MmwaveDev × List (List UInt8) × DrvRet) :=
  if r.admits then do
    let (o₁, ret) ← mmwaveEnterConfig enter.waitRet enter.written
    -- `if (ret < 0) break;`
    if ret ≠ .ok then pure (priv, o₁.toList, ret)
    else do
      let (o₂, ret) ← mmwaveSendCommand r.cmdWord r.data r.datalen command.waitRet
        command.written
      let priv := r.afterCommand priv ret
      let (o₃, _) ← mmwaveExitConfig exit.waitRet exit.written
      pure (priv, o₁.toList ++ o₂.toList ++ o₃.toList, ret)
  else pure (priv, [], .einval)

/-! ## §2 What a Request Writes and Returns -/

/-- Only `eng_mode` can change, only through `ENG_MODE`, and only after its command returned
`OK`. -/
theorem ConfigReq.afterCommand_spec (r : ConfigReq) (priv : MmwaveDev) (ret : DrvRet) :
    r.afterCommand priv ret = { priv with engMode := (r.afterCommand priv ret).engMode } ∧
      ((r.afterCommand priv ret).engMode ≠ priv.engMode →
        ∃ enable, r = .engMode enable ∧ ret = .ok) ∧
      (∀ enable, r = .engMode enable → ret = .ok → (r.afterCommand priv ret).engMode = enable) := by
  cases r with
  | engMode enable =>
    by_cases h : ret = .ok
    · simp [afterCommand, h]
    · simp [afterCommand, h]
  | _ => simp [afterCommand]

/-- An admitted request sends enter-config and, when that returned `OK`, the command and
exit-config; it returns the first result that is not `OK` of the first two. -/
theorem ioctl_of_admits {r : ConfigReq} (ha : r.admits = true) (priv : MmwaveDev)
    (enter command exit : SendEnv) :
    mmwaveIoctl priv r enter command exit =
      some (if sendOutcome enterFrame enter = .ok then
          (r.afterCommand priv (sendOutcome r.frame command),
            [enterFrame] ++ handed r.frame command ++ handed exitFrame exit,
            sendOutcome r.frame command)
        else (priv, handed enterFrame enter, sendOutcome enterFrame enter)) := by
  simp only [mmwaveIoctl, ha, if_true, enterConfig_outcome, ConfigReq.send_outcome,
    exitConfig_outcome, Option.bind_eq_bind, Option.some_bind, toList_sent]
  by_cases he : sendOutcome enterFrame enter = .ok
  · have hw : ¬enter.waitRet < 0 := by have := (sendOutcome_eq_ok.mp he).1; omega
    simp only [he, ne_eq, not_true_eq_false, if_false, if_true, handed, hw]
    rfl
  · simp only [he, ne_eq, not_false_eq_true, if_true, if_false]
    rfl

/-- A request changes at most `eng_mode`. -/
theorem ioctl_changes_engMode_only {priv priv' : MmwaveDev} {r : ConfigReq}
    {enter command exit : SendEnv} {frames : List (List UInt8)} {ret : DrvRet}
    (h : mmwaveIoctl priv r enter command exit = some (priv', frames, ret)) :
    priv' = { priv with engMode := priv'.engMode } := by
  cases ha : r.admits with
  | false =>
    rw [mmwaveIoctl, if_neg (by simp [ha])] at h
    cases h; rfl
  | true =>
    rw [ioctl_of_admits ha] at h
    split_ifs at h
    · cases h; exact (r.afterCommand_spec priv _).1
    · cases h; rfl

/-- **What a configuration request writes and returns.** For every request, every argument and
every result of the three sends: a `SET_SENSITIVITY` whose gate is above 8 returns `-EINVAL`
and writes nothing, and no other argument is checked. An admitted request hands enter-config to
`write`; when that failed it returns its error, and otherwise it hands over the command and then
exit-config and returns the command's result, whatever exit-config did. So `OK` comes exactly
when enter-config and the command were written whole. Only `eng_mode` can change, through
`ENG_MODE` whose command returned `OK`; the reading is never touched. -/
theorem ioctl_request_outcome (priv : MmwaveDev) (r : ConfigReq) (enter command exit : SendEnv) :
    ∃ priv' frames ret, mmwaveIoctl priv r enter command exit = some (priv', frames, ret) ∧
      priv' = { priv with engMode := priv'.engMode } ∧
      (priv'.engMode ≠ priv.engMode → ∃ enable, r = .engMode enable ∧ ret = .ok) ∧
      (∀ enable, r = .engMode enable → ret = .ok → priv'.engMode = enable) ∧
      (ret = .ok ↔ r.admits = true ∧ sendOutcome enterFrame enter = .ok ∧
        sendOutcome r.frame command = .ok) ∧
      (r.admits = false → frames = [] ∧ ret = .einval) ∧
      (r.admits = true → sendOutcome enterFrame enter ≠ .ok →
        frames = handed enterFrame enter ∧ ret = sendOutcome enterFrame enter) ∧
      (r.admits = true → sendOutcome enterFrame enter = .ok →
        frames = [enterFrame] ++ handed r.frame command ++ handed exitFrame exit ∧
          ret = sendOutcome r.frame command) := by
  cases ha : r.admits with
  | false =>
    have h : mmwaveIoctl priv r enter command exit = some (priv, [], .einval) := by
      rw [mmwaveIoctl, if_neg (by simp [ha])]; rfl
    exact ⟨priv, [], .einval, h, rfl, fun h => absurd rfl h, fun _ _ h => (by cases h),
      by simp, fun _ => ⟨rfl, rfl⟩, nofun, nofun⟩
  | true =>
    rw [ioctl_of_admits ha]
    obtain ⟨hp, hm, hs⟩ := r.afterCommand_spec priv (sendOutcome r.frame command)
    by_cases he : sendOutcome enterFrame enter = .ok
    · rw [if_pos he]
      exact ⟨_, _, _, rfl, hp, hm, hs, by simp [he], nofun, fun _ h => absurd he h,
        fun _ _ => ⟨rfl, rfl⟩⟩
    · rw [if_neg he]
      exact ⟨_, _, _, rfl, rfl, fun h => absurd rfl h, fun _ _ h => absurd h he,
        iff_of_false he (fun h => he h.2.1), nofun, fun _ _ => ⟨rfl, rfl⟩, fun _ h => absurd h he⟩

/-- A `SET_SENSITIVITY` with thresholds of 200 and a `SET_MAXGATE` with gates of 20 are sent
and return `OK`; a `RESTART` whose exit-config cannot take `cmd_sem` returns `OK`. -/
theorem ioctl_unchecked_arguments_and_exit :
    (mmwaveIoctl mmwaveLd2410Register (.setSensitivity 0 200 200) ⟨0, 14⟩ ⟨0, 30⟩ ⟨0, 12⟩).map
        (·.2.2) = some .ok ∧
      (mmwaveIoctl mmwaveLd2410Register (.setMaxgate 20 20 5) ⟨0, 14⟩ ⟨0, 30⟩ ⟨0, 12⟩).map
        (·.2.2) = some .ok ∧
      (mmwaveIoctl mmwaveLd2410Register .restart ⟨0, 14⟩ ⟨0, 12⟩ ⟨-4, 0⟩).map
        (fun p => (p.2.1.length, p.2.2)) = some (2, .ok) := by
  refine ⟨rfl, rfl, rfl⟩

/-! ## §3 Each Caller under Any Schedule -/

/-- A caller that has returned stays there, whatever sends follow. -/
theorem foldl_soloStep_done (r : ConfigReq) (es : List SendEnv) (fs : List (List UInt8)) :
    es.foldl (soloStep r) (.done, fs) = (.done, fs) := by
  induction es with
  | nil => rfl
  | cons _ _ ih => exact ih

/-- **A caller alone is `mmwave_ioctl` alone.** Once the sends `es` have taken a caller to its
return, it has written what `mmwave_ioctl` writes with the results `es`, the sends it did not
make taking any results `e₀`. -/
theorem soloRun_done {r : ConfigReq} {es : List SendEnv} {fs : List (List UInt8)}
    (h : soloRun r es = (.done, fs)) (priv : MmwaveDev) (e₀ : SendEnv) :
    (mmwaveIoctl priv r (es.getD 0 e₀) (es.getD 1 e₀) (es.getD 2 e₀)).map (·.2.1) = some fs := by
  obtain _ | ⟨e₁, es⟩ := es
  · cases h
  cases ha : r.admits with
  | false =>
    rw [soloRun, List.foldl_cons, soloStep, if_neg (by simp [ha]), foldl_soloStep_done] at h
    cases h
    rw [mmwaveIoctl, if_neg (by simp [ha])]; rfl
  | true =>
    rw [soloRun, List.foldl_cons, soloStep, if_pos ha] at h
    rw [ioctl_of_admits ha]
    by_cases he : sendOutcome enterFrame e₁ = .ok
    · -- enter-config written whole: the command and exit-config follow
      have hw : ¬e₁.waitRet < 0 := by have := (sendOutcome_eq_ok.mp he).1; omega
      rw [if_pos he, handed, if_neg hw] at h
      obtain _ | ⟨e₂, _ | ⟨e₃, es⟩⟩ := es
      · cases h
      · cases h
      · rw [List.foldl_cons, List.foldl_cons, soloStep, soloStep, foldl_soloStep_done] at h
        cases h
        simp only [List.getD_cons_zero, List.getD_cons_succ, if_pos he]; rfl
    · -- enter-config failed: the caller returns
      rw [if_neg he, foldl_soloStep_done] at h
      cases h
      simp only [List.getD_cons_zero, if_neg he]; rfl

/-- **Each caller writes its whole request.** Under any schedule of any number of configuration
requests, with any results of `nxsem_wait` and `write`, a caller that has returned has written
exactly what `mmwave_ioctl` writes run alone with the results of its own sends: nothing after an
enter-config that failed, and otherwise enter-config, its command and exit-config, each handed
to `write` once its wait on `cmd_sem` succeeded. Only the interleaving with the other callers'
frames is left to the schedule. -/
theorem ioctl_caller_writes_request (reqs : List ConfigReq) (engMode : Bool) (moves : List Move)
    (s : IoctlSys) (hs : ioctlRun (IoctlSys.init reqs engMode) moves = some s) (i : Nat)
    (r : ConfigReq) (hi : s.callers[i]? = some ⟨r, .done⟩) (priv : MmwaveDev) (e₀ : SendEnv) :
    reqs[i]? = some r ∧
      (mmwaveIoctl priv r ((envsOf moves i).getD 0 e₀) ((envsOf moves i).getD 1 e₀)
        ((envsOf moves i).getD 2 e₀)).map (·.2.1) = some (s.framesOf i) := by
  obtain ⟨hreq, hf⟩ := ioctlRun_inv (IoctlInv.init reqs engMode) moves hs
  have hfi := hf i
  rw [hi] at hfi
  exact ⟨by rw [← hreq, List.getElem?_map, hi]; rfl, soloRun_done hfi.symm priv e₀⟩

/-- `RESTART` and `FACTORY_RESET` under the schedule A.enter, B.enter, A.command, A.exit,
B.command, B.exit: `FACTORY_RESET` has written its whole bracket. -/
theorem ioctl_caller_writes_request_interleaved :
    ∃ s, ioctlRun (IoctlSys.init [.restart, .factoryReset] false)
        [⟨0, 0, 14⟩, ⟨1, 0, 14⟩, ⟨0, 0, 12⟩, ⟨0, 0, 12⟩, ⟨1, 0, 12⟩, ⟨1, 0, 12⟩] = some s ∧
      s.callers[1]? = some ⟨.factoryReset, .done⟩ ∧
      ([ConfigReq.restart, .factoryReset][1]? = some .factoryReset ∧
        (mmwaveIoctl mmwaveLd2410Register .factoryReset
          ((envsOf [⟨0, 0, 14⟩, ⟨1, 0, 14⟩, ⟨0, 0, 12⟩, ⟨0, 0, 12⟩, ⟨1, 0, 12⟩, ⟨1, 0, 12⟩] 1).getD
            0 ⟨0, 0⟩)
          ((envsOf [⟨0, 0, 14⟩, ⟨1, 0, 14⟩, ⟨0, 0, 12⟩, ⟨0, 0, 12⟩, ⟨1, 0, 12⟩, ⟨1, 0, 12⟩] 1).getD
            1 ⟨0, 0⟩)
          ((envsOf [⟨0, 0, 14⟩, ⟨1, 0, 14⟩, ⟨0, 0, 12⟩, ⟨0, 0, 12⟩, ⟨1, 0, 12⟩, ⟨1, 0, 12⟩] 1).getD
            2 ⟨0, 0⟩)).map (·.2.1) = some (s.framesOf 1)) :=
  ⟨_, (Option.some_get (by rfl)).symm, rfl,
    ioctl_caller_writes_request _ _ _ _ (Option.some_get _).symm 1 .factoryReset (by rfl) _ _⟩

end MmwaveOs
