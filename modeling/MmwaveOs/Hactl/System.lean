import MmwaveOs.Config.Shared
import MmwaveOs.Hactl.ReportLoop

/-!
# `hactl`, its Reporting Tasks and `/config`: `apps/hactl/hactl_cmd.c`

In a flat build every run of `hactl` and every `ha_report_task` it creates share one copy of
the globals: `g_ha_config`, which every run of `hactl` reloads from `/config/ha.conf` before it
does anything else, and `g_reporting`, which `hactl stop` clears and a task sets once it has
opened the device. The system is the state they share with the directory `/config`
(`HactlSys`), and its events are runs of `hactl` and of `config` and the steps of the tasks, in
any interleaving (`sysRun`).

Two properties of every run:

- `g_reporting` is set only while some task is in its loop (`sysRun_reporting`): the
  `Reporting: ACTIVE` of `hactl status` never shows with no task reporting. The converse does
  not hold: a task that has not yet opened the device sets `g_reporting` after a `stop`.
- A `config reset` that removes `ha.conf`, followed by any `hactl` command but `config`, leaves
  `g_ha_config` at its zeroed defaults while the tasks keep running: from then on every post,
  of the tasks or of `hactl push`, returns `-EINVAL`, until `hactl config` runs or `config set`
  writes `ha.conf` (`configReset_breaks_reporting`).

## Layout
- §1 the shared state, `print_status`, `main` of `hactl`, the steps of a task, and the system
- §2 one lemma per event
- §3 `g_reporting` is set only while a task loops
- §4 a `config reset` leaves the reporting tasks without a host
-/

namespace MmwaveOs

/-! ## §1 The System -/

/-- Where a task that `hactl start` created is: before its `open` of the device, in its loop
with its `prev_state`, or returned. -/
inductive ReportTask
  | opening
  | looping (prev : UInt8)
  | exited
  deriving DecidableEq, Repr

/-- What the runs of `hactl` and its tasks share: `/config`, `g_ha_config`, `g_reporting`, and
the tasks created so far, in the order `hactl start` created them. -/
structure HactlSys where
  dir : Dir
  config : HaConfigS
  reporting : Bool
  tasks : List ReportTask

/-- What the volume, the device, the scheduler and the network answer to one run of `hactl`. -/
structure HactlEnv where
  /-- `errno` of an `fopen` of `HA_CONFIG_FILE` for writing that fails. -/
  saveErr : Option Int
  createOk : Bool
  pushOpenOk : Bool
  /-- What the driver answers to `push`'s `read` of a reading's size. -/
  pushRead : ReadResult
  connectErr : Option Int
  sent : Int
  response : List UInt8
  testSocketOk : Bool
  testConnectOk : Bool

/-- `print_status()`. -/
def printStatus (c : HaConfigS) (reporting : Bool) : List UInt8 :=
  ascii "Home Assistant Connection\n" ++ utf8 "─────────────────────────\n" ++
  ascii "  URL      : " ++ (if c.url = [] then ascii "(not set)" else c.url) ++ ascii "\n" ++
  ascii "  Port     : " ++ dec c.port.toNat ++ ascii "\n" ++
  ascii "  Token    : " ++ ascii (if c.token = [] then "(not set)" else "***configured***") ++
    ascii "\n" ++
  ascii "  Entity   : " ++ haEntityId ++ ascii "\n" ++
  ascii "  Reporting: " ++ ascii (if reporting then "ACTIVE" else "stopped") ++ ascii "\n" ++
  ascii "  Interval : " ++ dec c.reportIntervalMs.toNat ++ ascii " ms\n"

/-- `print_usage()` of `hactl`. -/
def hactlUsage : List UInt8 :=
  ascii "Usage: hactl <command>\n\nCommands:\n" ++
  ascii "  status                Show connection status\n" ++
  ascii "  config <url> <token>  Set HA URL/IP and access token\n" ++
  ascii "  push                  Manually push current state to HA\n" ++
  ascii "  start                 Start auto-reporting task\n" ++
  ascii "  stop                  Stop auto-reporting task\n" ++
  ascii "  test                  Test connectivity to HA\n"

theorem validName_haConfName : validName haConfName = true := by decide

/-- The result of one run of `hactl`: the shared state after it, the post `push` made, `stdout`,
`stderr`, and what `main` returns. -/
structure HactlOut where
  sys : HactlSys
  post : Option (MmwaveData × DrvRet)
  out : List UInt8
  err : List UInt8
  ret : Int

/-- `main(argc, argv)` of `hactl` (`argv` includes the program's name), after
`ha_load_config()`, whose return value it ignores; `none` when the load meets an `atoi` out of
range or `push` reads past `http_buf`. -/
def hactlMain (s : HactlSys) (argv : List (List UInt8)) (e : HactlEnv) : Option HactlOut := do
  let (c, _) ← hactlLoad s.config s.dir
  let s := { s with config := c }
  let done (out err : List UInt8) (ret : Int) : Option HactlOut := some ⟨s, none, out, err, ret⟩
  match argv with
  | [] | [_] => done (printStatus c s.reporting) [] 0
  | _ :: cmd :: args =>
    if cmd = ascii "status" then done (printStatus c s.reporting) [] 0
    else if cmd = ascii "config" then
      match args with
      | url :: token :: _ =>
        let c := (c.setUrl url).setToken token
        match haSaveConfig c e.saveErr with
        | (some file, _) =>
          some ⟨{ s with config := c, dir := s.dir.put haConfName validName_haConfName file },
            none, ascii "hactl: config saved to " ++ haConfigFile ++ ascii "\n", [], 0⟩
        | (none, ret) =>
          some ⟨{ s with config := c }, none, [],
            ascii "hactl: save failed: " ++ decInt ret ++ ascii "\n", 1⟩
      | _ => done [] (ascii "hactl: usage: hactl config <url|ip> <token>\n") 1
    else if cmd = ascii "push" then
      if e.pushOpenOk = false then done [] (ascii "hactl: cannot open sensor\n") 1
      else match e.pushRead with
        | .reading d =>
          (haPostState c.toHaConfig d e.connectErr e.sent e.response).map fun r =>
            ⟨s, some (d, r.2),
              ascii "hactl: pushing state '" ++
                ascii (if d.targetState ≠ ld2410TargetNone then "on" else "off") ++
                ascii "' to HA... " ++ ascii (if r.2 = .ok then "ok\n" else "FAILED\n"),
              [], if r.2 = .ok then 0 else 1⟩
        | _ => done [] (ascii "hactl: no sensor data\n") 1
    else if cmd = ascii "start" then
      if s.reporting then done (ascii "hactl: already reporting\n") [] 0
      else if c.url = [] ∨ c.token = [] then
        done [] (ascii "hactl: run 'hactl config <url> <token>' first\n") 1
      else if e.createOk then some ⟨{ s with tasks := s.tasks ++ [.opening] }, none, [], [], 0⟩
      else done [] (ascii "hactl: failed to start task\n") 1
    else if cmd = ascii "stop" then
      some ⟨{ s with reporting := false }, none, ascii "hactl: stopping...\n", [], 0⟩
    else if cmd = ascii "test" then
      let head := ascii "hactl: testing connection to " ++ c.url ++ ascii ":" ++
        dec c.port.toNat ++ ascii "... "
      if e.testSocketOk = false then done (head ++ ascii "FAILED (socket)\n") [] 1
      else if e.testConnectOk then done (head ++ ascii "OK\n") [] 0
      else done (head ++ ascii "FAILED\n") [] 1
    else done hactlUsage [] 0

/-- Task `i` opens the device: on success it sets `g_reporting` and enters its loop with
`prev_state` at `0xFF`; on failure it returns. `none` when task `i` is not at its `open`. -/
def taskOpen (s : HactlSys) (i : Nat) (ok : Bool) : Option HactlSys :=
  match s.tasks[i]? with
  | some .opening =>
    if ok then some { s with reporting := true, tasks := s.tasks.set i (.looping haReportInitState) }
    else some { s with tasks := s.tasks.set i .exited }
  | _ => none

/-- Task `i` at the test of its loop: it returns when `g_reporting` is clear, and otherwise makes
a pass with what `g_ha_config` holds now. `none` when task `i` is not in its loop or its post
reads past `http_buf`. -/
def taskPass (s : HactlSys) (i : Nat) (p : ReportPass) :
    Option (HactlSys × Option (MmwaveData × DrvRet)) :=
  match s.tasks[i]? with
  | some (.looping prev) =>
    if s.reporting then
      (haReportPass s.config.toHaConfig prev p).map fun r =>
        ({ s with tasks := s.tasks.set i (.looping r.2) }, r.1)
    else some ({ s with tasks := s.tasks.set i .exited }, none)
  | _ => none

/-- An event of the system: a run of `hactl` or of `config`, or a step of a task. -/
inductive SysEv
  | hactl (argv : List (List UInt8)) (env : HactlEnv)
  | config (argv : List (List UInt8)) (env : ConfigEnv)
  | taskOpen (i : Nat) (ok : Bool)
  | taskPass (i : Nat) (p : ReportPass)

section System

variable (strerror : Int → List UInt8)

/-- One event: the state after it, and the posts it made. -/
def sysStep (s : HactlSys) : SysEv → Option (HactlSys × List (MmwaveData × DrvRet))
  | .hactl argv e => (hactlMain s argv e).map fun r => (r.sys, r.post.toList)
  | .config argv e => some ({ s with dir := (configMain strerror s.dir argv e).dir }, [])
  | .taskOpen i ok => (taskOpen s i ok).map fun s => (s, [])
  | .taskPass i p => (taskPass s i p).map fun r => (r.1, r.2.toList)

/-- The events in turn: the state at the end, and the posts made in order. -/
def sysRun (s : HactlSys) : List SysEv → Option (HactlSys × List (MmwaveData × DrvRet))
  | [] => some (s, [])
  | ev :: evs => (sysStep strerror s ev).bind fun r =>
      (sysRun r.1 evs).map fun q => (q.1, r.2 ++ q.2)

end System

/-! ## §2 One Lemma per Event -/

/-- What a run of `hactl` does to the shared state: it loads `g_ha_config`; then `config` sets
the configuration and may write `ha.conf`, `start` may add a task, `stop` clears `g_reporting`,
and only `push` posts, with the configuration it loaded. -/
theorem hactlMain_sys {s : HactlSys} {argv : List (List UInt8)} {e : HactlEnv} {r : HactlOut}
    (h : hactlMain s argv e = some r) :
    ∃ c ret, hactlLoad s.config s.dir = some (c, ret) ∧
      (((r.sys = { s with config := c } ∨ r.sys = { s with config := c, tasks := s.tasks ++ [.opening] } ∨
          r.sys = { s with config := c, reporting := false }) ∧
        ∀ post, r.post = some post → (haPostState c.toHaConfig post.1 e.connectErr e.sent
          e.response).map Prod.snd = some post.2) ∨
      (argv[1]? = some (ascii "config") ∧ r.post = none ∧ r.sys.reporting = s.reporting ∧
        r.sys.tasks = s.tasks)) := by
  unfold hactlMain at h
  obtain ⟨⟨c, ret⟩, hload, h⟩ := Option.bind_eq_some.mp h
  refine ⟨c, ret, hload, ?_⟩
  match argv, h with
  | [], h | [_], h => cases h; exact .inl ⟨.inl rfl, fun _ h => by cases h⟩
  | _ :: cmd :: args, h =>
    dsimp only at h
    by_cases hstatus : cmd = ascii "status"
    · rw [if_pos hstatus] at h; cases h; exact .inl ⟨.inl rfl, fun _ h => by cases h⟩
    rw [if_neg hstatus] at h
    by_cases hconfig : cmd = ascii "config"
    · rw [if_pos hconfig] at h
      refine .inr ⟨by simp [hconfig], ?_⟩
      split at h
      · split at h <;> cases h <;> exact ⟨rfl, rfl, rfl⟩
      · cases h; exact ⟨rfl, rfl, rfl⟩
    rw [if_neg hconfig] at h
    by_cases hpush : cmd = ascii "push"
    · rw [if_pos hpush] at h
      split_ifs at h
      · cases h; exact .inl ⟨.inl rfl, fun _ h => by cases h⟩
      · split at h
        · obtain ⟨x, hx, rfl⟩ := Option.map_eq_some'.mp h
          exact .inl ⟨.inl rfl, fun post hp => by cases hp; rw [hx]; rfl⟩
        · cases h; exact .inl ⟨.inl rfl, fun _ h => by cases h⟩
    rw [if_neg hpush] at h
    by_cases hstart : cmd = ascii "start"
    · rw [if_pos hstart] at h
      split_ifs at h <;> cases h
      · exact .inl ⟨.inl rfl, fun _ h => by cases h⟩
      · exact .inl ⟨.inl rfl, fun _ h => by cases h⟩
      · exact .inl ⟨.inr (.inl rfl), fun _ h => by cases h⟩
      · exact .inl ⟨.inl rfl, fun _ h => by cases h⟩
    rw [if_neg hstart] at h
    by_cases hstop : cmd = ascii "stop"
    · rw [if_pos hstop] at h; cases h
      exact .inl ⟨.inr (.inr rfl), fun _ h => by cases h⟩
    rw [if_neg hstop] at h
    split_ifs at h <;> cases h <;> exact .inl ⟨.inl rfl, fun _ h => by cases h⟩

/-- A run of `hactl` leaves the tasks, or adds one at its `open`, and sets no `g_reporting`. -/
theorem hactlMain_tasks {s : HactlSys} {argv : List (List UInt8)} {e : HactlEnv} {r : HactlOut}
    (h : hactlMain s argv e = some r) :
    (r.sys.tasks = s.tasks ∨ r.sys.tasks = s.tasks ++ [.opening]) ∧
      (r.sys.reporting = true → s.reporting = true) := by
  obtain ⟨c, ret, -, ⟨hs, -⟩ | ⟨-, -, hr, ht⟩⟩ := hactlMain_sys h
  · rcases hs with hs | hs | hs <;> rw [hs]
    · exact ⟨.inl rfl, id⟩
    · exact ⟨.inr rfl, id⟩
    · exact ⟨.inl rfl, fun h => by cases h⟩
  · exact ⟨.inl ht, fun h' => hr ▸ h'⟩

/-- A run of `hactl` other than `config` leaves `/config`, keeps the configuration it loaded, and
a `push` posts with it. -/
theorem hactlMain_of_ne_config {s : HactlSys} {argv : List (List UInt8)} {e : HactlEnv}
    {r : HactlOut} (hcmd : argv[1]? ≠ some (ascii "config")) (h : hactlMain s argv e = some r) :
    r.sys.dir = s.dir ∧ (∃ ret, hactlLoad s.config s.dir = some (r.sys.config, ret)) ∧
      ∀ post, r.post = some post → (haPostState r.sys.config.toHaConfig post.1 e.connectErr
        e.sent e.response).map Prod.snd = some post.2 := by
  obtain ⟨c, ret, hload, ⟨hs, hp⟩ | ⟨hc, -⟩⟩ := hactlMain_sys h
  · have hsys : r.sys.dir = s.dir ∧ r.sys.config = c := by
      rcases hs with hs | hs | hs <;> rw [hs] <;> exact ⟨rfl, rfl⟩
    rw [hsys.2]
    exact ⟨hsys.1, ⟨ret, hload⟩, hp⟩
  · exact absurd hc hcmd

theorem haPostState_of_no_host {cfg : HaConfig} (h : cfg.url = [] ∨ cfg.token = [])
    (d : MmwaveData) (connectErr : Option Int) (sent : Int) (response : List UInt8) :
    haPostState cfg d connectErr sent response = some (none, .einval) := by
  unfold haPostState; rw [if_pos h]


theorem mem_set_of_ne {l : List ReportTask} {i : Nat} {a b c : ReportTask} (ha : a ∈ l)
    (hi : l[i]? = some b) (hne : a ≠ b) : a ∈ l.set i c := by
  obtain ⟨j, hj⟩ := List.mem_iff_getElem?.mp ha
  have hij : i ≠ j := fun h => hne (by subst h; rw [hi] at hj; exact (Option.some.inj hj).symm)
  exact List.mem_iff_getElem?.mpr ⟨j, by rw [List.getElem?_set_ne hij, hj]⟩

theorem mem_set_self {l : List ReportTask} {i : Nat} {b : ReportTask} (hi : l[i]? = some b)
    (c : ReportTask) : c ∈ l.set i c := by
  have hlt : i < l.length := by
    by_contra hge; rw [List.getElem?_eq_none (by omega)] at hi; cases hi
  exact List.mem_iff_getElem?.mpr ⟨i, by rw [List.getElem?_set_self hlt]⟩


/-! ## §3 `g_reporting` Is Set Only While a Task Loops -/

/-- `g_reporting` is set only while some task is in its loop. -/
def ReportingInv (s : HactlSys) : Prop :=
  s.reporting = true → ∃ prev, ReportTask.looping prev ∈ s.tasks

section System

variable (strerror : Int → List UInt8)

theorem sysStep_reportingInv {s : HactlSys} {ev : SysEv} {r : HactlSys × List (MmwaveData × DrvRet)}
    (hs : ReportingInv s) (h : sysStep strerror s ev = some r) : ReportingInv r.1 := by
  cases ev with
  | hactl argv e =>
    obtain ⟨o, ho, rfl⟩ := Option.map_eq_some'.mp h
    obtain ⟨ht, hr⟩ := hactlMain_tasks ho
    intro hrep
    obtain ⟨prev, hp⟩ := hs (hr hrep)
    refine ⟨prev, ?_⟩
    rcases ht with ht | ht <;> rw [ht]
    · exact hp
    · exact List.mem_append_left _ hp
  | config argv e => cases h; exact hs
  | taskOpen i ok =>
    obtain ⟨s', hs', rfl⟩ := Option.map_eq_some'.mp h
    unfold taskOpen at hs'
    split at hs'
    · next hi =>
      split_ifs at hs'
      · cases hs'; exact fun _ => ⟨_, mem_set_self hi _⟩
      · cases hs'
        intro hrep
        obtain ⟨prev, hp⟩ := hs hrep
        exact ⟨prev, mem_set_of_ne hp hi (by simp)⟩
    · cases hs'
  | taskPass i p =>
    obtain ⟨⟨s', post⟩, hs', rfl⟩ := Option.map_eq_some'.mp h
    unfold taskPass at hs'
    split at hs'
    · next prev hi =>
      split_ifs at hs' with hrep
      · obtain ⟨q, -, hq⟩ := Option.map_eq_some'.mp hs'
        cases hq
        exact fun _ => ⟨_, mem_set_self hi _⟩
      · cases hs'; exact fun h' => absurd h' hrep
    · cases hs'

/-- **`g_reporting` is set only while some task is in its loop.** Over every interleaving of runs
of `hactl` and of `config` and steps of the tasks, from a state where this holds (at boot
`g_reporting` is clear), it holds in the state the run ends in. -/
theorem sysRun_reporting (s : HactlSys) (evs : List SysEv)
    (r : HactlSys × List (MmwaveData × DrvRet)) (hs : ReportingInv s)
    (h : sysRun strerror s evs = some r) : ReportingInv r.1 := by
  induction evs generalizing s r with
  | nil => cases h; exact hs
  | cons ev evs ih =>
    obtain ⟨r₁, h₁, h₂⟩ := Option.bind_eq_some.mp h
    obtain ⟨q, hq, rfl⟩ := Option.map_eq_some'.mp h₂
    exact ih r₁.1 q (sysStep_reportingInv strerror hs h₁) hq

end System

/-- A task created at boot opens the device. -/
theorem sysRun_reporting_open :
    ReportingInv ⟨Dir.empty, haDefaultConfig, false, [.opening]⟩ ∧
    sysRun (fun _ => []) ⟨Dir.empty, haDefaultConfig, false, [.opening]⟩ [.taskOpen 0 true] =
      some (⟨Dir.empty, haDefaultConfig, true, [.looping haReportInitState]⟩, []) ∧
    ReportingInv ⟨Dir.empty, haDefaultConfig, true, [.looping haReportInitState]⟩ :=
  have hs : ReportingInv ⟨Dir.empty, haDefaultConfig, false, [.opening]⟩ := fun h => by cases h
  have h : sysRun (fun _ => []) ⟨Dir.empty, haDefaultConfig, false, [.opening]⟩
      [.taskOpen 0 true] =
      some (⟨Dir.empty, haDefaultConfig, true, [.looping haReportInitState]⟩, []) := rfl
  ⟨hs, h, sysRun_reporting (fun _ => []) _ _ _ hs h⟩

/-! ## §4 A `config reset` Leaves the Tasks without a Host -/

/-- `ha.conf` is gone and `g_ha_config` has no host or no token. -/
def NoHost (s : HactlSys) : Prop :=
  s.dir.find haConfName = none ∧ (s.config.url = [] ∨ s.config.token = [])

/-- An event that runs no `hactl config` and lets no `config set` write `ha.conf`. -/
def SysEv.KeepsHost : SysEv → Prop
  | .hactl argv _ => argv[1]? ≠ some (ascii "config")
  | .config argv _ =>
    argv[1]? = some (ascii "set") → ∀ key, argv[2]? = some key →
      configFile (makePath 128 key) ≠ some haConfName
  | .taskOpen _ _ | .taskPass _ _ => True

section System

variable (strerror : Int → List UInt8)

/-- A run of `hactl` but `config` without `ha.conf` zeroes `g_ha_config`, and its `push` posts
`-EINVAL`. -/
theorem sysStep_hactl_of_no_file {s : HactlSys} {argv : List (List UInt8)} {e : HactlEnv}
    {r : HactlSys × List (MmwaveData × DrvRet)} (hfile : s.dir.find haConfName = none)
    (hcmd : argv[1]? ≠ some (ascii "config")) (h : sysStep strerror s (.hactl argv e) = some r) :
    NoHost r.1 ∧ ∀ post ∈ r.2, post.2 = .einval := by
  obtain ⟨o, ho, rfl⟩ := Option.map_eq_some'.mp h
  obtain ⟨hdir, ⟨ret, hload⟩, hpost⟩ := hactlMain_of_ne_config hcmd ho
  rw [hactlLoad_eq, hfile, haLoadConfig, Option.some.injEq, Prod.mk.injEq] at hload
  have hhost : o.sys.config.url = [] ∨ o.sys.config.token = [] := .inl (by rw [← hload.1]; rfl)
  refine ⟨⟨by rw [hdir]; exact hfile, hhost⟩, fun post hmem => ?_⟩
  have hx := hpost post (Option.mem_toList.mp hmem)
  rw [haPostState_of_no_host hhost, Option.map_some', Option.some.injEq] at hx
  exact hx.symm

theorem sysStep_noHost {s : HactlSys} {ev : SysEv} {r : HactlSys × List (MmwaveData × DrvRet)}
    (hs : NoHost s) (hev : ev.KeepsHost) (h : sysStep strerror s ev = some r) :
    NoHost r.1 ∧ ∀ post ∈ r.2, post.2 = .einval := by
  obtain ⟨hfile, hhost⟩ := hs
  cases ev with
  | hactl argv e => exact sysStep_hactl_of_no_file strerror hfile hev h
  | config argv e =>
    cases h
    exact ⟨⟨find_configMain_of_none strerror s.dir argv e (by decide) hfile hev, hhost⟩,
      fun _ h => nomatch h⟩
  | taskOpen i ok =>
    obtain ⟨s', hs', rfl⟩ := Option.map_eq_some'.mp h
    unfold taskOpen at hs'
    split at hs'
    · split_ifs at hs' <;> cases hs' <;> exact ⟨⟨hfile, hhost⟩, fun _ h => nomatch h⟩
    · cases hs'
  | taskPass i p =>
    obtain ⟨⟨s', post⟩, hs', rfl⟩ := Option.map_eq_some'.mp h
    unfold taskPass at hs'
    split at hs'
    · split_ifs at hs'
      · obtain ⟨⟨post', prev'⟩, hq, hq'⟩ := Option.map_eq_some'.mp hs'
        cases hq'
        refine ⟨⟨hfile, hhost⟩, fun post hmem => ?_⟩
        cases post' with
        | none => simp at hmem
        | some x =>
          obtain ⟨d, ret⟩ := x
          simp only [Option.toList_some, List.mem_singleton] at hmem
          subst hmem
          obtain ⟨-, y, hy, hy2⟩ := haReportPass_post hq
          rw [haPostState_of_no_host hhost] at hy
          cases hy; exact hy2.symm
      · cases hs'; exact ⟨⟨hfile, hhost⟩, fun _ h => nomatch h⟩
    · cases hs'

theorem sysRun_noHost (s : HactlSys) (evs : List SysEv) (r : HactlSys × List (MmwaveData × DrvRet))
    (hs : NoHost s) (hev : ∀ ev ∈ evs, ev.KeepsHost) (h : sysRun strerror s evs = some r) :
    NoHost r.1 ∧ ∀ post ∈ r.2, post.2 = .einval := by
  induction evs generalizing s r with
  | nil => cases h; exact ⟨hs, fun _ h => nomatch h⟩
  | cons ev evs ih =>
    obtain ⟨r₁, h₁, h₂⟩ := Option.bind_eq_some.mp h
    obtain ⟨q, hq, rfl⟩ := Option.map_eq_some'.mp h₂
    obtain ⟨hs₁, hp₁⟩ := sysStep_noHost strerror hs (hev ev (.head _)) h₁
    obtain ⟨hs₂, hp₂⟩ := ih r₁.1 q hs₁ (fun ev h => hev ev (.tail _ h)) hq
    exact ⟨hs₂, fun post hmem => (List.mem_append.mp hmem).elim (hp₁ post) (hp₂ post)⟩

/-- **A `config reset` leaves the reporting tasks without a host.** From any state of the
system, a `config reset` that opens `/config` and whose `unlink` of `ha.conf` is not refused,
followed by any run of `hactl` but `config` (`status` will do), zeroes `g_ha_config` while the
tasks keep running: every post made from then on, by a task or by `hactl push`, returns
`-EINVAL`, for as long as no `hactl config` runs and no `config set` writes `ha.conf`. -/
theorem configReset_breaks_reporting (s : HactlSys) (ce : ConfigEnv)
    (hod : ce.opendirErr = none) (hu : ce.resetUnlinkErr haConfName = none)
    (argv : List (List UInt8)) (he : HactlEnv) (hcmd : argv[1]? ≠ some (ascii "config"))
    (evs : List SysEv) (hev : ∀ ev ∈ evs, ev.KeepsHost) (r : HactlSys × List (MmwaveData × DrvRet))
    (h : sysRun strerror s (.config KvOp.reset.argv ce :: .hactl argv he :: evs) = some r) :
    NoHost r.1 ∧ ∀ post ∈ r.2, post.2 = .einval := by
  obtain ⟨r₁, h₁, h'⟩ := Option.bind_eq_some.mp h
  obtain ⟨q₁, hq₁, rfl⟩ := Option.map_eq_some'.mp h'
  cases h₁
  have hfile : (configMain strerror s.dir KvOp.reset.argv ce).dir.find haConfName = none := by
    simp only [configMain_argv, hod, configReset_find_haConfName, hu, if_true]
  obtain ⟨r₂, h₂, h''⟩ := Option.bind_eq_some.mp hq₁
  obtain ⟨q₂, hq₂, rfl⟩ := Option.map_eq_some'.mp h''
  obtain ⟨hs₂, hp₂⟩ := sysStep_hactl_of_no_file strerror hfile hcmd h₂
  obtain ⟨hs, hp⟩ := sysRun_noHost strerror _ evs q₂ hs₂ hev hq₂
  refine ⟨hs, fun post hmem => ?_⟩
  rw [List.nil_append, List.mem_append] at hmem
  exact hmem.elim (hp₂ post) (hp post)

end System

/-- A reporting task, then `config reset`, `hactl status` and a pass of the task. -/
theorem configReset_breaks_reporting_status :
    ∃ r, sysRun (fun _ => []) ⟨Dir.empty, haDefaultConfig, true, [.looping 1]⟩
        [.config KvOp.reset.argv (ConfigEnv.clean []),
          .hactl [ascii "hactl", ascii "status"] ⟨none, false, false, .notReady, none, 0, [], false, false⟩,
          .taskPass 0 ⟨.reading ⟨0, 0, 0, 0, 0, 0, 0⟩, none, 0, []⟩] = some r ∧
      NoHost r.1 ∧ ∀ post ∈ r.2, post.2 = .einval := by
  obtain ⟨r, hr⟩ := Option.isSome_iff_exists.mp (rfl : (sysRun (fun _ => [])
    ⟨Dir.empty, haDefaultConfig, true, [.looping 1]⟩
    [.config KvOp.reset.argv (ConfigEnv.clean []),
      .hactl [ascii "hactl", ascii "status"] ⟨none, false, false, .notReady, none, 0, [], false, false⟩,
      .taskPass 0 ⟨.reading ⟨0, 0, 0, 0, 0, 0, 0⟩, none, 0, []⟩]).isSome = true)
  exact ⟨r, hr, configReset_breaks_reporting (fun _ => []) _ _ rfl rfl _ _ (by decide) _
    (fun ev hev => by simp only [List.mem_singleton] at hev; subst hev; trivial) _ hr⟩


end MmwaveOs
