import MmwaveOs.Mmwave.Output
import MmwaveOs.Hactl.ConfigFile

/-!
# The Configuration Options of `mmwave`: `apps/mmwave/mmwave_cmd.c`

`-e`, `-s`, `-g`, `-r` and `-f` each hand `mmwave_ioctl` one configuration request and report
what it returned. `-s` and `-g` read `optarg` and the two words after it with `atoi`, cut the
values to the widths of `struct mmwave_sensitivity_s` and `struct mmwave_maxgate_s` with
`(uint8_t)` and `(uint16_t)`, and advance `optind` past the two words; `-e` asks for engineering
mode on exactly when its word is `on`.

Each branch is a step of `main`'s state, run against the driver (`mmwaveIoctl`) with the results
of the driver's three sends as parameters; `getopt` itself, which picks the branch and sets
`optarg`, is NuttX's and not modelled.

## Layout
- §1 `main`'s state and what `ioctl` returns to it
- §2 the branches
-/

namespace MmwaveOs

/-! ## §1 `main`'s State -/

/-- `EINVAL` and `EIO`. -/
def einval : Int := 22

def eio : Int := 5

/-- The value `mmwave_ioctl` returns. -/
def DrvRet.toInt : DrvRet → Int
  | .ok => 0
  | .einval => -MmwaveOs.einval
  | .eio => -MmwaveOs.eio
  | .err code => code

/-- What `ioctl()` returns for the driver's value `r`: `-1`, with `errno` set to `-r`, when
`r` is negative, and `r` otherwise. -/
def ioctlRet (r : Int) : Int := if r < 0 then -1 else r

/-- `(uint8_t)` of an `int`. -/
def castUInt8 (v : Int) : UInt8 := UInt8.ofNat (v % 2 ^ 8).toNat

/-- What the option loop of `main` works on: the driver behind `fd`, the frames the driver has
handed to the UART, `optind`, what `main` has printed on `stdout` and on `stderr`, and `ret`. -/
structure OptState where
  priv : MmwaveDev
  uart : List (List UInt8)
  optind : Nat
  out : List UInt8
  err : List UInt8
  ret : Int

section Branches

variable (strerror : Int → List UInt8) (enter command exit : SendEnv)

/-- `ret = ioctl(...)` and the report of `-e`, `-s` and `-g`: `failed` and `strerror(errno)` on
`stderr` when `ret < 0`, and `done` on `stdout` otherwise. -/
def OptState.afterIoctl (s : OptState) (failed done : List UInt8) :
    MmwaveDev × List (List UInt8) × DrvRet → OptState
  | (priv, frames, r) =>
    let ret := ioctlRet r.toInt
    let s := { s with priv := priv, uart := s.uart ++ frames, ret := ret }
    if ret < 0 then { s with err := s.err ++ failed ++ strerror (-r.toInt) ++ ascii "\n" }
    else { s with out := s.out ++ done }

/-! ## §2 The Branches -/

/-- The branch shape `-s` and `-g` share. With `optind + 1 < argc`, `optarg` and the words
`argv[optind]`, `argv[optind + 1]` go through `atoi` into the request `mkReq` builds, `optind`
moves past the two words, and the request goes to `ioctl`; `done` is the report of success from
the three values. Otherwise the branch prints `missing` and sets `EXIT_FAILURE`. `none` when an
`atoi` is undefined or the driver's run is. -/
def threeWordOpt (missing failed : List UInt8) (mkReq : Int → Int → Int → ConfigReq)
    (done : Int → Int → Int → List UInt8) (argv : List (List UInt8)) (optarg : List UInt8)
    (s : OptState) : Option OptState :=
  if s.optind + 1 ≥ argv.length then some { s with err := s.err ++ missing, ret := 1 }
  else do
    let a ← atoi optarg
    let b ← atoi (← argv[s.optind]?)
    let c ← atoi (← argv[s.optind + 1]?)
    let s := { s with optind := s.optind + 2 }
    (mmwaveIoctl s.priv (mkReq a b c) enter command exit).map
      (s.afterIoctl strerror failed (done a b c))

/-- The `-s` branch: `struct mmwave_sensitivity_s` of the gate and the two thresholds, each cut
to `uint8_t`, sent with `MMWAVE_IOC_SET_SENSITIVITY`. -/
def setSensitivityOpt (argv : List (List UInt8)) (optarg : List UInt8) (s : OptState) :
    Option OptState :=
  threeWordOpt strerror enter command exit
    (ascii "mmwave: -s requires gate, motion, static args\n")
    (ascii "mmwave: set sensitivity failed: ")
    (fun g m t => .setSensitivity (castUInt8 g) (castUInt8 m) (castUInt8 t))
    (fun g m t => ascii "mmwave: gate " ++ dec (castUInt8 g).toNat ++
      ascii " sensitivity set (motion=" ++ dec (castUInt8 m).toNat ++ ascii ", static=" ++
      dec (castUInt8 t).toNat ++ ascii ")\n")
    argv optarg s

/-- The `-g` branch: `struct mmwave_maxgate_s` of the two gates cut to `uint8_t` and the timeout
cut to `uint16_t`, sent with `MMWAVE_IOC_SET_MAXGATE`. -/
def setMaxgateOpt (argv : List (List UInt8)) (optarg : List UInt8) (s : OptState) :
    Option OptState :=
  threeWordOpt strerror enter command exit
    (ascii "mmwave: -g requires motion_max, static_max, timeout args\n")
    (ascii "mmwave: set max gates failed: ")
    (fun m g t => .setMaxgate (castUInt8 m) (castUInt8 g) (castUInt16 t))
    (fun m g t => ascii "mmwave: max gates set (motion=" ++ dec (castUInt8 m).toNat ++
      ascii ", static=" ++ dec (castUInt8 g).toNat ++ ascii ", timeout=" ++
      dec (castUInt16 t).toNat ++ ascii "s)\n")
    argv optarg s

/-- The `-e` branch: `strcmp(optarg, "on") == 0` asks for engineering mode on, any other word
for off. -/
def engModeOpt (optarg : List UInt8) (s : OptState) : Option OptState :=
  let enable := decide (optarg = ascii "on")
  (mmwaveIoctl s.priv (.engMode enable) enter command exit).map
    (s.afterIoctl strerror (ascii "mmwave: engineering mode failed: ")
      (ascii "mmwave: engineering mode " ++ ascii (if enable then "enabled" else "disabled") ++
        ascii "\n"))

/-- The branch shape `-r` and `-f` share: `prefix`, then `ret = ioctl(fd, cmd, 0)` and one of two
words by `ret == 0`, all on `stdout`. -/
def plainOpt (r : ConfigReq) (pre ok failed : String) (s : OptState) : Option OptState :=
  (mmwaveIoctl s.priv r enter command exit).map fun (priv, frames, ret) =>
    let ret := ioctlRet ret.toInt
    { s with priv := priv, uart := s.uart ++ frames, ret := ret,
             out := s.out ++ ascii pre ++ ascii (if ret = 0 then ok else failed) ++ ascii "\n" }

/-- The `-r` branch. -/
def restartOpt (s : OptState) : Option OptState :=
  plainOpt enter command exit .restart "mmwave: " "sensor restarted" "restart failed" s

/-- The `-f` branch: the first half of its line is printed before the `ioctl`. -/
def factoryResetOpt (s : OptState) : Option OptState :=
  plainOpt enter command exit .factoryReset "mmwave: factory reset... " "done" "failed" s

end Branches

end MmwaveOs
