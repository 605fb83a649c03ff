import MmwaveOs.Config.KeyValue

/-!
# `/config`, Shared by `config` and `hactl`

`hactl` keeps its settings in `HA_CONFIG_FILE`, `/config/ha.conf`: a file of the directory in
which `config` keeps one file per key. The keys `ha.url`, `ha.port` and `ha.token` that the
usage text of `config` lists are files of their own, which `ha_load_config` never opens; the
file it opens is the one `config` calls `ha.conf`.

## Layout
- §1 `HA_CONFIG_FILE` as a file of the directory
- §2 every `config` command but `reset` changes at most the file its key names
- §3 what `hactl` loads after `config`
-/

namespace MmwaveOs

/-! ## §1 The File of `hactl` -/

/-- `HA_CONFIG_FILE`. -/
def haConfigFile : List UInt8 := ascii "/config/ha.conf"

/-- The name of `HA_CONFIG_FILE` in `/config`. -/
def haConfName : List UInt8 := ascii "ha.conf"

theorem configFile_haConfigFile : configFile haConfigFile = some haConfName := by decide

/-- What `ha_load_config` makes of the directory, from the configuration `c` loaded before. -/
def hactlLoad (c : HaConfigS) (d : Dir) : Option (HaConfigS × Int) :=
  haLoadConfig c ((configFile haConfigFile).bind d.find)

theorem hactlLoad_eq (c : HaConfigS) (d : Dir) :
    hactlLoad c d = haLoadConfig c (d.find haConfName) := by
  rw [hactlLoad, configFile_haConfigFile]; rfl

section Commands

variable (strerror : Int → List UInt8)

/-! ## §2 What a Command Changes -/

/-- Every `config` command but `reset` changes at most the file that its key's path names,
whatever the volume answers. -/
theorem find_configMain_of_ne (d : Dir) (argv : List (List UInt8)) (e : ConfigEnv)
    (m : List UInt8) (hreset : argv[1]? ≠ some (ascii "reset"))
    (hkey : ∀ key, argv[2]? = some key → configFile (makePath 128 key) ≠ some m) :
    (configMain strerror d argv e).dir.find m = d.find m := by
  match argv with
  | [] | [_] => rw [configMain, configList_dir]
  | _ :: cmd :: args =>
    have hkey' : ∀ key rest, args = key :: rest → configFile (makePath 128 key) ≠ some m :=
      fun key rest h => hkey key (by simp [h])
    unfold configMain
    dsimp only
    split_ifs with hl hg hs hd hr
    · rw [configList_dir]
    · split
      · rw [configGet_dir]
      · rfl
    · split
      · next key value _ =>
        rw [configSet_find, if_neg fun h => hkey' key _ rfl h.1]
      · rfl
    · split
      · next key _ =>
        rw [configDelete_find, if_neg fun h => hkey' key _ rfl h.1]
      · rfl
    · simp [hr] at hreset
    · rfl

/-! ## §3 What `hactl` Loads -/

/-- **`config` does not configure `hactl`.** After any `config` command other than `reset` whose
key's path does not name `ha.conf` (among them every `set` and `delete` of `ha.url`, `ha.port`
and `ha.token`), `hactl` loads what it loaded before, whatever the volume answers. -/
theorem hactlLoad_configMain (c : HaConfigS) (d : Dir) (argv : List (List UInt8))
    (e : ConfigEnv) (hreset : argv[1]? ≠ some (ascii "reset"))
    (hkey : ∀ key, argv[2]? = some key → configFile (makePath 128 key) ≠ some haConfName) :
    hactlLoad c (configMain strerror d argv e).dir = hactlLoad c d := by
  rw [hactlLoad_eq, hactlLoad_eq, find_configMain_of_ne strerror d argv e _ hreset hkey]

/-- `config set ha.url 10.0.0.2` on an empty `/config`. -/
theorem hactlLoad_configMain_set_url :
    [ascii "config", ascii "set", ascii "ha.url", ascii "10.0.0.2"][1]? ≠ some (ascii "reset") ∧
    (∀ key, [ascii "config", ascii "set", ascii "ha.url", ascii "10.0.0.2"][2]? = some key →
      configFile (makePath 128 key) ≠ some haConfName) ∧
    hactlLoad haDefaultConfig (configMain (fun _ => []) Dir.empty
        [ascii "config", ascii "set", ascii "ha.url", ascii "10.0.0.2"]
        (ConfigEnv.clean (ascii "10.0.0.2"))).dir = hactlLoad haDefaultConfig Dir.empty :=
  have hr : [ascii "config", ascii "set", ascii "ha.url", ascii "10.0.0.2"][1]? ≠
      some (ascii "reset") := by decide
  have hk : ∀ key, [ascii "config", ascii "set", ascii "ha.url", ascii "10.0.0.2"][2]? =
      some key → configFile (makePath 128 key) ≠ some haConfName := fun key h => by
    cases h; decide
  ⟨hr, hk, hactlLoad_configMain (fun _ => []) haDefaultConfig Dir.empty _ _ hr hk⟩

/-- With `/config` open, `reset` removes `ha.conf` unless its `unlink` is refused, and no
default writes it. -/
theorem configReset_find_haConfName (d : Dir) (unlinkErr : List UInt8 → Option Int)
    (setEnv : List UInt8 → SetEnv) :
    (configReset strerror d none unlinkErr setEnv).dir.find haConfName =
      if unlinkErr haConfName = none then none else d.find haConfName := by
  have hne : ∀ kv ∈ configDefaults, kv.1 ≠ haConfName := by decide
  rw [configReset, setDefaults_find_of_ne strerror setEnv _ _ _ fun kv hkv h =>
      hne kv hkv (Option.some.inj ((configFile_configDefaults hkv).symm.trans h)),
    resetUnlink_names_find]
  by_cases hu : unlinkErr haConfName = none
  · have hshort : ¬(isDotName haConfName = true ∨ 119 < haConfName.length) := by decide
    rw [if_neg (by simpa [hu] using hshort), if_pos hu]
  · rw [if_pos (Or.inr (Or.inr hu)), if_neg hu]

/-- **`config reset` resets `hactl`.** With `/config` open, `reset` removes `ha.conf` unless its
`unlink` is refused, and no default writes it: `hactl` then loads its defaults and `-ENOENT`,
whatever it loaded before and whatever the default writes answer. -/
theorem hactlLoad_configReset (c : HaConfigS) (d : Dir) (unlinkErr : List UInt8 → Option Int)
    (setEnv : List UInt8 → SetEnv) :
    hactlLoad c (configReset strerror d none unlinkErr setEnv).dir =
      if unlinkErr haConfName = none then some (haDefaultConfig, -enoent) else hactlLoad c d := by
  rw [hactlLoad_eq, hactlLoad_eq, configReset_find_haConfName]
  split_ifs <;> rfl

/-- No `config` command creates a file that no default names, but a `set` whose key names it. -/
theorem find_configMain_of_none (d : Dir) (argv : List (List UInt8)) (e : ConfigEnv)
    {m : List UInt8} (hm : m ∉ configDefaults.map Prod.fst) (hnone : d.find m = none)
    (hset : argv[1]? = some (ascii "set") → ∀ key, argv[2]? = some key →
      configFile (makePath 128 key) ≠ some m) :
    (configMain strerror d argv e).dir.find m = none := by
  match argv with
  | [] | [_] => rw [configMain, configList_dir, hnone]
  | _ :: cmd :: args =>
    unfold configMain
    dsimp only
    split_ifs with hl hg hs hd hr
    · rw [configList_dir, hnone]
    · split
      · rw [configGet_dir, hnone]
      · exact hnone
    · split
      · next key value _ =>
        rw [configSet_find, if_neg fun h => hset (by simp [hs]) key rfl h.1, hnone]
      · exact hnone
    · split
      · rw [configDelete_find]; split_ifs <;> simp [hnone]
      · exact hnone
    · unfold configReset
      split
      · exact hnone
      · rw [setDefaults_find_of_ne strerror _ _ _ m fun kv hkv he => hm (List.mem_map.mpr
          ⟨kv, hkv, Option.some.inj ((configFile_configDefaults hkv).symm.trans he)⟩),
          resetUnlink_names_find]
        split_ifs <;> simp [hnone]
    · exact hnone

end Commands

end MmwaveOs
