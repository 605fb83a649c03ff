import MmwaveOs.Config.Store

/-!
# The Configuration Store as a Key-Value Map

What `config` is for, as its usage text puts it: a map from keys to values that `set`,
`delete` and `reset` change and `get` and `list` read, `reset` leaving the standard keys with
their defaults. This module states that map and proves that the directory of `Store` refines
it, one command line at a time and over any sequence of command lines run on one `/config`,
for keys that `config` keeps under their own names and a volume that lets every call through.

## Layout

### The map (§1)
- `KvStore`, the operations `KvOp` and their meaning `KvOp.apply`, runs `KvOp.run`
- `KvOp.argv`, the command line that asks `config` for an operation

### The abstraction (§2)
- `regularKey`: a key of at most 119 bytes that names a file and does not start with `.`
- `view`, the map a directory shows; `config get` of a regular key prints from it

### Refinement (§3, §4)
- `view_configMain`: one command line does to the view what its operation does to the map
- `view_configRun`: so does any sequence of command lines
-/

namespace MmwaveOs

/-! ## §1 The Map -/

/-- A map from keys to values. -/
abbrev KvStore := List UInt8 → Option (List UInt8)

/-- The operations of the usage text. -/
inductive KvOp where
  | list
  | get (key : List UInt8)
  | set (key value : List UInt8)
  | delete (key : List UInt8)
  | reset
  deriving Repr, DecidableEq

/-- What an operation does to the map; `reset` leaves the standard keys and nothing else. -/
def KvOp.apply : KvOp → KvStore → KvStore
  | .set k v, s => fun m => if m = k then some v else s m
  | .delete k, s => fun m => if m = k then none else s m
  | .reset, _ => findFile configDefaults
  | .list, s | .get _, s => s

/-- The operations in turn. -/
def KvOp.run (s : KvStore) (ops : List KvOp) : KvStore :=
  ops.foldl (fun s op => op.apply s) s

/-- The command line that asks `config` for the operation. -/
def KvOp.argv : KvOp → List (List UInt8)
  | .list => [ascii "config", ascii "list"]
  | .get k => [ascii "config", ascii "get", k]
  | .set k v => [ascii "config", ascii "set", k, v]
  | .delete k => [ascii "config", ascii "delete", k]
  | .reset => [ascii "config", ascii "reset"]

/-! ## §2 The Map a Directory Shows -/

/-- A key that `config` keeps under its own name: `make_path` does not cut it, it names a
file, and `list` shows it. -/
def regularKey (k : List UInt8) : Bool :=
  validName k && decide (k.length ≤ 119) && !isDotName k

/-- The keys an operation writes are regular. -/
def KvOp.keysRegular : KvOp → Bool
  | .set k _ | .delete k => regularKey k
  | .list | .get _ | .reset => true

/-- The map a directory shows: the file of each regular key. -/
def view (d : Dir) : KvStore := fun k => if regularKey k then d.find k else none

theorem regularKey_spec {k : List UInt8} (h : regularKey k = true) :
    validName k = true ∧ k.take 119 = k ∧ isDotName k = false := by
  simp only [regularKey, Bool.and_eq_true, decide_eq_true_eq, Bool.not_eq_true'] at h
  exact ⟨h.1.1, List.take_of_length_le h.1.2, h.2⟩

theorem regularKey_iff (k : List UInt8) :
    regularKey k = true ↔ ¬(isDotName k = true ∨ 119 < k.length) ∧ validName k = true := by
  simp only [regularKey, Bool.and_eq_true, decide_eq_true_eq, Bool.not_eq_true', not_or,
    not_lt, Bool.not_eq_true]
  tauto

/-- The standard keys are regular. -/
theorem regularKey_of_configDefaults {m : List UInt8} (h : findFile configDefaults m ≠ none) :
    regularKey m = true := by
  obtain ⟨hkeys, -⟩ := configDefaults_keys
  obtain ⟨kv, hkv, rfl⟩ := List.mem_map.mp (not_not.mp (mt (findFile_eq_none_iff _ m).mpr h))
  obtain ⟨htake, hv, hdot⟩ := hkeys kv hkv
  rw [regularKey_iff, ← htake]
  exact ⟨by simp [isDotName_take, hdot], htake.symm ▸ hv⟩

/-- A regular key's path names the file of its own name. -/
theorem configFile_of_regularKey {k : List UInt8} (h : regularKey k = true) :
    configFile (makePath 128 k) = some k := by
  obtain ⟨hv, htake, -⟩ := regularKey_spec h
  rw [configFile_makePath_of_valid (by rw [htake]; exact hv), htake]

section Commands

variable (strerror : Int → List UInt8)

/-! ## §3 One Command Line -/

/-- `main` dispatches an operation's command line to the operation's function. -/
theorem configMain_argv (d : Dir) (op : KvOp) (e : ConfigEnv) :
    configMain strerror d op.argv e =
      match op with
      | .list => configList strerror d e.opendirErr
      | .get k => configGet d k
      | .set k v => configSet strerror d k v e.set
      | .delete k => configDelete strerror d k e.unlinkErr e.pathErr
      | .reset => configReset strerror d e.opendirErr e.resetUnlinkErr e.resetSet := by
  cases op <;> rfl

/-- A volume that lets every call of a command through; `set` writes `value`, and each
default is written whole. -/
def ConfigEnv.clean (value : List UInt8) : ConfigEnv :=
  ⟨none, SetEnv.clean value, none, 0, fun _ => none,
    fun k => SetEnv.clean ((findFile configDefaults k).getD [])⟩

/-- What the volume must answer for a command to do what its operation does: every call
succeeds, `write` takes the whole value. -/
def KvOp.Succeeds : KvOp → ConfigEnv → Prop
  | .set _ v, e => e.set.openErr = none ∧ e.set.written = v.length
  | .delete _, e => e.unlinkErr = none
  | .reset, e => e.opendirErr = none ∧ (∀ m, e.resetUnlinkErr m = none) ∧
      ∀ kv ∈ configDefaults, (e.resetSet kv.1).openErr = none ∧
        (e.resetSet kv.1).written = kv.2.length
  | .list, _ | .get _, _ => True

theorem configList_dir (d : Dir) (opendirErr : Option Int) :
    (configList strerror d opendirErr).dir = d := by
  cases opendirErr <;> rfl

theorem configGet_dir (d : Dir) (k : List UInt8) : (configGet d k).dir = d := by
  unfold configGet; split <;> rfl

/-- After a `reset` that the volume lets through, the view is the standard keys. -/
theorem view_configReset (d : Dir) (e : ConfigEnv) (he : KvOp.reset.Succeeds e) :
    view (configReset strerror d e.opendirErr e.resetUnlinkErr e.resetSet).dir =
      findFile configDefaults := by
  obtain ⟨hod, hu, hset⟩ := he
  funext m
  rw [hod, view]
  by_cases hm : m ∈ configDefaults.map Prod.fst
  · obtain ⟨kv, hkv, rfl⟩ := List.mem_map.mp hm
    have hk : regularKey kv.1 := regularKey_of_configDefaults (m := kv.1) (by
      rw [Ne, findFile_eq_none_iff, not_not]; exact hm)
    rw [if_pos hk, findFile_of_mem configDefaults_keys.2 hkv]
    exact setDefaults_find_key strerror e.resetSet _
      ⟨resetUnlink e.resetUnlinkErr d d.names, [], [], 0⟩ kv.1 kv.2 kv.1 hkv
      nodup_configDefaults_files (configFile_configDefaults hkv) (hset kv hkv).1 (hset kv hkv).2
  · rw [(findFile_eq_none_iff _ m).mpr hm]
    split_ifs with hk
    · rw [configReset, setDefaults_find_of_ne strerror e.resetSet _ _ m fun kv hkv he =>
        hm (List.mem_map.mpr ⟨kv, hkv, Option.some.inj ((configFile_configDefaults hkv).symm.trans he)⟩),
        resetUnlink_names_find, if_neg]
      rw [regularKey_iff] at hk
      simpa [hu m] using hk.1
    · rfl

/-- **One command line refines one operation.** When the operation's keys are regular and the
volume lets every call through, `config` does to the map its directory shows what the
operation does to a map. -/
theorem view_configMain (d : Dir) (op : KvOp) (e : ConfigEnv) (hk : op.keysRegular = true)
    (he : op.Succeeds e) :
    view (configMain strerror d op.argv e).dir = op.apply (view d) := by
  rw [configMain_argv]
  cases op with
  | list => exact congrArg view (configList_dir strerror d e.opendirErr)
  | get k => exact congrArg view (configGet_dir d k)
  | set k v =>
    replace hk : regularKey k = true := hk
    obtain ⟨ho, hw⟩ := he
    funext m
    simp only [view, KvOp.apply, configSet_find, configFile_of_regularKey hk, Option.some.injEq,
      ho, hw, Int.toNat_natCast, List.take_length, and_true]
    by_cases hm : m = k
    · subst hm; simp [hk]
    · simp [hm, Ne.symm hm]
  | delete k =>
    replace hk : regularKey k = true := hk
    replace he : e.unlinkErr = none := he
    funext m
    simp only [view, KvOp.apply, configDelete_find, configFile_of_regularKey hk,
      Option.some.injEq, he, and_true]
    by_cases hm : m = k
    · subst hm; simp [hk]
    · simp [hm, Ne.symm hm]
  | reset => exact view_configReset strerror d e he

/-! ## §4 A Sequence of Command Lines -/

/-- `config` run once per command line, each with what the volume answers to it, on one
`/config`. -/
def configRun (d : Dir) : List (List (List UInt8) × ConfigEnv) → Dir
  | [] => d
  | (argv, e) :: rest => configRun (configMain strerror d argv e).dir rest

/-- **The store refines the map.** Over every sequence of operations on regular keys that the
volume lets through, the map the directory shows at the end is the map the operations make
of the map it showed at the start. -/
theorem view_configRun (d : Dir) (ops : List (KvOp × ConfigEnv))
    (hok : ∀ p ∈ ops, p.1.keysRegular = true ∧ p.1.Succeeds p.2) :
    view (configRun strerror d (ops.map fun p => (p.1.argv, p.2))) =
      KvOp.run (view d) (ops.map Prod.fst) := by
  induction ops generalizing d with
  | nil => rfl
  | cons p ops ih =>
    obtain ⟨hk, he⟩ := hok p (.head _)
    rw [List.map_cons, configRun, ih _ fun q hq => hok q (.tail _ hq),
      view_configMain strerror d p.1 p.2 hk he]
    rfl

end Commands

/-- A run that sets `ha.port` and then resets `/config`. -/
theorem view_configRun_set_reset :
    (∀ p ∈ [(KvOp.set (ascii "ha.port") (ascii "8123"), ConfigEnv.clean (ascii "8123")),
        (KvOp.reset, ConfigEnv.clean [])], p.1.keysRegular = true ∧ p.1.Succeeds p.2) ∧
    view (configRun (fun _ => []) Dir.empty
        ([(KvOp.set (ascii "ha.port") (ascii "8123"), ConfigEnv.clean (ascii "8123")),
          (KvOp.reset, ConfigEnv.clean [])].map fun p => (p.1.argv, p.2))) =
      KvOp.run (view Dir.empty) [KvOp.set (ascii "ha.port") (ascii "8123"), KvOp.reset] :=
  have h : ∀ p ∈ [(KvOp.set (ascii "ha.port") (ascii "8123"), ConfigEnv.clean (ascii "8123")),
      (KvOp.reset, ConfigEnv.clean [])], p.1.keysRegular = true ∧ p.1.Succeeds p.2 := by
    simp only [List.forall_mem_cons]
    exact ⟨⟨by decide, rfl, rfl⟩, ⟨rfl, rfl, fun _ => rfl, by decide⟩, fun _ h => nomatch h⟩
  ⟨h, view_configRun (fun _ => []) Dir.empty _ h⟩

end MmwaveOs
