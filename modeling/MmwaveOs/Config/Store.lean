import MmwaveOs.Hactl.ConfigFile

/-!
# The Configuration Store: `apps/config/config_cmd.c`

`config` keeps one file per key in the LittleFS directory `/config`. Every command builds the
file's path with `make_path`, a `snprintf` of `"/config/%s"` into a 128-byte buffer, so a key is
cut to its first 119 bytes. `set` opens the file with `O_TRUNC` and writes the value, `get` reads
at most 255 bytes of it back, `delete` unlinks it, `list` shows every file whose name does not
start with `.`, and `reset` unlinks those and writes nine defaults.

The directory is modelled as its files in the order `readdir` gives them, with no name twice
(`Dir`). Past `/config/`, LittleFS, which the board mounts there, walks the rest of a path
itself: it skips empty segments and `.`, and a `..` cancels the name before it (at the volume's
root it stays there). A path names a file of `/config` when the walk ends one name down
(`configFile`), so the keys `ha.conf`, `./ha.conf` and `x/../ha.conf` all name one file;
`config` creates no subdirectory. The results of the system calls that the directory does not
decide (an `open` that fails on a full or unmounted volume, a short `write`, an `unlink`
refused) are parameters, and `strerror` is a parameter.

## Layout
- §1 the directory and its operations
- §2 `make_path` and the file a path names
- §3 the commands and `main`
- §4 one lemma per operation on the directory
- §5 `make_path` cuts a key to 119 bytes; the `readdir` loop of `reset`
- §6 one lemma per command
- §7 what `get` prints after `set` and `delete`, and what `reset` leaves
-/

namespace MmwaveOs

/-! ## §1 The Directory -/

/-- A name a file of `/config` can have: not empty, without `/`, and not `.` or `..`. -/
def validName (n : List UInt8) : Bool :=
  n ≠ [] && 47 ∉ n && n ≠ ascii "." && n ≠ ascii ".."

/-- The files of `/config`, name and contents, in the order `readdir` lists them; every name is
a file name, and no name is there twice. -/
structure Dir where
  files : List (List UInt8 × List UInt8)
  valid : ∀ n ∈ files.map Prod.fst, validName n = true
  nodup : (files.map Prod.fst).Nodup

/-- The names of the files. -/
def Dir.names (d : Dir) : List (List UInt8) := d.files.map Prod.fst

/-- The contents of the file `name` among `files`, if there is one. -/
def findFile (files : List (List UInt8 × List UInt8)) (name : List UInt8) : Option (List UInt8) :=
  (files.find? fun e => e.1 = name).map Prod.snd

/-- The contents of the file `name`, if there is one. -/
def Dir.find (d : Dir) (name : List UInt8) : Option (List UInt8) := findFile d.files name

/-- Replacing the contents of the file `name` keeps the names. -/
theorem map_fst_replace (l : List (List UInt8 × List UInt8)) (name c : List UInt8) :
    (l.map fun e => if e.1 = name then (name, c) else e).map Prod.fst = l.map Prod.fst := by
  induction l with
  | nil => rfl
  | cons e l ih =>
    simp only [List.map_cons, ih, List.cons.injEq, and_true]
    split_ifs with h <;> simp [h]

theorem nodup_append_new {l : List (List UInt8)} (h : l.Nodup) {name : List UInt8}
    (hn : name ∉ l) : (l ++ [name]).Nodup :=
  List.nodup_append.mpr ⟨h, List.nodup_singleton _, fun a ha hb => by
    rw [List.mem_singleton.mp hb] at ha; exact hn ha⟩

theorem nodup_filter_fst (l : List (List UInt8 × List UInt8)) (h : (l.map Prod.fst).Nodup)
    (p : List UInt8 × List UInt8 → Bool) : ((l.filter p).map Prod.fst).Nodup :=
  h.sublist ((List.filter_sublist l).map _)

theorem valid_append_new {l : List (List UInt8)} (h : ∀ n ∈ l, validName n = true)
    {name : List UInt8} (hn : validName name = true) : ∀ n ∈ l ++ [name], validName n = true :=
  fun n hm => (List.mem_append.mp hm).elim (h n) fun h' => List.mem_singleton.mp h' ▸ hn

theorem valid_filter_fst (l : List (List UInt8 × List UInt8))
    (h : ∀ n ∈ l.map Prod.fst, validName n = true) (p : List UInt8 × List UInt8 → Bool) :
    ∀ n ∈ (l.filter p).map Prod.fst, validName n = true :=
  fun n hn => h n (((List.filter_sublist l).map _).subset hn)

/-- `open(path, O_WRONLY | O_CREAT | O_TRUNC)` and a `write` of `c`: the file `name` holds `c`,
in its place if it was there, as the last file if it is new. -/
def Dir.put (d : Dir) (name : List UInt8) (hn : validName name = true) (c : List UInt8) : Dir :=
  if h : name ∈ d.names then
    ⟨d.files.map fun e => if e.1 = name then (name, c) else e,
      (map_fst_replace d.files name c).symm ▸ d.valid,
      (map_fst_replace d.files name c).symm ▸ d.nodup⟩
  else
    ⟨d.files ++ [(name, c)],
      by rw [List.map_append]; exact valid_append_new d.valid hn,
      by rw [List.map_append]; exact nodup_append_new d.nodup h⟩

/-- `unlink`: the file `name` is gone. -/
def Dir.erase (d : Dir) (name : List UInt8) : Dir :=
  ⟨d.files.filter fun e => e.1 ≠ name, valid_filter_fst _ d.valid _,
    nodup_filter_fst _ d.nodup _⟩

/-- The empty directory. -/
def Dir.empty : Dir := ⟨[], nofun, List.nodup_nil⟩

/-! ## §2 Paths -/

/-- `CONFIG_BASE_PATH`. -/
def configBasePath : List UInt8 := ascii "/config"

/-- `CONFIG_MAX_VAL_LEN`. -/
def configMaxValLen : Nat := 256

/-- `make_path(buf, buflen, key)`: `snprintf(buf, buflen, "%s/%s", CONFIG_BASE_PATH, key)`. -/
def makePath (buflen : Nat) (key : List UInt8) : List UInt8 :=
  (snprintf buflen (configBasePath ++ ascii "/" ++ key)).1

/-- One segment of a path as LittleFS walks it down from the volume's root: an empty segment
and `.` stay where they are, `..` goes back one name (at the root it stays there), any other
segment goes down into that name. -/
def walkSegment (names : List (List UInt8)) (seg : List UInt8) : List (List UInt8) :=
  if seg = [] ∨ seg = ascii "." then names
  else if seg = ascii ".." then names.dropLast
  else names ++ [seg]

/-- The names LittleFS walks down to along a path, its segments cut at each `/`; `seg` is the
segment read so far. -/
def walkPath (names : List (List UInt8)) (seg : List UInt8) : List UInt8 → List (List UInt8)
  | [] => walkSegment names seg
  | b :: bs =>
    if b = 47 then walkPath (walkSegment names seg) [] bs else walkPath names (seg ++ [b]) bs

/-- The file of `/config` a path names: past `/config/` the walk ends one name down. A walk
that ends at the root names the directory, and one that ends deeper names a file of a
subdirectory, which `config` never creates. -/
def configFile (path : List UInt8) : Option (List UInt8) :=
  if configBasePath ++ ascii "/" <+: path then
    match walkPath [] [] (path.drop 8) with
    | [name] => some name
    | _ => none
  else none

theorem walkSegment_valid {names : List (List UInt8)} (h : ∀ n ∈ names, validName n = true)
    {seg : List UInt8} (hs : 47 ∉ seg) : ∀ n ∈ walkSegment names seg, validName n = true := by
  unfold walkSegment
  split_ifs with h₁ h₂
  · exact h
  · exact fun n hn => h n (List.dropLast_subset _ hn)
  · refine valid_append_new h ?_
    simp only [validName, Bool.and_eq_true, decide_eq_true_eq]
    exact ⟨⟨⟨fun h => h₁ (.inl h), hs⟩, fun h => h₁ (.inr h)⟩, h₂⟩

/-- Every name a walk goes down into is a file name. -/
theorem walkPath_valid {names : List (List UInt8)} (h : ∀ n ∈ names, validName n = true)
    {seg : List UInt8} (hs : 47 ∉ seg) (p : List UInt8) :
    ∀ n ∈ walkPath names seg p, validName n = true := by
  induction p generalizing names seg with
  | nil => exact walkSegment_valid h hs
  | cons b bs ih =>
    unfold walkPath
    split_ifs with hb
    · exact ih (walkSegment_valid h hs) (List.not_mem_nil _)
    · exact ih h (by simpa [List.mem_append, List.mem_singleton, Ne.symm hb] using hs)

theorem validName_of_configFile {path name : List UInt8} (h : configFile path = some name) :
    validName name = true := by
  have hw : ∀ n ∈ walkPath [] [] (path.drop 8), validName n = true :=
    walkPath_valid (fun _ h => absurd h (List.not_mem_nil _)) (List.not_mem_nil _) _
  unfold configFile at h
  split_ifs at h
  generalize walkPath [] [] (path.drop 8) = ws at h hw
  match ws, h with
  | [n], h => simp at h; subst h; exact hw _ (List.mem_singleton_self _)
  | [], h | _ :: _ :: _, h => simp at h

/-- A path without `/` is one segment. -/
theorem walkPath_of_not_mem {p : List UInt8} (hp : 47 ∉ p) (names : List (List UInt8))
    (seg : List UInt8) : walkPath names seg p = walkSegment names (seg ++ p) := by
  induction p generalizing seg with
  | nil => rw [List.append_nil]; rfl
  | cons b bs ih =>
    rw [walkPath, if_neg fun h : b = 47 => hp (h ▸ List.mem_cons_self _ _),
      ih (fun h => hp (List.mem_cons_of_mem _ h)), List.append_assoc, List.singleton_append]

/-- A file name past `/config/` names that file. -/
theorem configFile_of_validName {n : List UInt8} (hn : validName n = true) :
    configFile (ascii "/config/" ++ n) = some n := by
  simp only [validName, Bool.and_eq_true, decide_eq_true_eq] at hn
  obtain ⟨⟨⟨h0, h47⟩, h1⟩, h2⟩ := hn
  have hd : (ascii "/config/" ++ n).drop 8 = n := List.drop_left' rfl
  rw [configFile, if_pos (show configBasePath ++ ascii "/" <+: ascii "/config/" ++ n from
    List.prefix_append _ _), hd,
    walkPath_of_not_mem h47, List.nil_append, walkSegment, if_neg (by tauto), if_neg h2]
  rfl

/-- A name `readdir` returns that `config` skips: it starts with `.`. -/
def isDotName (name : List UInt8) : Bool := name.head? = some 46

/-- The texts `printf` writes, as UTF-8. -/
def utf8 (s : String) : List UInt8 := s.toList.flatMap String.utf8EncodeChar

/-- `%-24s`: the text, padded with spaces to 24 bytes. -/
def padRight (s : List UInt8) (w : Nat) : List UInt8 := s ++ List.replicate (w - s.length) 32

/-! ## §3 The Commands -/

/-- What a command leaves: the directory, what it wrote to `stdout` and to `stderr`, and its
return code (`OK` is 0, `EXIT_FAILURE` is 1). -/
structure Outcome where
  dir : Dir
  out : List UInt8
  err : List UInt8
  ret : Int

/-- What the volume answers to one `config set` beyond what the directory decides: the `errno`
of an `open` that fails, if it fails although the path names a file, the `errno` of an `open`
whose path names none, and what `write` returns. -/
structure SetEnv where
  openErr : Option Int
  pathErr : Int
  written : Int

/-- A `set` the volume lets through: `open` succeeds and `write` takes all of `value`. -/
def SetEnv.clean (value : List UInt8) : SetEnv := ⟨none, 0, value.length⟩

section Commands

variable (strerror : Int → List UInt8)

/-- `config_get(key)`. -/
def configGet (d : Dir) (key : List UInt8) : Outcome :=
  match (configFile (makePath 128 key)).bind d.find with
  | none => ⟨d, [], ascii "config: key '" ++ key ++ ascii "' not found\n", 1⟩
  | some c =>
    -- `read(fd, val, sizeof(val) - 1)`, `val[n] = '\0'`, `printf("%s\n", val)`
    ⟨d, cstr (c.take (configMaxValLen - 1)) ++ ascii "\n", [], 0⟩

/-- `config_set(key, value)`. -/
def configSet (d : Dir) (key value : List UInt8) (e : SetEnv) : Outcome :=
  let fail (errno : Int) : Outcome :=
    ⟨d, [], ascii "config: cannot write '" ++ key ++ ascii "': " ++ strerror errno ++
      ascii "\n", 1⟩
  match h : configFile (makePath 128 key) with
  | none => fail e.pathErr
  | some name =>
    match e.openErr with
    | some errno => fail errno
    | none =>
      let d := d.put name (validName_of_configFile h) (value.take e.written.toNat)
      if e.written ≠ value.length then ⟨d, [], ascii "config: write error\n", 1⟩
      else ⟨d, ascii "config: " ++ key ++ ascii " = " ++ value ++ ascii "\n", [], 0⟩

/-- `config_delete(key)`: `unlinkErr` is the `errno` of an `unlink` refused although the file
is there, and `pathErr` that of one whose path names no file of `/config`. -/
def configDelete (d : Dir) (key : List UInt8) (unlinkErr : Option Int) (pathErr : Int) :
    Outcome :=
  let fail (errno : Int) : Outcome :=
    ⟨d, [], ascii "config: cannot delete '" ++ key ++ ascii "': " ++ strerror errno ++
      ascii "\n", 1⟩
  match configFile (makePath 128 key) with
  | none => fail pathErr
  | some name =>
    if name ∉ d.names then fail enoent
    else match unlinkErr with
      | some errno => fail errno
      | none => ⟨d.erase name, ascii "config: '" ++ key ++ ascii "' deleted\n", [], 0⟩

/-- The value `config_list` shows for the entry `name`: it opens `make_path` of the name and
reads at most 255 bytes, `(empty)` when it read none, `(unreadable)` when `open` failed. -/
def listValue (d : Dir) (name : List UInt8) : List UInt8 :=
  match (configFile (makePath 128 name)).bind d.find with
  | none => ascii "(unreadable)"
  | some c =>
    if c.take (configMaxValLen - 1) = [] then ascii "(empty)"
    else cstr (c.take (configMaxValLen - 1))

/-- `config_list()`; `opendirErr` is the `errno` of an `opendir` that fails. -/
def configList (d : Dir) (opendirErr : Option Int) : Outcome :=
  match opendirErr with
  | some errno =>
    ⟨d, [], ascii "config: cannot open " ++ configBasePath ++ ascii ": " ++ strerror errno ++
      ascii "\n", 1⟩
  | none =>
    let shown := d.names.filter fun n => !isDotName n
    ⟨d, ascii "Configuration keys (" ++ configBasePath ++ ascii "):\n" ++
        utf8 "────────────────────────────\n" ++
        (shown.map fun n =>
          ascii "  " ++ padRight n 24 ++ ascii " = " ++ listValue d n ++ ascii "\n").flatten ++
        (if shown = [] then ascii "  (no configuration set)\n" else []), [], 0⟩

/-- The nine `config_set` calls with which `config_reset` ends. -/
def configDefaults : List (List UInt8 × List UInt8) :=
  [(ascii "wifi.ssid", ascii ""), (ascii "wifi.psk", ascii ""), (ascii "ha.url", ascii ""),
    (ascii "ha.port", ascii "8123"), (ascii "ha.token", ascii ""),
    (ascii "mmwave.uart", ascii "/dev/ttyS1"), (ascii "mmwave.baud", ascii "256000"),
    (ascii "boot.autostart_ha", ascii "0"), (ascii "boot.autostart_wifi", ascii "1")]

/-- One pass of the `readdir` loop of `config_reset`: an entry that does not start with `.` is
unlinked through `make_path` of its name, whatever `unlink` returns; `unlinkErr` tells which
files refuse. -/
def resetEntry (unlinkErr : List UInt8 → Option Int) (d : Dir) (n : List UInt8) : Dir :=
  if isDotName n then d
  else match configFile (makePath 128 n) with
    | some f => if unlinkErr f = none then d.erase f else d
    | none => d

/-- The `readdir` loop of `config_reset`, over the entries `opendir` found. -/
def resetUnlink (unlinkErr : List UInt8 → Option Int) (d : Dir) (names : List (List UInt8)) :
    Dir :=
  names.foldl (resetEntry unlinkErr) d

/-- `config_set` of the defaults in turn, each with what the volume answers to it; the outputs
are joined. -/
def setDefaults (setEnv : List UInt8 → SetEnv) (o : Outcome) :
    List (List UInt8 × List UInt8) → Outcome
  | [] => o
  | (k, v) :: rest =>
    let r := configSet strerror o.dir k v (setEnv k)
    setDefaults setEnv ⟨r.dir, o.out ++ r.out, o.err ++ r.err, o.ret⟩ rest

/-- `config_reset()`: nothing when `/config` cannot be opened; otherwise the `readdir` loop and
the defaults. It returns `OK` either way. -/
def configReset (d : Dir) (opendirErr : Option Int) (unlinkErr : List UInt8 → Option Int)
    (setEnv : List UInt8 → SetEnv) : Outcome :=
  match opendirErr with
  | some _ => ⟨d, [], [], 0⟩
  | none =>
    let o := setDefaults strerror setEnv ⟨resetUnlink unlinkErr d d.names, [], [], 0⟩
      configDefaults
    ⟨o.dir, o.out ++ ascii "config: reset to defaults\n", o.err, 0⟩

/-- What the volume answers to the calls of one `config` command. -/
structure ConfigEnv where
  opendirErr : Option Int
  set : SetEnv
  unlinkErr : Option Int
  pathErr : Int
  resetUnlinkErr : List UInt8 → Option Int
  resetSet : List UInt8 → SetEnv

/-- `print_usage()`. -/
def configUsage : List UInt8 :=
  ascii "Usage: config <command> [args]\n\nCommands:\n" ++
  ascii "  list               List all config keys\n" ++
  ascii "  get <key>          Get a value\n" ++
  ascii "  set <key> <value>  Set a value\n" ++
  ascii "  delete <key>       Delete a key\n" ++
  ascii "  reset              Reset all to defaults\n" ++
  ascii "\nStandard keys:\n" ++
  ascii "  wifi.ssid          Wi-Fi network name\n" ++
  ascii "  wifi.psk           Wi-Fi password\n" ++
  ascii "  ha.url             Home Assistant URL/IP\n" ++
  ascii "  ha.port            Home Assistant port (8123)\n" ++
  ascii "  ha.token           HA long-lived access token\n" ++
  ascii "  mmwave.uart        Sensor UART path (/dev/ttyS1)\n" ++
  ascii "  mmwave.baud        Sensor baud rate (256000)\n" ++
  ascii "  boot.autostart_ha  Auto-start HA reporting (0/1)\n" ++
  ascii "  boot.autostart_wifi Auto-start Wi-Fi (0/1)\n"

/-- `main(argc, argv)` of `config`; `argv` includes the program's name. -/
def configMain (d : Dir) (argv : List (List UInt8)) (e : ConfigEnv) : Outcome :=
  let usage (msg : String) : Outcome := ⟨d, [], ascii msg, 1⟩
  match argv with
  | [] | [_] => configList strerror d e.opendirErr
  | _ :: cmd :: args =>
    if cmd = ascii "list" then configList strerror d e.opendirErr
    else if cmd = ascii "get" then
      match args with
      | key :: _ => configGet d key
      | [] => usage "config: usage: config get <key>\n"
    else if cmd = ascii "set" then
      match args with
      | key :: value :: _ => configSet strerror d key value e.set
      | _ => usage "config: usage: config set <key> <value>\n"
    else if cmd = ascii "delete" then
      match args with
      | key :: _ => configDelete strerror d key e.unlinkErr e.pathErr
      | [] => usage "config: usage: config delete <key>\n"
    else if cmd = ascii "reset" then configReset strerror d e.opendirErr e.resetUnlinkErr e.resetSet
    else ⟨d, configUsage, [], 0⟩

end Commands

/-! ## §4 One Lemma per Operation on the Directory -/

theorem findFile_cons (a b : List UInt8) (l : List (List UInt8 × List UInt8)) (m : List UInt8) :
    findFile ((a, b) :: l) m = if a = m then some b else findFile l m := by
  by_cases h : a = m
  · rw [findFile, List.find?_cons_of_pos _ (by simp [h]), if_pos h]; rfl
  · rw [findFile, List.find?_cons_of_neg _ (by simp [h]), if_neg h]; rfl

theorem findFile_replace (l : List (List UInt8 × List UInt8)) (name c m : List UInt8) :
    findFile (l.map fun e => if e.1 = name then (name, c) else e) m =
      if m = name ∧ name ∈ l.map Prod.fst then some c else findFile l m := by
  induction l with
  | nil => simp [findFile]
  | cons e l ih =>
    obtain ⟨a, b⟩ := e
    simp only [List.map_cons, List.mem_cons]
    by_cases ha : a = name
    · subst ha; rw [if_pos rfl, findFile_cons, findFile_cons, ih]
      by_cases hm : a = m
      · subst hm; simp
      · simp [hm, Ne.symm hm]
    · have hna : name ≠ a := fun h => ha h.symm
      rw [if_neg ha, findFile_cons, findFile_cons, ih]
      by_cases hma : a = m
      · subst hma; simp [ha]
      · simp only [hma, if_false, hna, false_or]

theorem findFile_append_new (l : List (List UInt8 × List UInt8)) (name c m : List UInt8) :
    findFile (l ++ [(name, c)]) m = (findFile l m).or (if m = name then some c else none) := by
  simp only [findFile, List.find?_append, List.find?_cons, List.find?_nil]
  by_cases hm : name = m
  · subst hm; cases l.find? (fun e => e.1 = name) <;> simp
  · cases l.find? (fun e => e.1 = m) <;> simp [hm, Ne.symm hm]

theorem findFile_eq_none_iff (l : List (List UInt8 × List UInt8)) (m : List UInt8) :
    findFile l m = none ↔ m ∉ l.map Prod.fst := by
  induction l with
  | nil => simp [findFile]
  | cons e l ih =>
    obtain ⟨a, b⟩ := e
    rw [findFile_cons, List.map_cons, List.mem_cons]
    split_ifs with h
    · subst h; simp
    · rw [ih, not_or]; exact ⟨fun h' => ⟨fun e => h e.symm, h'⟩, fun h' => h'.2⟩

theorem findFile_of_mem {l : List (List UInt8 × List UInt8)} (hnd : (l.map Prod.fst).Nodup)
    {name c : List UInt8} (h : (name, c) ∈ l) : findFile l name = some c := by
  induction l with
  | nil => nomatch h
  | cons e l ih =>
    obtain ⟨a, b⟩ := e
    rw [List.map_cons, List.nodup_cons] at hnd
    rw [findFile_cons]
    rcases List.mem_cons.mp h with h | h
    · cases h; rw [if_pos rfl]
    · have ha : a ≠ name := fun ha => hnd.1 (List.mem_map.mpr ⟨_, h, ha.symm⟩)
      rw [if_neg ha, ih hnd.2 h]

theorem findFile_filter_ne (l : List (List UInt8 × List UInt8)) (name m : List UInt8) :
    findFile (l.filter fun e => e.1 ≠ name) m = if m = name then none else findFile l m := by
  induction l with
  | nil => simp [findFile]
  | cons e l ih =>
    obtain ⟨a, b⟩ := e
    rw [List.filter_cons]
    by_cases ha : a = name
    · subst ha
      simp only [ne_eq, not_true_eq_false, decide_False, Bool.false_eq_true, if_false, ih,
        findFile_cons]
      by_cases hm : m = a
      · simp [hm]
      · rw [if_neg hm, if_neg hm, if_neg (fun h => hm h.symm)]
    · simp only [ne_eq, ha, not_false_eq_true, decide_True, if_true, findFile_cons, ih]
      by_cases hm : m = name
      · subst hm; simp [ha]
      · simp [hm]

theorem Dir.find_eq_none_iff (d : Dir) (m : List UInt8) : d.find m = none ↔ m ∉ d.names :=
  findFile_eq_none_iff d.files m

/-- After `put`, the file `name` holds `c` and every other file is as it was. -/
@[simp] theorem Dir.find_put (d : Dir) {name : List UInt8} (hn : validName name = true)
    (c m : List UInt8) : (d.put name hn c).find m = if m = name then some c else d.find m := by
  unfold Dir.put
  split_ifs with h hm hm
  · simp only [Dir.find, findFile_replace, hm, true_and]; exact if_pos h
  · simp only [Dir.find, findFile_replace, hm, false_and, if_false]
  · simp only [Dir.find, findFile_append_new, hm, if_true]
    rw [(findFile_eq_none_iff _ _).mpr h]; rfl
  · simp only [Dir.find, findFile_append_new, hm, if_false]
    cases findFile d.files m <;> rfl

/-- After `erase`, the file `name` is gone and every other file is as it was. -/
@[simp] theorem Dir.find_erase (d : Dir) (name m : List UInt8) :
    (d.erase name).find m = if m = name then none else d.find m :=
  findFile_filter_ne d.files name m

/-! ## §5 Paths and the Reset Loop -/

/-- `make_path` into 128 bytes: `/config/` and the first 119 bytes of the key. -/
theorem makePath_128 (key : List UInt8) : makePath 128 key = ascii "/config/" ++ key.take 119 := by
  rw [makePath, snprintf, show configBasePath ++ ascii "/" = ascii "/config/" from rfl,
    List.take_append_eq_append_take]
  rfl

/-- A key whose first 119 bytes are a file name names that file. -/
theorem configFile_makePath_of_valid {key : List UInt8} (h : validName (key.take 119) = true) :
    configFile (makePath 128 key) = some (key.take 119) := by
  rw [makePath_128]; exact configFile_of_validName h

/-- The first 119 bytes of a file name are a file name. -/
theorem validName_take {n : List UInt8} (h : validName n = true) :
    validName (n.take 119) = true := by
  by_cases hl : n.length ≤ 119
  · rwa [List.take_of_length_le hl]
  · simp only [validName, Bool.and_eq_true, decide_eq_true_eq] at h ⊢
    have h119 : (n.take 119).length = 119 := by simp; omega
    exact ⟨⟨⟨fun h0 => by simp [h0] at h119, fun h47 => h.1.1.2 (List.mem_of_mem_take h47)⟩,
      fun h1 => by simp [h1, ascii] at h119⟩, fun h2 => by simp [h2, ascii] at h119⟩

theorem isDotName_take (l : List UInt8) (n : Nat) : isDotName (l.take (n + 1)) = isDotName l := by
  cases l <;> rfl

/-- One entry of the `readdir` loop removes at most the file its name's path names. -/
theorem resetEntry_find (unlinkErr : List UInt8 → Option Int) (d : Dir) (n m : List UInt8) :
    (resetEntry unlinkErr d n).find m =
      if (isDotName n = false ∧ configFile (makePath 128 n) = some m) ∧ unlinkErr m = none then
        none
      else d.find m := by
  unfold resetEntry
  by_cases hdot : isDotName n = true
  · simp [hdot]
  rw [if_neg hdot]
  split
  · next f hf =>
    by_cases hm : f = m
    · subst hm; split_ifs <;> simp_all
    · simp only [hf, Option.some.injEq, hm, and_false, false_and, if_false]
      split_ifs <;> simp [Ne.symm hm]
  · next hf => simp [hf]

private theorem ite_none_or {α : Type} {p q u : Prop} [Decidable p] [Decidable q] [Decidable u]
    (x : Option α) :
    (if q ∧ u then none else if p ∧ u then none else x) = if (p ∨ q) ∧ u then none else x := by
  by_cases hp : p <;> by_cases hq : q <;> by_cases hu : u <;> simp [hp, hq, hu]

theorem resetUnlink_find (unlinkErr : List UInt8 → Option Int) :
    ∀ (names : List (List UInt8)) (d : Dir) (m : List UInt8),
    (resetUnlink unlinkErr d names).find m =
      if (∃ n ∈ names, isDotName n = false ∧ configFile (makePath 128 n) = some m) ∧
          unlinkErr m = none then none
      else d.find m
  | [], d, m => by simp [resetUnlink]
  | n :: names, d, m => by
    show (resetUnlink unlinkErr (resetEntry unlinkErr d n) names).find m = _
    rw [resetUnlink_find unlinkErr names, resetEntry_find]
    simp only [List.mem_cons, or_and_right, exists_or, exists_eq_left, ite_none_or]


/-- The `readdir` loop over a directory's own entries leaves exactly the files whose names
start with `.`, have more than 119 bytes, or whose `unlink` is refused. -/
theorem resetUnlink_names_find (unlinkErr : List UInt8 → Option Int) (d : Dir) (m : List UInt8) :
    (resetUnlink unlinkErr d d.names).find m =
      if isDotName m = true ∨ 119 < m.length ∨ unlinkErr m ≠ none then d.find m else none := by
  rw [resetUnlink_find]
  have hfile : ∀ n ∈ d.names, configFile (makePath 128 n) = some (n.take 119) :=
    fun n hn => configFile_makePath_of_valid (validName_take (d.valid n hn))
  by_cases hm : m ∈ d.names
  · by_cases hkeep : isDotName m = true ∨ 119 < m.length ∨ unlinkErr m ≠ none
    · rw [if_pos hkeep, if_neg]
      rintro ⟨⟨n, hn, hdot, hf⟩, hu⟩
      rw [hfile n hn, Option.some.injEq] at hf
      subst hf
      rcases hkeep with h | h | h
      · rw [isDotName_take] at h; simp [h] at hdot
      · simp at h
      · exact h hu
    · rw [if_neg hkeep, if_pos]
      simp only [not_or, not_lt, Bool.not_eq_true, not_not] at hkeep
      obtain ⟨hdot, hlen, hu⟩ := hkeep
      exact ⟨⟨m, hm, hdot, by rw [hfile m hm, List.take_of_length_le hlen]⟩, hu⟩
  · have hnone : d.find m = none := (d.find_eq_none_iff m).mpr hm
    simp only [hnone, ite_self]

/-! ## §6 One Lemma per Command -/

section Commands

variable (strerror : Int → List UInt8)

/-- `config set` writes the file its key's path names, when `open` lets it: the bytes `write`
took. -/
theorem configSet_find (d : Dir) (k v : List UInt8) (e : SetEnv) (m : List UInt8) :
    (configSet strerror d k v e).dir.find m =
      if configFile (makePath 128 k) = some m ∧ e.openErr = none then
        some (v.take e.written.toNat)
      else d.find m := by
  unfold configSet
  split
  · next h => simp [h]
  · next name h =>
    split
    · next errno he => simp [he]
    · next he =>
      simp only [h, Option.some.injEq, he, and_true]
      by_cases hm : name = m
      · subst hm; rw [if_pos rfl]; split_ifs <;> simp
      · split_ifs <;> simp [hm, Ne.symm hm]

/-- `config delete` removes the file its key's path names, when the file is there and `unlink`
lets it. -/
theorem configDelete_find (d : Dir) (k : List UInt8) (unlinkErr : Option Int) (pathErr : Int)
    (m : List UInt8) :
    (configDelete strerror d k unlinkErr pathErr).dir.find m =
      if configFile (makePath 128 k) = some m ∧ unlinkErr = none then none else d.find m := by
  unfold configDelete
  split
  · next _ h => simp [h]
  · next _ name h =>
    simp only [h, Option.some.injEq]
    by_cases hn : name ∈ d.names
    · rw [if_neg (not_not.mpr hn)]
      cases unlinkErr with
      | some errno => simp
      | none => simp [eq_comm]
    · rw [if_pos hn]
      by_cases hm : name = m
      · subst hm; split_ifs <;> simp [(d.find_eq_none_iff _).mpr hn]
      · simp [hm]

/-- The defaults' writes leave every file that no default key's path names. -/
theorem setDefaults_find_of_ne (setEnv : List UInt8 → SetEnv) :
    ∀ (defaults : List (List UInt8 × List UInt8)) (o : Outcome) (m : List UInt8),
    (∀ kv ∈ defaults, configFile (makePath 128 kv.1) ≠ some m) →
      (setDefaults strerror setEnv o defaults).dir.find m = o.dir.find m
  | [], o, m, _ => rfl
  | (k, v) :: rest, o, m, h => by
    rw [setDefaults, setDefaults_find_of_ne setEnv rest _ m fun kv hkv => h kv (.tail _ hkv),
      configSet_find, if_neg fun hm => h (k, v) (.head _) hm.1]

/-- A default whose write succeeds is what its file holds after all the writes, when no two
defaults name one file. -/
theorem setDefaults_find_key (setEnv : List UInt8 → SetEnv) :
    ∀ (defaults : List (List UInt8 × List UInt8)) (o : Outcome) (k v name : List UInt8),
    (k, v) ∈ defaults → (defaults.map fun kv => configFile (makePath 128 kv.1)).Nodup →
    configFile (makePath 128 k) = some name → (setEnv k).openErr = none →
    (setEnv k).written = v.length →
      (setDefaults strerror setEnv o defaults).dir.find name = some v
  | [], _, _, _, _, hkv, _, _, _, _ => nomatch hkv
  | (k₀, v₀) :: rest, o, k, v, name, hkv, hnd, hf, ho, hw => by
    rw [List.map_cons, List.nodup_cons] at hnd
    rw [setDefaults]
    rcases List.mem_cons.mp hkv with h | h
    · cases h
      rw [setDefaults_find_of_ne strerror setEnv rest _ _ fun kv hkv he =>
          hnd.1 (List.mem_map.mpr ⟨kv, hkv, he.trans hf.symm⟩),
        configSet_find, if_pos ⟨hf, ho⟩, hw, Int.toNat_natCast, List.take_length]
    · exact setDefaults_find_key setEnv rest _ k v name h hnd.2 hf ho hw

/-- No default key is cut by `make_path`, each is a file name, none starts with `.`, and no two
are the same. -/
theorem configDefaults_keys :
    (∀ kv ∈ configDefaults, kv.1.take 119 = kv.1 ∧ validName kv.1 = true ∧
      isDotName kv.1 = false) ∧ (configDefaults.map Prod.fst).Nodup := by
  decide

/-- Each default key names the file of its own name. -/
theorem configFile_configDefaults {kv : List UInt8 × List UInt8} (h : kv ∈ configDefaults) :
    configFile (makePath 128 kv.1) = some kv.1 := by
  obtain ⟨ht, hv, -⟩ := configDefaults_keys.1 kv h
  rw [configFile_makePath_of_valid (ht.symm ▸ hv), ht]

theorem nodup_configDefaults_files :
    (configDefaults.map fun kv => configFile (makePath 128 kv.1)).Nodup := by
  have h : (configDefaults.map fun kv => configFile (makePath 128 kv.1)) =
      (configDefaults.map Prod.fst).map some := by
    rw [List.map_map]; exact List.map_congr_left fun kv h => configFile_configDefaults h
  rw [h]
  exact configDefaults_keys.2.map (Option.some_injective _)

end Commands

/-! ## §7 What the Commands Leave in `/config` -/

section Commands

variable (strerror : Int → List UInt8)

/-- **Deleting.** After `config delete`, `config get` of every key whose path names the same
file as the deleted key reports it not found when `unlink` was not refused; every other key
prints what it printed before. -/
theorem configGet_configDelete (d : Dir) (k : List UInt8) (unlinkErr : Option Int)
    (pathErr : Int) (k' : List UInt8) :
    configGet (configDelete strerror d k unlinkErr pathErr).dir k' =
      if (∃ name, configFile (makePath 128 k) = some name ∧
          configFile (makePath 128 k') = some name) ∧ unlinkErr = none then
        ⟨(configDelete strerror d k unlinkErr pathErr).dir, [],
          ascii "config: key '" ++ k' ++ ascii "' not found\n", 1⟩
      else { configGet d k' with dir := (configDelete strerror d k unlinkErr pathErr).dir } := by
  unfold configGet
  cases hf' : configFile (makePath 128 k') with
  | none => rw [if_neg fun ⟨⟨_, _, h⟩, _⟩ => nomatch h]; rfl
  | some name =>
    simp only [Option.some_bind, configDelete_find, Option.some.injEq, exists_eq_right']
    split_ifs <;> first | rfl | (cases d.find name <;> rfl)

/-- **`config reset`.** With `/config` open, a file that no default key names is left exactly
when its name starts with `.`, has more than 119 bytes, or its `unlink` is refused; each
default whose write succeeds holds its value. -/
theorem configReset_find (d : Dir) (unlinkErr : List UInt8 → Option Int)
    (setEnv : List UInt8 → SetEnv) :
    (∀ m, m ∉ configDefaults.map Prod.fst →
      (configReset strerror d none unlinkErr setEnv).dir.find m =
        if isDotName m = true ∨ 119 < m.length ∨ unlinkErr m ≠ none then d.find m else none) ∧
    (∀ k v, (k, v) ∈ configDefaults → (setEnv k).openErr = none →
      (setEnv k).written = v.length →
      (configReset strerror d none unlinkErr setEnv).dir.find k = some v) := by
  refine ⟨fun m hm => ?_, fun k v hkv ho hw => ?_⟩
  · rw [configReset, setDefaults_find_of_ne strerror setEnv _ _ m fun kv hkv he =>
      hm (List.mem_map.mpr ⟨kv, hkv, Option.some.inj ((configFile_configDefaults hkv).symm.trans he)⟩)]
    exact resetUnlink_names_find unlinkErr d m
  · exact setDefaults_find_key strerror setEnv _ _ k v k hkv nodup_configDefaults_files
      (configFile_configDefaults hkv) ho hw

end Commands

end MmwaveOs
