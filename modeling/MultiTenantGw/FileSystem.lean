import Mathlib.Data.List.Sort
import Mathlib.Data.String.Basic
import MultiTenantGw.FilePath

/-! # The file system under the config store

    The config store of `config/multitenant.go` keeps its JSON files with
    `os.ReadFile`, `os.WriteFile`, `os.MkdirAll`, `os.Remove` and `os.ReadDir`.  This
    module models the file system those calls act on: a tree of files and
    directories keyed by the path as the kernel resolves it (`keyOf`: rooted or
    relative, and the elements left by `filepath.Clean`).  `FS` carries the tree
    shape itself: keys are distinct, and every entry sits in a directory.

    Each call may also be refused by the rest of the system (`Denials`: permissions,
    I/O errors, a full disk); a refused call changes nothing, except that
    `os.WriteFile` opens its file with `O_TRUNC` before it writes, so a `Write` or
    `Close` that fails leaves the file cut short or rewritten.  Errors carry Go's
    `*PathError` text and whether `os.IsNotExist` holds of them.  What a call can
    change is its frame (`writeFile_find`, `mkdirAll_find`, `remove_find`); the
    config store's confinement results are built from these. -/

namespace Os

open GoPath

/-- A path as the kernel resolves it: rooted or relative, and its cleaned elements. -/
abbrev Key := Bool × List Elem

/-- The key of a path string. -/
def keyOf (path : String) : Key := (rooted path.data, cleanElems path.data)

/-- The directory holding a key. -/
def Key.parent (k : Key) : Key := (k.1, k.2.dropLast)

/-- `k` is `k'` or one of its ancestors. -/
def Key.Above (k k' : Key) : Prop := k.1 = k'.1 ∧ k.2 <+: k'.2

theorem Key.parent_ne {k : Key} (hk : k.2 ≠ []) : k.parent ≠ k := by
  intro h
  have := congrArg (fun k : Key => k.2.length) h
  simp [Key.parent] at this
  exact hk (List.length_eq_zero.mp (by omega))

/-- A directory entry: a file with its contents, or a directory. -/
inductive Entry (α : Type) where
  | file (data : α)
  | dir

/-- Whether an entry is a directory. -/
def Entry.isDir {α : Type} : Entry α → Bool
  | .dir => true
  | .file _ => false

/-- A call the config store makes into package `os`, and the two later steps of
    `os.WriteFile` (`Write` and `Close` of the file it opened), which can fail on
    their own. -/
inductive Call where
  | readFile (path : String)
  | writeFile (path : String)
  | mkdirAll (path : String)
  | remove (path : String)
  | readDir (path : String)
  | write (path : String)
  | close (path : String)
  deriving DecidableEq, Repr

/-- What the rest of the system decides about each call: `some reason` refuses it. -/
abbrev Denials := Call → Option String

/-- The world in which nothing is refused. -/
def allow : Denials := fun _ => none

/-- A `*PathError`: its text, and whether `os.IsNotExist` holds of it. -/
structure OsError where
  notExist : Bool
  msg : String

variable {α : Type}

-- ── entries ────────────────────────────────────────────────────────────────

/-- The entry stored under a key. -/
def find (k : Key) : List (Key × Entry α) → Option (Entry α)
  | [] => none
  | (k', e) :: rest => if k' = k then some e else find k rest

/-- Whether `k` is a directory of `entries`: the root, or a stored directory. -/
def isDirIn (entries : List (Key × Entry α)) (k : Key) : Bool :=
  k.2.isEmpty || (find k entries).any Entry.isDir

theorem mem_of_find {k : Key} {e : Entry α} :
    ∀ {l : List (Key × Entry α)}, find k l = some e → (k, e) ∈ l
  | [], h => by simp [find] at h
  | (k', e') :: rest, h => by
      unfold find at h
      split at h
      · cases h; subst_vars; exact List.mem_cons_self _ _
      · exact List.mem_cons_of_mem _ (mem_of_find h)

theorem find_of_mem {k : Key} {e : Entry α} :
    ∀ {l : List (Key × Entry α)}, (l.map Prod.fst).Nodup → (k, e) ∈ l → find k l = some e
  | [], _, h => absurd h (List.not_mem_nil _)
  | (k', e') :: rest, hnd, h => by
      rw [List.map_cons, List.nodup_cons] at hnd
      unfold find
      rcases List.mem_cons.mp h with h | h
      · cases h; simp
      · have hk : k' ≠ k := by rintro rfl; exact hnd.1 (List.mem_map.mpr ⟨_, h, rfl⟩)
        rw [if_neg hk]; exact find_of_mem hnd.2 h

theorem find_eq_none {k : Key} : ∀ {l : List (Key × Entry α)}, find k l = none → k ∉ l.map Prod.fst
  | [], _ => List.not_mem_nil _
  | (k', e') :: rest, h => by
      unfold find at h
      split at h
      · cases h
      · rename_i hk
        simp only [List.map_cons, List.mem_cons, not_or]
        exact ⟨fun h' => hk h'.symm, find_eq_none h⟩

@[simp] theorem find_cons_self (k : Key) (e : Entry α) (l : List (Key × Entry α)) :
    find k ((k, e) :: l) = some e := by simp [find]

theorem find_cons_of_ne {k k' : Key} (e : Entry α) (l : List (Key × Entry α)) (h : k' ≠ k) :
    find k ((k', e) :: l) = find k l := by simp [find, h]

theorem find_filter_ne (k k' : Key) :
    ∀ l : List (Key × Entry α), find k (l.filter (·.1 ≠ k')) = if k = k' then none else find k l
  | [] => by simp [find]
  | (k'', e) :: rest => by
      have ih := find_filter_ne k k' rest
      by_cases h : k'' = k'
      · subst h
        have hf : ((k'', e) :: rest).filter (·.1 ≠ k'') = rest.filter (·.1 ≠ k'') := by simp
        rw [hf, ih]
        by_cases hk : k = k''
        · simp [hk]
        · simp [hk, find_cons_of_ne e rest (Ne.symm hk)]
      · have hf : ((k'', e) :: rest).filter (·.1 ≠ k') = (k'', e) :: rest.filter (·.1 ≠ k') := by
          simp [h]
        rw [hf]
        by_cases hk : k'' = k
        · subst hk; simp [h]
        · rw [find_cons_of_ne e _ hk, find_cons_of_ne e _ hk, ih]

theorem isDirIn_filter_ne {l : List (Key × Entry α)} {k k' : Key} (h : k ≠ k') :
    isDirIn (l.filter (·.1 ≠ k')) k = isDirIn l k := by
  rw [isDirIn, isDirIn, find_filter_ne, if_neg h]

theorem isDirIn_cons_of_ne {l : List (Key × Entry α)} {k k' : Key} (e : Entry α) (h : k' ≠ k) :
    isDirIn ((k', e) :: l) k = isDirIn l k := by
  simp [isDirIn, find_cons_of_ne e l h]

-- ── the file system ────────────────────────────────────────────────────────

/-- A file system: distinct keys, and every entry sits in a directory. -/
structure FS (α : Type) where
  entries : List (Key × Entry α)
  nodup : (entries.map Prod.fst).Nodup
  tree : ∀ x ∈ entries, x.1.2 ≠ [] ∧ isDirIn entries x.1.parent = true

/-- The empty file system: the root alone. -/
def FS.empty : FS α := ⟨[], List.nodup_nil, fun _ h => absurd h (List.not_mem_nil _)⟩

namespace FS

variable (fs : FS α)

theorem find_root (k : Key) (hk : k.2 = []) : find k fs.entries = none := by
  cases hf : find k fs.entries with
  | none => rfl
  | some e => exact absurd hk (fs.tree _ (mem_of_find hf)).1

/-- Store a file under a key that is not a directory and whose parent is one. -/
def putFile (k : Key) (d : α) (hd : isDirIn fs.entries k = false)
    (hp : isDirIn fs.entries k.parent = true) : FS α where
  entries := (k, .file d) :: fs.entries.filter (·.1 ≠ k)
  nodup := by
    refine List.nodup_cons.mpr ⟨fun h => ?_, fs.nodup.sublist ((List.filter_sublist _).map _)⟩
    obtain ⟨x, hx, hxk⟩ := List.mem_map.mp h
    exact of_decide_eq_true (List.mem_filter.mp hx).2 hxk
  tree := by
    have hk : k.2 ≠ [] := fun h => by simp [isDirIn, h] at hd
    intro x hx
    rcases List.mem_cons.mp hx with rfl | hx
    · refine ⟨hk, ?_⟩
      rw [isDirIn_cons_of_ne _ (Key.parent_ne hk).symm, isDirIn_filter_ne (Key.parent_ne hk)]
      exact hp
    · obtain ⟨hx, hxk⟩ := List.mem_filter.mp hx
      obtain ⟨hne, hpar⟩ := fs.tree x hx
      refine ⟨hne, ?_⟩
      by_cases hpk : x.1.parent = k
      · rw [hpk] at hpar; rw [hpar] at hd; cases hd
      · rw [isDirIn_cons_of_ne _ (Ne.symm hpk), isDirIn_filter_ne hpk]; exact hpar

/-- Add a directory under a free key whose parent is a directory. -/
def addDir (k : Key) (hk : k.2 ≠ []) (hp : isDirIn fs.entries k.parent = true)
    (hnone : find k fs.entries = none) : FS α where
  entries := (k, .dir) :: fs.entries
  nodup := List.nodup_cons.mpr ⟨find_eq_none hnone, fs.nodup⟩
  tree := by
    have hfree : ∀ k', isDirIn fs.entries k' = true → k' ≠ k := fun k' h hk' => by
      subst hk'; simp [isDirIn, hk, hnone] at h
    intro x hx
    rcases List.mem_cons.mp hx with rfl | hx
    · exact ⟨hk, by rw [isDirIn_cons_of_ne _ (hfree _ hp).symm]; exact hp⟩
    · obtain ⟨hne, hpar⟩ := fs.tree x hx
      exact ⟨hne, by rw [isDirIn_cons_of_ne _ (hfree _ hpar).symm]; exact hpar⟩

/-- Drop a key that no entry sits in. -/
def erase (k : Key) (hc : ∀ x ∈ fs.entries, x.1.parent ≠ k) : FS α where
  entries := fs.entries.filter (·.1 ≠ k)
  nodup := fs.nodup.sublist ((List.filter_sublist _).map _)
  tree := fun x hx => by
    obtain ⟨hx, -⟩ := List.mem_filter.mp hx
    obtain ⟨hne, hpar⟩ := fs.tree x hx
    exact ⟨hne, by rw [isDirIn_filter_ne (hc x hx)]; exact hpar⟩

/-- The error for a key with no entry: `ENOTDIR` when one of its ancestors is a file,
    `ENOENT` otherwise. -/
def missing (op path : String) (k : Key) : OsError :=
  if (List.range k.2.length).any fun i => (find (k.1, k.2.take i) fs.entries).any (!·.isDir) then
    ⟨false, op ++ " " ++ path ++ ": not a directory"⟩
  else ⟨true, op ++ " " ++ path ++ ": no such file or directory"⟩

/-- The entries of directory `k`, by name, as `os.ReadDir` lists them (without the
    sort). -/
def children (k : Key) : List (String × Bool) :=
  fs.entries.filterMap fun x => if x.1.parent = k then some (⟨x.1.2.getLastD []⟩, x.2.isDir) else none

-- ── the calls ──────────────────────────────────────────────────────────────

variable (deny : Denials)

/-- `os.ReadFile`. -/
def readFile (path : String) : Except OsError α :=
  match deny (.readFile path) with
  | some r => .error ⟨false, "open " ++ path ++ ": " ++ r⟩
  | none =>
      if isDirIn fs.entries (keyOf path) then .error ⟨false, "read " ++ path ++ ": is a directory"⟩
      else match find (keyOf path) fs.entries with
        | some (.file d) => .ok d
        | _ => .error (fs.missing "open" path (keyOf path))

/-- `os.WriteFile`: open the file in an existing directory, creating or truncating
    it, write `d` and close it.  An open that fails changes nothing; once the file is
    open, a failed `Write` leaves it holding the part written before the error,
    `short`, and a failed `Close` leaves it holding all of `d`. -/
def writeFile (path : String) (d short : α) : Except OsError Unit × FS α :=
  match deny (.writeFile path) with
  | some r => (.error ⟨false, "open " ++ path ++ ": " ++ r⟩, fs)
  | none =>
      if hd : isDirIn fs.entries (keyOf path) then (.error ⟨false, "open " ++ path ++ ": is a directory"⟩, fs)
      else if hp : isDirIn fs.entries (keyOf path).parent then
        let put := fun x => fs.putFile (keyOf path) x (by simpa using hd) hp
        match deny (.write path), deny (.close path) with
        | some r, _ => (.error ⟨false, "write " ++ path ++ ": " ++ r⟩, put short)
        | none, some r => (.error ⟨false, "close " ++ path ++ ": " ++ r⟩, put d)
        | none, none => (.ok (), put d)
      else (.error (fs.missing "open" path (keyOf path)), fs)

/-- The element-by-element part of `os.MkdirAll`: below the directory `done`, make
    each missing directory of `rest`, failing at a file. -/
def mkdirs (r : Bool) : (fs : FS α) → (done : List Elem) → isDirIn fs.entries (r, done) = true →
    List Elem → Except OsError (FS α)
  | fs, _, _, [] => .ok fs
  | fs, done, h, e :: rest =>
      match hf : find (r, done ++ [e]) fs.entries with
      | some .dir => mkdirs r fs (done ++ [e]) (by simp [isDirIn, hf, Entry.isDir]) rest
      | some (.file _) => .error ⟨false, "mkdir " ++ ⟨render r (done ++ [e])⟩ ++ ": not a directory"⟩
      | none =>
          mkdirs r (fs.addDir (r, done ++ [e]) (by simp) (by simpa [Key.parent] using h) hf) (done ++ [e])
            (by simp [addDir, isDirIn, Entry.isDir]) rest

/-- `os.MkdirAll`. -/
def mkdirAll (path : String) : Except OsError (FS α) :=
  match deny (.mkdirAll path) with
  | some r => .error ⟨false, "mkdir " ++ path ++ ": " ++ r⟩
  | none => mkdirs (keyOf path).1 fs [] (by simp [isDirIn]) (keyOf path).2

/-- `os.Remove`: a file, or an empty directory. -/
def remove (path : String) : Except OsError (FS α) :=
  match deny (.remove path) with
  | some r => .error ⟨false, "remove " ++ path ++ ": " ++ r⟩
  | none =>
      match find (keyOf path) fs.entries with
      | none =>
          if (keyOf path).2 = [] then .error ⟨false, "remove " ++ path ++ ": device or resource busy"⟩
          else .error (fs.missing "remove" path (keyOf path))
      | some _ =>
          if hc : ∀ x ∈ fs.entries, x.1.parent ≠ keyOf path then .ok (fs.erase (keyOf path) hc)
          else .error ⟨false, "remove " ++ path ++ ": directory not empty"⟩

/-- `os.ReadDir`: the entries of a directory, sorted by name, with whether each is a
    directory. -/
def readDir (path : String) : Except OsError (List (String × Bool)) :=
  match deny (.readDir path) with
  | some r => .error ⟨false, "open " ++ path ++ ": " ++ r⟩
  | none =>
      if isDirIn fs.entries (keyOf path) then
        .ok ((fs.children (keyOf path)).insertionSort fun a b => a.1 ≤ b.1)
      else match find (keyOf path) fs.entries with
        | some _ => .error ⟨false, "readdirent " ++ path ++ ": not a directory"⟩
        | none => .error (fs.missing "open" path (keyOf path))

-- ── what reads see ─────────────────────────────────────────────────────────

variable {fs deny}

/-- A successful read returns the file stored under the path's key. -/
theorem readFile_ok {path : String} {d : α} (h : fs.readFile deny path = .ok d) :
    find (keyOf path) fs.entries = some (.file d) := by
  unfold readFile at h
  split at h
  · cases h
  · split at h
    · cases h
    · split at h
      · rename_i hf; cases h; exact hf
      · cases h

/-- A successful `ReadDir` lists the children of a directory. -/
theorem readDir_ok {path : String} {l : List (String × Bool)} (h : fs.readDir deny path = .ok l) :
    l = (fs.children (keyOf path)).insertionSort fun a b => a.1 ≤ b.1 := by
  unfold readDir at h
  split at h
  · cases h
  · split at h
    · cases h; rfl
    · split at h <;> cases h

/-- `ReadDir` reports a missing path only when there is no directory there. -/
theorem readDir_notExist {path : String} {e : OsError} (h : fs.readDir deny path = .error e)
    (he : e.notExist = true) : isDirIn fs.entries (keyOf path) = false := by
  unfold readDir at h
  split at h
  · cases h; cases he
  · split at h
    · cases h
    · rename_i hd; simpa using hd

/-- Nothing sits in a key that is not a directory. -/
theorem parent_ne_of_not_dir {k : Key} (h : isDirIn fs.entries k = false) :
    ∀ x ∈ fs.entries, x.1.parent ≠ k := fun x hx hp => by
  have := (fs.tree x hx).2
  rw [hp, h] at this
  cases this

theorem mem_children {k : Key} {n : String} {b : Bool} :
    (n, b) ∈ fs.children k ↔ ∃ x ∈ fs.entries, x.1.parent = k ∧ n = ⟨x.1.2.getLastD []⟩ ∧ b = x.2.isDir := by
  simp only [children, List.mem_filterMap]
  constructor
  · rintro ⟨x, hx, h⟩
    split at h
    · cases h; exact ⟨x, hx, ‹_›, rfl, rfl⟩
    · cases h
  · rintro ⟨x, hx, hp, rfl, rfl⟩
    exact ⟨x, hx, by simp [hp]⟩

-- ── frames ─────────────────────────────────────────────────────────────────

theorem find_putFile {k k' : Key} {d : α} {hd hp} :
    find k (fs.putFile k' d hd hp).entries = if k = k' then some (.file d) else find k fs.entries := by
  by_cases hk : k = k'
  · subst hk; simp [putFile]
  · show find k ((k', .file d) :: fs.entries.filter (·.1 ≠ k')) = _
    rw [find_cons_of_ne _ _ (Ne.symm hk), find_filter_ne, if_neg hk, if_neg hk]

/-- **WRITE FRAME**: a write, whatever it returns, changes nothing but the entry under
    its key, which keeps its entry or holds the data or the part of it a failed
    `Write` left. -/
theorem writeFile_find {path : String} {d short : α} (k : Key) :
    find k (fs.writeFile deny path d short).2.entries = find k fs.entries ∨
      (k = keyOf path ∧ (find k (fs.writeFile deny path d short).2.entries = some (.file d) ∨
        find k (fs.writeFile deny path d short).2.entries = some (.file short))) := by
  unfold writeFile
  split
  · exact .inl rfl
  · split
    · exact .inl rfl
    · split
      · dsimp only
        by_cases hk : k = keyOf path
        · subst hk; split <;> simp [find_putFile]
        · left; split <;> simp [find_putFile, hk]
      · exact .inl rfl

/-- A write that returns nil stores the data under its key and changes nothing else. -/
theorem writeFile_ok {path : String} {d short : α} (h : (fs.writeFile deny path d short).1 = .ok ())
    (k : Key) : find k (fs.writeFile deny path d short).2.entries =
      if k = keyOf path then some (.file d) else find k fs.entries := by
  revert h
  unfold writeFile
  split
  · exact nofun
  · split
    · exact nofun
    · split
      · dsimp only
        split
        · intro h; cases h
        · intro h; cases h
        · intro _; simp only [find_putFile]
      · exact nofun

theorem mkdirs_find (r : Bool) : ∀ (fs : FS α) (done : List Elem) (h) (rest : List Elem) (fs' : FS α),
    mkdirs r fs done h rest = .ok fs' → ∀ k : Key,
      find k fs'.entries = find k fs.entries ∨
        (find k fs.entries = none ∧ find k fs'.entries = some .dir ∧ k.1 = r ∧ k.2 <+: done ++ rest)
  | fs, done, h, [], fs', hm, k => by cases hm; exact .inl rfl
  | fs, done, h, e :: rest, fs', hm, k => by
      unfold mkdirs at hm
      split at hm
      · rcases mkdirs_find r fs _ _ rest fs' hm k with h1 | h1
        · exact .inl h1
        · exact .inr ⟨h1.1, h1.2.1, h1.2.2.1, by simpa using h1.2.2.2⟩
      · cases hm
      · rename_i hf
        rcases mkdirs_find r _ _ _ rest fs' hm k with h1 | ⟨h1, h2, h3, h4⟩
        · by_cases hk : k = (r, done ++ [e])
          · subst hk
            refine .inr ⟨hf, by rw [h1]; simp [addDir], rfl, ?_⟩
            exact ⟨rest, by simp⟩
          · left; rw [h1]; simp [addDir, find_cons_of_ne _ _ (Ne.symm hk)]
        · by_cases hk : k = (r, done ++ [e])
          · subst hk; simp [addDir] at h1
          · simp only [addDir, find_cons_of_ne _ _ (Ne.symm hk)] at h1
            exact .inr ⟨h1, h2, h3, by simpa using h4⟩

/-- **MKDIR FRAME**: `MkdirAll` only adds directories, at its key and its ancestors. -/
theorem mkdirAll_find {path : String} {fs' : FS α} (h : fs.mkdirAll deny path = .ok fs') (k : Key) :
    find k fs'.entries = find k fs.entries ∨
      (find k fs.entries = none ∧ find k fs'.entries = some .dir ∧ k.Above (keyOf path)) := by
  unfold mkdirAll at h
  split at h
  · cases h
  · rcases mkdirs_find _ fs [] _ _ fs' h k with h1 | ⟨h1, h2, h3, h4⟩
    · exact .inl h1
    · exact .inr ⟨h1, h2, h3, by simpa using h4⟩

theorem mkdirs_isDir (r : Bool) : ∀ (fs : FS α) (done : List Elem) (h) (rest : List Elem) (fs' : FS α),
    mkdirs r fs done h rest = .ok fs' → isDirIn fs'.entries (r, done ++ rest) = true
  | fs, done, h, [], fs', hm => by cases hm; simpa using h
  | fs, done, h, e :: rest, fs', hm => by
      unfold mkdirs at hm
      split at hm
      · simpa using mkdirs_isDir r fs _ _ rest fs' hm
      · cases hm
      · simpa using mkdirs_isDir r _ _ _ rest fs' hm

/-- After a successful `MkdirAll` the path is a directory. -/
theorem mkdirAll_isDir {path : String} {fs' : FS α} (h : fs.mkdirAll deny path = .ok fs') :
    isDirIn fs'.entries (keyOf path) = true := by
  unfold mkdirAll at h
  split at h
  · cases h
  · simpa using mkdirs_isDir _ fs [] _ _ fs' h

/-- A successful `MkdirAll` keeps every directory. -/
theorem mkdirAll_isDirIn {path : String} {fs' : FS α} (h : fs.mkdirAll deny path = .ok fs') {k : Key}
    (hk : isDirIn fs.entries k = true) : isDirIn fs'.entries k = true := by
  rcases mkdirAll_find h k with hf | ⟨-, hf, -⟩ <;> simp only [isDirIn, hf] at hk ⊢
  · exact hk
  · simp [Entry.isDir]

/-- **REMOVE FRAME**: a removal drops its key and changes nothing else. -/
theorem remove_find {path : String} {fs' : FS α} (h : fs.remove deny path = .ok fs') (k : Key) :
    find k fs'.entries = if k = keyOf path then none else find k fs.entries := by
  unfold remove at h
  split at h
  · cases h
  · split at h
    · split at h <;> cases h
    · split at h
      · cases h; exact find_filter_ne k (keyOf path) fs.entries
      · cases h

/-- A file is not a directory, and the root is no file. -/
theorem isDirIn_of_file {k : Key} {d : α} (hf : find k fs.entries = some (.file d)) :
    isDirIn fs.entries k = false := by
  have hk : k.2 ≠ [] := fun h => by rw [fs.find_root _ h] at hf; cases hf
  simp [isDirIn, hf, hk, Entry.isDir]

/-- A file that may be read reads back what it holds. -/
theorem readFile_of_find {path : String} {d : α} (hd : deny (.readFile path) = none)
    (hf : find (keyOf path) fs.entries = some (.file d)) : fs.readFile deny path = .ok d := by
  unfold readFile
  rw [hd]
  simp only [isDirIn_of_file hf, hf]
  rfl

/-- A removal that fails because nothing is there found nothing under its key. -/
theorem remove_notExist {path : String} {e : OsError} (h : fs.remove deny path = .error e)
    (he : e.notExist = true) : find (keyOf path) fs.entries = none := by
  unfold remove at h
  split at h
  · cases h; cases he
  split at h
  · assumption
  · split at h <;> cases h
    cases he

/-- A file that may be removed is removed: nothing can sit below it. -/
theorem remove_file {path : String} {d : α} (hd : deny (.remove path) = none)
    (hf : find (keyOf path) fs.entries = some (.file d)) : ∃ fs', fs.remove deny path = .ok fs' := by
  unfold remove
  rw [hd]
  simp only [hf]
  exact ⟨_, dif_pos (parent_ne_of_not_dir (isDirIn_of_file hf))⟩

end FS

end Os
