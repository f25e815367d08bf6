import MultiTenantGw.Registry
import MultiTenantGw.Stripe

/-! # The paths the Lustre wrapper touches

    `LustreEnhancedBackend` wraps the POSIX backend that `createLustreEnhancedBackend`
    builds on the user's mount point.  Its `PutObject` picks a striping for the
    object's size and, before handing the request to the POSIX backend, stats the
    object's directory, creates it when missing and runs `lfs setstripe` on it
    (twice for a large object); its `GetObject` stats the object's file and, for a
    large one, asks `lfs getstripe` and opens it.  The calls it makes itself are
    recorded as `FsCall`s, with the world's answers in `LustreEnv`.

    **Stripe planning** (`calculateOptimalStriping_capped_tier`): the planned count is
    the size's `tier` capped by a positive configured count, so it lies in `[1, 8]`
    and is monotone in the size.

    **Paths** (`lustreWrapper_paths`): every path the wrapper hands to these calls is
    `filepath.Join(bucket, key)` or its `filepath.Dir`, computed from the bucket and
    key alone.  The mount point does not enter them, so they are resolved against
    the process's working directory, not inside the mount point
    (`lustreWrapper_outside_mount`).

    **Hand-over** (`lustreWrapper_delegates`): whatever the world answers, each
    request reaches the wrapped backend exactly once, as the wrapper's last call; a
    failed `Stat`, `MkdirAll`, `lfs setstripe` or `lfs getstripe` only changes the
    calls made before it. -/

namespace Lustre

open GoPath Registry

-- ── the world and the calls ────────────────────────────────────────────────

/-- Why `os.Stat` failed. -/
inductive StatError where
  | notExist
  | other (msg : String)

/-- What the world outside the process answers to the wrapper's own calls. -/
structure LustreEnv where
  /-- `os.Stat(path)`: the size, or why it failed. -/
  stat : String → Except StatError GoInt64
  /-- `os.MkdirAll(path, 0755)`. -/
  mkdirAll : String → Except String Unit
  /-- A command run to completion: on failure its combined output and error. -/
  exec : List String → Except (String × String) Unit
  /-- `lfs getstripe -c -S -i path`, with its output parsed. -/
  getstripe : String → Except String LustreStripeInfo

/-- A call the wrapper makes itself, or the request it hands to the backend it wraps. -/
inductive FsCall where
  | stat (path : String)
  | mkdirAll (path : String)
  /-- A command line (`lfs setstripe ... dir`, `lfs getstripe ... file`). -/
  | exec (args : List String)
  | openFile (path : String)
  /-- The wrapped backend's own `PutObject` or `GetObject`. -/
  | delegate (backend : Backend)

/-- The file-system paths a call names: a command names its last argument. -/
def FsCall.paths : FsCall → List String
  | .stat p => [p]
  | .mkdirAll p => [p]
  | .exec args => args.getLast?.toList
  | .openFile p => [p]
  | .delegate _ => []

-- ── the wrapper ────────────────────────────────────────────────────────────

/-- `calculateOptimalStriping`: a stripe count by size tier (1 MiB, 100 MiB, 1 GiB),
    capped by a positive configured count; the configured size; index `-1`. -/
def calculateOptimalStriping (lustreConfig : LustreConfig) (size : GoInt64) : LustreStripeInfo :=
  let stripeCount : Int :=
    if size.val < 1048576 then 1
    else if size.val < 104857600 then 2
    else if size.val < 1073741824 then 4
    else 8
  let stripeCount :=
    if lustreConfig.stripeCount > 0 ∧ stripeCount > lustreConfig.stripeCount then lustreConfig.stripeCount
    else stripeCount
  ⟨GoInt64.ofInt stripeCount, lustreConfig.stripeSize, GoInt64.ofInt (-1)⟩

/-- `getLargeFileThreshold`: 10 MiB, or twice a positive configured stripe size. -/
def getLargeFileThreshold (lustreConfig : LustreConfig) : GoInt64 :=
  if lustreConfig.stripeSize.val > 0 then GoInt64.ofInt (lustreConfig.stripeSize.val * 2)
  else GoInt64.ofInt 10485760

/-- The `lfs setstripe` command line of `ensureDirectoryStriping`. -/
def setstripeArgs (dirPath : String) (stripeInfo : LustreStripeInfo) : List String :=
  ["lfs", "setstripe"] ++
    (if stripeInfo.stripeCount.val > 0 then ["-c", toString stripeInfo.stripeCount.val] else []) ++
    (if stripeInfo.stripeSize.val > 0 then ["-S", toString stripeInfo.stripeSize.val] else []) ++
    (if stripeInfo.stripeIndex.val ≥ 0 then ["-i", toString stripeInfo.stripeIndex.val] else []) ++
    [dirPath]

/-- `ensureDirectoryStriping`: create the directory when `Stat` says it is missing,
    then run `lfs setstripe` on it. -/
def ensureDirectoryStriping (env : LustreEnv) (dirPath : String) (stripeInfo : LustreStripeInfo) :
    Except String Unit × List FsCall :=
  let striped : Except String Unit × List FsCall :=
    match env.exec (setstripeArgs dirPath stripeInfo) with
    | .error (output, err) => (.error ("lfs setstripe failed: " ++ output ++ ": " ++ err),
        [.exec (setstripeArgs dirPath stripeInfo)])
    | .ok () => (.ok (), [.exec (setstripeArgs dirPath stripeInfo)])
  match env.stat dirPath with
  | .error .notExist =>
      match env.mkdirAll dirPath with
      | .error e => (.error ("failed to create directory: " ++ e), [.stat dirPath, .mkdirAll dirPath])
      | .ok () => (striped.1, .stat dirPath :: .mkdirAll dirPath :: striped.2)
  | _ => (striped.1, .stat dirPath :: striped.2)

/-- `getFileStripeInfo`: `lfs getstripe` on the file. -/
def getFileStripeInfo (env : LustreEnv) (filePath : String) : Except String LustreStripeInfo × List FsCall :=
  (env.getstripe filePath, [.exec ["lfs", "getstripe", "-c", "-S", "-i", filePath]])

/-- `putLargeObjectWithStriping`: stripe the directory again, then hand over. -/
def putLargeObjectWithStriping (inner : Backend) (env : LustreEnv) (bucket key : String)
    (stripeInfo : LustreStripeInfo) : List FsCall :=
  (ensureDirectoryStriping env (dir (join [bucket, key])) stripeInfo).2 ++ [.delegate inner]

/-- `getLargeObjectWithStriping`: open the file, then hand over whatever `Open` and
    `Stat` answer. -/
def getLargeObjectWithStriping (inner : Backend) (bucket key : String) : List FsCall :=
  [.openFile (join [bucket, key]), .delegate inner]

/-- `(*LustreEnhancedBackend).PutObject`: the wrapper's calls for an object of
    `contentLength` bytes (unknown when `none`); a failed striping only logs. -/
def putObject (inner : Backend) (lustreConfig : LustreConfig) (env : LustreEnv) (bucket key : String)
    (contentLength : Option GoInt64) : List FsCall :=
  match contentLength with
  | none => [.delegate inner]
  | some contentLength =>
      let stripeConfig := calculateOptimalStriping lustreConfig contentLength
      (ensureDirectoryStriping env (dir (join [bucket, key])) stripeConfig).2 ++
        if contentLength.val > (getLargeFileThreshold lustreConfig).val then
          putLargeObjectWithStriping inner env bucket key stripeConfig
        else [.delegate inner]

/-- `(*LustreEnhancedBackend).GetObject`: the wrapper's calls. -/
def getObject (inner : Backend) (lustreConfig : LustreConfig) (env : LustreEnv) (bucket key : String) :
    List FsCall :=
  match env.stat (join [bucket, key]) with
  | .error _ => [.stat (join [bucket, key]), .delegate inner]
  | .ok size =>
      .stat (join [bucket, key]) ::
        if size.val > (getLargeFileThreshold lustreConfig).val then
          match getFileStripeInfo env (join [bucket, key]) with
          | (.ok stripeInfo, calls) =>
              calls ++ if stripeInfo.stripeCount.val > 1 then getLargeObjectWithStriping inner bucket key
                else [.delegate inner]
          | (.error _, calls) => calls ++ [.delegate inner]
        else [.delegate inner]

-- ── stripe planning ────────────────────────────────────────────────────────

/-- The stripe count a size asks for before any cap: one stripe below 1 MiB, two
    below 100 MiB, four below 1 GiB and eight from there on. -/
def tier (size : Int) : Int :=
  if size < 1048576 then 1 else if size < 104857600 then 2 else if size < 1073741824 then 4 else 8

theorem tier_bounds (size : Int) : 1 ≤ tier size ∧ tier size ≤ 8 := by
  unfold tier; split_ifs <;> omega

theorem tier_mono {a b : Int} (h : a ≤ b) : tier a ≤ tier b := by
  unfold tier; split_ifs <;> omega

/-- The planned count is the tier, capped by a positive configured count; it is in
    range, so the `int` conversion leaves it alone. -/
theorem calculateOptimalStriping_stripeCount (lustreConfig : LustreConfig) (size : GoInt64) :
    (calculateOptimalStriping lustreConfig size).stripeCount.val =
      if 0 < lustreConfig.stripeCount then min (tier size.val) lustreConfig.stripeCount
      else tier size.val := by
  obtain ⟨h1, h8⟩ := tier_bounds size.val
  show GoInt.wrap (if lustreConfig.stripeCount > 0 ∧ tier size.val > lustreConfig.stripeCount then
    lustreConfig.stripeCount else tier size.val) = _
  split_ifs <;> rw [GoInt.wrap_of_range (by unfold GoInt.minInt64; omega) (by unfold GoInt.bound; omega)] <;> omega

/-- **STRIPE PLANNING**: the stripe count is the size's tier, capped by a positive
    configured count, so it lies in `[1, 8]`, never exceeds a positive cap and grows
    with the size, for every configured count (zero and negative ones included);
    the stripe size is the configured one and the index `-1`. -/
theorem calculateOptimalStriping_capped_tier (lustreConfig : LustreConfig) :
    (∀ size : GoInt64, (calculateOptimalStriping lustreConfig size).stripeCount.val =
        if 0 < lustreConfig.stripeCount then min (tier size.val) lustreConfig.stripeCount
        else tier size.val) ∧
    (∀ size : GoInt64, 1 ≤ (calculateOptimalStriping lustreConfig size).stripeCount.val ∧
        (calculateOptimalStriping lustreConfig size).stripeCount.val ≤ 8) ∧
    (∀ size : GoInt64, 0 < lustreConfig.stripeCount →
        (calculateOptimalStriping lustreConfig size).stripeCount.val ≤ lustreConfig.stripeCount) ∧
    (∀ size : GoInt64, (calculateOptimalStriping lustreConfig size).stripeSize = lustreConfig.stripeSize ∧
        (calculateOptimalStriping lustreConfig size).stripeIndex.val = -1) ∧
    ∀ s1 s2 : GoInt64, s1.val ≤ s2.val →
      (calculateOptimalStriping lustreConfig s1).stripeCount.val ≤
        (calculateOptimalStriping lustreConfig s2).stripeCount.val := by
  refine ⟨calculateOptimalStriping_stripeCount lustreConfig, fun size => ?_, fun size hc => ?_,
    fun _ => ⟨rfl, rfl⟩, fun s1 s2 h => ?_⟩
  · have := tier_bounds size.val
    rw [calculateOptimalStriping_stripeCount]; split_ifs <;> omega
  · rw [calculateOptimalStriping_stripeCount, if_pos hc]; omega
  · have := tier_mono h
    rw [calculateOptimalStriping_stripeCount, calculateOptimalStriping_stripeCount]; split_ifs <;> omega

-- ── the paths ──────────────────────────────────────────────────────────────

/-- The calls name only paths equal to `p`. -/
def NamesOnly (p : String) (calls : List FsCall) : Prop := ∀ c ∈ calls, ∀ q ∈ c.paths, q = p

theorem namesOnly_append {p : String} {xs ys : List FsCall} (hx : NamesOnly p xs) (hy : NamesOnly p ys) :
    NamesOnly p (xs ++ ys) := fun c hc => (List.mem_append.mp hc).elim (hx c) (hy c)

theorem namesOnly_cons {p : String} {c : FsCall} {cs : List FsCall} (hc : ∀ q ∈ c.paths, q = p)
    (hcs : NamesOnly p cs) : NamesOnly p (c :: cs) :=
  fun d hd => (List.mem_cons.mp hd).elim (fun e => e ▸ hc) (hcs d)

theorem namesOnly_delegate (p : String) (inner : Backend) : NamesOnly p [.delegate inner] := by
  simp [NamesOnly, FsCall.paths]

/-- `lfs setstripe` names the directory last. -/
theorem setstripeArgs_getLast (dirPath : String) (stripeInfo : LustreStripeInfo) :
    (setstripeArgs dirPath stripeInfo).getLast? = some dirPath :=
  List.getLast?_concat _

/-- `ensureDirectoryStriping` stats, creates and restripes its directory, and calls
    nothing else. -/
theorem ensureDirectoryStriping_calls (env : LustreEnv) (dirPath : String) (stripeInfo : LustreStripeInfo) :
    ∀ c ∈ (ensureDirectoryStriping env dirPath stripeInfo).2,
      c = .stat dirPath ∨ c = .mkdirAll dirPath ∨ c = .exec (setstripeArgs dirPath stripeInfo) := by
  unfold ensureDirectoryStriping
  dsimp only
  split <;> [split; skip] <;> (try split) <;> simp

/-- `ensureDirectoryStriping` names only its directory. -/
theorem ensureDirectoryStriping_paths (env : LustreEnv) (dirPath : String) (stripeInfo : LustreStripeInfo) :
    NamesOnly dirPath (ensureDirectoryStriping env dirPath stripeInfo).2 := by
  intro c hc q hq
  rcases ensureDirectoryStriping_calls env dirPath stripeInfo c hc with rfl | rfl | rfl <;>
    simpa [FsCall.paths, setstripeArgs_getLast] using hq

/-- `getFileStripeInfo` names only its file. -/
theorem getFileStripeInfo_paths (env : LustreEnv) (filePath : String) :
    NamesOnly filePath (getFileStripeInfo env filePath).2 := by
  simp [NamesOnly, getFileStripeInfo, FsCall.paths]

/-- **PATHS**: whatever the world answers, every path the wrapper's own calls name
    is the object's directory (`PutObject`) or the object's file (`GetObject`), as
    `filepath.Join` and `filepath.Dir` compute them from the bucket and key alone. -/
theorem lustreWrapper_paths (inner : Backend) (lustreConfig : LustreConfig) (env : LustreEnv)
    (bucket key : String) (contentLength : Option GoInt64) :
    NamesOnly (dir (join [bucket, key])) (putObject inner lustreConfig env bucket key contentLength) ∧
      NamesOnly (join [bucket, key]) (getObject inner lustreConfig env bucket key) := by
  have hstat : ∀ q ∈ (FsCall.stat (join [bucket, key])).paths, q = join [bucket, key] := by
    simp [FsCall.paths]
  constructor
  · unfold putObject
    split
    · exact namesOnly_delegate _ inner
    · refine namesOnly_append (ensureDirectoryStriping_paths _ _ _) ?_
      split
      · exact namesOnly_append (ensureDirectoryStriping_paths _ _ _) (namesOnly_delegate _ inner)
      · exact namesOnly_delegate _ inner
  · unfold getObject
    split
    · exact namesOnly_cons hstat (namesOnly_delegate _ inner)
    · refine namesOnly_cons hstat ?_
      split
      · have hinfo := getFileStripeInfo_paths env (join [bucket, key])
        split <;> rename_i calls heq <;> rw [heq] at hinfo <;> refine namesOnly_append hinfo ?_
        · split
          · exact namesOnly_cons (by simp [FsCall.paths]) (namesOnly_delegate _ inner)
          · exact namesOnly_delegate _ inner
        · exact namesOnly_delegate _ inner
      · exact namesOnly_delegate _ inner

/-- A wrapper built over the mount point `/mnt/lustre/alice` puts `cat.jpg` into bucket
    `photos` by statting, creating and restriping `photos`, a path relative to the
    working directory and not inside the mount point; and a key with `..` leads above
    the bucket. -/
theorem lustreWrapper_outside_mount :
    DynamicBackendManager.createLustreEnhancedBackend ⟨fun _ => .ok (), fun _ => .ok (), fun _ => .ok 1, fun _ => .ok 1⟩
        ⟨"alice", "lustre", GoMap.empty, "/mnt/lustre/alice", 0, 0, .mounting⟩ {} =
      .ok (.lustreEnhanced (.posix 1 "/mnt/lustre/alice") {}) ∧
    putObject (.posix 1 "/mnt/lustre/alice") {}
        ⟨fun _ => .error .notExist, fun _ => .ok (), fun _ => .ok (), fun _ => .error "unused"⟩
        "photos" "cat.jpg" (some 5) =
      [.stat "photos", .mkdirAll "photos", .exec ["lfs", "setstripe", "-c", "1", "photos"],
        .delegate (.posix 1 "/mnt/lustre/alice")] ∧
    isInside "/mnt/lustre/alice" "photos" = false ∧ isInside "/mnt/lustre/alice" "photos/cat.jpg" = false ∧
    dir (join ["photos", "../../etc/passwd"]) = "../etc" :=
  ⟨rfl, rfl, by decide, by decide, by decide⟩

-- ── the hand-over ──────────────────────────────────────────────────────────

/-- The wrapper's own calls: none of them hands the request over. -/
def OwnCalls (calls : List FsCall) : Prop := ∀ c ∈ calls, ∀ b, c ≠ .delegate b

theorem ownCalls_append {xs ys : List FsCall} (hx : OwnCalls xs) (hy : OwnCalls ys) : OwnCalls (xs ++ ys) :=
  fun c hc => (List.mem_append.mp hc).elim (hx c) (hy c)

theorem ensureDirectoryStriping_own (env : LustreEnv) (dirPath : String) (stripeInfo : LustreStripeInfo) :
    OwnCalls (ensureDirectoryStriping env dirPath stripeInfo).2 := by
  intro c hc b
  rcases ensureDirectoryStriping_calls env dirPath stripeInfo c hc with rfl | rfl | rfl <;> nofun

/-- **HAND-OVER**: whatever the world answers, `PutObject` and `GetObject` hand the
    request to the wrapped backend exactly once, as their last call. -/
theorem lustreWrapper_delegates (inner : Backend) (lustreConfig : LustreConfig) (env : LustreEnv)
    (bucket key : String) (contentLength : Option GoInt64) :
    (∃ pre, OwnCalls pre ∧ putObject inner lustreConfig env bucket key contentLength = pre ++ [.delegate inner]) ∧
      ∃ pre, OwnCalls pre ∧ getObject inner lustreConfig env bucket key = pre ++ [.delegate inner] := by
  constructor
  · unfold putObject
    split
    · exact ⟨[], nofun, rfl⟩
    · dsimp only
      split
      · exact ⟨_, ownCalls_append (ensureDirectoryStriping_own _ _ _) (ensureDirectoryStriping_own _ _ _),
          (List.append_assoc _ _ _).symm⟩
      · exact ⟨_, ensureDirectoryStriping_own _ _ _, rfl⟩
  · have hstat : OwnCalls [.stat (join [bucket, key])] := by simp [OwnCalls]
    unfold getObject
    split
    · exact ⟨_, hstat, rfl⟩
    · split
      · have hinfo : OwnCalls (getFileStripeInfo env (join [bucket, key])).2 := by
          simp [OwnCalls, getFileStripeInfo]
        split <;> rename_i calls heq <;> rw [heq] at hinfo
        · split
          · have hopen : OwnCalls [.openFile (join [bucket, key])] := by simp [OwnCalls]
            exact ⟨_, ownCalls_append hstat (ownCalls_append hinfo hopen), by simp [getLargeObjectWithStriping]⟩
          · exact ⟨_, ownCalls_append hstat hinfo, by simp⟩
        · exact ⟨_, ownCalls_append hstat hinfo, by simp⟩
      · exact ⟨_, hstat, rfl⟩

end Lustre
