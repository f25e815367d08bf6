import MultiTenantGw.Registry

/-! # What the mount commands tell `mount`

    `mountCephFS`, `mountNFS` and `mountLustre` build the argument list of
    `mount -t <type> <source> <mountPoint> -o <options>`, joining the options with
    ',' (`strings.Join`); `mount` reads them back by splitting on ','
    (`splitOptions`).  `Encodes` says an argument list carries a source, a mount
    point and an option list that way, with `-o` present exactly when the list is
    non-empty.

    **Encoding** (`mountArgs_encode`): the three lists encode their configuration
    when the source is there (CephFS needs monitor addresses, Lustre MGS nodes),
    no option holds a ',' (the library's `List.splitOn_intercalate` needs nothing
    else), and a CephFS secret comes with a user name or options, since `-o` is
    only considered when one of those is set.  Without monitor addresses or MGS
    nodes the source is left out, and an option holding ',' splits in two; the
    secret is dropped when it comes alone (`cephFSArgs_drops_secret`): the inner
    block appends it and tests `len(opts) > 0`, but the outer guard leaves
    `SecretKey` out and already makes that test true. -/

namespace Registry

-- ── joining and splitting ──────────────────────────────────────────────────

/-- The options `mount` reads from the argument of `-o`. -/
def splitOptions (arg : String) : List String := (arg.data.splitOn ',').map String.mk

theorem intercalate_go_data (s : String) :
    ∀ (acc : String) (l : List String),
      (String.intercalate.go acc s l).data = s.data.intercalate (acc.data :: l.map String.data)
  | _, [] => by simp [String.intercalate.go, List.intercalate]
  | acc, a :: as => by
      rw [String.intercalate.go, intercalate_go_data s _ as]
      cases as <;> simp [List.intercalate]

/-- `strings.Join` is the library's `intercalate` on the characters. -/
theorem intercalate_data (s : String) : ∀ l : List String,
    (String.intercalate s l).data = s.data.intercalate (l.map String.data)
  | [] => by simp [String.intercalate, List.intercalate]
  | a :: as => intercalate_go_data s a as

/-- Splitting a non-empty list joined by ',' gives it back when no element holds ','. -/
theorem splitOptions_intercalate {l : List String} (hl : ∀ o ∈ l, ',' ∉ o.data) (hne : l ≠ []) :
    splitOptions (String.intercalate "," l) = l := by
  unfold splitOptions
  rw [intercalate_data, show (",".data) = [','] from rfl,
    List.splitOn_intercalate _ ',' (by simpa using hl) (by simpa using hne), List.map_map]
  exact List.map_id' l

-- ── the encoding ───────────────────────────────────────────────────────────

/-- `argv` runs `mount -t fsType source mountPoint`, followed by `-o` and an
    argument that splits into `opts` exactly when `opts` is non-empty. -/
def Encodes (fsType source mountPoint : String) (opts argv : List String) : Prop :=
  (opts = [] ∧ argv = ["mount", "-t", fsType, source, mountPoint]) ∨
    (opts ≠ [] ∧ ∃ arg, argv = ["mount", "-t", fsType, source, mountPoint, "-o", arg] ∧ splitOptions arg = opts)

/-- The CephFS options asked for: the user name, the secret, then the configured
    options. -/
def cephFSOptions (config : CephFSConfig) : List String :=
  (if config.username ≠ "" then ["name=" ++ config.username] else []) ++
    (if config.secretKey ≠ "" then ["secret=" ++ config.secretKey] else []) ++ config.options

/-- A list joined with `-o` when non-empty encodes it. -/
theorem encodes_of_join (fsType source mountPoint : String) {opts : List String}
    (hc : ∀ o ∈ opts, ',' ∉ o.data) :
    Encodes fsType source mountPoint opts
      (if opts ≠ [] then ["mount", "-t", fsType, source, mountPoint] ++ ["-o", String.intercalate "," opts]
        else ["mount", "-t", fsType, source, mountPoint]) := by
  by_cases h : opts = []
  · exact .inl ⟨h, if_neg (not_not.mpr h)⟩
  · exact .inr ⟨h, _, if_pos h, splitOptions_intercalate hc h⟩

/-- **ENCODING**: with a source and no ',' inside an option, the NFS and Lustre
    argument lists encode their options; the CephFS one encodes `cephFSOptions`
    when, besides, a secret comes with a user name or options. -/
theorem mountArgs_encode (ceph : CephFSConfig) (nfs : NFSConfig) (lustre : LustreConfig) (mountPoint : String)
    (hmon : ceph.monitorAddresses ≠ []) (hceph : ∀ o ∈ cephFSOptions ceph, ',' ∉ o.data)
    (hsecret : ceph.secretKey ≠ "" → ceph.options ≠ [] ∨ ceph.username ≠ "")
    (hnfs : ∀ o ∈ nfs.options, ',' ∉ o.data)
    (hmgs : lustre.mgsNodes ≠ []) (hlustre : ∀ o ∈ lustre.options, ',' ∉ o.data) :
    Encodes "ceph" (String.intercalate "," ceph.monitorAddresses ++ ":" ++ ceph.path) mountPoint
        (cephFSOptions ceph) (cephFSArgs ceph mountPoint) ∧
      Encodes (if nfs.version = "nfs4" then "nfs4" else "nfs") (nfs.serverAddress ++ ":" ++ nfs.exportPath)
        mountPoint nfs.options (nfsArgs nfs mountPoint) ∧
      Encodes "lustre" (String.intercalate "," lustre.mgsNodes ++ ":/" ++ lustre.fileSystem) mountPoint
        lustre.options (lustreArgs lustre mountPoint) := by
  refine ⟨?_, encodes_of_join _ _ _ hnfs, ?_⟩
  · unfold cephFSArgs
    dsimp only
    rw [if_pos hmon]
    by_cases hopt : ceph.options ≠ [] ∨ ceph.username ≠ ""
    · rw [if_pos hopt]
      exact encodes_of_join _ _ _ hceph
    · rw [if_neg hopt]
      refine .inl ⟨?_, rfl⟩
      simp only [ne_eq, not_or, not_not] at hopt
      by_cases hs : ceph.secretKey = ""
      · simp [cephFSOptions, hopt, hs]
      · simp only [hopt, ne_eq, not_true, or_self, imp_false, not_not] at hsecret
        exact absurd hsecret hs
  · unfold lustreArgs
    dsimp only
    rw [if_pos hmgs]
    exact encodes_of_join _ _ _ hlustre

/-- A CephFS secret without a user name or options is dropped: `cephFSOptions` holds
    `secret=<SecretKey>`, but `-o` is only considered when `Options` or `Username` is
    set, so the argument list carries no option at all. -/
theorem cephFSArgs_drops_secret :
    cephFSOptions { monitorAddresses := ["m1"], secretKey := "k" } = ["secret=k"] ∧
      cephFSArgs { monitorAddresses := ["m1"], secretKey := "k" } "/mnt/a" =
        ["mount", "-t", "ceph", "m1:", "/mnt/a"] :=
  ⟨rfl, rfl⟩

end Registry
