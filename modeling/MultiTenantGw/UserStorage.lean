import MultiTenantGw.FileSystem

/-! # The user storage directory

    `createUserStorageDirectory` makes `<basePath>/users/<userID>` with `MkdirAll`,
    then its `buckets`, `metadata` and `temp` subdirectories, and stops at the first
    failure.  Nothing in the repository calls it yet.

    **What it creates** (`createUserStorageDirectory_spec`): whatever the file system
    answers, every entry it changes was missing and is now a directory on the way to
    one of the three subdirectories, so it removes and overwrites nothing, and a
    failure keeps what was made before it.  When it returns the user's path, that
    path and its three subdirectories are directories. -/

namespace Versitygw

open GoPath Os

variable {α : Type}

/-- The subdirectories `createUserStorageDirectory` makes. -/
def storageSubdirs : List String := ["buckets", "metadata", "temp"]

/-- The loop of `createUserStorageDirectory` over the subdirectories. -/
def mkSubdirs (deny : Denials) (userPath : String) : FS α → List String → Except String Unit × FS α × List Call
  | fs, [] => (.ok (), fs, [])
  | fs, subdir :: rest =>
      let subdirPath := join [userPath, subdir]
      match fs.mkdirAll deny subdirPath with
      | .error e =>
          (.error ("failed to create subdirectory " ++ subdir ++ ": " ++ e.msg), fs, [.mkdirAll subdirPath])
      | .ok fs' =>
          let r := mkSubdirs deny userPath fs' rest
          (r.1, r.2.1, .mkdirAll subdirPath :: r.2.2)

/-- `createUserStorageDirectory`. -/
def createUserStorageDirectory (deny : Denials) (fs : FS α) (basePath userID : String) :
    Except String String × FS α × List Call :=
  let userPath := join [basePath, "users", userID]
  match fs.mkdirAll deny userPath with
  | .error e => (.error ("failed to create user directory: " ++ e.msg), fs, [.mkdirAll userPath])
  | .ok fs' =>
      match mkSubdirs deny userPath fs' storageSubdirs with
      | (.error e, fs'', calls) => (.error e, fs'', .mkdirAll userPath :: calls)
      | (.ok (), fs'', calls) => (.ok userPath, fs'', .mkdirAll userPath :: calls)

-- ── growth by directories ─────────────────────────────────────────────────

/-- `fs'` is `fs` with directories added at keys where `P` holds. -/
def Grows (fs fs' : FS α) (P : Key → Prop) : Prop :=
  ∀ k, find k fs'.entries = find k fs.entries ∨
    (find k fs.entries = none ∧ find k fs'.entries = some .dir ∧ P k)

theorem Grows.refl (fs : FS α) (P : Key → Prop) : Grows fs fs P := fun _ => .inl rfl

theorem Grows.trans {fs fs1 fs2 : FS α} {P Q : Key → Prop} (h1 : Grows fs fs1 P) (h2 : Grows fs1 fs2 Q) :
    Grows fs fs2 fun k => P k ∨ Q k := fun k => by
  rcases h1 k with e1 | ⟨n1, d1, p1⟩ <;> rcases h2 k with e2 | ⟨n2, d2, q2⟩
  · exact .inl (e2.trans e1)
  · exact .inr ⟨e1 ▸ n2, d2, .inr q2⟩
  · exact .inr ⟨n1, e2.trans d1, .inl p1⟩
  · rw [d1] at n2; cases n2

theorem Grows.mono {fs fs' : FS α} {P Q : Key → Prop} (h : Grows fs fs' P) (hpq : ∀ k, P k → Q k) :
    Grows fs fs' Q := fun k => (h k).imp_right fun ⟨n, d, p⟩ => ⟨n, d, hpq k p⟩

theorem Grows.of_mkdirAll {deny : Denials} {fs fs' : FS α} {path : String} (h : fs.mkdirAll deny path = .ok fs') :
    Grows fs fs' (·.Above (keyOf path)) := FS.mkdirAll_find h

theorem above_trans {k k1 k2 : Key} (h1 : k.Above k1) (h2 : k1.Above k2) : k.Above k2 :=
  ⟨h1.1.trans h2.1, h1.2.trans h2.2⟩

theorem above_subdir (p sub : String) (hs : Plain sub.data) : (keyOf p).Above (keyOf (join [p, sub])) := by
  obtain ⟨h1, h2⟩ := @join_plain p [sub] (by simpa using hs) (by simp)
  exact ⟨h2.symm, by simp [keyOf, h1]⟩

-- ── what the loop does ────────────────────────────────────────────────────

theorem mkSubdirs_grows (deny : Denials) (p : String) :
    ∀ (fs : FS α) (subs : List String),
      Grows fs (mkSubdirs deny p fs subs).2.1 fun k => ∃ sub ∈ subs, k.Above (keyOf (join [p, sub]))
  | fs, [] => Grows.refl fs _
  | fs, sub :: rest => by
      unfold mkSubdirs
      dsimp only
      split
      · exact Grows.refl fs _
      · rename_i fs' h
        refine ((Grows.of_mkdirAll h).trans (mkSubdirs_grows deny p fs' rest)).mono ?_
        rintro k (hk | ⟨s, hs, hk⟩)
        · exact ⟨sub, List.mem_cons_self _ _, hk⟩
        · exact ⟨s, List.mem_cons_of_mem _ hs, hk⟩

theorem mkSubdirs_ok (deny : Denials) (p : String) :
    ∀ (fs : FS α) (subs : List String), (mkSubdirs deny p fs subs).1 = .ok () →
      (∀ k, isDirIn fs.entries k = true → isDirIn (mkSubdirs deny p fs subs).2.1.entries k = true) ∧
        ∀ sub ∈ subs, isDirIn (mkSubdirs deny p fs subs).2.1.entries (keyOf (join [p, sub])) = true
  | fs, [], _ => ⟨fun _ hk => hk, fun _ h => absurd h (List.not_mem_nil _)⟩
  | fs, sub :: rest, hok => by
      unfold mkSubdirs at hok ⊢
      dsimp only at hok ⊢
      split at hok
      · cases hok
      rename_i fs' h
      obtain ⟨hkeep, hsubs⟩ := mkSubdirs_ok deny p fs' rest hok
      refine ⟨fun k hk => hkeep k (FS.mkdirAll_isDirIn h hk), fun s hs => ?_⟩
      rcases List.mem_cons.mp hs with rfl | hs
      · exact hkeep _ (FS.mkdirAll_isDir h)
      · exact hsubs s hs

/-- **WHAT IT CREATES**: whatever the file system answers, `createUserStorageDirectory`
    only adds directories, each on the way to one of the user's three
    subdirectories, and keeps every other entry; when it returns the user's path,
    that path and its three subdirectories are directories. -/
theorem createUserStorageDirectory_spec (deny : Denials) (fs : FS α) (basePath userID : String) :
    Grows fs (createUserStorageDirectory deny fs basePath userID).2.1
        (fun k => ∃ sub ∈ storageSubdirs, k.Above (keyOf (join [join [basePath, "users", userID], sub]))) ∧
      ∀ p, (createUserStorageDirectory deny fs basePath userID).1 = .ok p →
        p = join [basePath, "users", userID] ∧
        isDirIn (createUserStorageDirectory deny fs basePath userID).2.1.entries (keyOf p) = true ∧
        ∀ sub ∈ storageSubdirs,
          isDirIn (createUserStorageDirectory deny fs basePath userID).2.1.entries (keyOf (join [p, sub])) = true := by
  unfold createUserStorageDirectory
  dsimp only
  split
  · exact ⟨Grows.refl fs _, fun _ h => by cases h⟩
  rename_i fs' h
  have hgrow : Grows fs (mkSubdirs deny (join [basePath, "users", userID]) fs' storageSubdirs).2.1
      fun k => ∃ sub ∈ storageSubdirs, k.Above (keyOf (join [join [basePath, "users", userID], sub])) :=
    ((Grows.of_mkdirAll h).trans (mkSubdirs_grows deny _ fs' storageSubdirs)).mono fun k hk => by
      rcases hk with hk | hk
      · exact ⟨"buckets", by decide, above_trans hk (above_subdir _ _ (by decide))⟩
      · exact hk
  rcases hs : mkSubdirs deny (join [basePath, "users", userID]) fs' storageSubdirs with ⟨_ | _, fs'', calls⟩ <;>
    rw [hs] at hgrow <;> dsimp only
  · exact ⟨hgrow, fun _ h => by cases h⟩
  · obtain ⟨hkeep, hsubs⟩ := mkSubdirs_ok deny _ fs' storageSubdirs (by rw [hs])
    rw [hs] at hkeep hsubs
    refine ⟨hgrow, fun p hp => ?_⟩
    cases hp
    exact ⟨rfl, hkeep _ (FS.mkdirAll_isDir h), hsubs⟩

-- On an empty file system the user's directories are made.
example : (createUserStorageDirectory allow (FS.empty : FS Unit) "/srv" "alice").1 = .ok "/srv/users/alice" ∧
    isDirIn (createUserStorageDirectory allow (FS.empty : FS Unit) "/srv" "alice").2.1.entries
      (keyOf "/srv/users/alice/temp") = true := ⟨rfl, rfl⟩

end Versitygw
