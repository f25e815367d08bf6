import MultiTenantGw.LustreBackend

/-! # OST pools

    `LustrePoolManager.CreatePool` runs `lctl pool_new <fs>.<pool>`, then for each OST
    index in order `lctl pool_add <fs>.<pool> <fs>-OST%04x`, and returns at the first
    command that fails; `DeletePool` runs `lctl pool_destroy <fs>.<pool>`.  The OST
    name comes from `fmt`'s `%04x`: `fmtInteger` in base 16 with the zero flag and
    width 4 (`sprintfHex`).

    **OST names** (`ostName_round_trip`): every index reads back from its OST name
    as a signed hexadecimal numeral after `<fs>-OST`, so two indices never name the
    same OST.  An index in `[0, 2^16)` takes exactly four digits, Lustre's own form
    (`sprintfHex_four`); a negative one is not refused, it is written with a sign.

    **Commands** (`createPool_calls`): `CreatePool` runs `pool_new`, then `pool_add`
    for a prefix of the OSTs in order, and nothing else; it returns nil exactly when
    `pool_new` and every `pool_add` succeed.  A failure undoes nothing: the pool and
    the OSTs added before it stay. -/

namespace Lustre

-- ── `%04x` ────────────────────────────────────────────────────────────────

/-- `ldigits` of package `fmt`. -/
def ldigits : List Char := "0123456789abcdefx".data

/-- `digits[d]`. -/
def ldigit (d : Nat) : Char := ldigits.getD d '0'

/-- The base-16 loop of `fmtInteger`: while `u ≥ 16`, put `digits[u&0xF]` in front
    and shift `u` right by 4; then put `digits[u]`.  `fuel` bounds the rounds. -/
def hexLoop : (fuel : Nat) → Nat → List Char → List Char
  | fuel + 1, u, buf => if 16 ≤ u then hexLoop fuel (u / 16) (ldigit (u % 16) :: buf) else ldigit u :: buf
  | 0, u, buf => ldigit u :: buf

/-- `fmt.Sprintf("%0<wid>x", v)` for an `int`: `fmtInteger` with the zero flag and a
    width: the digits of `|v|` zero-padded to the width (one less for a sign), then
    the sign, then `pad`, which puts spaces in front up to the width. -/
def sprintfHex (wid : Nat) (v : Int) : String :=
  let negative := decide (v < 0)
  let prec := if negative then wid - 1 else wid
  let digits := hexLoop v.natAbs v.natAbs []
  let digits := List.replicate (prec - digits.length) '0' ++ digits
  let buf := if negative then '-' :: digits else digits
  ⟨List.replicate (wid - buf.length) ' ' ++ buf⟩

/-- The value of a lowercase hexadecimal digit. -/
def hexVal (c : Char) : Option Nat :=
  if '0' ≤ c ∧ c ≤ '9' then some (c.toNat - '0'.toNat)
  else if 'a' ≤ c ∧ c ≤ 'f' then some (c.toNat - 'a'.toNat + 10)
  else none

/-- A hexadecimal numeral read onto `n`. -/
def readHex : Nat → List Char → Option Nat
  | n, [] => some n
  | n, c :: cs => (hexVal c).bind fun d => readHex (16 * n + d) cs

/-- A signed hexadecimal numeral, after the spaces in front. -/
def readHexInt (s : List Char) : Option Int :=
  match s.dropWhile (· == ' ') with
  | '-' :: ds => (readHex 0 ds).map fun n => -Int.ofNat n
  | ds => (readHex 0 ds).map Int.ofNat

theorem hexVal_ldigit : ∀ d : Fin 16, hexVal (ldigit d.val) = some d.val := by decide

theorem ldigit_ne (d : Nat) : ldigit d ≠ ' ' ∧ ldigit d ≠ '-' := by
  rcases Nat.lt_or_ge d 17 with h | h
  · have : ∀ d : Fin 17, ldigit d.val ≠ ' ' ∧ ldigit d.val ≠ '-' := by decide
    exact this ⟨d, h⟩
  · rw [ldigit, List.getD_eq_getElem?_getD, List.getElem?_eq_none (by simpa [ldigits] using h)]
    decide

theorem hexLoop_append : ∀ (fuel u : Nat) (buf : List Char), hexLoop fuel u buf = hexLoop fuel u [] ++ buf
  | 0, _, _ => rfl
  | fuel + 1, u, buf => by
      unfold hexLoop
      split
      · rw [hexLoop_append fuel _ (_ :: buf), hexLoop_append fuel _ [_], List.append_assoc]
        rfl
      · rfl

theorem hexLoop_mem : ∀ (fuel u : Nat) (c : Char), c ∈ hexLoop fuel u [] → ∃ d, c = ldigit d
  | 0, u, c, h => ⟨u, List.mem_singleton.mp h⟩
  | fuel + 1, u, c, h => by
      unfold hexLoop at h
      split at h
      · rw [hexLoop_append, List.mem_append, List.mem_singleton] at h
        exact h.elim (hexLoop_mem fuel _ c) fun h => ⟨_, h⟩
      · exact ⟨u, List.mem_singleton.mp h⟩

theorem hexLoop_length : ∀ (fuel u k : Nat), u < 16 ^ k → 1 ≤ k → (hexLoop fuel u []).length ≤ k
  | 0, _, _, _, hk => hk
  | fuel + 1, u, k, hu, hk => by
      unfold hexLoop
      split
      · obtain ⟨k, rfl⟩ : ∃ k', k = k' + 1 := ⟨k - 1, by omega⟩
        -- a numeral of two digits or more needs `k ≥ 2`
        have h2 : 16 ^ 1 < 16 ^ (k + 1) := by rw [pow_one]; omega
        have hk' : 1 < k + 1 := (Nat.pow_lt_pow_iff_right (by decide)).1 h2
        have := hexLoop_length fuel (u / 16) k (by rw [pow_succ] at hu; omega) (by omega)
        rw [hexLoop_append, List.length_append, List.length_singleton]
        omega
      · exact hk

theorem readHex_append (n : Nat) (xs ys : List Char) :
    readHex n (xs ++ ys) = (readHex n xs).bind (readHex · ys) := by
  induction xs generalizing n with
  | nil => rfl
  | cons c cs ih =>
      simp only [List.cons_append, readHex]
      cases hexVal c <;> simp [ih]

/-- The digit loop reads back as the number it writes. -/
theorem readHex_hexLoop : ∀ (fuel u n : Nat), u < 16 ^ (fuel + 1) →
    readHex n (hexLoop fuel u []) = some (n * 16 ^ (hexLoop fuel u []).length + u)
  | 0, u, n, hu => by
      have hd := hexVal_ldigit ⟨u, by simpa using hu⟩
      simp only [hexLoop, readHex, hd, Option.some_bind, List.length_singleton, pow_one]
      rw [Nat.mul_comm]
  | fuel + 1, u, n, hu => by
      unfold hexLoop
      split
      · have hd := hexVal_ldigit ⟨u % 16, Nat.mod_lt _ (by omega)⟩
        have hprefix := readHex_hexLoop fuel (u / 16) n (by rw [pow_succ] at hu; omega)
        rw [hexLoop_append, readHex_append, hprefix]
        simp only [Option.some_bind, readHex, hd, List.length_append, List.length_singleton]
        rw [pow_succ, ← Nat.mul_assoc]
        generalize n * 16 ^ (hexLoop fuel (u / 16) []).length = x
        congr 1
        omega
      · have hd := hexVal_ldigit ⟨u, by omega⟩
        simp only [readHex, hd, Option.some_bind, List.length_singleton, pow_one]
        rw [Nat.mul_comm]

theorem readHex_zeros (k : Nat) (ds : List Char) : readHex 0 (List.replicate k '0' ++ ds) = readHex 0 ds := by
  induction k with
  | zero => rfl
  | succ k ih => simpa [List.replicate_succ, readHex, hexVal] using ih

theorem dropWhile_spaces (k : Nat) {l : List Char} (hl : ∀ c ∈ l, c ≠ ' ') :
    (List.replicate k ' ' ++ l).dropWhile (· == ' ') = l := by
  induction k with
  | zero =>
      cases l with
      | nil => rfl
      | cons c cs => exact List.dropWhile_cons_of_neg (by simpa using hl c (List.mem_cons_self _ _))
  | succ k ih => simpa [List.replicate_succ] using ih

/-- The digits `sprintfHex` writes for `|v|`, zero-padded. -/
theorem readHex_padded (p : Nat) (v : Int) :
    readHex 0 (List.replicate (p - (hexLoop v.natAbs v.natAbs []).length) '0' ++ hexLoop v.natAbs v.natAbs []) =
      some v.natAbs := by
  rw [readHex_zeros, readHex_hexLoop _ _ _ (Nat.lt_of_lt_of_le (Nat.lt_pow_self (by omega) _)
    (Nat.pow_le_pow_right (by omega) (Nat.le_succ _)))]
  simp

theorem padded_ne (p : Nat) (v : Int) :
    ∀ c ∈ List.replicate (p - (hexLoop v.natAbs v.natAbs []).length) '0' ++ hexLoop v.natAbs v.natAbs [],
      c ≠ ' ' ∧ c ≠ '-' := by
  intro c hc
  rcases List.mem_append.mp hc with hc | hc
  · rw [List.eq_of_mem_replicate hc]; decide
  · obtain ⟨d, rfl⟩ := hexLoop_mem _ _ c hc
    exact ldigit_ne d

theorem readHexInt_neg (k : Nat) {ds : List Char} (hd : ∀ c ∈ ds, c ≠ ' ') :
    readHexInt (List.replicate k ' ' ++ '-' :: ds) = (readHex 0 ds).map fun n => -Int.ofNat n := by
  rw [readHexInt, @dropWhile_spaces k ('-' :: ds) fun c hc => by
    rcases List.mem_cons.mp hc with rfl | hc
    · decide
    · exact hd c hc]
  rfl

theorem readHexInt_nonneg (k : Nat) {ds : List Char} (hd : ∀ c ∈ ds, c ≠ ' ' ∧ c ≠ '-') :
    readHexInt (List.replicate k ' ' ++ ds) = (readHex 0 ds).map Int.ofNat := by
  rw [readHexInt, dropWhile_spaces k fun c hc => (hd c hc).1]
  split
  · exact absurd rfl (hd _ (List.mem_cons_self _ _)).2
  · rfl

/-- `%0<wid>x` reads back as its argument, for every width and every `int`. -/
theorem readHexInt_sprintfHex (wid : Nat) (v : Int) : readHexInt (sprintfHex wid v).data = some v := by
  by_cases hv : v < 0
  · simp only [sprintfHex, decide_eq_true hv, ↓reduceIte]
    rw [readHexInt_neg _ fun c hc => (padded_ne _ v c hc).1, readHex_padded, Option.map_some', Int.ofNat_eq_coe]
    congr 1
    omega
  · simp only [sprintfHex, decide_eq_false hv, Bool.false_eq_true, ↓reduceIte]
    rw [readHexInt_nonneg _ (padded_ne _ v), readHex_padded, Option.map_some', Int.ofNat_eq_coe]
    congr 1
    omega

/-- An index in `[0, 2^16)` takes exactly four digits. -/
theorem sprintfHex_four {v : Int} (h0 : 0 ≤ v) (h : v < 65536) : (sprintfHex 4 v).length = 4 := by
  have hlen := hexLoop_length v.natAbs v.natAbs 4 (by omega) (by omega)
  simp only [sprintfHex, show decide (v < 0) = false from decide_eq_false (by omega), Bool.false_eq_true,
    ↓reduceIte, String.length, List.length_append, List.length_replicate]
  omega

example : sprintfHex 4 10 = "000a" ∧ sprintfHex 4 (-1) = "-001" ∧ sprintfHex 4 70000 = "11170" := by decide

-- ── the pool manager ──────────────────────────────────────────────────────

/-- `LustrePoolManager`. -/
structure LustrePoolManager where
  filesystem : String

/-- `fmt.Sprintf("%s.%s", lpm.filesystem, poolName)`. -/
def poolSpec (lpm : LustrePoolManager) (poolName : String) : String := lpm.filesystem ++ "." ++ poolName

/-- `fmt.Sprintf("%s-OST%04x", lpm.filesystem, ost)`. -/
def ostName (lpm : LustrePoolManager) (ost : Int) : String := lpm.filesystem ++ "-OST" ++ sprintfHex 4 ost

/-- How an OST name of file system `fs` names its index: the numeral after `<fs>-OST`. -/
def readOstName (fs name : String) : Option Int :=
  if (fs ++ "-OST").data <+: name.data then readHexInt (name.data.drop (fs ++ "-OST").data.length) else none

theorem readOstName_ostName (lpm : LustrePoolManager) (ost : Int) :
    readOstName lpm.filesystem (ostName lpm ost) = some ost := by
  have hdata : (ostName lpm ost).data = (lpm.filesystem ++ "-OST").data ++ (sprintfHex 4 ost).data := by
    simp [ostName]
  rw [readOstName, if_pos (hdata ▸ List.prefix_append _ _), hdata, List.drop_left]
  exact readHexInt_sprintfHex 4 ost

/-- **OST NAMES**: the name `CreatePool` hands to `lctl pool_add` for an index reads
    back as that index, for every file system and every index, so no other index
    gets the same name. -/
theorem ostName_round_trip (lpm : LustrePoolManager) (ost : Int) :
    readOstName lpm.filesystem (ostName lpm ost) = some ost ∧
      ∀ ost', ostName lpm ost' = ostName lpm ost → ost' = ost :=
  ⟨readOstName_ostName lpm ost, fun ost' h => by
    simpa only [h, readOstName_ostName, Option.some.injEq] using (readOstName_ostName lpm ost').symm⟩

/-- `exec.Command(...).Run()`: the command's error, without its output. -/
def runCommand (env : LustreEnv) (args : List String) : Except String Unit :=
  match env.exec args with
  | .error (_, err) => .error err
  | .ok () => .ok ()

/-- The `lctl pool_new` command line. -/
def poolNewArgs (lpm : LustrePoolManager) (poolName : String) : List String :=
  ["lctl", "pool_new", poolSpec lpm poolName]

/-- The `lctl pool_add` command line for one OST. -/
def poolAddArgs (lpm : LustrePoolManager) (poolName : String) (ost : Int) : List String :=
  ["lctl", "pool_add", poolSpec lpm poolName, ostName lpm ost]

/-- The loop of `CreatePool` over the OSTs. -/
def addOSTs (env : LustreEnv) (lpm : LustrePoolManager) (poolName : String) :
    List Int → Except String Unit × List FsCall
  | [] => (.ok (), [])
  | ost :: osts =>
      match runCommand env (poolAddArgs lpm poolName ost) with
      | .error err =>
          (.error ("failed to add OST " ++ toString ost ++ " to pool: " ++ err), [.exec (poolAddArgs lpm poolName ost)])
      | .ok () =>
          let r := addOSTs env lpm poolName osts
          (r.1, .exec (poolAddArgs lpm poolName ost) :: r.2)

/-- `(*LustrePoolManager).CreatePool`. -/
def createPool (env : LustreEnv) (lpm : LustrePoolManager) (poolName : String) (osts : List Int) :
    Except String Unit × List FsCall :=
  match runCommand env (poolNewArgs lpm poolName) with
  | .error err => (.error ("failed to create pool: " ++ err), [.exec (poolNewArgs lpm poolName)])
  | .ok () =>
      let r := addOSTs env lpm poolName osts
      (r.1, .exec (poolNewArgs lpm poolName) :: r.2)

/-- `(*LustrePoolManager).DeletePool`. -/
def deletePool (env : LustreEnv) (lpm : LustrePoolManager) (poolName : String) : Except String Unit × List FsCall :=
  (runCommand env ["lctl", "pool_destroy", poolSpec lpm poolName],
    [.exec ["lctl", "pool_destroy", poolSpec lpm poolName]])

/-- `GetLustreFileStats`. -/
def getLustreFileStats (env : LustreEnv) (filePath : String) : Except String LustreStripeInfo × List FsCall :=
  getFileStripeInfo env filePath

theorem addOSTs_calls (env : LustreEnv) (lpm : LustrePoolManager) (poolName : String) :
    ∀ osts : List Int, ∃ k ≤ osts.length,
      (addOSTs env lpm poolName osts).2 = (osts.take k).map (fun o => .exec (poolAddArgs lpm poolName o)) ∧
      ((addOSTs env lpm poolName osts).1 = .ok () ↔ ∀ o ∈ osts, runCommand env (poolAddArgs lpm poolName o) = .ok ()) ∧
      ((addOSTs env lpm poolName osts).1 = .ok () → k = osts.length)
  | [] => ⟨0, le_rfl, rfl, by simp [addOSTs], fun _ => rfl⟩
  | ost :: osts => by
      unfold addOSTs
      split
      · rename_i err hr
        exact ⟨1, by simp, rfl, by simp [hr], nofun⟩
      · rename_i hr
        obtain ⟨k, hk, hcalls, hok, hlen⟩ := addOSTs_calls env lpm poolName osts
        refine ⟨k + 1, by simpa using hk, by simp [hcalls], ?_, fun h => by simpa using hlen h⟩
        simp [hok, hr]

/-- **COMMANDS**: `CreatePool` runs `lctl pool_new`, then `lctl pool_add` for the
    first `k` OSTs in order and nothing else; it returns nil exactly when `pool_new`
    and every `pool_add` succeed, and then it has added them all. -/
theorem createPool_calls (env : LustreEnv) (lpm : LustrePoolManager) (poolName : String) (osts : List Int) :
    ∃ k ≤ osts.length,
      (createPool env lpm poolName osts).2 =
        .exec (poolNewArgs lpm poolName) :: (osts.take k).map (fun o => .exec (poolAddArgs lpm poolName o)) ∧
      ((createPool env lpm poolName osts).1 = .ok () ↔
        runCommand env (poolNewArgs lpm poolName) = .ok () ∧
          ∀ o ∈ osts, runCommand env (poolAddArgs lpm poolName o) = .ok ()) ∧
      ((createPool env lpm poolName osts).1 = .ok () → k = osts.length) := by
  unfold createPool
  split
  · rename_i err hr
    exact ⟨0, Nat.zero_le _, rfl, by simp [hr], nofun⟩
  · rename_i hr
    obtain ⟨k, hk, hcalls, hok, hlen⟩ := addOSTs_calls env lpm poolName osts
    exact ⟨k, hk, by simp [hcalls], by simp [hok, hr], hlen⟩

end Lustre
