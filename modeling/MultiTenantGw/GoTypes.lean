import Mathlib.Tactic.Basic
import Mathlib.Algebra.Order.Ring.Int
import Mathlib.Data.Rat.Defs

/-! # Go values: `int64`, maps and `interface{}` parameters

    The gateway keeps byte counts (`Quota`, `UsedSpace`, the `additionalSize` of a
    quota check, stripe offsets and sizes) in Go `int64`s.  Go's `+` and `-` on
    them wrap modulo 2^64 in two's complement and its comparisons read the signed
    value, so a sum of two large positive counts can compare as negative.

    `GoInt64` carries its range as fields: every value the model computes is a
    value the Go program can hold.  `wrap` is the two's-complement reduction that
    the operators apply, and `wrap_of_range` says it is the identity when the exact
    result fits, which is how the overflow-free cases are discharged.

    A Go `map[string]T` is modelled by the function from keys to the entry they
    hold.  A backend parameter (`interface{}`) keeps its dynamic type, and
    `Value.json` is what `encoding/json` makes of it on the way through a file. -/

namespace GoInt

/-- The least `int64`, `-2^63`. -/
def minInt64 : Int := -9223372036854775808

/-- One past the greatest `int64`, `2^63`. -/
def bound : Int := 9223372036854775808

/-- Two's-complement reduction of an integer into `[-2^63, 2^63)`. -/
def wrap (x : Int) : Int := (x + 9223372036854775808) % 18446744073709551616 - 9223372036854775808

theorem wrap_ge (x : Int) : minInt64 ≤ wrap x := by
  unfold wrap minInt64; omega

theorem wrap_lt (x : Int) : wrap x < bound := by
  unfold wrap bound; omega

/-- **NO OVERFLOW**: the reduction leaves an in-range result alone. -/
theorem wrap_of_range {x : Int} (h1 : minInt64 ≤ x) (h2 : x < bound) : wrap x = x := by
  unfold wrap; unfold minInt64 at h1; unfold bound at h2; omega

end GoInt

open GoInt

/-- A Go `int64`: an integer in `[-2^63, 2^63)`. -/
structure GoInt64 where
  val : Int
  ge : minInt64 ≤ val
  lt : val < bound
  deriving DecidableEq

namespace GoInt64

/-- The conversion `int64(x)`: the exact value reduced into range. -/
def ofInt (x : Int) : GoInt64 := ⟨wrap x, wrap_ge x, wrap_lt x⟩

instance : OfNat GoInt64 n := ⟨ofInt n⟩

/-- Go's wrapping `+` on `int64`. -/
instance : Add GoInt64 := ⟨fun a b => ofInt (a.val + b.val)⟩

/-- Go's wrapping unary `-` on `int64` (`-minInt64 = minInt64`). -/
instance : Neg GoInt64 := ⟨fun a => ofInt (-a.val)⟩

/-- Go's wrapping binary `-` on `int64`. -/
instance : Sub GoInt64 := ⟨fun a b => ofInt (a.val - b.val)⟩

/-- Go's `/` on `int64`: truncated, wrapping only at `minInt64 / -1`.  (Go panics on
    a zero divisor; the callers check for it.) -/
instance : Div GoInt64 := ⟨fun a b => ofInt (a.val.tdiv b.val)⟩

/-- Go's `%` on `int64`: the remainder of the truncated division, with the sign of
    the dividend. -/
instance : Mod GoInt64 := ⟨fun a b => ofInt (a.val.tmod b.val)⟩

@[simp] theorem ofInt_val (x : Int) : (ofInt x).val = wrap x := rfl

@[simp] theorem add_val (a b : GoInt64) : (a + b).val = wrap (a.val + b.val) := rfl

@[simp] theorem neg_val (a : GoInt64) : (-a).val = wrap (-a.val) := rfl

@[simp] theorem sub_val (a b : GoInt64) : (a - b).val = wrap (a.val - b.val) := rfl

@[simp] theorem div_val (a b : GoInt64) : (a / b).val = wrap (a.val.tdiv b.val) := rfl

@[simp] theorem mod_val (a b : GoInt64) : (a % b).val = wrap (a.val.tmod b.val) := rfl

theorem val_ge (a : GoInt64) : -9223372036854775808 ≤ a.val := a.ge

theorem val_lt (a : GoInt64) : a.val < 9223372036854775808 := a.lt

/-- The literal `0`. -/
@[simp] theorem zero_val : (0 : GoInt64).val = 0 := rfl

/-- An `int64` is determined by its value. -/
theorem ext {a b : GoInt64} (h : a.val = b.val) : a = b := by
  cases a; cases b; cases h; rfl

/-- The exact sum, when it fits. -/
theorem add_val_of_range {a b : GoInt64} (h1 : minInt64 ≤ a.val + b.val)
    (h2 : a.val + b.val < bound) : (a + b).val = a.val + b.val :=
  wrap_of_range h1 h2

/-- The exact difference, when it fits. -/
theorem sub_val_of_range {a b : GoInt64} (h1 : minInt64 ≤ a.val - b.val)
    (h2 : a.val - b.val < bound) : (a - b).val = a.val - b.val :=
  wrap_of_range h1 h2

/-- A non-negative value modulo a positive one: the Euclidean remainder. -/
theorem mod_val_of_nonneg {a b : GoInt64} (ha : 0 ≤ a.val) (hb : 0 < b.val) :
    (a % b).val = a.val % b.val := by
  rw [mod_val, Int.tmod_eq_emod ha (Int.le_of_lt hb)]
  have h1 := Int.emod_nonneg a.val (Int.ne_of_gt hb)
  have h2 := Int.emod_lt_of_pos a.val hb
  have h3 := b.val_lt
  exact wrap_of_range (by unfold minInt64; omega) (by unfold bound; omega)

/-- A non-negative value divided by a positive one: the Euclidean quotient. -/
theorem div_val_of_nonneg {a b : GoInt64} (ha : 0 ≤ a.val) (hb : 0 < b.val) :
    (a / b).val = a.val / b.val := by
  rw [div_val, Int.tdiv_eq_ediv ha (Int.le_of_lt hb)]
  have h1 := Int.ediv_nonneg ha (Int.le_of_lt hb)
  have h2 := Int.ediv_le_self b.val ha
  have h3 := a.val_lt
  exact wrap_of_range (by unfold minInt64; omega) (by unfold bound; omega)

/-- Negation is exact on every `int64` but the least. -/
theorem neg_val_of_ne {a : GoInt64} (h : minInt64 < a.val) : (-a).val = -a.val := by
  have := a.val_lt
  unfold minInt64 at h
  exact wrap_of_range (by unfold minInt64; omega) (by unfold bound; omega)

end GoInt64

/-- A Go `map[string]T`: the entry each key holds. -/
abbrev GoMap (α : Type) := String → Option α

/-- `make(map[string]T)`. -/
def GoMap.empty {α : Type} : GoMap α := fun _ => none

/-- A map literal `map[string]T{k: v, ...}`. -/
def GoMap.ofList {α : Type} (l : List (String × α)) : GoMap α := fun k => l.lookup k

/-- `float64(n)` of an integer: `n` rounded to 53 significant bits, a halfway case to
    the even neighbour, as `strconv.ParseFloat` reads the decimal text of `n`. -/
def roundFloat64 (n : Int) : Int :=
  let m := n.natAbs
  -- the binary digits of `m` past the 53 a `float64` keeps
  let k := (Nat.toDigits 2 m).length - 53
  let q := m / 2 ^ k
  let r := m % 2 ^ k
  let q := if 2 ^ k < 2 * r ∨ (2 * r = 2 ^ k ∧ q % 2 = 1) then q + 1 else q
  n.sign * (q * 2 ^ k : Nat)

example : roundFloat64 9007199254740993 = 9007199254740992 := by decide
example : roundFloat64 (-1048576) = -1048576 := by decide

/-- A value in a `map[string]interface{}` of backend parameters, with the dynamic
    types the repository stores there and those `encoding/json` reads back. -/
inductive Value where
  | str (s : String)
  | int (n : Int)
  | bool (b : Bool)
  | strs (l : List String)
  /-- A `float64`, by its value: every JSON number reads back as one. -/
  | float (x : Rat)
  /-- A `[]interface{}` of strings: a JSON array of strings reads back as one. -/
  | anys (l : List String)
  deriving DecidableEq, Repr

/-- What `json.Unmarshal` into an `interface{}` gives back for the JSON text
    `json.Marshal` writes of a value: an integer becomes the nearest `float64`, a
    `[]string` a `[]interface{}`. -/
def Value.json : Value → Value
  | .int n => .float (Rat.ofInt (roundFloat64 n))
  | .strs l => .anys l
  | v => v

@[simp] theorem Value.json_json (v : Value) : v.json.json = v.json := by
  cases v <;> rfl

/-- `Value.json` on every entry of a parameter map. -/
def GoMap.json (m : GoMap Value) : GoMap Value := fun k => (m k).map Value.json

@[simp] theorem GoMap.json_json (m : GoMap Value) : m.json.json = m.json := by
  funext k
  simp only [GoMap.json]
  cases m k <;> simp

@[simp] theorem GoMap.json_empty : GoMap.empty.json = GoMap.empty := rfl
