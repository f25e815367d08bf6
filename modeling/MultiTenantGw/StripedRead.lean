import MultiTenantGw.Stripe

/-! # The striped read refines the direct read

    `parallelReadStripes` reads `size` bytes at `offset`.  On a file with one stripe
    it makes one `ReadAt`.  Otherwise it cuts the range into stripe chunks, starts
    one goroutine per chunk, each writing its buffer and error into its own slot of
    `results` and `errors`, waits for all of them, returns the error of the first
    slot that has one, or else the buffers joined in slot order.  The semaphore
    only bounds how many goroutines run at once, so an execution is an order in
    which the goroutine bodies run (`runGoroutines`); since every goroutine writes
    only its own slot, every order that runs each of them leaves the same slots
    (`runGoroutines_perm`).

    `ReadAt` on an `os.File` reads until the buffer is full or the file ends, and
    reports `io.EOF` when it ends first; a file is its content `f`.

    **Refinement** (`parallelReadStripes_refines`): for every content, every range
    inside `[0, 2^63)`, every stripe geometry with more than one stripe and every
    order of the goroutines, the striped read returns the direct read's error, it
    succeeds exactly when the range ends inside the file (or is empty), and then
    both return the bytes of the range.

    **Panics and failures**: with more than one stripe and a stripe size of 0 the
    first round of the chunk loop divides by zero, so the read returns neither
    bytes nor an error (`parallelReadStripes_zero_stripe_size`); and a read that
    fails returns no bytes on the striped path but the whole zero-padded buffer on
    the direct one (`parallelReadStripes_error_data`). -/

namespace Lustre

open GoInt

/-- The content of a file. -/
abbrev Bytes := List UInt8

/-- How a read ends when it cannot fill its buffer. -/
inductive ReadError where
  /-- `io.EOF`: the file ended first. -/
  | eof
  /-- `ReadAt` at a negative offset. -/
  | negativeOffset
  deriving DecidableEq, Repr

/-- `(*os.File).ReadAt(b, off)` with `len(b) = n` on a file holding `f`: the buffer
    after the call (zero past what was read) and the error. -/
def readAt (f : Bytes) (n : Nat) (off : Int) : Bytes × Option ReadError :=
  if off < 0 then (List.replicate n 0, some .negativeOffset)
  else
    let got := (f.drop off.toNat).take n
    (got ++ List.replicate (n - got.length) 0, if got.length < n then some .eof else none)

/-- The body of one goroutine of `parallelReadStripes`: read chunk `c` into a fresh
    buffer of its size. -/
def readChunk (f : Bytes) (c : StripeChunk) : Bytes × Option ReadError :=
  readAt f c.size.val.toNat c.offset.val

/-- Goroutine `i` writes its chunk's buffer and error into slot `i`. -/
def runGoroutine (f : Bytes) (chunks : List StripeChunk) (slots : List (Bytes × Option ReadError))
    (i : Nat) : List (Bytes × Option ReadError) :=
  match chunks[i]? with
  | some c => slots.set i (readChunk f c)
  | none => slots

/-- The `results` and `errors` slots after the goroutines ran in `order`, from slots
    holding `nil`. -/
def runGoroutines (f : Bytes) (chunks : List StripeChunk) (order : List Nat) : List (Bytes × Option ReadError) :=
  order.foldl (runGoroutine f chunks) (List.replicate chunks.length ([], none))

/-- `parallelReadStripes`, with the order in which its goroutines run; `none` when it
    panics (`make` of a negative size, in the caller or in a goroutine, or a division
    by zero) or does not return.  (`totalSize` only sizes the result's capacity.) -/
def parallelReadStripes (f : Bytes) (offset size : GoInt64) (stripeInfo : LustreStripeInfo)
    (order : List Nat) : Option (Bytes × Option ReadError) :=
  if stripeInfo.stripeCount.val ≤ 1 then
    if size.val < 0 then none else some (readAt f size.val.toNat offset.val)
  else
    match calculateStripeChunks offset size stripeInfo with
    | none => none
    | some chunks =>
        if chunks.any (fun c => decide (c.size.val < 0)) then none else
        let slots := runGoroutines f chunks order
        match slots.findSome? (·.2) with
        | some err => some ([], some err)
        | none => some ((slots.map (·.1)).flatten, none)

-- ── `ReadAt` ───────────────────────────────────────────────────────────────

/-- A read at a non-negative offset fails exactly when the buffer reaches past the
    end of the file, and then with `io.EOF`. -/
theorem readAt_err (f : Bytes) (n : Nat) {off : Int} (h0 : 0 ≤ off) :
    (readAt f n off).2 = if n = 0 ∨ off + n ≤ f.length then none else some .eof := by
  unfold readAt
  rw [if_neg (by omega)]
  dsimp only
  rw [List.length_take, List.length_drop]
  by_cases h : n = 0 ∨ off + n ≤ f.length
  · rw [if_pos h, if_neg (by omega)]
  · rw [if_neg h, if_pos (by omega)]

/-- A read that fills its buffer returns the bytes of the range. -/
theorem readAt_data (f : Bytes) (n : Nat) {off : Int} (h0 : 0 ≤ off) (h : n = 0 ∨ off + n ≤ f.length) :
    (readAt f n off).1 = (f.drop off.toNat).take n := by
  unfold readAt
  rw [if_neg (by omega)]
  dsimp only
  rw [List.length_take, List.length_drop, show n - min n (f.length - off.toNat) = 0 by omega]
  simp

/-- The buffer keeps the length it was made with. -/
theorem readAt_length (f : Bytes) (n : Nat) (off : Int) : (readAt f n off).1.length = n := by
  unfold readAt
  split
  · exact List.length_replicate _ _
  · simp only [List.length_append, List.length_replicate, List.length_take, List.length_drop]
    omega

-- ── the goroutines ─────────────────────────────────────────────────────────

theorem runGoroutine_length (f : Bytes) (chunks : List StripeChunk) (slots : List (Bytes × Option ReadError))
    (i : Nat) : (runGoroutine f chunks slots i).length = slots.length := by
  unfold runGoroutine
  split
  · exact List.length_set _ _ _
  · rfl

/-- A goroutine writes its own slot and no other. -/
theorem runGoroutine_getElem? (f : Bytes) (chunks : List StripeChunk) {slots : List (Bytes × Option ReadError)}
    (hlen : slots.length = chunks.length) (i j : Nat) :
    (runGoroutine f chunks slots i)[j]? = if i = j then chunks[j]?.map (readChunk f) else slots[j]? := by
  unfold runGoroutine
  by_cases hij : i = j
  · subst hij
    split
    · rename_i c hc
      simp [List.getElem?_set, hc, hlen, (List.getElem?_eq_some_iff.mp hc).1]
    · rename_i hc
      have : chunks.length ≤ i := List.getElem?_eq_none_iff.mp hc
      simp [hc, List.getElem?_eq_none_iff.mpr (show slots.length ≤ i by omega)]
  · split <;> simp [List.getElem?_set, hij]

/-- After the goroutines in `order` ran, slot `j` holds chunk `j`'s read if goroutine
    `j` ran, and what it held before otherwise. -/
theorem foldl_runGoroutine_getElem? (f : Bytes) (chunks : List StripeChunk) (j : Nat) :
    ∀ (order : List Nat) (slots : List (Bytes × Option ReadError)), slots.length = chunks.length →
      (order.foldl (runGoroutine f chunks) slots)[j]? =
        if j ∈ order then chunks[j]?.map (readChunk f) else slots[j]?
  | [], slots, _ => by simp
  | i :: order, slots, hlen => by
      rw [List.foldl_cons, foldl_runGoroutine_getElem? f chunks j order _ (by rw [runGoroutine_length, hlen]),
        runGoroutine_getElem? f chunks hlen]
      by_cases hj : j ∈ order
      · simp [hj]
      · by_cases hij : i = j
        · simp [hij]
        · simp [hj, hij, Ne.symm hij]

/-- **ANY ORDER**: when every goroutine runs once, in whatever order, slot `i` holds
    chunk `i`'s read. -/
theorem runGoroutines_perm (f : Bytes) (chunks : List StripeChunk) {order : List Nat}
    (h : order.Perm (List.range chunks.length)) : runGoroutines f chunks order = chunks.map (readChunk f) := by
  apply List.ext_getElem?
  intro j
  unfold runGoroutines
  rw [foldl_runGoroutine_getElem? f chunks j order _ (List.length_replicate _ _), List.getElem?_map]
  by_cases hj : j < chunks.length
  · rw [if_pos (h.mem_iff.mpr (List.mem_range.mpr hj))]
  · rw [if_neg (fun hm => hj (List.mem_range.mp (h.mem_iff.mp hm))), List.getElem?_replicate, if_neg hj,
      List.getElem?_eq_none_iff.mpr (by omega)]
    rfl

-- ── chunks against the whole range ─────────────────────────────────────────

/-- **CHUNKS READ THE RANGE**: over chunks that tile a range at a non-negative offset,
    the first failing chunk fails as the direct read of the range does, and when
    none fails their buffers joined are the range's bytes. -/
theorem tiles_read (f : Bytes) :
    ∀ (chunks : List StripeChunk) (off len : Int), Tiles chunks off len → 0 ≤ off →
      (chunks.map (readChunk f)).findSome? (·.2) = (readAt f len.toNat off).2 ∧
        ((readAt f len.toNat off).2 = none →
          ((chunks.map (readChunk f)).map (·.1)).flatten = (f.drop off.toNat).take len.toNat)
  | [], off, len, ht, h0 => by
      simp only [Tiles] at ht
      subst ht
      simp [readAt_err f 0 h0]
  | c :: cs, off, len, ⟨hoff, hpos, hle, ht⟩, h0 => by
      obtain ⟨ih1, ih2⟩ := tiles_read f cs (off + c.size.val) (len - c.size.val) ht (by omega)
      have hc := readAt_err f c.size.val.toNat (show 0 ≤ c.offset.val by omega)
      have hd := readAt_err f len.toNat h0
      have hrest := readAt_err f (len - c.size.val).toNat (show 0 ≤ off + c.size.val by omega)
      simp only [List.map_cons, List.findSome?_cons, readChunk] at ih1 ih2 ⊢
      by_cases hin : off + c.size.val ≤ f.length
      · rw [hc, if_pos (by omega)]
        dsimp only
        rw [ih1, hrest, hd]
        refine ⟨by split <;> split <;> first | rfl | omega, fun hnone => ?_⟩
        have hall : len.toNat = 0 ∨ off + len.toNat ≤ f.length := by
          split at hnone
          · assumption
          · cases hnone
        rw [List.flatten_cons, readAt_data f _ (by omega) (by omega), hoff, ih2 (by rw [hrest, if_pos (by omega)]),
          show (off + c.size.val).toNat = off.toNat + c.size.val.toNat by omega, ← List.drop_drop,
          ← List.take_add, show c.size.val.toNat + (len - c.size.val).toNat = len.toNat by omega]
      · rw [hc, if_neg (by omega)]
        refine ⟨by rw [hd, if_neg (by omega)], fun hnone => ?_⟩
        rw [hd, if_neg (by omega)] at hnone
        cases hnone

-- ── the refinement ─────────────────────────────────────────────────────────

/-- The direct read: one `ReadAt` of the whole range. -/
theorem parallelReadStripes_direct (f : Bytes) {offset size : GoInt64} {stripeInfo : LustreStripeInfo}
    (hcount : stripeInfo.stripeCount.val ≤ 1) (hsize : 0 ≤ size.val) (order : List Nat) :
    parallelReadStripes f offset size stripeInfo order = some (readAt f size.val.toNat offset.val) := by
  unfold parallelReadStripes
  rw [if_pos hcount, if_neg (by omega)]

/-- **STRIPED = DIRECT**: for every file content, every range inside `[0, 2^63)`,
    every geometry with more than one stripe and a positive stripe size, and every
    order in which the chunk goroutines run, the striped read returns, and with the
    direct read's error: both succeed exactly when the range is empty or ends
    inside the file, and then both return the bytes of the range; the error is that
    of the lowest-index failing chunk. -/
theorem parallelReadStripes_refines (f : Bytes) (offset size : GoInt64) (stripeInfo : LustreStripeInfo)
    (hoff : 0 ≤ offset.val) (hsize : 0 ≤ size.val) (hend : offset.val + size.val < bound)
    (hcount : 1 < stripeInfo.stripeCount.val) (hss : 0 < stripeInfo.stripeSize.val) (order : List Nat)
    (horder : ∀ chunks, calculateStripeChunks offset size stripeInfo = some chunks →
      order.Perm (List.range chunks.length)) :
    ∃ data direct err, parallelReadStripes f offset size stripeInfo order = some (data, err) ∧
      parallelReadStripes f offset size { stripeInfo with stripeCount := 1 } order = some (direct, err) ∧
      (err = none ↔ size.val = 0 ∨ offset.val + size.val ≤ f.length) ∧
      (err = none → data = (f.drop offset.val.toNat).take size.val.toNat ∧ direct = data) ∧
      ∀ chunks, calculateStripeChunks offset size stripeInfo = some chunks →
        err = (chunks.map (readChunk f)).findSome? (·.2) := by
  obtain ⟨chunks, hch, htile⟩ := chunks_tile hoff hsize hend hcount hss
  obtain ⟨herr, hdata⟩ := tiles_read f chunks offset.val size.val htile hoff
  have hdirect : parallelReadStripes f offset size { stripeInfo with stripeCount := 1 } order =
      some ((readAt f size.val.toNat offset.val).1, (readAt f size.val.toNat offset.val).2) :=
    parallelReadStripes_direct f (show (1 : GoInt64).val ≤ 1 by decide) hsize order
  have hstriped : parallelReadStripes f offset size stripeInfo order =
      match (readAt f size.val.toNat offset.val).2 with
      | some err => some ([], some err)
      | none => some (((chunks.map (readChunk f)).map (·.1)).flatten, none) := by
    have hneg : chunks.any (fun c => decide (c.size.val < 0)) = false :=
      List.any_eq_false.mpr fun c hc => by have := htile.size_pos c hc; simp only [decide_eq_true_eq]; omega
    unfold parallelReadStripes
    rw [if_neg (by omega), hch]
    dsimp only
    rw [hneg, if_neg Bool.false_ne_true, runGoroutines_perm f chunks (horder chunks hch), herr]
  have hfirst : ∀ cs, calculateStripeChunks offset size stripeInfo = some cs →
      (readAt f size.val.toNat offset.val).2 = (cs.map (readChunk f)).findSome? (·.2) := by
    intro cs hcs
    rw [← herr, ← Option.some.inj (hch.symm.trans hcs)]
  have hok : (readAt f size.val.toNat offset.val).2 = none ↔ size.val = 0 ∨ offset.val + size.val ≤ f.length := by
    rw [readAt_err f _ hoff]
    split <;> simp <;> omega
  have hread := readAt_data f size.val.toNat hoff
  generalize (readAt f size.val.toNat offset.val).2 = err at hstriped hdirect hfirst hok hdata
  cases err with
  | none =>
      refine ⟨_, _, none, hstriped, hdirect, hok, fun _ => ⟨hdata rfl, ?_⟩, hfirst⟩
      rw [hread (by have := hok.mp rfl; omega), hdata rfl]
  | some e => exact ⟨_, _, some e, hstriped, hdirect, hok, (fun h => by cases h), hfirst⟩

/-- Two chunks whose goroutines finish in reverse order: the read returns the bytes
    of the range. -/
theorem parallelReadStripes_reversed :
    (∀ chunks, calculateStripeChunks 1 3 ⟨2, 2, 0⟩ = some chunks → [1, 0].Perm (List.range chunks.length)) ∧
      parallelReadStripes [1, 2, 3, 4, 5] 1 3 ⟨2, 2, 0⟩ [1, 0] = some ([2, 3, 4], none) :=
  have horder : ∀ chunks, calculateStripeChunks 1 3 ⟨2, 2, 0⟩ = some chunks →
      [1, 0].Perm (List.range chunks.length) := fun chunks h => by
    have hc : calculateStripeChunks 1 3 ⟨2, 2, 0⟩ = some [⟨1, 1, 0⟩, ⟨2, 2, 1⟩] := rfl
    rw [hc] at h
    cases h
    decide
  let ⟨_, _, _, hread, _, hok, hdata, _⟩ := parallelReadStripes_refines [1, 2, 3, 4, 5] 1 3 ⟨2, 2, 0⟩
    (by decide) (by decide) (by decide) (by decide) (by decide) [1, 0] horder
  have hnone := hok.mpr (by decide)
  ⟨horder, by rw [hread, (hdata hnone).1, hnone]; rfl⟩

-- ── panics and failures ────────────────────────────────────────────────────

/-- **DIVISION BY ZERO**: with more than one stripe and a stripe size of 0, the first
    round of `calculateStripeChunks` on a non-empty range divides by zero.  No number
    of rounds yields chunks, and the read panics instead of returning bytes or an
    error. -/
theorem parallelReadStripes_zero_stripe_size (f : Bytes) (offset size : GoInt64) (stripeInfo : LustreStripeInfo)
    (order : List Nat) (hss : stripeInfo.stripeSize.val = 0) (hcount : 1 < stripeInfo.stripeCount.val)
    (hsize : 0 < size.val) :
    (∀ fuel, chunksLoop stripeInfo.stripeSize stripeInfo.stripeCount fuel offset size = none) ∧
      parallelReadStripes f offset size stripeInfo order = none := by
  have hloop : ∀ fuel, chunksLoop stripeInfo.stripeSize stripeInfo.stripeCount fuel offset size = none := by
    intro fuel
    unfold chunksLoop
    rw [if_pos hsize]
    cases fuel with
    | zero => rfl
    | succ fuel => exact if_pos (Or.inl hss)
  refine ⟨hloop, ?_⟩
  unfold parallelReadStripes calculateStripeChunks
  rw [if_neg (by omega), hloop]

/-- A one-byte read over two stripes of size 0. -/
theorem parallelReadStripes_zero_stripe_size_one_byte : parallelReadStripes [7] 0 1 ⟨2, 0, 0⟩ [0] = none :=
  (parallelReadStripes_zero_stripe_size [7] 0 1 ⟨2, 0, 0⟩ [0] (by decide) (by decide) (by decide)).2

/-- **WHAT A FAILED READ RETURNS**: at a non-negative offset, whenever the read returns
    an error, the striped path returns no bytes, and the direct path (at most one
    stripe) returns its whole buffer: `size` bytes, at least one, zero past what
    was read. -/
theorem parallelReadStripes_error_data (f : Bytes) {offset size : GoInt64} {stripeInfo : LustreStripeInfo}
    {order : List Nat} {data : Bytes} {e : ReadError} (hoff : 0 ≤ offset.val)
    (h : parallelReadStripes f offset size stripeInfo order = some (data, some e)) :
    (1 < stripeInfo.stripeCount.val → data = []) ∧
      (stripeInfo.stripeCount.val ≤ 1 →
        data = (readAt f size.val.toNat offset.val).1 ∧ data.length = size.val.toNat ∧ 0 < data.length) := by
  unfold parallelReadStripes at h
  by_cases hcount : stripeInfo.stripeCount.val ≤ 1
  · -- one `ReadAt` into a buffer of `size` bytes
    rw [if_pos hcount] at h
    split at h
    · cases h
    · have hread := Option.some.inj h
      have herr := readAt_err f size.val.toNat hoff
      have hlen := readAt_length f size.val.toNat offset.val
      rw [hread] at herr hlen
      refine ⟨fun h1 => absurd h1 (by omega), fun _ => ⟨congrArg Prod.fst hread.symm, hlen, ?_⟩⟩
      split at herr
      · cases herr
      · dsimp only at hlen
        omega
  · -- the chunk goroutines: the first error comes back without bytes
    rw [if_neg hcount] at h
    refine ⟨fun _ => ?_, fun h1 => absurd h1 hcount⟩
    split at h
    · cases h
    · split at h
      · cases h
      · dsimp only at h
        split at h
        · exact (Prod.mk.inj (Option.some.inj h)).1.symm
        · cases h

/-- An empty file read at offset 0 for one byte: without striping the read returns
    its one-byte buffer with `io.EOF`, striped the same failing read returns nil. -/
theorem parallelReadStripes_unstriped_eof :
    parallelReadStripes [] 0 1 ⟨1, 1, 0⟩ [] = some ([0], some .eof) ∧
      parallelReadStripes [] 0 1 ⟨2, 1, 0⟩ [0] = some ([], some .eof) :=
  ⟨rfl, rfl⟩

end Lustre
