import MultiTenantGw.GoTypes

/-! # Stripe chunks of a Lustre read

    `calculateStripeChunks` cuts a byte range `[offset, offset + size)` at the stripe
    boundaries of the file: each round takes the rest of the current stripe, or
    what is left of the range, and records which stripe it falls in.  All of it is
    `int64` arithmetic.  The model runs the loop for as many rounds as there are
    bytes (`chunksLoop`); with a positive stripe size every round takes at least one
    byte, so that is enough, and the rounds run out only on inputs where Go divides
    by zero or, with a negative stripe size, keeps looping.

    `calculateStripeChunks_partition`: for a positive stripe size and count and a
    range that fits in `int64`, the loop finishes and its chunks partition the range
    in order, each non-empty and inside one stripe, each but the last ending on a
    stripe boundary; and it computes what the same loop computes over unbounded
    integers (`chunksExact`), so no operation wraps. -/

namespace Lustre

open GoInt

/-- `LustreStripeInfo`, without the OST list that nothing modelled reads. -/
structure LustreStripeInfo where
  stripeCount : GoInt64
  stripeSize : GoInt64
  stripeIndex : GoInt64

/-- `StripeChunk`. -/
structure StripeChunk where
  offset : GoInt64
  size : GoInt64
  stripe : GoInt64

/-- The loop of `calculateStripeChunks` from `currentOffset` with `remaining` bytes
    to cover, for at most `fuel` rounds; `none` when the rounds run out or a round
    divides by zero. -/
def chunksLoop (stripeSize stripeCount : GoInt64) :
    Nat → GoInt64 → GoInt64 → Option (List StripeChunk)
  | fuel, currentOffset, remaining =>
      if remaining.val > 0 then
        match fuel with
        | 0 => none
        | fuel + 1 =>
            if stripeSize.val = 0 ∨ stripeCount.val = 0 then none
            else
              let stripeIndex := currentOffset / stripeSize % stripeCount
              let stripeOffset := currentOffset % stripeSize
              let chunkSize := stripeSize - stripeOffset
              let chunkSize := if chunkSize.val > remaining.val then remaining else chunkSize
              (chunksLoop stripeSize stripeCount fuel (currentOffset + chunkSize) (remaining - chunkSize)).map
                (⟨currentOffset, chunkSize, stripeIndex⟩ :: ·)
      else some []

/-- `calculateStripeChunks`. -/
def calculateStripeChunks (offset size : GoInt64) (stripeInfo : LustreStripeInfo) : Option (List StripeChunk) :=
  chunksLoop stripeInfo.stripeSize stripeInfo.stripeCount size.val.toNat offset size

/-- The loop of `calculateStripeChunks` over unbounded integers, with Go's truncating
    `/` and `%`: the `(Offset, Size, Stripe)` of each chunk. -/
def chunksExact (stripeSize stripeCount : Int) : Nat → Int → Int → Option (List (Int × Int × Int))
  | fuel, currentOffset, remaining =>
      if remaining > 0 then
        match fuel with
        | 0 => none
        | fuel + 1 =>
            if stripeSize = 0 ∨ stripeCount = 0 then none
            else
              let stripeIndex := (currentOffset.tdiv stripeSize).tmod stripeCount
              let stripeOffset := currentOffset.tmod stripeSize
              let chunkSize := stripeSize - stripeOffset
              let chunkSize := if chunkSize > remaining then remaining else chunkSize
              (chunksExact stripeSize stripeCount fuel (currentOffset + chunkSize) (remaining - chunkSize)).map
                ((currentOffset, chunkSize, stripeIndex) :: ·)
      else some []

-- ── what the chunks promise ────────────────────────────────────────────────

/-- The chunks cover `[off, off + len)` from left to right, each of them non-empty. -/
def Tiles : List StripeChunk → Int → Int → Prop
  | [], _, len => len = 0
  | c :: cs, off, len =>
      c.offset.val = off ∧ 0 < c.size.val ∧ c.size.val ≤ len ∧ Tiles cs (off + c.size.val) (len - c.size.val)

/-- What `calculateStripeChunks` promises of its chunks over stripes of size `ss`
    spread over `sc` targets: they cover `[off, off + len)` from left to right, each
    non-empty and inside one stripe, each but the last ending on a stripe boundary,
    and each tagged with its stripe's number modulo `sc`. -/
def Partition (ss sc : Int) : List StripeChunk → Int → Int → Prop
  | [], _, len => len = 0
  | c :: cs, off, len =>
      c.offset.val = off ∧ 0 < c.size.val ∧ c.size.val ≤ len ∧
        c.offset.val / ss = (c.offset.val + c.size.val - 1) / ss ∧
        (cs ≠ [] → (c.offset.val + c.size.val) % ss = 0) ∧
        c.stripe.val = c.offset.val / ss % sc ∧ 0 ≤ c.stripe.val ∧ c.stripe.val < sc ∧
        Partition ss sc cs (off + c.size.val) (len - c.size.val)

theorem Tiles.size_pos : ∀ {chunks : List StripeChunk} {off len : Int}, Tiles chunks off len →
    ∀ c ∈ chunks, 0 < c.size.val
  | [], _, _, _, _, hc => absurd hc (List.not_mem_nil _)
  | _ :: _, _, _, ⟨_, h2, _, h⟩, c, hc => (List.mem_cons.mp hc).elim (fun e => e ▸ h2) (Tiles.size_pos h c)

theorem Partition.tiles {ss sc : Int} :
    ∀ {chunks : List StripeChunk} {off len : Int}, Partition ss sc chunks off len → Tiles chunks off len
  | [], _, _, h => h
  | _ :: _, _, _, ⟨h1, h2, h3, _, _, _, _, _, h⟩ => ⟨h1, h2, h3, Partition.tiles h⟩

theorem partition_sum {ss sc : Int} :
    ∀ (chunks : List StripeChunk) (off len : Int), Partition ss sc chunks off len →
      (chunks.map (·.size.val)).sum = len
  | [], _, _, h => h.symm
  | c :: cs, off, len, h => by
      rw [List.map_cons, List.sum_cons, partition_sum cs _ _ h.2.2.2.2.2.2.2.2]
      omega

theorem partition_nil_iff {ss sc : Int} {chunks : List StripeChunk} {off len : Int}
    (h : Partition ss sc chunks off len) : chunks = [] ↔ len = 0 := by
  cases chunks with
  | nil => exact ⟨fun _ => h, fun _ => rfl⟩
  | cons c cs => exact ⟨fun h' => (by cases h'), fun h0 => by have := h.2.1; have := h.2.2.1; omega⟩

-- ── one round ──────────────────────────────────────────────────────────────

/-- One round over the integers: the chunk stays in the stripe of its first byte,
    and a chunk short of the rest of the range ends on its stripe's boundary. -/
theorem stripe_round {ss rem : Int} (cur : Int) (hss : 0 < ss) (hrem : 0 < rem) :
    let chunkSize := if ss - cur % ss > rem then rem else ss - cur % ss
    cur / ss = (cur + chunkSize - 1) / ss ∧ (chunkSize < rem → (cur + chunkSize) % ss = 0) := by
  have hdm := Int.emod_add_ediv cur ss
  have h1 := Int.emod_nonneg cur (Int.ne_of_gt hss)
  have h2 := Int.emod_lt_of_pos cur hss
  intro chunkSize
  have hc1 : 0 < chunkSize := by dsimp only [chunkSize]; split <;> omega
  have hc2 : chunkSize ≤ ss - cur % ss := by dsimp only [chunkSize]; split <;> omega
  refine ⟨((@Int.ediv_emod_unique _ _ (cur % ss + chunkSize - 1) _ hss).mpr ⟨by omega, by omega, by omega⟩).1.symm,
    fun hlt => ?_⟩
  have hcs : chunkSize = ss - cur % ss := by dsimp only [chunkSize] at hlt ⊢; split <;> omega
  have hq : cur + chunkSize = ss * (cur / ss + 1) := by rw [Int.mul_add, Int.mul_one]; omega
  rw [hq, Int.mul_emod_right]

/-- The chunk size of a round in `int64` is its exact value: the rest of the stripe,
    or of the range. -/
theorem chunkSize_val {stripeSize currentOffset : GoInt64} (remaining : GoInt64) (hss : 0 < stripeSize.val)
    (hcur : 0 ≤ currentOffset.val) :
    (if (stripeSize - currentOffset % stripeSize).val > remaining.val then remaining
        else stripeSize - currentOffset % stripeSize).val =
      if stripeSize.val - currentOffset.val % stripeSize.val > remaining.val then remaining.val
      else stripeSize.val - currentOffset.val % stripeSize.val := by
  have hmod := GoInt64.mod_val_of_nonneg hcur hss
  have h1 := Int.emod_nonneg currentOffset.val (Int.ne_of_gt hss)
  have h2 := Int.emod_lt_of_pos currentOffset.val hss
  have hlt := stripeSize.val_lt
  have hsub : (stripeSize - currentOffset % stripeSize).val = stripeSize.val - currentOffset.val % stripeSize.val := by
    rw [← hmod]
    exact GoInt64.sub_val_of_range (by rw [hmod]; unfold minInt64; omega) (by rw [hmod]; unfold bound; omega)
  rw [hsub]
  split
  · rfl
  · exact hsub

/-- The stripe number of a round in `int64` is its exact value. -/
theorem stripeIndex_val {stripeSize stripeCount currentOffset : GoInt64} (hss : 0 < stripeSize.val)
    (hsc : 0 < stripeCount.val) (hcur : 0 ≤ currentOffset.val) :
    (currentOffset / stripeSize % stripeCount).val = currentOffset.val / stripeSize.val % stripeCount.val := by
  have hdiv := GoInt64.div_val_of_nonneg hcur hss
  rw [GoInt64.mod_val_of_nonneg (by rw [hdiv]; exact Int.ediv_nonneg hcur (Int.le_of_lt hss)) hsc, hdiv]

-- ── the loop ───────────────────────────────────────────────────────────────

/-- From a position inside `[0, 2^63)`, with a positive stripe size and count, the
    loop finishes, its chunks partition what remains, and the same loop over
    unbounded integers gives the same chunks. -/
theorem chunksLoop_partition {stripeSize stripeCount : GoInt64} (hss : 0 < stripeSize.val)
    (hsc : 0 < stripeCount.val) (fuel : Nat) :
    ∀ (currentOffset remaining : GoInt64), 0 ≤ currentOffset.val → 0 ≤ remaining.val →
      currentOffset.val + remaining.val < bound → remaining.val.toNat ≤ fuel →
      ∃ chunks, chunksLoop stripeSize stripeCount fuel currentOffset remaining = some chunks ∧
        Partition stripeSize.val stripeCount.val chunks currentOffset.val remaining.val ∧
        chunksExact stripeSize.val stripeCount.val fuel currentOffset.val remaining.val =
          some (chunks.map fun c => (c.offset.val, c.size.val, c.stripe.val)) := by
  have hnz : ¬(stripeSize.val = 0 ∨ stripeCount.val = 0) := by omega
  induction fuel with
  | zero =>
      intro currentOffset remaining _ _ _ hfuel
      have hpos : ¬remaining.val > 0 := by omega
      unfold chunksLoop chunksExact
      rw [if_neg hpos, if_neg hpos]
      exact ⟨[], rfl, by simp only [Partition]; omega, rfl⟩
  | succ k ih =>
      intro currentOffset remaining hcur hrem hend hfuel
      unfold chunksLoop chunksExact
      by_cases hpos : remaining.val > 0
      · rw [if_pos hpos, if_pos hpos]
        dsimp only
        rw [if_neg hnz, if_neg hnz, Int.tdiv_eq_ediv hcur (Int.le_of_lt hss),
          Int.tmod_eq_emod (Int.ediv_nonneg hcur (Int.le_of_lt hss)) (Int.le_of_lt hsc),
          Int.tmod_eq_emod hcur (Int.le_of_lt hss)]
        have hidx := stripeIndex_val hss hsc hcur
        have hsize := chunkSize_val remaining hss hcur
        have hround := stripe_round currentOffset.val hss hpos
        dsimp only at hround
        rw [← hsize] at hround ⊢
        generalize (if (stripeSize - currentOffset % stripeSize).val > remaining.val then remaining
          else stripeSize - currentOffset % stripeSize) = chunkSize at hsize hround ⊢
        have hm1 := Int.emod_nonneg currentOffset.val (Int.ne_of_gt hss)
        have hm2 := Int.emod_lt_of_pos currentOffset.val hss
        have hc1 : 0 < chunkSize.val := by rw [hsize]; split <;> omega
        have hc2 : chunkSize.val ≤ remaining.val := by rw [hsize]; split <;> omega
        have hadd : (currentOffset + chunkSize).val = currentOffset.val + chunkSize.val :=
          GoInt64.add_val_of_range (by unfold minInt64; omega) (by omega)
        have hsub : (remaining - chunkSize).val = remaining.val - chunkSize.val :=
          GoInt64.sub_val_of_range (by unfold minInt64; omega) (by have := remaining.val_lt; unfold bound; omega)
        obtain ⟨chunks, hl, hp, hx⟩ := ih (currentOffset + chunkSize) (remaining - chunkSize)
          (by omega) (by omega) (by omega) (by omega)
        rw [hadd, hsub] at hp hx
        refine ⟨⟨currentOffset, chunkSize, currentOffset / stripeSize % stripeCount⟩ :: chunks, by rw [hl]; rfl,
          ⟨rfl, hc1, hc2, hround.1, fun hne => hround.2 ?_, hidx, ?_, ?_, hp⟩, by rw [hx, ← hidx]; rfl⟩
        · have : remaining.val - chunkSize.val ≠ 0 := fun h0 => hne ((partition_nil_iff hp).mpr h0)
          omega
        · rw [hidx]; exact Int.emod_nonneg _ (Int.ne_of_gt hsc)
        · rw [hidx]; exact Int.emod_lt_of_pos _ hsc
      · rw [if_neg hpos, if_neg hpos]
        exact ⟨[], rfl, by simp only [Partition]; omega, rfl⟩

/-- `calculateStripeChunks` finishes and tiles the range. -/
theorem chunks_tile {offset size : GoInt64} {stripeInfo : LustreStripeInfo} (hoff : 0 ≤ offset.val)
    (hsize : 0 ≤ size.val) (hend : offset.val + size.val < bound) (hcount : 1 < stripeInfo.stripeCount.val)
    (hss : 0 < stripeInfo.stripeSize.val) :
    ∃ chunks, calculateStripeChunks offset size stripeInfo = some chunks ∧ Tiles chunks offset.val size.val :=
  let ⟨chunks, hc, hp, _⟩ := chunksLoop_partition hss (by omega) _ offset size hoff hsize hend (Nat.le_refl _)
  ⟨chunks, hc, hp.tiles⟩

/-- **EXACT PARTITION**: for a range inside `[0, 2^63)` and a positive stripe size and
    count, `calculateStripeChunks` finishes, and its chunks cover the range from left
    to right, each non-empty and inside one stripe, each but the last ending on a
    stripe boundary, each tagged with its stripe's number modulo the count; their
    sizes add up to the range's, there are none exactly when the range is empty, and
    the loop computes what it computes over unbounded integers: no `int64` operation
    wraps. -/
theorem calculateStripeChunks_partition {offset size : GoInt64} {stripeInfo : LustreStripeInfo}
    (hoff : 0 ≤ offset.val) (hsize : 0 ≤ size.val) (hend : offset.val + size.val < bound)
    (hcount : 0 < stripeInfo.stripeCount.val) (hss : 0 < stripeInfo.stripeSize.val) :
    ∃ chunks, calculateStripeChunks offset size stripeInfo = some chunks ∧
      Partition stripeInfo.stripeSize.val stripeInfo.stripeCount.val chunks offset.val size.val ∧
      (chunks.map (·.size.val)).sum = size.val ∧ (chunks = [] ↔ size.val = 0) ∧
      chunksExact stripeInfo.stripeSize.val stripeInfo.stripeCount.val size.val.toNat offset.val size.val =
        some (chunks.map fun c => (c.offset.val, c.size.val, c.stripe.val)) := by
  obtain ⟨chunks, hc, hp, hx⟩ := chunksLoop_partition hss hcount _ offset size hoff hsize hend (Nat.le_refl _)
  exact ⟨chunks, hc, hp, partition_sum _ _ _ hp, partition_nil_iff hp, hx⟩

/-- Ten bytes from offset 3 over stripes of 4 bytes on 2 targets: a partial first
    chunk, two whole stripes, and one byte. -/
theorem calculateStripeChunks_partition_mid_stripe :
    ∃ chunks, calculateStripeChunks 3 10 ⟨2, 4, 0⟩ = some chunks ∧ (chunks.map (·.size.val)).sum = 10 :=
  let ⟨chunks, h1, _, h3, _⟩ :=
    @calculateStripeChunks_partition 3 10 ⟨2, 4, 0⟩ (by decide) (by decide) (by decide) (by decide) (by decide)
  ⟨chunks, h1, h3⟩

end Lustre
