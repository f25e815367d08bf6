import MultiTenantGw.StripedRead

/-! # `ParallelWriter` and `ParallelReader` round trip

    `ParallelWriter.Write` makes one `WriteAt` at its offset and advances it by the
    count written; `ParallelReader.Read` reads at its offset, never past the size
    `Stat` reported when the reader was made, and reports `io.EOF` once it got
    there.  A file is its content, which never reaches past the largest `int64`
    offset; `WriteAt` fails at a negative offset, at that limit (`EFBIG`) or when
    the device gives up (`Device`), having written what it took before.

    **Round trip** (`parallelIO_round_trip`): after writes through one writer that
    all succeed, the file holds the written bytes followed by what the file held
    past them; a reader made afterwards returns, over any sequence of reads of any
    lengths, a prefix of that content, all of it from the first `io.EOF` on, and
    `(0, io.EOF)` to every read after that, and its offset stays within its size. -/

namespace Lustre

open GoInt

-- ── the file ───────────────────────────────────────────────────────────────

/-- An open regular file: its content, which never reaches past the largest `int64`
    offset. -/
structure File where
  data : Bytes
  fits : (data.length : Int) < bound

/-- What the device does with the bytes of one `WriteAt`: takes all of them, or fails
    after taking the first `m` (a full disk, an I/O error). -/
inductive Device where
  | accepts
  | failsAfter (m : Nat)

/-- Why a `WriteAt` stops short. -/
inductive WriteError where
  /-- `WriteAt` at a negative offset. -/
  | negativeOffset
  /-- `EFBIG`: the write reaches the largest file size. -/
  | fileTooLarge
  /-- The device failed. -/
  | device
  deriving DecidableEq, Repr

/-- The content after writing `q` at `off`; a write past the end leaves zeros
    between the old end and `off`, and writing nothing changes nothing. -/
def overwrite (d : Bytes) (off : Nat) (q : Bytes) : Bytes :=
  if q = [] then d else d.take off ++ List.replicate (off - d.length) 0 ++ q ++ d.drop (off + q.length)

theorem overwrite_length (d : Bytes) (off : Nat) (q : Bytes) :
    (overwrite d off q).length = if q = [] then d.length else max d.length (off + q.length) := by
  unfold overwrite
  split
  · rfl
  · simp only [List.length_append, List.length_take, List.length_replicate, List.length_drop]
    omega

/-- Writing `q` where the content `acc ++ rest` ends its first part. -/
theorem overwrite_append (acc rest q : Bytes) :
    overwrite (acc ++ rest) acc.length q = acc ++ q ++ rest.drop q.length := by
  unfold overwrite
  split
  · subst_vars; simp
  · rw [List.take_left, show acc.length - (acc ++ rest).length = 0 by rw [List.length_append]; omega,
      List.drop_append_eq_append_drop,
      List.drop_eq_nil_of_le (by omega), show acc.length + q.length - acc.length = q.length by omega]
    simp

/-- Write the first `n` bytes of `p` at `off`, within the largest file size. -/
def File.put (file : File) (off : Nat) (p : Bytes) (n : Nat) (h : (off : Int) + n < bound) : File :=
  ⟨overwrite file.data off (p.take n), by
    rw [overwrite_length]
    have := file.fits
    split
    · exact this
    · rw [List.length_take]
      omega⟩

/-- How many of `len` bytes the device takes. -/
def Device.taken : Device → Nat → Nat
  | .accepts, len => len
  | .failsAfter m, len => min m len

theorem Device.taken_le (dev : Device) (len : Nat) : dev.taken len ≤ len := by
  cases dev
  · exact Nat.le_refl len
  · exact Nat.min_le_right _ _

/-- A write from a non-negative `int64` offset, stopped at the largest file size,
    fits. -/
theorem put_fits {off : GoInt64} (h : ¬off.val < 0) (t : Nat) :
    (off.val.toNat : Int) + min t (bound - 1 - off.val).toNat < bound := by
  have := off.val_lt
  unfold bound
  omega

/-- `(*os.File).WriteAt(p, off)`: the count written, the error, and the file after.
    The write takes what the device takes, up to the largest file size. -/
def writeAt (file : File) (p : Bytes) (off : GoInt64) (dev : Device) : Nat × Option WriteError × File :=
  if h : off.val < 0 then (0, some .negativeOffset, file)
  else
    let n := min (dev.taken p.length) (bound - 1 - off.val).toNat
    (n, if n < p.length then some (if (bound - 1 - off.val).toNat < dev.taken p.length then .fileTooLarge else .device)
        else none,
      file.put off.val.toNat p n (put_fits h _))

/-- A write that reports no error wrote all of `p` at `off`. -/
theorem writeAt_ok {file : File} {p : Bytes} {off : GoInt64} {dev : Device}
    (h : (writeAt file p off dev).2.1 = none) :
    0 ≤ off.val ∧ (writeAt file p off dev).1 = p.length ∧
      (writeAt file p off dev).2.2.data = overwrite file.data off.val.toNat p := by
  unfold writeAt at h ⊢
  by_cases hneg : off.val < 0
  · rw [dif_pos hneg] at h
    cases h
  · rw [dif_neg hneg] at h ⊢
    dsimp only at h ⊢
    by_cases hn : min (dev.taken p.length) (bound - 1 - off.val).toNat < p.length
    · rw [if_pos hn] at h
      cases h
    · have := dev.taken_le p.length
      refine ⟨by omega, by omega, ?_⟩
      show overwrite file.data off.val.toNat (p.take _) = _
      rw [List.take_of_length_le (by omega)]

-- ── the writer ─────────────────────────────────────────────────────────────

/-- `ParallelWriter`, by the offset of its next write. -/
structure ParallelWriter where
  currentPos : GoInt64

/-- `NewParallelWriter`. -/
def newParallelWriter : ParallelWriter := ⟨0⟩

/-- `(*ParallelWriter).Write(p)`: one `WriteAt` at the current offset, which then
    advances by the count written. -/
def ParallelWriter.write (pw : ParallelWriter) (file : File) (p : Bytes) (dev : Device) :
    (Nat × Option WriteError) × ParallelWriter × File :=
  let r := writeAt file p pw.currentPos dev
  ((r.1, r.2.1), ⟨pw.currentPos + GoInt64.ofInt r.1⟩, r.2.2)

/-- A sequence of `Write` calls, each meeting its device: their results, and the
    writer and the file after them. -/
def writeAll : ParallelWriter → File → List (Bytes × Device) →
    List (Nat × Option WriteError) × ParallelWriter × File
  | pw, file, [] => ([], pw, file)
  | pw, file, (p, dev) :: ws =>
      let r := pw.write file p dev
      let rs := writeAll r.2.1 r.2.2 ws
      (r.1 :: rs.1, rs.2)

-- ── the reader ─────────────────────────────────────────────────────────────

/-- A Go slice length: `len` returns a non-negative `int`. -/
abbrev SliceLen := Fin 9223372036854775808

/-- `ParallelReader`, by the size it was made with and the offset of its next read. -/
structure ParallelReader where
  fileSize : GoInt64
  currentPos : GoInt64

/-- `NewParallelReader`: `Stat` reports the file's size. -/
def newParallelReader (file : File) : ParallelReader := ⟨GoInt64.ofInt file.data.length, 0⟩

/-- The count `ReadAt` returns: the bytes it read before the file ended. -/
def readAtCount (f : Bytes) (n : Nat) (off : Int) : Nat :=
  if off < 0 then 0 else ((f.drop off.toNat).take n).length

/-- `(*ParallelReader).Read(p)` with `len(p) = len`: the bytes `p[:n]`, the error, and
    the reader after. -/
def ParallelReader.read (pr : ParallelReader) (file : File) (len : SliceLen) :
    (Bytes × Option ReadError) × ParallelReader :=
  if pr.currentPos.val ≥ pr.fileSize.val then (([], some .eof), pr)
  else
    let remaining := pr.fileSize - pr.currentPos
    let readSize := GoInt64.ofInt len.val
    let readSize := if readSize.val > remaining.val then remaining else readSize
    let n := readAtCount file.data readSize.val.toNat pr.currentPos.val
    (((readAt file.data readSize.val.toNat pr.currentPos.val).1.take n,
        (readAt file.data readSize.val.toNat pr.currentPos.val).2),
      { pr with currentPos := pr.currentPos + GoInt64.ofInt n })

/-- A sequence of `Read` calls: their results, and the reader after them. -/
def readAll : ParallelReader → File → List SliceLen → List (Bytes × Option ReadError) × ParallelReader
  | pr, _, [] => ([], pr)
  | pr, file, len :: lens =>
      let r := pr.read file len
      let rs := readAll r.2 file lens
      (r.1 :: rs.1, rs.2)

-- ── the writes ─────────────────────────────────────────────────────────────

/-- An offset advanced by a count that keeps it inside `int64`. -/
theorem advance_val {a : GoInt64} {n : Nat} (h0 : 0 ≤ a.val) (h : a.val + n < bound) :
    (a + GoInt64.ofInt n).val = a.val + n := by
  rw [GoInt64.add_val, GoInt64.ofInt_val,
    wrap_of_range (show minInt64 ≤ (n : Int) by unfold minInt64; omega) (by omega),
    wrap_of_range (by unfold minInt64; omega) h]

/-- The writer has written `acc` from offset 0 over a file that held `f`: it stands
    at the end of `acc`, and the file holds `acc` followed by what `f` held past it. -/
def WriterInv (f acc : Bytes) (pw : ParallelWriter) (file : File) : Prop :=
  pw.currentPos.val = acc.length ∧ file.data = acc ++ f.drop acc.length

/-- A `Write` that succeeds appends its bytes to what was written. -/
theorem write_inv {f acc : Bytes} {pw : ParallelWriter} {file : File} (h : WriterInv f acc pw file)
    {p : Bytes} {dev : Device} (hok : (pw.write file p dev).1.2 = none) :
    WriterInv f (acc ++ p) (pw.write file p dev).2.1 (pw.write file p dev).2.2 := by
  obtain ⟨hpos, hfile⟩ := h
  obtain ⟨_, hn, hdata⟩ := writeAt_ok (show (writeAt file p pw.currentPos dev).2.1 = none from hok)
  have hdata' : (writeAt file p pw.currentPos dev).2.2.data = acc ++ p ++ f.drop (acc ++ p).length := by
    rw [hdata, show pw.currentPos.val.toNat = acc.length by omega, hfile, overwrite_append, List.drop_drop,
      List.length_append, Nat.add_comm]
  have hfits := (writeAt file p pw.currentPos dev).2.2.fits
  rw [hdata', List.length_append, List.length_append] at hfits
  refine ⟨?_, hdata'⟩
  show (pw.currentPos + GoInt64.ofInt (writeAt file p pw.currentPos dev).1).val = (acc ++ p).length
  rw [hn, advance_val (by omega) (by omega), hpos, List.length_append]
  omega

/-- Writes that all succeed leave what they wrote, in order, over the start of the
    file. -/
theorem writeAll_inv (f : Bytes) (ws : List (Bytes × Device)) :
    ∀ {acc : Bytes} {pw : ParallelWriter} {file : File}, WriterInv f acc pw file →
      (∀ r ∈ (writeAll pw file ws).1, r.2 = none) →
      WriterInv f (acc ++ (ws.map (·.1)).flatten) (writeAll pw file ws).2.1 (writeAll pw file ws).2.2 := by
  induction ws with
  | nil => intro acc _ _ h _; simpa using h
  | cons w ws ih =>
      intro acc pw file h hok
      have h1 := write_inv h (hok _ (List.mem_cons_self _ _))
      have h2 := ih h1 (fun r hr => hok r (List.mem_cons_of_mem _ hr))
      simpa only [List.map_cons, List.flatten_cons, List.append_assoc] using h2

-- ── the reads ──────────────────────────────────────────────────────────────

/-- The reader was made on `W`, and its offset lies within it. -/
def ReaderInv (W : Bytes) (pr : ParallelReader) : Prop :=
  pr.fileSize.val = W.length ∧ 0 ≤ pr.currentPos.val ∧ pr.currentPos.val ≤ pr.fileSize.val

/-- At the end of the file every `Read` returns `(0, io.EOF)` and changes nothing. -/
theorem read_at_end {pr : ParallelReader} (file : File) (h : pr.fileSize.val ≤ pr.currentPos.val) (len : SliceLen) :
    pr.read file len = (([], some .eof), pr) := by
  unfold ParallelReader.read
  rw [if_pos h]

theorem readAll_at_end {pr : ParallelReader} (file : File) (h : pr.fileSize.val ≤ pr.currentPos.val) :
    ∀ lens : List SliceLen, readAll pr file lens = (lens.map fun _ => ([], some .eof), pr)
  | [] => rfl
  | len :: lens => by
      simp only [readAll, read_at_end file h len, readAll_at_end file h lens, List.map_cons]

/-- `ReadAt` reads a whole buffer that ends inside the file. -/
theorem readAtCount_of_le (f : Bytes) {n : Nat} {off : Int} (h0 : 0 ≤ off) (h : off + n ≤ f.length) :
    readAtCount f n off = n := by
  unfold readAtCount
  rw [if_neg (show ¬off < 0 by omega), List.length_take, List.length_drop]
  omega

/-- The size `Read` asks for: the buffer's length, cut to what remains. -/
theorem readSize_val {pr : ParallelReader} {W : Bytes} (h : ReaderInv W pr) (hW : (W.length : Int) < bound)
    (len : SliceLen) :
    (if (GoInt64.ofInt len.val).val > (pr.fileSize - pr.currentPos).val then pr.fileSize - pr.currentPos
      else GoInt64.ofInt len.val).val.toNat = min len.val (W.length - pr.currentPos.val.toNat) := by
  obtain ⟨hsize, h0, hle⟩ := h
  have hrem : (pr.fileSize - pr.currentPos).val = pr.fileSize.val - pr.currentPos.val :=
    GoInt64.sub_val_of_range (by unfold minInt64; omega) (by omega)
  have hlen : (GoInt64.ofInt len.val).val = len.val :=
    wrap_of_range (by unfold minInt64; omega) (by have := len.isLt; unfold bound; omega)
  split <;> omega

/-- Inside the file a `Read` returns the next `min len remaining` bytes and moves past
    them. -/
theorem read_inside {W : Bytes} {file : File} (hW : file.data = W) {pr : ParallelReader} (h : ReaderInv W pr)
    (hlt : pr.currentPos.val < pr.fileSize.val) (len : SliceLen) :
    (pr.read file len).1 = ((W.drop pr.currentPos.val.toNat).take (min len.val (W.length - pr.currentPos.val.toNat)),
        none) ∧
      (pr.read file len).2.fileSize = pr.fileSize ∧
      (pr.read file len).2.currentPos.val = pr.currentPos.val + min len.val (W.length - pr.currentPos.val.toNat) := by
  have hW' := file.fits
  rw [hW] at hW'
  have hk := readSize_val h hW' len
  obtain ⟨hsize, h0, _⟩ := h
  have hend : pr.currentPos.val + (min len.val (W.length - pr.currentPos.val.toNat) : Nat) ≤ W.length := by omega
  unfold ParallelReader.read
  rw [if_neg (show ¬pr.currentPos.val ≥ pr.fileSize.val by omega)]
  dsimp only
  rw [hk, hW, readAtCount_of_le W h0 hend, readAt_err W _ h0, if_pos (.inr hend), readAt_data W _ h0 (.inr hend),
    List.take_take, Nat.min_self]
  exact ⟨rfl, rfl, advance_val h0 (by omega)⟩

theorem readAll_cons (pr : ParallelReader) (file : File) (len : SliceLen) (lens : List SliceLen) :
    readAll pr file (len :: lens) = ((pr.read file len).1 :: (readAll (pr.read file len).2 file lens).1,
      (readAll (pr.read file len).2 file lens).2) := rfl

/-- **READS**: over any sequence of reads, the reader keeps its size and its offset
    within it, returns the bytes between its offsets before and after, one after the
    other, and once a read reports an error the offset is at the end and every read
    from that one on returns `(0, io.EOF)`. -/
theorem readAll_spec {W : Bytes} {file : File} (hW : file.data = W) (lens : List SliceLen) :
    ∀ {pr : ParallelReader}, ReaderInv W pr →
      ReaderInv W (readAll pr file lens).2 ∧ pr.currentPos.val ≤ (readAll pr file lens).2.currentPos.val ∧
      ((readAll pr file lens).1.map (·.1)).flatten =
        (W.drop pr.currentPos.val.toNat).take ((readAll pr file lens).2.currentPos.val - pr.currentPos.val).toNat ∧
      ∀ i e, ((readAll pr file lens).1[i]?).map (·.2) = some (some e) →
        (readAll pr file lens).2.currentPos.val = W.length ∧
        ∀ j, i ≤ j → j < (readAll pr file lens).1.length → (readAll pr file lens).1[j]? = some ([], some .eof) := by
  induction lens with
  | nil => intro pr h; exact ⟨h, Int.le_refl _, by simp [readAll], fun i e hi => by simp [readAll] at hi⟩
  | cons len lens ih =>
      intro pr h
      have hsz := h.1
      have h0 := h.2.1
      have hle := h.2.2
      by_cases hend : pr.fileSize.val ≤ pr.currentPos.val
      · -- at the end: every read returns `(0, io.EOF)`
        rw [readAll_at_end file hend (len :: lens)]
        dsimp only
        refine ⟨h, Int.le_refl _, by simp, fun i e _ => ⟨by omega, fun j _ hj => ?_⟩⟩
        rw [List.length_map] at hj
        rw [List.getElem?_map, List.getElem?_eq_getElem hj]
        rfl
      · -- inside: the next bytes, then the rest from the new offset
        obtain ⟨h1, h2, h3⟩ := read_inside hW h (by omega) len
        have hinv : ReaderInv W (pr.read file len).2 := ⟨by rw [h2]; exact hsz, by rw [h3]; omega, by rw [h2, h3]; omega⟩
        obtain ⟨ih1, ih2, ih3, ih4⟩ := ih hinv
        rw [readAll_cons]
        dsimp only
        refine ⟨ih1, by omega, ?_, fun i e hi => ?_⟩
        · rw [List.map_cons, List.flatten_cons, h1, ih3, h3,
            show (pr.currentPos.val + ((min len.val (W.length - pr.currentPos.val.toNat) : Nat) : Int)).toNat =
              pr.currentPos.val.toNat + min len.val (W.length - pr.currentPos.val.toNat) by omega,
            ← List.drop_drop, ← List.take_add]
          congr 1
          omega
        · cases i with
          | zero => rw [List.getElem?_cons_zero, h1] at hi; cases hi
          | succ i =>
              rw [List.getElem?_cons_succ] at hi
              obtain ⟨hpos, hall⟩ := ih4 i e hi
              refine ⟨hpos, fun j hij hj => ?_⟩
              obtain ⟨j, rfl⟩ : ∃ j', j = j' + 1 := ⟨j - 1, by omega⟩
              rw [List.getElem?_cons_succ]
              exact hall j (by omega) (Nat.lt_of_succ_lt_succ hj)

-- ── the round trip ─────────────────────────────────────────────────────────

/-- A reader made on a file starts at its beginning. -/
theorem newParallelReader_inv (file : File) : ReaderInv file.data (newParallelReader file) :=
  ⟨wrap_of_range (by unfold minInt64; omega) file.fits, Int.le_refl 0,
    by rw [show (newParallelReader file).fileSize.val = file.data.length from
      wrap_of_range (by unfold minInt64; omega) file.fits]; exact Int.ofNat_nonneg _⟩

/-- **ROUND TRIP**: write buffers through one `ParallelWriter` over a file holding
    `f`, every write succeeding, then read through a `ParallelReader` made
    afterwards, with buffers of any lengths.  The file holds `W`, the buffers
    followed by what `f` held past them; the bytes read so far are a prefix of `W`,
    and all of `W` from the first read that fails on; that read fails with
    `io.EOF` and returns nothing, as does every read after it; and the reader's
    offset never passes its size. -/
theorem parallelIO_round_trip (f : File) (ws : List (Bytes × Device)) (lens : List SliceLen)
    (hw : ∀ r ∈ (writeAll newParallelWriter f ws).1, r.2 = none) :
    let W := (ws.map (·.1)).flatten ++ f.data.drop (ws.map (·.1)).flatten.length
    let file := (writeAll newParallelWriter f ws).2.2
    let run := readAll (newParallelReader file) file lens
    file.data = W ∧ (run.1.map (·.1)).flatten <+: W ∧ run.2.currentPos.val ≤ run.2.fileSize.val ∧
      ∀ i e, (run.1[i]?).map (·.2) = some (some e) →
        (run.1.map (·.1)).flatten = W ∧ ∀ j, i ≤ j → j < run.1.length → run.1[j]? = some ([], some .eof) := by
  intro W file run
  have hdata : file.data = W := by
    simpa only [List.nil_append, List.length_nil, List.drop_zero] using
      (@writeAll_inv f.data ws [] newParallelWriter f ⟨rfl, rfl⟩ hw).2
  obtain ⟨hinv, -, hflat, heof⟩ := readAll_spec rfl lens (newParallelReader_inv file)
  rw [hdata] at hinv hflat heof
  refine ⟨hdata, ?_, hinv.2.2, fun i e hi => ?_⟩
  · rw [hflat]
    exact List.take_prefix _ _
  · obtain ⟨hpos, hall⟩ := heof i e hi
    refine ⟨?_, hall⟩
    rw [hflat, hpos, show (newParallelReader file).currentPos.val = 0 from rfl]
    simp

/-- Two one-byte writes over a four-byte file, read back in slices of three, four
    and two bytes: the second read reaches the end of the file. -/
theorem parallelIO_round_trip_two_writes :
    let file := (writeAll newParallelWriter ⟨[1, 2, 3, 4], by decide⟩ [([9], .accepts), ([8], .accepts)]).2.2
    let run := readAll (newParallelReader file) file [3, 4, 2]
    file.data = [9, 8, 3, 4] ∧ (run.1.map (·.1)).flatten <+: [9, 8, 3, 4] ∧
      run.2.currentPos.val ≤ run.2.fileSize.val ∧
      ∀ i e, (run.1[i]?).map (·.2) = some (some e) →
        (run.1.map (·.1)).flatten = [9, 8, 3, 4] ∧
          ∀ j, i ≤ j → j < run.1.length → run.1[j]? = some ([], some .eof) :=
  parallelIO_round_trip ⟨[1, 2, 3, 4], by decide⟩ [([9], .accepts), ([8], .accepts)] [3, 4, 2] (by decide)

end Lustre
