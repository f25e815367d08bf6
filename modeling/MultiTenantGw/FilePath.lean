import Mathlib.Data.List.Basic

/-! # Go's `path/filepath` on Unix

    The tenant manager builds and checks paths only through `filepath.Join`,
    `filepath.Clean`, `filepath.Rel`, `filepath.IsAbs` and `filepath.HasPrefix`, and
    all of them are lexical.  `Clean` is the element rewriting its documentation
    gives: split at `/`, drop empty and `.` elements, let `..` cancel the real
    element before it, drop `..` at the root of a rooted path and keep it at the
    front of a relative one; the result is rendered back with `/`, and an empty
    relative result is `.`.  `Rel` cleans both paths and walks their elements from
    the front until they differ.

    The results the rest of the development uses are `cleanElems_clean` and
    `rooted_clean` (cleaning is idempotent), `join_plain` (joining plain elements
    onto a path appends them to its cleaned elements) and `isSubPath_elems` (what a
    successful containment check says about the two paths).

    **What the check accepts** (`isSubPath_iff_lexicallyUnder`): between absolute
    paths, `isSubPath` is lexical containment of the cleaned texts, except that the
    text past the base must not begin with `..`, since the check reads that prefix
    of `Rel`'s result as a climb: a child named `..foo` is refused
    (`isSubPath_refuses_dotDot_child`). -/

namespace GoPath

/-- A path element: a run of characters between separators. -/
abbrev Elem := List Char

/-- The elements of a path, as `strings.Split(p, "/")` yields them. -/
def segments (p : List Char) : List Elem := p.splitOn '/'

/-- The element `..`. -/
def dotDot : Elem := ['.', '.']

/-- Whether a path is rooted, i.e. starts with the separator. -/
def rooted (p : List Char) : Bool := p.head? == some '/'

/-- A plain element: one that `Clean` neither drops nor treats as a parent step. -/
def Plain (e : Elem) : Prop := e ≠ [] ∧ e ≠ ['.'] ∧ e ≠ dotDot ∧ '/' ∉ e

instance (e : Elem) : Decidable (Plain e) := by unfold Plain; infer_instance

-- ── splitting at the separator ─────────────────────────────────────────────

/-- Splitting at a separator that sits between two texts splits each of them. -/
theorem segments_append_sep (xs ys : List Char) :
    segments (xs ++ '/' :: ys) = segments xs ++ segments ys := by
  unfold segments List.splitOn
  induction xs with
  | nil => simp [List.splitOnP_cons]
  | cons x xs ih =>
      rw [List.cons_append, List.splitOnP_cons, List.splitOnP_cons _ x xs, ih]
      split
      · rfl
      · obtain ⟨h, t, ht⟩ := List.exists_cons_of_ne_nil (List.splitOnP_ne_nil (· == '/') xs)
        simp [ht]

/-- A text without separator is a single element. -/
theorem segments_of_not_mem {xs : List Char} (h : '/' ∉ xs) : segments xs = [xs] :=
  List.splitOnP_eq_single _ _ (fun x hx hx' => h (by simpa using (beq_iff_eq.mp hx') ▸ hx))

/-- No element of a split contains the separator. -/
theorem not_mem_of_mem_segments {p : List Char} {e : Elem} (h : e ∈ segments p) : '/' ∉ e := by
  unfold segments List.splitOn at h
  induction p generalizing e with
  | nil => simp_all
  | cons x xs ih =>
      rw [List.splitOnP_cons] at h
      split at h
      · rcases List.mem_cons.mp h with rfl | h
        · simp
        · exact ih h
      · obtain ⟨hd, t, ht⟩ := List.exists_cons_of_ne_nil (List.splitOnP_ne_nil (· == '/') xs)
        rw [ht, List.modifyHead_cons, List.mem_cons] at h
        rcases h with rfl | h
        · have hx : x ≠ '/' := by simpa using ‹¬(x == '/') = true›
          have : '/' ∉ hd := ih (by rw [ht]; exact List.mem_cons_self _ _)
          simp [hx.symm, this]
        · exact ih (by rw [ht]; exact List.mem_cons_of_mem _ h)

/-- Separators between elements that hold none are split again exactly. -/
theorem segments_intercalate {es : List Elem} (h : ∀ e ∈ es, '/' ∉ e) (hne : es ≠ []) :
    segments (['/'].intercalate es) = es :=
  List.splitOn_intercalate es '/' h hne

theorem intercalate_cons {e : Elem} {es : List Elem} (h : es ≠ []) :
    ['/'].intercalate (e :: es) = e ++ '/' :: ['/'].intercalate es := by
  obtain ⟨f, fs, rfl⟩ := List.exists_cons_of_ne_nil h
  simp [List.intercalate, List.intersperse]

/-- A separator-joined text starts with its first element. -/
theorem intercalate_cons_head (e : Elem) (es : List Elem) :
    e <+: ['/'].intercalate (e :: es) := by
  cases es with
  | nil => simp [List.intercalate]
  | cons f fs => rw [intercalate_cons (List.cons_ne_nil f fs)]; exact List.prefix_append _ _

theorem intercalate_append {xs ys : List Elem} (hx : xs ≠ []) (hy : ys ≠ []) :
    ['/'].intercalate (xs ++ ys) = ['/'].intercalate xs ++ '/' :: ['/'].intercalate ys := by
  induction xs with
  | nil => exact absurd rfl hx
  | cons x xs ih =>
      by_cases hxs : xs = []
      · subst hxs
        rw [List.singleton_append, intercalate_cons hy]
        simp [List.intercalate]
      · rw [List.cons_append, intercalate_cons (List.append_ne_nil_of_left_ne_nil hxs ys), ih hxs,
          intercalate_cons hxs]
        simp

theorem intercalate_eq_nil {es : List Elem} (h : ∀ e ∈ es, Plain e) :
    ['/'].intercalate es = [] ↔ es = [] := by
  cases es with
  | nil => exact iff_of_true rfl rfl
  | cons e es =>
      obtain ⟨t, ht⟩ := intercalate_cons_head e es
      have he : e ≠ [] := (h e (List.mem_cons_self _ _)).1
      simp only [← ht, List.append_eq_nil, he, false_and, reduceCtorEq]

/-- A joined path begins with `..` exactly when its first element does. -/
theorem dotDot_prefix_intercalate (r : Elem) (rs : List Elem) :
    dotDot <+: ['/'].intercalate (r :: rs) ↔ dotDot <+: r := by
  cases rs with
  | nil => simp [List.intercalate]
  | cons s ss =>
      rw [intercalate_cons (List.cons_ne_nil s ss)]
      rcases r with _ | ⟨a, _ | ⟨b, r⟩⟩ <;> simp [dotDot]

-- ── `Clean` ────────────────────────────────────────────────────────────────

/-- One element of `Clean`'s scan; `out` holds the elements kept so far, last
    first.  `..` removes the last kept element unless that is itself a `..`; with
    nothing to remove it is dropped at the root and kept in a relative path. -/
def cleanStep (root : Bool) (out : List Elem) (e : Elem) : List Elem :=
  if e = [] ∨ e = ['.'] then out
  else if e = dotDot then
    match out with
    | d :: rest => if d = dotDot then dotDot :: out else rest
    | [] => if root then [] else [dotDot]
  else e :: out

/-- The elements of `Clean(p)`, first to last. -/
def cleanElems (p : List Char) : List Elem :=
  ((segments p).foldl (cleanStep (rooted p)) []).reverse

/-- The text of a cleaned path: `/` and the elements for a rooted path, the
    elements joined by `/` for a relative one, `.` when nothing is left. -/
def render (root : Bool) (es : List Elem) : List Char :=
  if root then '/' :: ['/'].intercalate es
  else if es = [] then ['.'] else ['/'].intercalate es

/-- `filepath.Clean`. -/
def clean (p : String) : String := ⟨render (rooted p.data) (cleanElems p.data)⟩

example : clean "/mnt//users/./alice/../bob/" = "/mnt/users/bob" := by decide
example : clean "a/../../b" = "../b" := by decide

/-- The shape of the kept elements (last first): plain elements in front of a run
    of `..`, and no `..` at all in a rooted path. -/
def OutForm (root : Bool) (out : List Elem) : Prop :=
  ∃ ns k, out = ns ++ List.replicate k dotDot ∧ (∀ n ∈ ns, Plain n) ∧ (root = true → k = 0)

theorem cleanStep_form {root : Bool} {out : List Elem} {e : Elem} (h : OutForm root out)
    (he : '/' ∉ e) : OutForm root (cleanStep root out e) := by
  obtain ⟨ns, k, rfl, hns, hk⟩ := h
  by_cases h1 : e = [] ∨ e = ['.']
  · unfold cleanStep; rw [if_pos h1]; exact ⟨ns, k, rfl, hns, hk⟩
  by_cases h2 : e = dotDot
  · unfold cleanStep; rw [if_neg h1, if_pos h2]
    cases ns with
    | cons n ns =>
        have hn : n ≠ dotDot := (hns n (List.mem_cons_self _ _)).2.2.1
        simp only [List.cons_append, hn, if_false]
        exact ⟨ns, k, rfl, fun m hm => hns m (List.mem_cons_of_mem _ hm), hk⟩
    | nil =>
        cases k with
        | zero =>
            cases root
            · exact ⟨[], 1, rfl, by simp, by simp⟩
            · exact ⟨[], 0, rfl, by simp, fun _ => rfl⟩
        | succ k =>
            have hr : root = false := by cases root <;> simp_all
            subst hr
            exact ⟨[], k + 2, by simp [List.replicate_succ], by simp, by simp⟩
  · unfold cleanStep; rw [if_neg h1, if_neg h2]
    refine ⟨e :: ns, k, rfl, ?_, hk⟩
    intro m hm
    rcases List.mem_cons.mp hm with rfl | hm
    · exact ⟨fun h => h1 (Or.inl h), fun h => h1 (Or.inr h), h2, he⟩
    · exact hns m hm

theorem foldl_cleanStep_form {root : Bool} {es : List Elem} {out : List Elem}
    (h : OutForm root out) (hes : ∀ e ∈ es, '/' ∉ e) :
    OutForm root (es.foldl (cleanStep root) out) := by
  induction es generalizing out with
  | nil => exact h
  | cons e es ih =>
      exact ih (cleanStep_form h (hes e (List.mem_cons_self _ _)))
        (fun f hf => hes f (List.mem_cons_of_mem _ hf))

/-- **CLEAN FORM**: a cleaned path is a run of `..` (none when rooted) followed by
    plain elements. -/
theorem cleanElems_form (p : List Char) :
    ∃ ms k, cleanElems p = List.replicate k dotDot ++ ms ∧ (∀ m ∈ ms, Plain m) ∧
      (rooted p = true → k = 0) := by
  obtain ⟨ns, k, h, hns, hk⟩ := @foldl_cleanStep_form (rooted p) (segments p) []
    ⟨[], 0, rfl, by simp, fun _ => rfl⟩ (fun e he => not_mem_of_mem_segments he)
  refine ⟨ns.reverse, k, ?_, fun m hm => hns m (List.mem_reverse.mp hm), hk⟩
  rw [cleanElems, h, List.reverse_append, List.reverse_replicate]

/-- Plain elements are pushed one by one. -/
theorem foldl_cleanStep_plain (root : Bool) {ms : List Elem} (h : ∀ m ∈ ms, Plain m)
    (out : List Elem) : ms.foldl (cleanStep root) out = ms.reverse ++ out := by
  induction ms generalizing out with
  | nil => rfl
  | cons m ms ih =>
      obtain ⟨h1, h2, h3, -⟩ := h m (List.mem_cons_self _ _)
      rw [List.foldl_cons, ih (fun n hn => h n (List.mem_cons_of_mem _ hn))]
      simp [cleanStep, h1, h2, h3]

/-- In a relative path a leading run of `..` is kept whole. -/
theorem foldl_cleanStep_dotDot (j k : Nat) :
    (List.replicate k dotDot).foldl (cleanStep false) (List.replicate j dotDot) =
      List.replicate (k + j) dotDot := by
  induction k generalizing j with
  | zero => simp
  | succ k ih =>
      rw [List.replicate_succ, List.foldl_cons]
      have : cleanStep false (List.replicate j dotDot) dotDot = List.replicate (j + 1) dotDot := by
        cases j <;> simp [cleanStep, dotDot, List.replicate_succ]
      rw [this, ih]
      congr 1
      omega

/-- Every kept element is free of separators. -/
theorem not_mem_of_mem_cleanElems {p : List Char} {e : Elem} (h : e ∈ cleanElems p) :
    '/' ∉ e := by
  obtain ⟨ms, k, hp, hms, -⟩ := cleanElems_form p
  rw [hp, List.mem_append] at h
  rcases h with h | h
  · rw [List.eq_of_mem_replicate h]; decide
  · exact (hms e h).2.2.2

theorem rooted_render {root : Bool} {es : List Elem} (h : ∀ e ∈ es, Plain e ∨ e = dotDot) :
    rooted (render root es) = root := by
  cases root
  · cases es with
    | nil => rfl
    | cons e es =>
        have he : e ≠ [] ∧ '/' ∉ e := by
          rcases h e (List.mem_cons_self _ _) with he | rfl
          · exact ⟨he.1, he.2.2.2⟩
          · exact ⟨by decide, by decide⟩
        obtain ⟨c, cs, rfl⟩ := List.exists_cons_of_ne_nil he.1
        obtain ⟨t, ht⟩ := intercalate_cons_head (c :: cs) es
        have hc : c ≠ '/' := fun hc => he.2 (hc ▸ List.mem_cons_self _ _)
        simp [render, rooted, ← ht, hc]
  · rfl

theorem cleanElems_render {root : Bool} {ms : List Elem} {k : Nat} (hms : ∀ m ∈ ms, Plain m)
    (hk : root = true → k = 0) :
    cleanElems (render root (List.replicate k dotDot ++ ms)) = List.replicate k dotDot ++ ms := by
  have hall : ∀ e ∈ List.replicate k dotDot ++ ms, Plain e ∨ e = dotDot := by
    intro e he
    rcases List.mem_append.mp he with he | he
    · exact Or.inr (List.eq_of_mem_replicate he)
    · exact Or.inl (hms e he)
  have hsep : ∀ e ∈ List.replicate k dotDot ++ ms, '/' ∉ e := by
    intro e he
    rcases hall e he with he | rfl
    · exact he.2.2.2
    · decide
  unfold cleanElems
  rw [rooted_render hall]
  cases root
  · by_cases hnil : List.replicate k dotDot ++ ms = []
    · rw [hnil]; rfl
    · simp only [render, hnil, if_false, Bool.false_eq_true]
      rw [segments_intercalate hsep hnil, List.foldl_append]
      have := foldl_cleanStep_dotDot 0 k
      simp only [List.replicate_zero, Nat.add_zero] at this
      rw [this, foldl_cleanStep_plain false hms]
      simp
  · obtain rfl := hk rfl
    simp only [List.replicate_zero, List.nil_append] at hsep ⊢
    by_cases hnil : ms = []
    · subst hnil; rfl
    · have : render true ms = [] ++ '/' :: ['/'].intercalate ms := rfl
      rw [this, segments_append_sep, segments_intercalate hsep hnil]
      rw [show segments [] = [[]] from rfl, List.singleton_append, List.foldl_cons,
        foldl_cleanStep_plain true hms]
      simp [cleanStep]

/-- **IDEMPOTENCE** (elements): cleaning a cleaned path changes nothing. -/
theorem cleanElems_clean (p : String) : cleanElems (clean p).data = cleanElems p.data := by
  obtain ⟨ms, k, hp, hms, hk⟩ := cleanElems_form p.data
  show cleanElems (render (rooted p.data) (cleanElems p.data)) = _
  rw [hp]
  exact cleanElems_render hms hk

/-- Every kept element is plain or `..`. -/
theorem cleanElems_plain_or_dotDot {p : List Char} {e : Elem} (h : e ∈ cleanElems p) :
    Plain e ∨ e = dotDot := by
  obtain ⟨ms, k, hp, hms, -⟩ := cleanElems_form p
  rw [hp, List.mem_append] at h
  rcases h with h | h
  · exact Or.inr (List.eq_of_mem_replicate h)
  · exact Or.inl (hms e h)

/-- **IDEMPOTENCE** (root): cleaning keeps a path rooted or relative. -/
theorem rooted_clean (p : String) : rooted (clean p).data = rooted p.data :=
  rooted_render (fun _ he => cleanElems_plain_or_dotDot he)

/-- The elements of a rooted path are all plain. -/
theorem cleanElems_plain_of_rooted {p : List Char} (h : rooted p = true) :
    ∀ e ∈ cleanElems p, Plain e := by
  obtain ⟨ms, k, hp, hms, hk⟩ := cleanElems_form p
  rw [hp, hk h]; simpa using hms

theorem clean_data_of_rooted {p : String} (h : rooted p.data = true) :
    (clean p).data = '/' :: ['/'].intercalate (cleanElems p.data) := by
  simp [clean, render, h]

theorem clean_eq_of_cleanElems {base p : String} (hr : rooted p.data = rooted base.data)
    (h : cleanElems p.data = cleanElems base.data) : clean p = clean base := by
  simp only [clean, hr, h]

theorem clean_eq_root_iff {base : String} (hb : rooted base.data = true) :
    clean base = "/" ↔ cleanElems base.data = [] := by
  rw [String.ext_iff, clean_data_of_rooted hb]
  simp [intercalate_eq_nil (cleanElems_plain_of_rooted hb)]

-- ── `Join` ─────────────────────────────────────────────────────────────────

/-- `filepath.Join`: the elements from the first non-empty one on, joined with
    `/` and cleaned; `""` when every element is empty. -/
def join (elem : List String) : String :=
  match elem.dropWhile (· == "") with
  | [] => ""
  | es => clean ⟨['/'].intercalate (es.map String.data)⟩

example : join ["/base", "users", "../../etc"] = "/etc" := by decide

/-- `filepath.Dir`: the path up to its last separator, cleaned. -/
def dir (p : String) : String := clean ⟨(p.data.reverse.dropWhile (· ≠ '/')).reverse⟩

example : dir "photos/2024/cat.jpg" = "photos/2024" ∧ dir "cat.jpg" = "." := by decide

/-- The elements of a text made of a path and plain elements after it. -/
theorem cleanElems_append_plain {b : List Char} {xs : List Elem} (hxs : ∀ x ∈ xs, Plain x)
    (hne : xs ≠ []) (hb : b ≠ []) :
    cleanElems (b ++ '/' :: ['/'].intercalate xs) = cleanElems b ++ xs := by
  have hroot : rooted (b ++ '/' :: ['/'].intercalate xs) = rooted b := by
    obtain ⟨c, cs, rfl⟩ := List.exists_cons_of_ne_nil hb; rfl
  unfold cleanElems
  rw [hroot, segments_append_sep, segments_intercalate (fun x hx => (hxs x hx).2.2.2) hne,
    List.foldl_append, foldl_cleanStep_plain _ hxs]
  simp

/-- **JOIN**: joining plain elements onto a path appends them to its cleaned
    elements and keeps it rooted or relative. -/
theorem join_plain (b : String) {xs : List String} (hxs : ∀ x ∈ xs, Plain x.data)
    (hne : xs ≠ []) :
    cleanElems (join (b :: xs)).data = cleanElems b.data ++ xs.map String.data ∧
      rooted (join (b :: xs)).data = rooted b.data := by
  obtain ⟨x, xs', rfl⟩ := List.exists_cons_of_ne_nil hne
  have hx : x ≠ "" := fun h => (hxs x (List.mem_cons_self _ _)).1 (by rw [h])
  have hplain : ∀ y ∈ (x :: xs').map String.data, Plain y := by
    simpa using hxs
  by_cases hb : b = ""
  · subst hb
    have hj : join ("" :: x :: xs') = clean ⟨['/'].intercalate ((x :: xs').map String.data)⟩ := by
      simp [join, hx]
    rw [hj, cleanElems_clean, rooted_clean]
    have hform := foldl_cleanStep_plain false hplain []
    obtain ⟨c, cs, hc⟩ := List.exists_cons_of_ne_nil (hxs x (List.mem_cons_self _ _)).1
    have hc' : c ≠ '/' := fun h => (hxs x (List.mem_cons_self _ _)).2.2.2 (by rw [hc, h]; simp)
    obtain ⟨t, ht⟩ := intercalate_cons_head x.data (xs'.map String.data)
    have hroot : rooted (['/'].intercalate ((x :: xs').map String.data)) = false := by
      rw [List.map_cons, ← ht, hc]; simp [rooted, hc']
    refine ⟨?_, hroot⟩
    unfold cleanElems
    rw [hroot, segments_intercalate (fun y hy => (hplain y hy).2.2.2) (by simp), hform]
    simp [cleanElems, segments, rooted, cleanStep]
  · have hj : join (b :: x :: xs') = clean ⟨b.data ++ '/' :: ['/'].intercalate ((x :: xs').map String.data)⟩ := by
      have : (b == "") = false := by simpa using hb
      simp only [join, List.dropWhile_cons, this, Bool.false_eq_true, if_false]
      rw [List.map_cons, intercalate_cons (by simp)]
    have hbd : b.data ≠ [] := fun h => hb (String.ext h)
    rw [hj, cleanElems_clean, rooted_clean]
    refine ⟨cleanElems_append_plain hplain (by simp) hbd, ?_⟩
    obtain ⟨c, cs, hc⟩ := List.exists_cons_of_ne_nil hbd
    simp [rooted, hc]

-- ── `Rel` and the containment check ────────────────────────────────────────

/-- `Rel`'s scan: drop the leading elements the two lists share and return the
    rests, from the first differing element on. -/
def dropCommon : List Elem → List Elem → List Elem × List Elem
  | b :: bs, t :: ts => if b = t then dropCommon bs ts else (b :: bs, t :: ts)
  | bs, ts => (bs, ts)

theorem dropCommon_spec (bs ts : List Elem) :
    ∃ c, bs = c ++ (dropCommon bs ts).1 ∧ ts = c ++ (dropCommon bs ts).2 := by
  induction bs generalizing ts with
  | nil => exact ⟨[], rfl, rfl⟩
  | cons b bs ih =>
      cases ts with
      | nil => exact ⟨[], rfl, rfl⟩
      | cons t ts =>
          by_cases h : b = t
          · subst h
            obtain ⟨c, h1, h2⟩ := ih ts
            exact ⟨b :: c, by simp [dropCommon, ← h1], by simp [dropCommon, ← h2]⟩
          · exact ⟨[], by simp [dropCommon, h], by simp [dropCommon, h]⟩

theorem dropCommon_self_append (c ys : List Elem) : dropCommon c (c ++ ys) = ([], ys) := by
  induction c with
  | nil => rfl
  | cons b c ih => simp [dropCommon, ih]

/-- `filepath.Rel` on Unix; `none` is its error.  Go walks the bytes of the two
    cleaned paths element by element; the elements of `Clean(p)` are `cleanElems p`,
    except that a target that cleans to `.` is walked as the one element `.`.  A
    base that cleans to `.` is walked as no element at all.  Once the elements
    differ, a `..` left in the base is an error; otherwise the result climbs one
    `..` for each base element left and descends the target's rest. -/
def rel (basepath targpath : String) : Option String :=
  if clean targpath = clean basepath then some "."
  else if rooted basepath.data ≠ rooted targpath.data then none
  else
    let ts := if cleanElems targpath.data = [] then [['.']] else cleanElems targpath.data
    match dropCommon (cleanElems basepath.data) ts with
    | ([], ts') => some ⟨['/'].intercalate ts'⟩
    | (b :: bs', ts') =>
        if b = dotDot then none
        else some ⟨['/'].intercalate (List.replicate (bs'.length + 1) dotDot ++ ts')⟩

example : rel "/a/b" "/a/b/c/d" = some "c/d" := by decide
example : rel "/a/b/c" "/a/c/d" = some "../../c/d" := by decide
example : rel "../.." ".." = none := by decide

/-- `filepath.IsAbs` on Unix. -/
def isAbs (path : String) : Bool := rooted path.data

/-- `filepath.HasPrefix`, which on Unix is `strings.HasPrefix`. -/
def hasPrefix (p pfx : String) : Bool := pfx.data.isPrefixOf p.data

/-- `isSubPath` of `auth/multi_tenant.go`: `Rel` succeeds and its result is
    neither absolute nor starts with the text `..`. -/
def isSubPath (basePath path : String) : Bool :=
  match rel basePath path with
  | none => false
  | some relPath => !isAbs relPath && !hasPrefix relPath ".."

/-- A path is its own sub-path: `Rel` gives `.`. -/
theorem isSubPath_self (p : String) : isSubPath p p = true := by
  simp only [isSubPath, rel, if_pos]
  rfl

/-- A relative path that climbs starts with the text `..`. -/
theorem hasPrefix_climb (n : Nat) (ts : List Elem) :
    hasPrefix ⟨['/'].intercalate (List.replicate (n + 1) dotDot ++ ts)⟩ ".." = true := by
  rw [List.replicate_succ, List.cons_append]
  exact List.isPrefixOf_iff_prefix.mpr (intercalate_cons_head _ _)

/-- **CONTAINMENT**: a successful check puts the path on the base's side of the
    root and its cleaned elements after those of the base. -/
theorem isSubPath_elems {base p : String} (h : isSubPath base p = true) :
    rooted p.data = rooted base.data ∧ cleanElems base.data <+: cleanElems p.data := by
  unfold isSubPath rel at h
  by_cases hc : clean p = clean base
  · have h1 := congrArg (fun s : String => cleanElems s.data) hc
    have h2 := congrArg (fun s : String => rooted s.data) hc
    simp only [cleanElems_clean, rooted_clean] at h1 h2
    exact ⟨h2, h1 ▸ List.prefix_refl _⟩
  by_cases hr : rooted base.data = rooted p.data
  swap
  · rw [if_neg hc, if_pos hr] at h; simp at h
  rw [if_neg hc, if_neg (not_not.mpr hr)] at h
  dsimp only at h
  refine ⟨hr.symm, ?_⟩
  set ts := if cleanElems p.data = [] then [['.']] else cleanElems p.data with hts
  obtain ⟨c, hb, ht⟩ := dropCommon_spec (cleanElems base.data) ts
  rcases hd : dropCommon (cleanElems base.data) ts with ⟨_ | ⟨b, bs'⟩, ts'⟩
  · rw [hd] at hb ht
    simp only [List.append_nil] at hb ht
    by_cases hp : cleanElems p.data = []
    · rw [hts, if_pos hp] at ht
      rcases c with _ | ⟨c0, cs⟩
      · rw [hb]; exact List.nil_prefix
      · have hc0 : ['.'] = c0 := (List.cons.inj (ht.trans (List.cons_append _ _ _))).1
        have hmem : c0 ∈ cleanElems base.data := hb ▸ List.mem_cons_self c0 cs
        rcases cleanElems_plain_or_dotDot hmem with h' | h'
        · exact absurd hc0.symm h'.2.1
        · exact absurd (hc0.trans h') (by decide)
    · rw [hts, if_neg hp] at ht
      rw [hb, ht]; exact List.prefix_append _ _
  · rw [hd] at h
    by_cases hbd : b = dotDot
    · simp [hbd] at h
    · simp [hbd, isAbs, hasPrefix_climb] at h

-- ── lexical containment ────────────────────────────────────────────────────

/-- The specification's containment: `p` lies at or below `dir`, read lexically on
    the cleaned elements of both. -/
def isInside (dir p : String) : Bool :=
  rooted p.data == rooted dir.data && (cleanElems dir.data).isPrefixOf (cleanElems p.data)

/-- `p` lies strictly below `dir`: inside it and not `dir` itself. -/
def isStrictlyInside (dir p : String) : Bool :=
  isInside dir p && decide ((cleanElems dir.data).length < (cleanElems p.data).length)

theorem isInside_self (dir : String) : isInside dir dir = true := by
  simp [isInside, List.isPrefixOf_iff_prefix]

/-- A successful `isSubPath` check is lexical containment. -/
theorem isInside_of_isSubPath {base p : String} (h : isSubPath base p = true) :
    isInside base p = true := by
  obtain ⟨h1, h2⟩ := isSubPath_elems h
  simp [isInside, h1, List.isPrefixOf_iff_prefix.mpr h2]

-- ── what `isSubPath` accepts ───────────────────────────────────────────────

/-- `Rel` from a rooted base to a rooted path strictly below it: the elements past
    the base, joined. -/
theorem rel_below {base p : String} (hb : rooted base.data = true) (hp : rooted p.data = true)
    {r : Elem} {rs : List Elem} (h : cleanElems p.data = cleanElems base.data ++ r :: rs) :
    rel base p = some ⟨['/'].intercalate (r :: rs)⟩ := by
  have hne : clean p ≠ clean base := fun hc => by
    have := congrArg (fun s : String => (cleanElems s.data).length) hc
    simp [cleanElems_clean, h] at this
  unfold rel
  rw [if_neg hne, if_neg (by simp [hb, hp]), if_neg (by simp [h]), h]
  dsimp only
  rw [dropCommon_self_append]

theorem hasPrefix_dotDot (r : Elem) (rs : List Elem) :
    hasPrefix ⟨['/'].intercalate (r :: rs)⟩ ".." = true ↔ dotDot <+: r := by
  rw [hasPrefix, List.isPrefixOf_iff_prefix]
  exact dotDot_prefix_intercalate r rs

theorem isAbs_intercalate {r : Elem} {rs : List Elem} (h : ∀ e ∈ r :: rs, Plain e) :
    isAbs ⟨['/'].intercalate (r :: rs)⟩ = false := by
  simpa [render, isAbs] using @rooted_render false _ (fun e he => Or.inl (h e he))

/-- Between rooted paths, `isSubPath` holds exactly when the path's cleaned
    elements extend the base's and the first element past the base does not begin
    with `..`. -/
theorem isSubPath_iff_elems {base p : String} (hb : rooted base.data = true)
    (hp : rooted p.data = true) :
    isSubPath base p = true ↔
      ∃ rest, cleanElems p.data = cleanElems base.data ++ rest ∧ ∀ r ∈ rest.head?, ¬ dotDot <+: r := by
  constructor
  · intro h
    obtain ⟨rest, hrest⟩ := (isSubPath_elems h).2
    refine ⟨rest, hrest.symm, ?_⟩
    rcases rest with _ | ⟨r, rs⟩
    · simp
    · rw [isSubPath, rel_below hb hp hrest.symm] at h
      rintro _ ⟨⟩ hd
      simp [(hasPrefix_dotDot r rs).mpr hd] at h
  · rintro ⟨_ | ⟨r, rs⟩, hrest, hhead⟩
    · rw [isSubPath, rel, if_pos (clean_eq_of_cleanElems (hp.trans hb.symm) (by simpa using hrest))]
      rfl
    · have hall : ∀ e ∈ r :: rs, Plain e :=
        fun e he => cleanElems_plain_of_rooted hp e (hrest ▸ List.mem_append_right _ he)
      have hr : hasPrefix ⟨['/'].intercalate (r :: rs)⟩ ".." = false :=
        Bool.eq_false_iff.mpr fun h => hhead r rfl ((hasPrefix_dotDot r rs).mp h)
      rw [isSubPath, rel_below hb hp hrest]
      simp [isAbs_intercalate hall, hr]

/-- The text a path strictly below `base` is expected to begin with: `Clean(base)`
    and a separator, or the separator alone when `Clean(base)` is the root. -/
def childPrefix (base : String) : List Char :=
  if clean base = "/" then ['/'] else (clean base).data ++ ['/']

/-- Lexical containment read on the text: `Clean(p)` is `Clean(base)` or begins with
    `childPrefix base`. -/
def lexicallyUnder (base p : String) : Bool :=
  clean p == clean base || (childPrefix base).isPrefixOf (clean p).data

theorem length_childPrefix (base : String) : (clean base).data.length ≤ (childPrefix base).length := by
  unfold childPrefix; split <;> simp_all

/-- A rooted path strictly below a rooted base is the child prefix followed by the
    elements past the base. -/
theorem clean_below {base p : String} (hb : rooted base.data = true) (hp : rooted p.data = true)
    {r : Elem} {rs : List Elem} (h : cleanElems p.data = cleanElems base.data ++ r :: rs) :
    (clean p).data = childPrefix base ++ ['/'].intercalate (r :: rs) := by
  rw [clean_data_of_rooted hp, h, childPrefix]
  by_cases hbs : cleanElems base.data = []
  · rw [if_pos ((clean_eq_root_iff hb).mpr hbs), hbs]; rfl
  · rw [if_neg (mt (clean_eq_root_iff hb).mp hbs), clean_data_of_rooted hb,
      intercalate_append hbs (List.cons_ne_nil r rs)]
    simp

/-- Splitting the child prefix and what follows it gives the base's elements first. -/
theorem segments_childPrefix {base : String} (hb : rooted base.data = true) (t : List Char) :
    segments (childPrefix base ++ t) = [] :: (cleanElems base.data ++ segments t) := by
  rw [childPrefix]
  by_cases hbs : cleanElems base.data = []
  · rw [if_pos ((clean_eq_root_iff hb).mpr hbs), hbs]
    exact segments_append_sep [] t
  · rw [if_neg (mt (clean_eq_root_iff hb).mp hbs), clean_data_of_rooted hb,
      show ('/' :: ['/'].intercalate (cleanElems base.data) ++ ['/']) ++ t =
        [] ++ '/' :: (['/'].intercalate (cleanElems base.data) ++ '/' :: t) by simp,
      segments_append_sep, segments_append_sep,
      segments_intercalate (fun e he => not_mem_of_mem_cleanElems he) hbs]
    rfl

/-- Conversely, a rooted path whose cleaned text is the child prefix followed by `t`
    has the base's elements followed by those of `t`, unless both are the root. -/
theorem cleanElems_of_childPrefix {base p : String} (hb : rooted base.data = true)
    (hp : rooted p.data = true) {t : List Char} (ht : childPrefix base ++ t = (clean p).data) :
    (cleanElems p.data = [] ∧ cleanElems base.data = []) ∨
      cleanElems p.data = cleanElems base.data ++ segments t := by
  have hseg := congrArg segments ht
  rw [segments_childPrefix hb, clean_data_of_rooted hp,
    show '/' :: ['/'].intercalate (cleanElems p.data) = [] ++ '/' :: ['/'].intercalate (cleanElems p.data) from rfl,
    segments_append_sep, show segments ([] : List Char) = [[]] from rfl] at hseg
  have hs : cleanElems base.data ++ segments t = segments (['/'].intercalate (cleanElems p.data)) := by
    simpa using hseg
  by_cases hps : cleanElems p.data = []
  · refine .inl ⟨hps, ?_⟩
    rw [hps, show segments (['/'].intercalate ([] : List Elem)) = [[]] from rfl] at hs
    rcases hbs : cleanElems base.data with _ | ⟨b, bs⟩
    · rfl
    · rw [hbs] at hs
      have hne : segments t ≠ [] := List.splitOnP_ne_nil _ t
      simp only [List.cons_append, List.cons.injEq, List.append_eq_nil] at hs
      exact absurd hs.2.2 hne
  · rw [segments_intercalate (fun e he => not_mem_of_mem_cleanElems he) hps] at hs
    exact .inr hs.symm

/-- **WHAT THE CHECK ACCEPTS**: between absolute paths, `isSubPath` holds exactly
    when `Clean(p)` is `Clean(base)` or begins with `Clean(base)` and a separator
    (every absolute path, below the root), and what follows that prefix does not
    begin with `..`. -/
theorem isSubPath_iff_lexicallyUnder {base p : String} (hb : isAbs base = true) (hp : isAbs p = true) :
    isSubPath base p = true ↔
      lexicallyUnder base p = true ∧ ¬ childPrefix base ++ dotDot <+: (clean p).data := by
  rw [isSubPath_iff_elems hb hp]
  constructor
  · rintro ⟨_ | ⟨r, rs⟩, hrest, hhead⟩
    · -- the base itself: the prefix and `..` are longer than its text
      have hc : clean p = clean base := clean_eq_of_cleanElems (hp.trans hb.symm) (by simpa using hrest)
      refine ⟨by simp [lexicallyUnder, hc], fun hd => ?_⟩
      have hl := hd.length_le
      have := length_childPrefix base
      rw [hc, List.length_append, show dotDot.length = 2 from rfl] at hl
      omega
    · refine ⟨by simp [lexicallyUnder, clean_below hb hp hrest, List.isPrefixOf_iff_prefix], ?_⟩
      rw [clean_below hb hp hrest, List.prefix_append_right_inj, dotDot_prefix_intercalate]
      exact hhead r rfl
  · rintro ⟨hu, hd⟩
    simp only [lexicallyUnder, Bool.or_eq_true, beq_iff_eq, List.isPrefixOf_iff_prefix] at hu
    rcases hu with hc | ⟨t, ht⟩
    · refine ⟨[], ?_, by simp⟩
      simpa [cleanElems_clean] using congrArg (fun s : String => cleanElems s.data) hc
    rcases cleanElems_of_childPrefix hb hp ht with ⟨hps, hbs⟩ | hs
    · exact ⟨[], by simp [hps, hbs], by simp⟩
    refine ⟨segments t, hs, fun r hr hdr => hd ?_⟩
    obtain ⟨ss, hss⟩ : ∃ ss, segments t = r :: ss := by
      cases h : segments t <;> simp_all
    rw [← ht, List.prefix_append_right_inj, ← List.intercalate_splitOn t '/']
    show dotDot <+: ['/'].intercalate (segments t)
    rw [hss, dotDot_prefix_intercalate]
    exact hdr

/-- Lexical containment is not enough: `/a/..foo` cleans to itself and begins with
    `/a/`, yet `Rel` gives `..foo`, which begins with the text `..`. -/
theorem isSubPath_refuses_dotDot_child :
    clean "/a/..foo" = "/a/..foo" ∧ clean "/a" = "/a" ∧ lexicallyUnder "/a" "/a/..foo" = true ∧
      rel "/a" "/a/..foo" = some "..foo" ∧ isSubPath "/a" "/a/..foo" = false := by
  decide

-- ── `Ext` ──────────────────────────────────────────────────────────────────

/-- The test of `Ext`'s backward scan: not a dot and not a separator. -/
def extScan (c : Char) : Bool := c != '.' && c != '/'

/-- `filepath.Ext`: scanning back from the end of the last element, the suffix from
    the first `.` met, or `""`. -/
def ext (path : String) : String :=
  match path.data.reverse.dropWhile extScan with
  | '.' :: _ => ⟨'.' :: (path.data.reverse.takeWhile extScan).reverse⟩
  | _ => ""

example : ext "a.b.json" = ".json" ∧ ext "a.json/b" = "" := by decide

/-- A name has extension `.json` exactly when it ends in `.json`. -/
theorem ext_eq_json_iff (s : String) : ext s = ".json" ↔ ∃ t, s.data = t ++ ".json".data := by
  constructor
  · intro h
    unfold ext at h
    split at h
    · rename_i rest hd
      have hsfx : s.data.reverse.takeWhile extScan = ['n', 'o', 's', 'j'] := by
        have := congrArg String.data h
        simp only [String.data] at this
        simpa using congrArg List.reverse (List.cons.inj this).2
      refine ⟨rest.reverse, ?_⟩
      have hsplit := List.takeWhile_append_dropWhile extScan s.data.reverse
      rw [hsfx, hd] at hsplit
      rw [← List.reverse_reverse s.data, ← hsplit]
      simp
    · exact absurd h (by decide)
  · rintro ⟨t, ht⟩
    have hr : s.data.reverse = 'n' :: 'o' :: 's' :: 'j' :: '.' :: t.reverse := by simp [ht]
    simp [ext, hr, extScan]

end GoPath
