import CoachScript.Script.ListingCache
import Mathlib.Data.List.Basic

/-!
# The entries of the cache

The queue and the table of a cache hold the same texts, so together they are a list of entries, oldest
first. Each operation is described by what it makes of them.

* `ListingCache.mem_entries_iff`: a listing is an entry just if it is looked up under its text.
* `entries_makeRoom`, `entries_push`: **making room drops the oldest entries, and a new one goes behind
  all others**. Nothing else changes but the count of evictions (`evictions_makeRoom`).
* `file_known`, `file_new`: keeping a listing, by whether its text has one. `read_blank`, `read_known`,
  `read_new`: reading through the cache.
* `Query`: one thing that is asked of a cache, and what it makes of it (`Query.run`). `after`: the cache
  after queries, one after another.
-/

namespace CoachScript.ListingCache

variable {cache : ListingCache} {text : String} {listing filed : FiledListing}

/-! ### Looking up -/

theorem mem_order_iff : text ∈ cache.order ↔ (cache.get? text).isSome :=
  (cache.mem_order text).trans Std.ExtTreeMap.mem_iff_isSome_getElem?

theorem get?_eq_none_iff : cache.get? text = none ↔ text ∉ cache.order := by
  rw [mem_order_iff, Bool.not_eq_true, Option.isSome_eq_false_iff, Option.isNone_iff_eq_none]

theorem map_fst_entries (cache : ListingCache) : cache.entries.map (·.1) = cache.order := by
  have hall : ∀ text ∈ cache.order, ((cache.get? text).map (text, ·)).map (·.1) = some text := by
    intro text htext
    obtain ⟨kept, hkept⟩ := Option.isSome_iff_exists.mp (mem_order_iff.mp htext)
    rw [hkept]
    rfl
  unfold entries
  rw [List.map_filterMap, List.filterMap_congr hall, List.filterMap_some]

theorem length_entries (cache : ListingCache) : cache.entries.length = cache.size := by
  unfold size
  rw [← map_fst_entries, List.length_map]

/-- **A listing is an entry just if it is looked up under its text.** -/
theorem mem_entries_iff : (text, filed) ∈ cache.entries ↔ cache.get? text = some filed := by
  unfold entries
  rw [List.mem_filterMap]
  constructor
  · rintro ⟨other, -, hother⟩
    obtain ⟨kept, hkept, hpair⟩ := Option.map_eq_some_iff.mp hother
    cases hpair
    exact hkept
  · intro h
    refine ⟨text, mem_order_iff.mpr (h ▸ rfl), ?_⟩
    rw [h]
    rfl

/-- The entries under some of the texts, in order. -/
theorem entries_congr {other : ListingCache} {texts : List String}
    (h : ∀ text ∈ texts, other.get? text = cache.get? text) :
    texts.filterMap (fun text => (other.get? text).map (text, ·)) =
      texts.filterMap fun text => (cache.get? text).map (text, ·) :=
  List.filterMap_congr fun text htext => by rw [h text htext]

/-! ### Dropping the oldest -/

theorem entries_dropOldest (cache : ListingCache) :
    cache.dropOldest.entries = cache.entries.tail := by
  have hnodup := cache.nodup_order
  unfold dropOldest
  split
  next h =>
    unfold entries
    rw [h]
    rfl
  next oldest more h =>
    rw [h] at hnodup
    obtain ⟨kept, hkept⟩ := Option.isSome_iff_exists.mp
      (mem_order_iff.mp (h ▸ List.mem_cons_self : oldest ∈ cache.order))
    have hentries : cache.entries = (oldest, kept) :: more.filterMap
        fun text => (cache.get? text).map (text, ·) := by
      unfold entries
      rw [h, List.filterMap_cons, hkept]
      rfl
    rw [hentries, List.tail_cons]
    refine entries_congr fun text htext => ?_
    -- The texts that are left are others than the oldest.
    have hne : oldest ≠ text := by
      rintro rfl
      exact (List.nodup_cons.mp hnodup).1 htext
    unfold get?
    rw [Std.ExtTreeMap.getElem?_erase, if_neg fun heq => hne (Std.LawfulEqCmp.eq_of_compare heq)]

/-- The settings, and the counters but that of evictions. -/
structure SameCounts (cache other : ListingCache) : Prop where
  capacity : other.capacity = cache.capacity
  hits : other.hits = cache.hits
  misses : other.misses = cache.misses
  readings : other.readings = cache.readings

theorem sameCounts_dropOldest (cache : ListingCache) : cache.SameCounts cache.dropOldest := by
  unfold dropOldest
  split
  · exact ⟨rfl, rfl, rfl, rfl⟩
  · exact ⟨rfl, rfl, rfl, rfl⟩

theorem sameCounts_makeRoom (cache : ListingCache) : cache.SameCounts cache.makeRoom := by
  fun_induction makeRoom cache with
  | case1 cache _ ih =>
    have hfirst := cache.sameCounts_dropOldest
    exact ⟨ih.capacity.trans hfirst.capacity, ih.hits.trans hfirst.hits,
      ih.misses.trans hfirst.misses, ih.readings.trans hfirst.readings⟩
  | case2 cache _ => exact ⟨rfl, rfl, rfl, rfl⟩

theorem size_dropOldest (cache : ListingCache) : cache.dropOldest.size = cache.size - 1 := by
  unfold size
  rw [order_dropOldest, List.length_tail]

/-- **Making room drops the oldest entries**, no more than need be. -/
theorem entries_makeRoom (cache : ListingCache) :
    cache.makeRoom.entries = cache.entries.drop (cache.size + 1 - cache.capacity) := by
  fun_induction makeRoom cache with
  | case1 cache hfull ih =>
    rw [ih, entries_dropOldest, size_dropOldest, cache.sameCounts_dropOldest.capacity, ← List.drop_one,
      List.drop_drop]
    congr 1
    omega
  | case2 cache hroom =>
    have hlength := cache.length_entries
    by_cases hempty : cache.size = 0
    · rw [List.eq_nil_of_length_eq_zero (hlength.trans hempty), List.drop_nil]
    · rw [show cache.size + 1 - cache.capacity = 0 by omega, List.drop_zero]

/-- What is dropped to make room is counted. -/
theorem evictions_makeRoom (cache : ListingCache) :
    cache.makeRoom.evictions + cache.makeRoom.size = cache.evictions + cache.size := by
  fun_induction makeRoom cache with
  | case1 cache hfull ih =>
    have hcount : cache.dropOldest.evictions = cache.evictions + 1 := by
      unfold dropOldest
      split
      next h =>
        unfold size at hfull
        rw [h] at hfull
        exact absurd hfull.1 (Nat.lt_irrefl 0)
      next => rfl
    rw [ih, hcount, size_dropOldest]
    omega
  | case2 cache _ => rfl

/-! ### Keeping a listing -/

/-- **A new entry goes behind all others.** -/
theorem entries_push (listing : FiledListing) (h : text ∉ cache.order) :
    (cache.push text listing h).entries = cache.entries ++ [(text, listing)] := by
  have hget (other : String) : (cache.push text listing h).get? other =
      if text = other then some listing else cache.get? other := by
    unfold push get?
    dsimp only
    rw [Std.ExtTreeMap.getElem?_insert]
    simp only [Std.LawfulEqCmp.compare_eq_iff_eq]
  show (cache.order ++ [text]).filterMap
    (fun other => ((cache.push text listing h).get? other).map (other, ·)) = _
  rw [List.filterMap_append]
  congr 1
  · refine entries_congr fun other hother => ?_
    rw [hget, if_neg]
    rintro rfl
    exact h hother
  · rw [List.filterMap_cons, hget, if_pos rfl]
    rfl

/-- A text that has a listing keeps it. -/
theorem file_known (h : cache.get? text = some filed) :
    cache.file text listing = (filed, cache) := by
  unfold file
  split
  next kept hkept => rw [Option.some.inj (h.symm.trans hkept)]
  next hnone => rw [h] at hnone; cases hnone

/-- What becomes of a cache when a listing is kept under a text that has none. -/
theorem file_new (listing : FiledListing) (h : text ∉ cache.order) :
    ∃ hroom : text ∉ cache.makeRoom.order,
      cache.file text listing = (listing, cache.makeRoom.push text listing hroom) := by
  refine ⟨fun hmem => h (cache.order_makeRoom_subset hmem), ?_⟩
  unfold file
  split
  next kept hkept => rw [get?_eq_none_iff.mpr h] at hkept; cases hkept
  next => rfl

/-! ### Reading through the cache -/

theorem read_blank (h : isBlankText text) : cache.read text =
    (.ok ⟨cache.readings, []⟩, { cache with readings := cache.readings + 1 }) :=
  if_pos h

theorem read_known (hblank : ¬ isBlankText text) (h : cache.get? text = some filed) :
    cache.read text = (.ok filed, { cache with hits := cache.hits + 1 }) := by
  unfold read
  rw [if_neg hblank, h]

/-- A text that is not kept is read, and its listing is filed under it with the next number. -/
theorem read_new (hblank : ¬ isBlankText text) (h : cache.get? text = none) :
    cache.read text = match readListing text with
      | .error e => (.error e, { cache with misses := cache.misses + 1 })
      | .ok lines =>
        let numbered := { cache with misses := cache.misses + 1, readings := cache.readings + 1 }
        (.ok ⟨cache.readings, lines⟩, (numbered.file text ⟨cache.readings, lines⟩).2) := by
  unfold read
  rw [if_neg hblank, h]
  dsimp only
  unfold insert
  cases readListing text with
  | error e => rfl
  | ok lines =>
    have hfree : text ∉ ({ cache with misses := cache.misses + 1 }.number lines).2.order :=
      get?_eq_none_iff.mp h
    obtain ⟨hroom, hfile⟩ := file_new ⟨cache.readings, lines⟩ hfree
    unfold number at hfile ⊢
    dsimp only at hfile ⊢
    rw [hfile]

/-! ### Histories -/

/-- One thing that is asked of a cache. -/
inductive Query where
  | read (text : String)
  | file (text : String) (listing : FiledListing)
  | get (text : String)
  | contains (text : String)
  | clear

/-- What a query makes of a cache. -/
def Query.run (cache : ListingCache) : Query → ListingCache
  | .read text => (cache.read text).2
  | .file text listing => (cache.file text listing).2
  | .get _ | .contains _ => cache
  | .clear => cache.clear

/-- The cache after queries, one after another. -/
def after (cache : ListingCache) (history : List Query) : ListingCache :=
  history.foldl Query.run cache

end CoachScript.ListingCache
