import CoachScript.Proofs.Cache.Entries
import Mathlib.Data.List.DropRight

/-!
# First in, first out

A ledger says what a cache should hold, without a queue or a table: it writes down what was added since
the last clear and drops nothing. The cache has room for the last of it.

* `Ledger`: what was added. `Ledger.kept`: the last entries, as many as there is room for.
* `Ledger.add`: **a text is added just if it is not kept**. `Ledger.next`: a listing that is filed, and
  one that is read and not blank, are added; nothing else is.
* `Ledger.Matches`: a cache holds what is kept, in this order, and counts what it has dropped.
  `Matches.run`: it goes on to, whatever is asked.
* `hits_add_misses`: each text that is read and not blank is counted once.
* **`holds_last_added`**: after any history the cache holds the last texts that were added, and its
  counters add up.
-/

namespace CoachScript.ListingCache

/-! ### The ledger -/

/-- What was added to a cache. -/
structure Ledger where
  /-- What was added since the last clear, oldest first. -/
  recent : List (String × FiledListing)
  /-- How many were added in all. -/
  added : Nat
  /-- How many were dropped by clearing. -/
  cleared : Nat
  /-- How many listings were read. -/
  readings : Nat

namespace Ledger

variable (capacity : Nat)

/-- The last entries, as many as there is room for. -/
def kept (ledger : Ledger) : List (String × FiledListing) := ledger.recent.rtake (max capacity 1)

/-- A new entry takes the place of the oldest one if there is no more room. -/
theorem kept_concat (recent : List (String × FiledListing)) (entry : String × FiledListing) :
    let kept := recent.rtake (max capacity 1)
    (recent ++ [entry]).rtake (max capacity 1) =
      kept.drop (kept.length + 1 - max capacity 1) ++ [entry] := by
  obtain ⟨room, hroom⟩ : ∃ room, max capacity 1 = room + 1 := ⟨max capacity 1 - 1, by omega⟩
  rw [hroom]
  intro kept
  rw [List.rtake_concat_succ]
  unfold kept List.rtake
  rw [List.length_drop, List.drop_drop]
  congr 2
  omega

/-- Adds a listing, unless one is kept under the text. -/
def add (ledger : Ledger) (text : String) (listing : FiledListing) : Ledger :=
  match (ledger.kept capacity).lookup text with
  | some _ => ledger
  | none => { ledger with
      recent := ledger.recent ++ [(text, listing)]
      added := ledger.added + 1 }

/-- What a query adds. -/
def next (ledger : Ledger) : Query → Ledger
  | .read text =>
    -- A listing takes its number before it is added.
    let numbered := { ledger with readings := ledger.readings + 1 }
    if isBlankText text then numbered
    else
      match (ledger.kept capacity).lookup text, readListing text with
      | some _, _ | none, .error _ => ledger
      | none, .ok lines => numbered.add capacity text ⟨ledger.readings, lines⟩
  | .file text listing => ledger.add capacity text listing
  | .get _ | .contains _ => ledger
  | .clear => { ledger with
      recent := []
      cleared := ledger.cleared + (ledger.kept capacity).length }

/-- The ledger of queries, one after another. -/
def after (history : List Query) : Ledger := history.foldl (next capacity) ⟨[], 0, 0, 0⟩

end Ledger

/-! ### Looking up -/

theorem get?_eq_lookup (cache : ListingCache) (text : String) :
    cache.get? text = cache.entries.lookup text := by
  cases hlookup : cache.entries.lookup text with
  | some filed =>
    obtain ⟨before, behind, hentries, -⟩ := List.lookup_eq_some_iff.mp hlookup
    refine mem_entries_iff.mp ?_
    rw [hentries]
    exact List.mem_append_right _ List.mem_cons_self
  | none =>
    rw [List.lookup_eq_none_iff] at hlookup
    refine Option.eq_none_iff_forall_ne_some.mpr fun filed hfiled => ?_
    simpa using hlookup _ (mem_entries_iff.mpr hfiled)

/-- The listing that was filed first under a text is the one that is returned. -/
theorem fst_file (cache : ListingCache) (text : String) (listing : FiledListing) :
    (cache.file text listing).1 = (cache.entries.lookup text).getD listing := by
  rw [← get?_eq_lookup]
  cases hget : cache.get? text with
  | some filed =>
    rw [file_known hget]
    rfl
  | none =>
    obtain ⟨hroom, hfile⟩ := file_new listing (get?_eq_none_iff.mp hget)
    rw [hfile]
    rfl

/-- A text is read only if it is not blank and nothing is kept under it. -/
theorem fst_read (cache : ListingCache) (text : String) :
    (cache.read text).1 =
      if isBlankText text then .ok ⟨cache.readings, []⟩
      else (cache.entries.lookup text).elim
        ((readListing text).map (FiledListing.mk cache.readings)) .ok := by
  rw [← get?_eq_lookup]
  by_cases hblank : isBlankText text
  · rw [read_blank hblank, if_pos hblank]
  rw [if_neg hblank]
  cases hget : cache.get? text with
  | some filed =>
    rw [read_known hblank hget]
    rfl
  | none =>
    rw [read_new hblank hget]
    cases readListing text <;> rfl

/-! ### What a query makes of a cache and of its ledger -/

/-- A cache holds what its ledger keeps, and counts what it has dropped. -/
structure Ledger.Matches (capacity : Nat) (ledger : Ledger) (cache : ListingCache) : Prop where
  room : cache.capacity = max capacity 1
  entries : cache.entries = ledger.kept capacity
  readings : cache.readings = ledger.readings
  balance : ledger.added = cache.size + cache.evictions + ledger.cleared

namespace Ledger.Matches

variable {capacity : Nat} {ledger : Ledger} {cache : ListingCache}

theorem get?_eq (h : ledger.Matches capacity cache) (text : String) :
    cache.get? text = (ledger.kept capacity).lookup text := by
  rw [get?_eq_lookup, h.entries]

theorem size_eq (h : ledger.Matches capacity cache) : cache.size = (ledger.kept capacity).length := by
  rw [← length_entries, h.entries]

theorem add (h : ledger.Matches capacity cache) (text : String) (listing : FiledListing) :
    (ledger.add capacity text listing).Matches capacity (cache.file text listing).2 := by
  unfold Ledger.add
  cases hget : cache.get? text with
  | some filed =>
    rw [file_known hget, ← h.get?_eq, hget]
    exact h
  | none =>
    obtain ⟨hroom, hfile⟩ := file_new listing (get?_eq_none_iff.mp hget)
    have hcounts := cache.sameCounts_makeRoom
    rw [hfile, ← h.get?_eq, hget]
    refine ⟨hcounts.capacity.trans h.room, ?_, hcounts.readings.trans h.readings, ?_⟩
    · rw [entries_push, entries_makeRoom, h.entries, h.size_eq, h.room]
      exact (kept_concat capacity ledger.recent (text, listing)).symm
    · have hsize : (cache.makeRoom.push text listing hroom).size = cache.makeRoom.size + 1 :=
        List.length_append
      have hevictions := cache.evictions_makeRoom
      have hbalance := h.balance
      show ledger.added + 1 =
        (cache.makeRoom.push text listing hroom).size + cache.makeRoom.evictions + ledger.cleared
      omega

/-- **Whatever is asked, the cache goes on to hold what the ledger keeps.** -/
theorem run (h : ledger.Matches capacity cache) (q : Query) :
    (ledger.next capacity q).Matches capacity (q.run cache) := by
  cases q with
  | read text =>
    have hnumbered : { ledger with readings := ledger.readings + 1 }.Matches capacity
        { cache with misses := cache.misses + 1, readings := cache.readings + 1 } :=
      ⟨h.room, h.entries, congrArg (· + 1) h.readings, h.balance⟩
    show (ledger.next capacity (.read text)).Matches capacity (cache.read text).2
    unfold Ledger.next
    dsimp only
    by_cases hblank : isBlankText text
    · rw [if_pos hblank, read_blank hblank]
      exact ⟨h.room, h.entries, hnumbered.readings, h.balance⟩
    rw [if_neg hblank, ← h.get?_eq]
    cases hget : cache.get? text with
    | some filed =>
      rw [read_known hblank hget]
      exact ⟨h.room, h.entries, h.readings, h.balance⟩
    | none =>
      rw [read_new hblank hget]
      cases hread : readListing text with
      | error e => exact ⟨h.room, h.entries, h.readings, h.balance⟩
      | ok lines =>
        have hlisting : FiledListing.mk ledger.readings lines = ⟨cache.readings, lines⟩ := by
          rw [h.readings]
        dsimp only
        rw [hlisting]
        exact hnumbered.add text ⟨cache.readings, lines⟩
  | file text listing => exact h.add text listing
  | get text | contains text => exact h
  | clear =>
    have hbalance := h.balance
    rw [h.size_eq] at hbalance
    refine ⟨h.room, (List.rtake_nil _).symm, h.readings, ?_⟩
    show ledger.added = 0 + cache.evictions + (ledger.cleared + (ledger.kept capacity).length)
    omega

end Ledger.Matches

theorem Ledger.matches_after (capacity : Nat) (history : List Query) :
    (Ledger.after capacity history).Matches capacity ((empty capacity).after history) := by
  have hrun (ledger : Ledger) (cache : ListingCache) (h : ledger.Matches capacity cache) :
      (history.foldl (Ledger.next capacity) ledger).Matches capacity (cache.after history) := by
    induction history generalizing ledger cache with
    | nil => exact h
    | cons q more ih => exact ih _ _ (h.run q)
  exact hrun _ _ ⟨rfl, (List.rtake_nil _).symm, rfl, rfl⟩

/-! ### What is counted -/

/-- The query reads a text that is not blank. -/
def Query.asks : Query → Bool
  | .read text => !isBlankText text
  | .file .. | .get _ | .contains _ | .clear => false

theorem counts_file (cache : ListingCache) (text : String) (listing : FiledListing) :
    cache.SameCounts (cache.file text listing).2 := by
  cases hget : cache.get? text with
  | some filed =>
    rw [file_known hget]
    exact ⟨rfl, rfl, rfl, rfl⟩
  | none =>
    obtain ⟨hroom, hfile⟩ := file_new listing (get?_eq_none_iff.mp hget)
    have hcounts := cache.sameCounts_makeRoom
    rw [hfile]
    exact ⟨hcounts.capacity, hcounts.hits, hcounts.misses, hcounts.readings⟩

theorem counts_run (cache : ListingCache) (q : Query) :
    (q.run cache).hits + (q.run cache).misses =
      cache.hits + cache.misses + if q.asks then 1 else 0 := by
  cases q with
  | read text =>
    show (cache.read text).2.hits + (cache.read text).2.misses =
      cache.hits + cache.misses + if !isBlankText text then 1 else 0
    by_cases hblank : isBlankText text
    · rw [read_blank hblank, hblank]
      rfl
    rw [Bool.eq_false_iff.mpr hblank]
    cases hget : cache.get? text with
    | some filed =>
      rw [read_known hblank hget]
      exact Nat.add_right_comm ..
    | none =>
      rw [read_new hblank hget]
      cases readListing text with
      | error e => rfl
      | ok lines =>
        have hcounts := counts_file
          { cache with misses := cache.misses + 1, readings := cache.readings + 1 } text
          ⟨cache.readings, lines⟩
        dsimp only
        rw [hcounts.hits, hcounts.misses]
        rfl
  | file text listing =>
    have hcounts := counts_file cache text listing
    show (cache.file text listing).2.hits + (cache.file text listing).2.misses = _
    rw [hcounts.hits, hcounts.misses]
    rfl
  | get text | contains text | clear => rfl

/-- **Each text that is read and not blank is a hit or a miss**, and nothing else is. -/
theorem hits_add_misses (cache : ListingCache) (history : List Query) :
    (cache.after history).hits + (cache.after history).misses =
      cache.hits + cache.misses + history.countP Query.asks := by
  induction history generalizing cache with
  | nil => rfl
  | cons q more ih =>
    have hmore := ih (q.run cache)
    rw [counts_run, Nat.add_assoc] at hmore
    rw [List.countP_cons, Nat.add_comm (more.countP Query.asks)]
    exact hmore

/-! ### Histories -/

/-- **A cache is a bounded queue.** After any history the queue and the table hold the same texts, each
once and no more than there is room for, and they are the last that were added since the last clear, in
the order in which they were added and each with the listing it was added with. That listing is what
looking up, filing again and reading give. The texts that were read and not blank are counted; those that
were added are still there, were dropped to make room or were dropped by clearing. -/
theorem holds_last_added (capacity : Nat) (history : List Query) :
    let cache := (empty capacity).after history
    let ledger := Ledger.after capacity history
    (cache.order.Nodup ∧ (∀ text, text ∈ cache.order ↔ text ∈ cache.listings) ∧
        cache.size ≤ max capacity 1) ∧
      (cache.entries = ledger.recent.rtake (max capacity 1) ∧
        cache.order = cache.entries.map Prod.fst) ∧
      (∀ text, cache.get? text = cache.entries.lookup text ∧
        cache.contains text = (cache.entries.lookup text).isSome ∧
        (∀ listing, (cache.file text listing).1 = (cache.entries.lookup text).getD listing) ∧
        (cache.read text).1 =
          if isBlankText text then .ok ⟨cache.readings, []⟩
          else (cache.entries.lookup text).elim
            ((readListing text).map (FiledListing.mk cache.readings)) .ok) ∧
      cache.hits + cache.misses = history.countP Query.asks ∧
      ledger.added = cache.size + cache.evictions + ledger.cleared := by
  intro cache ledger
  have hmatches : ledger.Matches capacity cache := Ledger.matches_after capacity history
  refine ⟨⟨cache.nodup_order, cache.mem_order, ?_⟩, ⟨hmatches.entries, (map_fst_entries cache).symm⟩,
    fun text => ⟨get?_eq_lookup cache text, ?_, fst_file cache text, fst_read cache text⟩, ?_,
    hmatches.balance⟩
  · rw [hmatches.size_eq]
    unfold Ledger.kept List.rtake
    rw [List.length_drop]
    omega
  · rw [← get?_eq_lookup]
    exact Std.ExtTreeMap.contains_eq_isSome_getElem?
  · have hcounts := hits_add_misses (empty capacity) history
    rwa [show (empty capacity).hits + (empty capacity).misses = 0 from rfl, Nat.zero_add] at hcounts

end CoachScript.ListingCache
