import CoachScript.Script.Reading
import CoachScript.State.ByName

/-!
# The cache of listings

Listings that were read once are kept under their text, up to a bound. **First in, first out**: a
new entry drops the oldest ones, however recently they were asked for.

* `FiledListing`: a listing with the number that tells it from every other that was read.
* `ListingCache`: a table of listings, and the queue of their texts. The two hold the same texts.
* `ListingCache.read`: the listing of a text, from the cache where it is there.
* `ListingCache.file`: keeps a listing; an entry that is there already stays.
-/

namespace CoachScript

/-- A listing and the number of its reading. Two of one number are the same object. -/
structure FiledListing where
  number : Nat
  lines : Listing

/-- Bounded store of listings, with the queue of their texts and its counters. -/
structure ListingCache where
  capacity : Nat
  /-- The texts of the listings, oldest first. -/
  order : List String
  listings : ByName FiledListing
  hits : Nat
  misses : Nat
  evictions : Nat
  /-- How many listings were read so far. -/
  readings : Nat
  nodup_order : order.Nodup
  mem_order : ∀ text, text ∈ order ↔ text ∈ listings

namespace ListingCache

/-- An empty cache with room for at least one listing. -/
def empty (capacity : Nat) : ListingCache where
  capacity := max capacity 1
  order := []
  listings := ∅
  hits := 0
  misses := 0
  evictions := 0
  readings := 0
  nodup_order := List.nodup_nil
  mem_order _ := iff_of_false List.not_mem_nil Std.ExtTreeMap.not_mem_empty

/-- The listing kept under a text. -/
def get? (cache : ListingCache) (text : String) : Option FiledListing := cache.listings[text]?

/-- A listing is kept under the text. -/
def contains (cache : ListingCache) (text : String) : Bool := cache.listings.contains text

/-- The number of listings kept. -/
def size (cache : ListingCache) : Nat := cache.order.length

/-- The listings kept, each with its text, oldest first. -/
def entries (cache : ListingCache) : List (String × FiledListing) :=
  cache.order.filterMap fun text => (cache.get? text).map (text, ·)

/-- Forgets every listing; the counters go on. -/
def clear (cache : ListingCache) : ListingCache :=
  { cache with
    order := []
    listings := ∅
    nodup_order := List.nodup_nil
    mem_order := fun _ => iff_of_false List.not_mem_nil Std.ExtTreeMap.not_mem_empty }

/-- Gives a listing the next number. -/
def number (cache : ListingCache) (lines : Listing) : FiledListing × ListingCache :=
  (⟨cache.readings, lines⟩, { cache with readings := cache.readings + 1 })

/-- Drops the oldest listing. -/
def dropOldest (cache : ListingCache) : ListingCache :=
  match h : cache.order with
  | [] => cache
  | oldest :: more =>
    { cache with
      order := more
      listings := cache.listings.erase oldest
      evictions := cache.evictions + 1
      nodup_order := (List.nodup_cons.mp (h ▸ cache.nodup_order)).2
      mem_order := fun text => by
        have hnodup := List.nodup_cons.mp (h ▸ cache.nodup_order)
        rw [Std.ExtTreeMap.mem_erase, ← cache.mem_order, h, List.mem_cons]
        constructor
        · intro hmem
          refine ⟨fun heq => ?_, .inr hmem⟩
          exact hnodup.1 (Std.LawfulEqCmp.eq_of_compare heq ▸ hmem)
        · rintro ⟨hne, rfl | hmem⟩
          · exact absurd Std.ReflCmp.compare_self hne
          · exact hmem }

theorem order_dropOldest (cache : ListingCache) : cache.dropOldest.order = cache.order.tail := by
  unfold dropOldest
  split
  next h => rw [h, List.tail_nil]
  next h => exact (congrArg List.tail h).symm

/-- Drops the oldest listings until there is room for one more. -/
def makeRoom (cache : ListingCache) : ListingCache :=
  if 0 < cache.size ∧ cache.capacity ≤ cache.size then makeRoom cache.dropOldest else cache
termination_by cache.size
decreasing_by
  next h =>
    unfold size at h ⊢
    rw [order_dropOldest, List.length_tail]
    omega

theorem order_makeRoom_subset (cache : ListingCache) : cache.makeRoom.order ⊆ cache.order := by
  fun_induction makeRoom cache with
  | case1 cache _ ih =>
    rw [order_dropOldest] at ih
    exact fun text htext => List.mem_of_mem_tail (ih htext)
  | case2 cache _ => exact fun _ => id

/-- Puts a listing behind all others, under a text that has none. -/
def push (cache : ListingCache) (text : String) (listing : FiledListing) (h : text ∉ cache.order) :
    ListingCache :=
  { cache with
    order := cache.order ++ [text]
    listings := cache.listings.insert text listing
    nodup_order := by
      rw [List.nodup_append]
      refine ⟨cache.nodup_order, List.pairwise_singleton .., fun a ha b hb hab => ?_⟩
      rw [List.mem_singleton] at hb
      exact h (hb ▸ hab ▸ ha)
    mem_order := fun other => by
      rw [Std.ExtTreeMap.mem_insert, ← cache.mem_order, List.mem_append, List.mem_singleton,
        Std.LawfulEqCmp.compare_eq_iff_eq, eq_comm, or_comm] }

/-- Keeps a listing under a text, unless one is there, and drops the oldest entries beyond the
bound. The listing that is kept is returned. -/
def file (cache : ListingCache) (text : String) (listing : FiledListing) :
    FiledListing × ListingCache :=
  match h : cache.get? text with
  | some kept => (kept, cache)
  | none =>
    (listing, cache.makeRoom.push text listing fun hmem => by
      have hold := (cache.mem_order text).mp (cache.order_makeRoom_subset hmem)
      rw [Std.ExtTreeMap.mem_iff_isSome_getElem?] at hold
      rw [get?] at h
      rw [h] at hold
      cases hold)

/-- Reads a text and keeps its listing under a key. -/
def insert (cache : ListingCache) (key text : String) :
    Except SyntaxFault FiledListing × ListingCache :=
  match readListing text with
  | .error e => (.error e, cache)
  | .ok lines =>
    let (listing, cache) := cache.number lines
    let (kept, cache) := cache.file key listing
    (.ok kept, cache)

/-- The listing of a text. A blank text has no lines and is not kept; any other is looked up, and
read if it is not there. -/
def read (cache : ListingCache) (text : String) :
    Except SyntaxFault FiledListing × ListingCache :=
  if isBlankText text then
    let (listing, cache) := cache.number []
    (.ok listing, cache)
  else
    match cache.get? text with
    | some kept => (.ok kept, { cache with hits := cache.hits + 1 })
    | none => { cache with misses := cache.misses + 1 }.insert text text

end ListingCache

end CoachScript
