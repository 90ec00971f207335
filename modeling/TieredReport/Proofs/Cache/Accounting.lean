/-
# What a cache counts

An entry comes into a cache by a `set` that finds none under its key once it has swept. It leaves by
one of five ways: a `set` sweeps it or evicts it, a `get` or a `has` meets it after its lifetime, or
it is deleted. Each way is counted once, and in its own place (`Balanced`), so over every history
the entries that are stored are those that came less those that left (`balanced_after`).

What happened is told from the entries alone (`Moment.evicted`, `Moment.expired`) and from the
answers, not from the counters. The statistics count since the last `clear`, the totals always.
There is never more than one entry too many, so evicting one is enough: `makeRoom_cases` says when
an entry has to go, and a new one takes its place.

Key definitions: `Cache.Moment`, `Cache.moments`, `Cache.Balanced`.
Key theorems: `Cache.length_without`, `Cache.makeRoom_cases`, `Cache.Books.answer`,
`Cache.Balanced.answer`, `Cache.balanced_after`.
-/
import TieredReport.Proofs.Cache.Guarantee
import TieredReport.Proofs.Moments

namespace TieredReport

/-- Counts, and some more evictions and expirations. -/
def CacheCounts.plus (counts : CacheCounts) (evictions expirations : Nat) : CacheCounts :=
  ⟨counts.evictions + evictions, counts.expirations + expirations⟩

namespace Cache

universe u

variable {α : Type u} {c : Cache α} {entries : List (String × CacheEntry α)} {now : Nat}
  {key : String} {e : CacheEntry α}

/-! ### Moments -/

/-- A request at a time, and the cache that it found. -/
abbrev Moment (α : Type u) := Cache α × (Nat × Request α)

/-- The moments of a history, the last one first. -/
def moments (c : Cache α) (history : History α) : List (Moment α) :=
  TieredReport.moments (fun c r => (c.answer r.1 r.2).2) c history

namespace Moment

/-- Everything is removed and the statistics start again. -/
def clears : Moment α → Bool
  | (_, _, .clear) => true
  | _ => false

/-- A value is stored under a key that has no entry after the sweep. -/
def adds : Moment α → Bool
  | (c, now, .set key _ _) => !(c.sweep now).stores key
  | _ => false

/-- An entry is deleted. -/
def deletes : Moment α → Bool
  | (c, _, .delete key) => (c.delete key).1
  | _ => false

/-- A value is asked for. -/
def reads : Moment α → Bool
  | (_, _, .get _) => true
  | _ => false

/-- A value is asked for, and there is one. -/
def finds : Moment α → Bool
  | (c, now, .get key) => (c.get now key).1.isSome
  | _ => false

/-- The entries that go because their lifetime is over: all such entries at a `set`, and the one that
a `get` or a `has` asks for. -/
def expired : Moment α → List (String × CacheEntry α)
  | (c, now, .set _ _ _) => c.entries.filter fun e => e.2.expired now
  | (c, now, .get key) => c.entries.filter fun e => e.2.expired now && e.1 = key
  | (c, now, .has key) => c.entries.filter fun e => e.2.expired now && e.1 = key
  | _ => []

/-- The entries within their lifetime whose keys have no entry after another value was stored. -/
def evicted : Moment α → List (String × CacheEntry α)
  | (c, now, .set key value lifetime) =>
    c.entries.filter fun e => !e.2.expired now && !(c.set now key value lifetime).stores e.1
  | _ => []

end Moment

/-- The moments since the last `clear`. -/
def sinceClear (all : List (Moment α)) : List (Moment α) := since (·.clears) all

/-! ### Lengths -/

/-- The only entry under a key. -/
theorem filter_key_of_mem (hc : Keyed entries) (h : (key, e) ∈ entries) :
    entries.filter (fun x => x.1 = key) = [(key, e)] := by
  induction entries with
  | nil => cases h
  | cons x rest ih =>
    obtain ⟨hx, hrest⟩ := List.nodup_cons.1 hc
    rcases List.mem_cons.1 h with rfl | hmem
    · rw [List.filter_cons_of_pos (by simp), List.filter_eq_nil_iff.2]
      intro y hy heq
      exact hx (List.mem_map.2 ⟨y, hy, by simpa using heq⟩)
    · have hkey : key ∈ rest.map (·.1) := List.mem_map.2 ⟨_, hmem, rfl⟩
      have hne : x.1 ≠ key := by
        rintro rfl
        exact hx hkey
      rw [List.filter_cons_of_neg (by simpa using hne)]
      exact ih hrest hmem

theorem length_without (hc : Keyed entries) (h : (key, e) ∈ entries) :
    (without entries key).length + 1 = entries.length := by
  have hsplit := List.length_eq_length_filter_add (l := entries) fun x => decide (x.1 = key)
  have hrest : (entries.filter fun x => !decide (x.1 = key)) = without entries key :=
    List.filter_congr fun x _ => by simp
  rw [filter_key_of_mem hc h, hrest, List.length_singleton] at hsplit
  omega

theorem without_of_not_mem (h : key ∉ entries.map (·.1)) : without entries key = entries := by
  refine List.filter_eq_self.2 fun x hx => ?_
  have hne : x.1 ≠ key := fun heq => h (heq ▸ List.mem_map.2 ⟨x, hx, rfl⟩)
  simpa using hne

theorem size_sweep (now : Nat) (c : Cache α) :
    (c.sweep now).size + (c.entries.filter fun e => e.2.expired now).length = c.size := by
  have hsplit := List.length_eq_length_filter_add (l := c.entries) fun e => e.2.expired now
  have hsize : (c.sweep now).size = (c.entries.filter fun e => !e.2.expired now).length := rfl
  unfold size at hsize ⊢
  omega

/-! ### Room for a key -/

/-- **When an entry has to go.** A cache with too many entries for a new key gives up one of them,
and no other cache does. -/
theorem makeRoom_cases (c : Cache α) (key : String) (hroom : 0 < c.maxSize) :
    (c.makeRoom key = c ∧ (c.stores key = true ∨ c.size < c.maxSize)) ∨
    (c.stores key = false ∧ c.maxSize ≤ c.size ∧ ∃ old e, (old, e) ∈ c.entries ∧
      c.makeRoom key = countEvicted { c with entries := without c.entries old }) := by
  unfold makeRoom
  cases hkey : c.stores key with
  | true => exact Or.inl ⟨rfl, Or.inl rfl⟩
  | false =>
    by_cases hfull : c.maxSize ≤ c.entries.length
    · have hne : c.entries ≠ [] := List.ne_nil_of_length_pos (lt_of_lt_of_le hroom hfull)
      obtain ⟨first, rest, hentries⟩ := List.exists_cons_of_ne_nil hne
      have hsome : (oldest? c.entries).isSome = true := by
        rw [hentries]
        rfl
      obtain ⟨old, hold⟩ := Option.isSome_iff_exists.1 hsome
      obtain ⟨e, he, -⟩ := oldest?_eq_some hold
      refine Or.inr ⟨rfl, hfull, old, e, he, ?_⟩
      rw [if_pos (by simpa using hfull), evict, hold]
    · refine Or.inl ⟨?_, Or.inr (not_le.1 hfull)⟩
      rw [if_neg (by simpa using hfull)]

section Set

variable {value : α} {lifetime : Option Nat}

theorem stores_set (x : String) : (c.set now key value lifetime).stores x = true ↔
    x = key ∨ x ∈ ((c.sweep now).makeRoom key).entries.map (·.1) := by
  rw [stores_eq_true_iff, set_entries, List.map_cons, List.mem_cons]
  constructor
  · rintro (h | h)
    · exact Or.inl h
    · exact Or.inr (((without_sublist _ key).map _).subset h)
  · rintro (h | h)
    · exact Or.inl h
    · by_cases hx : x = key
      · exact Or.inl hx
      · obtain ⟨⟨y, f⟩, hf, rfl⟩ := List.mem_map.1 h
        exact Or.inr (List.mem_map.2 ⟨(y, f), mem_without.2 ⟨hx, hf⟩, rfl⟩)

/-- The entries that a `set` evicts are those that do not stay although the sweep left them. -/
theorem evicted_set : Moment.evicted (c, now, .set key value lifetime) =
    (c.sweep now).entries.filter fun e => !(c.set now key value lifetime).stores e.1 := by
  simp only [Moment.evicted, sweep, countExpired, List.filter_filter, Bool.and_comm]

/-- Where nothing has to go for the key, nothing is evicted. -/
theorem evicted_set_of_room (hsame : (c.sweep now).makeRoom key = c.sweep now) :
    Moment.evicted (c, now, .set key value lifetime) = [] := by
  rw [evicted_set, List.filter_eq_nil_iff]
  intro x hx
  have hstays : (c.set now key value lifetime).stores x.1 = true := by
    refine (stores_set x.1).2 (Or.inr ?_)
    rw [hsame]
    exact List.mem_map.2 ⟨x, hx, rfl⟩
  simpa using hstays

/-- Where one entry has to go for a new key, it is the one that is evicted. -/
theorem evicted_set_of_full {old : String} (hswept : Keyed (c.sweep now).entries)
    (hold : (old, e) ∈ (c.sweep now).entries) (hnew : key ∉ (c.sweep now).entries.map (·.1))
    (hleft : ((c.sweep now).makeRoom key).entries = without (c.sweep now).entries old) :
    Moment.evicted (c, now, .set key value lifetime) = [(old, e)] := by
  rw [evicted_set, ← filter_key_of_mem hswept hold]
  refine List.filter_congr fun x hx => ?_
  have hne : x.1 ≠ key := fun heq => hnew (heq ▸ List.mem_map.2 ⟨x, hx, rfl⟩)
  have hstays : (c.set now key value lifetime).stores x.1 = true ↔ x.1 ≠ old := by
    rw [stores_set, hleft, List.mem_map]
    constructor
    · rintro (heq | ⟨y, hy, heq⟩)
      · exact absurd heq hne
      · rw [← heq]
        exact (mem_without.1 hy).1
    · exact fun hxold => Or.inr ⟨x, mem_without.2 ⟨hxold, hx⟩, rfl⟩
  rw [Bool.eq_iff_iff, Bool.not_eq_true', ← Bool.not_eq_true, hstays]
  simp

/-- **What a `set` does after its sweep.** A new key adds an entry, one that is evicted takes one
away and is counted, and there are never too many. -/
theorem set_moves (hc : Keyed c.entries) (hroom : 0 < c.maxSize) (hsize : c.size ≤ c.maxSize)
    (now : Nat) (key : String) (value : α) (lifetime : Option Nat) :
    let m : Moment α := (c, now, .set key value lifetime)
    let c' := c.set now key value lifetime
    c'.size + m.evicted.length = (c.sweep now).size + (if m.adds then 1 else 0) ∧
      c'.size ≤ c.maxSize ∧ c'.counts = (c.sweep now).counts.plus m.evicted.length 0 ∧
      c'.total = (c.sweep now).total.plus m.evicted.length 0 := by
  intro m c'
  have hswept : Keyed (c.sweep now).entries := hc.sublist (sweep_sublist now c)
  have hless : (c.sweep now).size ≤ c.maxSize := (sweep_sublist now c).length_le.trans hsize
  have hlength : c'.size = (without ((c.sweep now).makeRoom key).entries key).length + 1 := by
    rw [size, set_entries, List.length_cons]
  have hadds : m.adds = !(c.sweep now).stores key := rfl
  have hcounts : c'.counts = ((c.sweep now).makeRoom key).counts := rfl
  have htotal : c'.total = ((c.sweep now).makeRoom key).total := rfl
  have hnot (h : (c.sweep now).stores key = false) : key ∉ (c.sweep now).entries.map (·.1) := by
    rw [← stores_eq_true_iff, h]
    exact Bool.false_ne_true
  rcases makeRoom_cases (c.sweep now) key hroom with
    ⟨hsame, hfits⟩ | ⟨hnew, hfull, old, e, hold, hgone⟩
  · have hnone : m.evicted = [] := evicted_set_of_room hsame
    rw [hsame] at hlength hcounts htotal
    rw [hnone, hadds, hcounts, htotal]
    cases hkey : (c.sweep now).stores key with
    | true =>
      obtain ⟨⟨x, f⟩, hf, rfl⟩ := List.mem_map.1 (stores_eq_true_iff.1 hkey)
      rw [length_without hswept hf] at hlength
      exact ⟨hlength, hlength.trans_le hless, rfl, rfl⟩
    | false =>
      have hfits' : (c.sweep now).size < c.maxSize := hfits.resolve_left (by simp [hkey])
      rw [without_of_not_mem (hnot hkey)] at hlength
      exact ⟨hlength, hlength.trans_le hfits', rfl, rfl⟩
  · have hleft : ((c.sweep now).makeRoom key).entries = without (c.sweep now).entries old := by
      rw [hgone]
      rfl
    have hone : m.evicted = [(old, e)] := evicted_set_of_full hswept hold (hnot hnew) hleft
    have hkeyless : key ∉ (without (c.sweep now).entries old).map (·.1) := fun h =>
      hnot hnew (((without_sublist _ old).map _).subset h)
    rw [hleft, without_of_not_mem hkeyless, length_without hswept hold] at hlength
    rw [hgone] at hcounts htotal
    rw [hone, hadds, hnew, hcounts, htotal]
    exact ⟨congrArg (· + 1) hlength, hlength.trans_le hless, rfl, rfl⟩

end Set

theorem counts_sweep (now : Nat) (c : Cache α) :
    (c.sweep now).counts = c.counts.plus 0 (c.entries.filter fun e => e.2.expired now).length ∧
      (c.sweep now).total = c.total.plus 0 (c.entries.filter fun e => e.2.expired now).length := by
  have hsize := size_sweep now c
  have hgone : c.entries.length - (c.sweep now).entries.length =
      (c.entries.filter fun e => e.2.expired now).length := by
    unfold size at hsize
    omega
  exact ⟨congrArg (c.counts.plus 0) hgone, congrArg (c.total.plus 0) hgone⟩

/-! ### Look-ups -/

theorem lookups_makeRoom (c : Cache α) (key : String) :
    (c.makeRoom key).hits = c.hits ∧ (c.makeRoom key).misses = c.misses := by
  unfold makeRoom evict
  split
  · split <;> exact ⟨rfl, rfl⟩
  · exact ⟨rfl, rfl⟩

/-- To store is no look-up. -/
theorem lookups_set (now : Nat) (key : String) (value : α) (lifetime : Option Nat) (c : Cache α) :
    (c.set now key value lifetime).hits = c.hits ∧
      (c.set now key value lifetime).misses = c.misses :=
  lookups_makeRoom (c.sweep now) key

/-- To ask for a value is a hit if there is one, and a miss if there is none. -/
theorem lookups_get (now : Nat) (key : String) (c : Cache α) :
    (c.get now key).2.hits = c.hits + (if (c.get now key).1.isSome then 1 else 0) ∧
      (c.get now key).2.misses = c.misses + (if (c.get now key).1.isSome then 0 else 1) := by
  cases hfind : c.find? key with
  | none =>
    rw [get_of_none hfind]
    exact ⟨rfl, rfl⟩
  | some e =>
    cases hexp : e.expired now with
    | true =>
      rw [get_of_expired hfind hexp]
      exact ⟨rfl, rfl⟩
    | false =>
      rw [get_of_live hfind hexp]
      exact ⟨rfl, rfl⟩

/-! ### One request -/

/-- The books of a request: whatever comes and goes at it is counted, and counted once. No key has
two entries afterwards. -/
structure Books (m : Moment α) (c' : Cache α) : Prop where
  keyed : Keyed c'.entries
  size : c'.size + m.evicted.length + m.expired.length + (if m.deletes then 1 else 0) =
    m.1.size + if m.adds then 1 else 0
  counts : c'.counts = m.1.counts.plus m.evicted.length m.expired.length
  total : c'.total = m.1.total.plus m.evicted.length m.expired.length
  hits : c'.hits = m.1.hits + if m.finds then 1 else 0
  lookups : c'.hits + c'.misses = m.1.hits + m.1.misses + if m.reads then 1 else 0

theorem Books.set (hc : Keyed c.entries) (hroom : 0 < c.maxSize) (hsize : c.size ≤ c.maxSize)
    (value : α) (lifetime : Option Nat) :
    Books (c, now, .set key value lifetime) (c.set now key value lifetime) := by
  have hswept := size_sweep now c
  obtain ⟨hcounts, htotal⟩ := counts_sweep now c
  obtain ⟨hhits, hmisses⟩ := lookups_set now key value lifetime c
  obtain ⟨hmoves, -, hcounts', htotal'⟩ := set_moves hc hroom hsize now key value lifetime
  refine ⟨keyed_set hc, ?_, ?_, ?_, hhits, ?_⟩
  · simp only [Moment.expired, Moment.deletes, Bool.false_eq_true, if_false] at hmoves ⊢
    omega
  · rw [hcounts', hcounts]
    simp [CacheCounts.plus, Moment.expired]
  · rw [htotal', htotal]
    simp [CacheCounts.plus, Moment.expired]
  · rw [hhits, hmisses]
    rfl

theorem expired_asked_of_none (h : c.find? key = none) (now : Nat) :
    (c.entries.filter fun e => e.2.expired now && e.1 = key) = [] := by
  rw [List.filter_eq_nil_iff]
  rintro ⟨x, e⟩ hx heq
  rw [Bool.and_eq_true, decide_eq_true_eq] at heq
  obtain ⟨-, rfl⟩ := heq
  exact not_mem_of_find? h e hx

/-- The entry that is asked for goes if it has expired. -/
theorem expired_asked_of_some (hc : Keyed c.entries) (h : c.find? key = some e) (now : Nat) :
    (c.entries.filter fun e => e.2.expired now && e.1 = key) =
      if e.expired now then [(key, e)] else [] := by
  rw [← List.filter_filter, filter_key_of_mem hc (mem_of_find? h), List.filter_cons, List.filter_nil]

theorem size_expire (hc : Keyed c.entries) (h : c.find? key = some e) :
    (c.expire key).size + 1 = c.size := length_without hc (mem_of_find? h)

theorem Books.get (hc : Keyed c.entries) (now : Nat) (key : String) :
    Books (c, now, .get key) (c.get now key).2 := by
  obtain ⟨hhits, hmisses⟩ := lookups_get now key c
  have hlookups : (c.get now key).2.hits + (c.get now key).2.misses = c.hits + c.misses + 1 := by
    rw [hhits, hmisses]
    split <;> omega
  cases hfind : c.find? key with
  | none =>
    have hexpired : Moment.expired (c, now, .get key) = [] := expired_asked_of_none hfind now
    refine ⟨?_, ?_, ?_, ?_, hhits, hlookups⟩ <;> rw [get_of_none hfind]
    · exact hc
    all_goals rw [hexpired]; rfl
  | some e =>
    have hexpired : Moment.expired (c, now, .get key) = if e.expired now then [(key, e)] else [] :=
      expired_asked_of_some hc hfind now
    cases hexp : e.expired now with
    | true =>
      rw [hexp, if_pos rfl] at hexpired
      refine ⟨?_, ?_, ?_, ?_, hhits, hlookups⟩ <;> rw [get_of_expired hfind hexp]
      · exact hc.sublist (without_sublist _ key)
      · rw [hexpired]
        exact size_expire hc hfind
      all_goals rw [hexpired]; rfl
    | false =>
      rw [hexp, if_neg Bool.false_ne_true] at hexpired
      refine ⟨?_, ?_, ?_, ?_, hhits, hlookups⟩ <;> rw [get_of_live hfind hexp]
      · dsimp only
        exact keyed_modify hc
      · rw [hexpired]
        exact List.length_map _
      all_goals rw [hexpired]; rfl

theorem Books.has (hc : Keyed c.entries) (now : Nat) (key : String) :
    Books (c, now, .has key) (c.has now key).2 := by
  cases hfind : c.find? key with
  | none =>
    have hexpired : Moment.expired (c, now, .has key) = [] := expired_asked_of_none hfind now
    rw [has_of_none hfind]
    refine ⟨hc, ?_, ?_, ?_, rfl, rfl⟩ <;> rw [hexpired] <;> rfl
  | some e =>
    have hexpired : Moment.expired (c, now, .has key) = if e.expired now then [(key, e)] else [] :=
      expired_asked_of_some hc hfind now
    cases hexp : e.expired now with
    | true =>
      rw [hexp, if_pos rfl] at hexpired
      rw [has_of_expired hfind hexp]
      refine ⟨hc.sublist (without_sublist _ key), ?_, ?_, ?_, rfl, rfl⟩ <;> rw [hexpired]
      · exact size_expire hc hfind
      · rfl
      · rfl
    | false =>
      rw [hexp, if_neg Bool.false_ne_true] at hexpired
      rw [has_of_live hfind hexp]
      refine ⟨hc, ?_, ?_, ?_, rfl, rfl⟩ <;> rw [hexpired] <;> rfl

theorem Books.delete (hc : Keyed c.entries) (now : Nat) (key : String) :
    Books (c, now, .delete key) (c.delete key).2 := by
  have hdeletes : Moment.deletes (c, now, .delete key) = c.stores key := rfl
  refine ⟨hc.sublist (without_sublist _ key), ?_, rfl, rfl, rfl, rfl⟩
  rw [hdeletes]
  cases hkey : c.stores key with
  | true =>
    obtain ⟨⟨x, e⟩, he, rfl⟩ := List.mem_map.1 (stores_eq_true_iff.1 hkey)
    exact length_without hc he
  | false =>
    have hnot : key ∉ c.entries.map (·.1) := by
      rw [← stores_eq_true_iff, hkey]
      exact Bool.false_ne_true
    exact congrArg List.length (without_of_not_mem hnot)

/-- **Every request but `clear` keeps the books.** -/
theorem Books.answer (hc : Keyed c.entries) (hroom : 0 < c.maxSize) (hsize : c.size ≤ c.maxSize)
    (now : Nat) {r : Request α} (hr : Moment.clears (c, now, r) = false) :
    Books (c, now, r) (c.answer now r).2 := by
  cases r with
  | set key value lifetime => exact .set hc hroom hsize value lifetime
  | get key => exact .get hc now key
  | has key => exact .has hc now key
  | delete key => exact .delete hc now key
  | clear => cases hr
  | _ => exact ⟨hc, rfl, rfl, rfl, rfl, rfl⟩

/-- No request stores two entries under one key. -/
theorem keyed_answer (hc : Keyed c.entries) (hroom : 0 < c.maxSize) (hsize : c.size ≤ c.maxSize)
    (now : Nat) (r : Request α) : Keyed (c.answer now r).2.entries := by
  have hkeyed : Moment.clears (c, now, r) = false → Keyed (c.answer now r).2.entries :=
    fun hclears => (Books.answer hc hroom hsize now hclears).keyed
  cases r with
  | clear => exact List.nodup_nil
  | _ => exact hkeyed rfl

/-- No request stores more entries than there is room for. -/
theorem size_answer_le (hc : Keyed c.entries) (hroom : 0 < c.maxSize) (hsize : c.size ≤ c.maxSize)
    (now : Nat) (r : Request α) : (c.answer now r).2.size ≤ c.maxSize := by
  have hless : Moment.clears (c, now, r) = false → Moment.adds (c, now, r) = false →
      (c.answer now r).2.size ≤ c.size := by
    intro hclears hadds
    have hbooks := (Books.answer hc hroom hsize now hclears).size
    rw [hadds] at hbooks
    simp only [Bool.false_eq_true, if_false] at hbooks
    omega
  cases r with
  | set key value lifetime => exact (set_moves hc hroom hsize now key value lifetime).2.1
  | clear => exact Nat.zero_le _
  | _ => exact (hless rfl rfl).trans hsize

/-! ### Histories -/

/-- The accounts of a cache over a history. What is stored is what came less what left, and each of
the counters counts what its name says: the statistics since the last `clear`, the totals always. -/
structure Balanced (c : Cache α) (all : List (Moment α)) : Prop where
  room : c.size ≤ c.maxSize
  stored : c.size + c.counts.evictions + c.counts.expirations +
    (sinceClear all).countP (·.deletes) = (sinceClear all).countP (·.adds)
  evictions : c.counts.evictions = ((sinceClear all).flatMap (·.evicted)).length
  expirations : c.counts.expirations = ((sinceClear all).flatMap (·.expired)).length
  hits : c.hits = (sinceClear all).countP (·.finds)
  lookups : c.hits + c.misses = (sinceClear all).countP (·.reads)
  totalEvictions : c.total.evictions = (all.flatMap (·.evicted)).length
  totalExpirations : c.total.expirations = (all.flatMap (·.expired)).length

/-- Every request but `clear` keeps the accounts. -/
theorem Balanced.books {all : List (Moment α)} {c' : Cache α} (h : Balanced c all)
    {r : Nat × Request α} (hr : Moment.clears (c, r) = false) (hbooks : Books (c, r) c')
    (hroom : c'.size ≤ c'.maxSize) : Balanced c' ((c, r) :: all) := by
  obtain ⟨-, hsize, hcounts, htotal, hhits, hlookups⟩ := hbooks
  have hsince : sinceClear ((c, r) :: all) = (c, r) :: sinceClear all :=
    since_cons_of_not_reset hr all
  have hstored := h.stored
  dsimp only at hsize hcounts htotal hhits hlookups
  refine ⟨hroom, ?_, ?_, ?_, ?_, ?_, ?_, ?_⟩
  · rw [hsince, hcounts, List.countP_cons, List.countP_cons]
    simp only [CacheCounts.plus]
    omega
  · rw [hsince, hcounts, length_flatMap_cons, ← h.evictions]
    rfl
  · rw [hsince, hcounts, length_flatMap_cons, ← h.expirations]
    rfl
  · rw [hsince, hhits, List.countP_cons, h.hits]
  · rw [hsince, hlookups, List.countP_cons, h.lookups]
  · rw [htotal, length_flatMap_cons, ← h.totalEvictions]
    rfl
  · rw [htotal, length_flatMap_cons, ← h.totalExpirations]
    rfl

/-- A `clear` begins new accounts and leaves the totals. -/
theorem Balanced.clear {all : List (Moment α)} (h : Balanced c all) (now : Nat) :
    Balanced c.clear ((c, now, .clear) :: all) := by
  have hsince : sinceClear ((c, now, .clear) :: all) = [] := since_cons_of_reset rfl all
  constructor <;> try rw [hsince]
  case room => exact Nat.zero_le _
  case totalEvictions => exact h.totalEvictions
  case totalExpirations => exact h.totalExpirations
  all_goals rfl

/-- **One more request.** -/
theorem Balanced.answer {all : List (Moment α)} (h : Balanced c all) (hc : Keyed c.entries)
    (hroom : 0 < c.maxSize) (now : Nat) (r : Request α) :
    Balanced (c.answer now r).2 ((c, now, r) :: all) := by
  cases hclears : Moment.clears (c, now, r) with
  | true =>
    cases r with
    | clear => exact h.clear now
    | _ => cases hclears
  | false =>
    refine h.books hclears (Books.answer hc hroom h.room now hclears) ?_
    rw [(answer_limits now c r).2]
    exact size_answer_le hc hroom h.room now r

/-- **A cache keeps its accounts.** After every history of requests to a new cache, whatever their
times, it has no more entries than it has room for, room for none counting as room for one. Since
the last `clear` as many entries came as are stored, were evicted, have expired and were deleted, and
its statistics are those numbers; the hits are the times a value was found, and with the misses they
are the times one was asked for. The totals are all the evictions and expirations there ever were. -/
theorem balanced_after (maxSize lifetime : Nat) (history : History α) :
    let new : Cache α := .empty maxSize lifetime
    (new.after history).size ≤ max maxSize 1 ∧
      Balanced (new.after history) (new.moments history) := by
  intro new
  have hlimit (history : History α) : (new.after history).maxSize = max maxSize 1 :=
    (after_limits new history).2
  suffices h : Keyed (new.after history).entries ∧
      Balanced (new.after history) (new.moments history) from
    ⟨h.2.room.trans_eq (hlimit history), h.2⟩
  induction history using List.reverseRecOn with
  | nil =>
    refine ⟨List.nodup_nil, ?_⟩
    constructor
    case room => exact Nat.zero_le _
    all_goals rfl
  | append_singleton history r ih =>
    obtain ⟨now, r⟩ := r
    obtain ⟨hc, hbalanced⟩ := ih
    have hroom : 0 < (new.after history).maxSize := by
      rw [hlimit]
      exact Nat.lt_of_lt_of_le Nat.one_pos (le_max_right maxSize 1)
    have hmoments : new.moments (history ++ [(now, r)]) =
        (new.after history, now, r) :: new.moments history := moments_append _ new history (now, r)
    rw [after_append, hmoments]
    exact ⟨keyed_answer hc hroom hbalanced.room now r, hbalanced.answer hc hroom now r⟩

/-- Of two entries the one that was not read is evicted; of the other two one has expired when it is
asked for, and one when the next is stored. -/
example :
    let c : Cache Nat := (empty 2 10).after [(0, .set "a" 1 none), (1, .set "b" 2 none),
      (2, .get "a"), (3, .set "c" 3 none), (20, .get "a"), (30, .set "d" 4 none)]
    c.entries.map (·.1) = ["d"] ∧ c.hits = 1 ∧ c.misses = 1 ∧
      c.counts = { evictions := 1, expirations := 2 } := by
  decide

end Cache

end TieredReport
