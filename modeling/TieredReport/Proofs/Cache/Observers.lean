/-
# Asking a cache without reading from it

Some requests only ask about a cache: whether there is a value, how often it was
read, how many entries there are. They are not free of effects, since `has`
removes and counts an entry that has expired, so two runs of which one asks more
often hold different entries from then on. What they have in common is all that
reading and storing go by (`Alike`): the entries within their lifetime, in the same
order, the limits, and the hits, misses and evictions. An entry that has expired
stays expired, and every request meets it either by a sweep or as if it were not
there (`Alike.answer`).

So requests that only ask can be put into a run at any place and in any number:
no value is found or missed because of them, and nothing is evicted
(`log_of_observers`).

Key definitions: `Cache.Request.observes`, `Cache.Request.reports`, `Cache.log`, `Cache.Alike`.
Key theorems: `Cache.find?_sweep`, `Cache.Alike.answer`, `Cache.Alike.observe`,
`Cache.log_of_observers`.
-/
import TieredReport.Proofs.Cache.Accounting

namespace TieredReport.Cache

universe u

variable {α : Type u} {c d : Cache α} {entries : List (String × CacheEntry α)} {now later : Nat}
  {key : String} {e : CacheEntry α}

/-- Whether a request only asks about a cache. -/
def Request.observes : Request α → Bool
  | .has _ | .accessCount _ | .size | .isEmpty | .maxSize | .stats => true
  | _ => false

/-- Whether a request is answered with what is found within its lifetime under a key. -/
def Request.reports : Request α → Bool
  | .get _ | .has _ | .accessCount _ => true
  | _ => false

/-- The requests of a history, each with its time and its answer. -/
def log : Cache α → History α → List (Nat × Request α × Answer α)
  | _, [] => []
  | c, (now, r) :: rest => (now, r, (c.answer now r).1) :: log (c.answer now r).2 rest

theorem mem_of_mem_log {r : Request α} {a : Answer α} : ∀ {c : Cache α} {history : History α},
    (now, r, a) ∈ c.log history → (now, r) ∈ history
  | _, [], h => by cases h
  | c, (time, first) :: rest, h => by
    rcases List.mem_cons.1 h with h | h
    · cases h
      exact List.mem_cons_self
    · exact List.mem_cons_of_mem _ (mem_of_mem_log h)

variable {first r : Request α} {a : Answer α} {rest : History α}

/-- A request that is made once has one answer. -/
theorem mem_log_self (h : (now, r) ∉ rest) :
    (now, r, a) ∈ c.log ((now, r) :: rest) ↔ a = (c.answer now r).1 := by
  rw [log, List.mem_cons, or_iff_left fun hmem => h (mem_of_mem_log hmem)]
  simp

/-- The answer at another time is one of the rest. -/
theorem mem_log_cons_of_ne (h : later ≠ now) :
    (later, r, a) ∈ c.log ((now, first) :: rest) ↔
      (later, r, a) ∈ (c.answer now first).2.log rest := by
  rw [log, List.mem_cons]
  exact or_iff_right fun heq => h (congrArg Prod.fst heq)

/-! ### Entries within their lifetime -/

theorem expired_of_le (h : e.expired now = true) (hle : now ≤ later) : e.expired later = true := by
  unfold CacheEntry.expired at h ⊢
  rw [decide_eq_true_eq] at h ⊢
  omega

theorem entries_sweep (now : Nat) (c : Cache α) :
    (c.sweep now).entries = c.entries.filter fun e => !e.2.expired now := rfl

/-- What is left at a later time is left of what was left before. -/
theorem sweep_sweep (hle : now ≤ later) (c : Cache α) :
    ((c.sweep now).sweep later).entries = (c.sweep later).entries := by
  simp only [entries_sweep, List.filter_filter]
  refine List.filter_congr fun x _ => ?_
  cases hexp : x.2.expired now with
  | true => rw [expired_of_le hexp hle]; rfl
  | false => rw [Bool.not_false, Bool.and_true]

/-- The entry that is found under a key after a sweep is the one that was found before, if it is
within its lifetime. -/
theorem find?_sweep (hc : Keyed c.entries) (now : Nat) (key : String) :
    (c.sweep now).find? key = (c.find? key).filter fun e => !e.expired now := by
  cases hfind : c.find? key with
  | none =>
    cases hswept : (c.sweep now).find? key with
    | none => rfl
    | some e => exact absurd (mem_sweep.1 (mem_of_find? hswept)).1 (not_mem_of_find? hfind e)
  | some e =>
    have hmem : (key, e) ∈ c.entries := mem_of_find? hfind
    cases hexp : e.expired now with
    | false =>
      have hswept : (key, e) ∈ (c.sweep now).entries := mem_sweep.2 ⟨hmem, hexp⟩
      rw [find?_of_mem (hc.sublist (sweep_sublist now c)) hswept, Option.filter_some, hexp]
      rfl
    | true =>
      cases hswept : (c.sweep now).find? key with
      | none =>
        rw [Option.filter_some, hexp]
        rfl
      | some f =>
        obtain ⟨hf, hlive⟩ := mem_sweep.1 (mem_of_find? hswept)
        rw [hc.eq_of_mem hf hmem, hexp] at hlive
        cases hlive

/-- Removing an entry and sweeping can be done in either order. -/
theorem sweep_without (now : Nat) (c : Cache α) (key : String) :
    (sweep now { c with entries := without c.entries key }).entries =
      without (c.sweep now).entries key := by
  unfold without
  simp only [entries_sweep, List.filter_filter]
  exact List.filter_congr fun x _ => Bool.and_comm _ _

/-- A sweep removes an entry that has expired as well. -/
theorem sweep_expire (hc : Keyed c.entries) (hmem : (key, e) ∈ c.entries)
    (hexp : e.expired now = true) : ((c.expire key).sweep now).entries = (c.sweep now).entries := by
  have hnot : key ∉ (c.sweep now).entries.map (·.1) := by
    intro hkey
    obtain ⟨⟨x, f⟩, hf, rfl⟩ := List.mem_map.1 hkey
    obtain ⟨hf, hlive⟩ := mem_sweep.1 hf
    rw [hc.eq_of_mem hf hmem, hexp] at hlive
    cases hlive
  calc ((c.expire key).sweep now).entries
      = without (c.sweep now).entries key := sweep_without now c key
    _ = (c.sweep now).entries := without_of_not_mem hnot

/-- A change that leaves the lifetime of an entry alone and a sweep can be done in either order. -/
theorem sweep_modify {f : CacheEntry α → CacheEntry α}
    (hf : ∀ e, (f e).expired now = e.expired now) (c : Cache α) (key : String) :
    (sweep now { c with entries := modify c.entries key f }).entries =
      modify (c.sweep now).entries key f := by
  unfold modify
  rw [entries_sweep, entries_sweep, List.filter_map]
  refine congrArg _ (List.filter_congr fun x _ => ?_)
  show (!(if x.1 = key then (x.1, f x.2) else x).2.expired now) = !x.2.expired now
  by_cases hx : x.1 = key
  · rw [if_pos hx, hf]
  · rw [if_neg hx]

/-! ### Dropping an entry that has expired -/

/-- What is left is the same cache, or it has counted and lost one entry that has expired. -/
def Drops (now : Nat) (c c' : Cache α) : Prop :=
  c' = c ∨ ∃ key e, (key, e) ∈ c.entries ∧ e.expired now = true ∧ c' = c.expire key

theorem drops_has (now : Nat) (key : String) (c : Cache α) : Drops now c (c.has now key).2 := by
  cases hfind : c.find? key with
  | none =>
    rw [has_of_none hfind]
    exact Or.inl rfl
  | some e =>
    cases hexp : e.expired now with
    | true =>
      rw [has_of_expired hfind hexp]
      exact Or.inr ⟨key, e, mem_of_find? hfind, hexp, rfl⟩
    | false =>
      rw [has_of_live hfind hexp]
      exact Or.inl rfl

/-- Whether there is a value is whether one is found within its lifetime. -/
theorem has_eq_isSome (now : Nat) (key : String) (c : Cache α) :
    (c.has now key).1 = ((c.find? key).filter fun e => !e.expired now).isSome := by
  cases hfind : c.find? key with
  | none =>
    rw [has_of_none hfind]
    rfl
  | some e =>
    rw [Option.filter_some]
    cases hexp : e.expired now with
    | true =>
      rw [has_of_expired hfind hexp]
      rfl
    | false =>
      rw [has_of_live hfind hexp]
      rfl

/-- A look-up that finds nothing within its lifetime. -/
theorem get_of_not_found (h : ((c.find? key).filter fun e => !e.expired now) = none) :
    ∃ c', Drops now c c' ∧ c.get now key = (none, { c' with misses := c'.misses + 1 }) := by
  cases hfind : c.find? key with
  | none => exact ⟨c, Or.inl rfl, get_of_none hfind now⟩
  | some e =>
    have hexp : e.expired now = true := by
      rw [hfind, Option.filter_eq_none_iff] at h
      simpa using h e rfl
    exact ⟨c.expire key, Or.inr ⟨key, e, mem_of_find? hfind, hexp, rfl⟩,
      get_of_expired hfind hexp⟩

/-- A look-up that finds an entry within its lifetime. -/
theorem get_of_found (h : ((c.find? key).filter fun e => !e.expired now) = some e) :
    c.get now key = (some e.value, { c with
      hits := c.hits + 1
      entries := modify c.entries key fun e =>
        { e with accesses := e.accesses + 1, lastAccess := now } }) := by
  obtain ⟨hfind, hlive⟩ := Option.filter_eq_some_iff.1 h
  exact get_of_live hfind (by simpa using hlive)

/-! ### Two caches that differ in expired entries only -/

/-- Two caches have the same limits, entries within their lifetime and numbers of hits, misses and
evictions. What has expired may be stored in one of them and not in the other. -/
structure Alike (now : Nat) (c d : Cache α) : Prop where
  keyed : Keyed c.entries
  keyed' : Keyed d.entries
  live : (c.sweep now).entries = (d.sweep now).entries
  limits : c.lifetime = d.lifetime ∧ c.maxSize = d.maxSize
  lookups : c.hits = d.hits ∧ c.misses = d.misses
  evictions : c.counts.evictions = d.counts.evictions

namespace Alike

theorem refl (hc : Keyed c.entries) (now : Nat) : Alike now c c :=
  ⟨hc, hc, rfl, ⟨rfl, rfl⟩, ⟨rfl, rfl⟩, rfl⟩

theorem symm (h : Alike now c d) : Alike now d c :=
  ⟨h.keyed', h.keyed, h.live.symm, ⟨h.limits.1.symm, h.limits.2.symm⟩,
    ⟨h.lookups.1.symm, h.lookups.2.symm⟩, h.evictions.symm⟩

/-- Time passes, and what is left at the end is the same in both. -/
theorem of_le (h : Alike now c d) (hle : now ≤ later) : Alike later c d where
  keyed := h.keyed
  keyed' := h.keyed'
  live := by
    calc (c.sweep later).entries
        = ((c.sweep now).sweep later).entries := (sweep_sweep hle c).symm
      _ = ((d.sweep now).sweep later).entries := by
          rw [entries_sweep later, entries_sweep later, h.live]
      _ = (d.sweep later).entries := sweep_sweep hle d
  limits := h.limits
  lookups := h.lookups
  evictions := h.evictions

/-- What is found within its lifetime is found in both. -/
theorem found (h : Alike now c d) (key : String) :
    ((c.find? key).filter fun e => !e.expired now) =
      (d.find? key).filter fun e => !e.expired now := by
  rw [← find?_sweep h.keyed, ← find?_sweep h.keyed', find?, find?, h.live]

/-- An entry that has expired is dropped. -/
theorem drop {d' : Cache α} (h : Alike now c d) (hd : Drops now d d') : Alike now c d' := by
  rcases hd with rfl | ⟨key, e, hmem, hexp, rfl⟩
  · exact h
  · exact
      { keyed := h.keyed
        keyed' := h.keyed'.sublist (without_sublist _ key)
        live := h.live.trans (sweep_expire h.keyed' hmem hexp).symm
        limits := h.limits
        lookups := h.lookups
        evictions := h.evictions }

/-- Nothing is found in either. -/
theorem missed (h : Alike now c d) :
    Alike now { c with misses := c.misses + 1 } { d with misses := d.misses + 1 } :=
  { h with lookups := ⟨h.lookups.1, congrArg (· + 1) h.lookups.2⟩ }

/-- The same entry is found in both, and its use is noted. -/
theorem read {f : CacheEntry α → CacheEntry α} (h : Alike now c d)
    (hf : ∀ e, (f e).expired now = e.expired now) (key : String) :
    Alike now { c with hits := c.hits + 1, entries := modify c.entries key f }
      { d with hits := d.hits + 1, entries := modify d.entries key f } where
  keyed := keyed_modify h.keyed
  keyed' := keyed_modify h.keyed'
  live := by
    calc _ = modify (c.sweep now).entries key f := sweep_modify hf c key
      _ = modify (d.sweep now).entries key f := by rw [h.live]
      _ = _ := (sweep_modify hf d key).symm
  limits := h.limits
  lookups := ⟨congrArg (· + 1) h.lookups.1, h.lookups.2⟩
  evictions := h.evictions

/-- A key is looked up in both. -/
theorem get (h : Alike now c d) (key : String) :
    (c.get now key).1 = (d.get now key).1 ∧ Alike now (c.get now key).2 (d.get now key).2 := by
  cases hfound : (c.find? key).filter fun e => !e.expired now with
  | none =>
    obtain ⟨c', hc, hget⟩ := get_of_not_found hfound
    obtain ⟨d', hd, hget'⟩ := get_of_not_found ((h.found key).symm.trans hfound)
    rw [hget, hget']
    exact ⟨rfl, ((h.drop hd).symm.drop hc).symm.missed⟩
  | some e =>
    rw [get_of_found hfound, get_of_found ((h.found key).symm.trans hfound)]
    have hread := h.read (f := fun e => { e with accesses := e.accesses + 1, lastAccess := now })
      (fun _ => rfl) key
    exact ⟨rfl, hread⟩

/-- An entry is deleted in both, if there is one. -/
theorem delete (h : Alike now c d) (key : String) :
    Alike now (c.delete key).2 (d.delete key).2 where
  keyed := h.keyed.sublist (without_sublist _ key)
  keyed' := h.keyed'.sublist (without_sublist _ key)
  live := by
    calc _ = without (c.sweep now).entries key := sweep_without now c key
      _ = without (d.sweep now).entries key := by rw [h.live]
      _ = _ := (sweep_without now d key).symm
  limits := h.limits
  lookups := h.lookups
  evictions := h.evictions

theorem clear (h : Alike now c d) : Alike now c.clear d.clear :=
  ⟨List.nodup_nil, List.nodup_nil, rfl, h.limits, ⟨rfl, rfl⟩, rfl⟩

end Alike

/-- Room is made in the same way in two caches with the same entries. -/
theorem makeRoom_congr (hentries : c.entries = d.entries) (hmax : c.maxSize = d.maxSize)
    (hevictions : c.counts.evictions = d.counts.evictions) (key : String) :
    (c.makeRoom key).entries = (d.makeRoom key).entries ∧
      (c.makeRoom key).counts.evictions = (d.makeRoom key).counts.evictions := by
  unfold makeRoom stores
  rw [hentries, hmax]
  split
  · unfold evict
    rw [hentries]
    split
    · exact ⟨hentries, hevictions⟩
    · exact ⟨rfl, congrArg (· + 1) hevictions⟩
  · exact ⟨hentries, hevictions⟩

/-- A value is stored in both: both are swept first, so that room is made for it in the same way. -/
theorem Alike.set (h : Alike now c d) (key : String) (value : α) (lifetime : Option Nat) :
    Alike now (c.set now key value lifetime) (d.set now key value lifetime) := by
  obtain ⟨hroom, hevictions⟩ := makeRoom_congr h.live h.limits.2 h.evictions key
  obtain ⟨hhits, hmisses⟩ := lookups_set now key value lifetime c
  obtain ⟨hhits', hmisses'⟩ := lookups_set now key value lifetime d
  obtain ⟨hlife, hmax⟩ := answer_limits now c (.set key value lifetime)
  obtain ⟨hlife', hmax'⟩ := answer_limits now d (.set key value lifetime)
  have hentries : (c.set now key value lifetime).entries =
      (d.set now key value lifetime).entries := by
    rw [set_entries, set_entries, hroom, h.limits.1]
  exact
    { keyed := keyed_set h.keyed
      keyed' := keyed_set h.keyed'
      live := by rw [entries_sweep, entries_sweep, hentries]
      limits := ⟨hlife.trans (h.limits.1.trans hlife'.symm),
        hmax.trans (h.limits.2.trans hmax'.symm)⟩
      lookups := ⟨hhits.trans (h.lookups.1.trans hhits'.symm),
        hmisses.trans (h.lookups.2.trans hmisses'.symm)⟩
      evictions := hevictions }

/-! ### Requests and runs -/

/-- **One request of both runs.** It is answered alike, as far as the answer tells what is found
within its lifetime. -/
theorem Alike.answer (h : Alike now c d) (r : Request α) :
    (r.reports = true → (c.answer now r).1 = (d.answer now r).1) ∧
      Alike now (c.answer now r).2 (d.answer now r).2 := by
  cases r with
  | set key value lifetime => exact ⟨fun hr => (by cases hr), h.set key value lifetime⟩
  | get key =>
    obtain ⟨hanswer, hafter⟩ := h.get key
    exact ⟨fun _ => congrArg Answer.value hanswer, hafter⟩
  | has key =>
    refine ⟨fun _ => congrArg Answer.flag ?_, ?_⟩
    · rw [has_eq_isSome, has_eq_isSome, h.found key]
    · exact ((h.drop (drops_has now key d)).symm.drop (drops_has now key c)).symm
  | accessCount key =>
    refine ⟨fun _ => congrArg Answer.accessCount ?_, h⟩
    rw [accessCount?, accessCount?, h.found key]
  | delete key => exact ⟨fun hr => (by cases hr), h.delete key⟩
  | clear => exact ⟨fun hr => (by cases hr), h.clear⟩
  | _ => exact ⟨fun hr => (by cases hr), h⟩

/-- **One request more of the second run**, which only asks. -/
theorem Alike.observe (h : Alike now c d) {r : Request α} (hr : r.observes = true) :
    Alike now c (d.answer now r).2 := by
  cases r with
  | has key => exact h.drop (drops_has now key d)
  | set | get | delete | clear => cases hr
  | _ => exact h

/-- Two runs from caches that are alike, of which the second one asks more often. -/
theorem Alike.run {own all : History α} (h : Alike now c d) (hown : own.Sublist all)
    (hall : all.Pairwise fun r s => r.1 < s.1) (hnow : ∀ r ∈ all, now ≤ r.1)
    (hmore : ∀ r ∈ all, r ∉ own → r.2.observes = true) :
    (∀ time r a, (time, r) ∈ own → r.reports = true →
      ((time, r, a) ∈ c.log own ↔ (time, r, a) ∈ d.log all)) ∧
    ∃ last, Alike last (c.after own) (d.after all) := by
  induction hown generalizing now c d with
  | slnil => exact ⟨fun time r a hmem => (by cases hmem), now, h⟩
  | @cons own all first hown ih =>
    obtain ⟨time, r⟩ := first
    obtain ⟨hfirst, hrest⟩ := List.pairwise_cons.1 hall
    -- all other requests come later, so this one is not among those of the first run
    have hnot : (time, r) ∉ own := fun hmem => absurd (hfirst _ (hown.subset hmem)) (lt_irrefl _)
    have hasks : r.observes = true := hmore (time, r) List.mem_cons_self hnot
    have htime : now ≤ time := hnow (time, r) List.mem_cons_self
    obtain ⟨hlog, hlast⟩ := ih ((h.of_le htime).observe hasks) hrest
      (fun s hs => (hfirst s hs).le) fun s hs => hmore s (List.mem_cons_of_mem _ hs)
    refine ⟨fun time' s a hs hreports => ?_, hlast⟩
    have hlater : time < time' := hfirst _ (hown.subset hs)
    rw [mem_log_cons_of_ne (ne_of_gt hlater)]
    exact hlog time' s a hs hreports
  | @cons_cons own all first hown ih =>
    obtain ⟨time, r⟩ := first
    obtain ⟨hfirst, hrest⟩ := List.pairwise_cons.1 hall
    have htime : now ≤ time := hnow (time, r) List.mem_cons_self
    obtain ⟨hanswer, hafter⟩ := (h.of_le htime).answer r
    obtain ⟨hlog, hlast⟩ := ih hafter hrest (fun s hs => (hfirst s hs).le) fun s hs hnot =>
      hmore s (List.mem_cons_of_mem _ hs) fun hmem => by
        rcases List.mem_cons.1 hmem with rfl | hmem
        · exact absurd (hfirst _ hs) (lt_irrefl _)
        · exact hnot hmem
    refine ⟨fun time' s a hs hreports => ?_, hlast⟩
    rcases List.mem_cons.1 hs with heq | hs
    · obtain ⟨rfl, rfl⟩ := Prod.mk.inj heq
      have honce : (time', s) ∉ all := fun hmem => absurd (hfirst _ hmem) (lt_irrefl _)
      rw [mem_log_self fun hmem => honce (hown.subset hmem), mem_log_self honce, hanswer hreports]
    · have hlater : time < time' := hfirst _ (hown.subset hs)
      rw [mem_log_cons_of_ne (ne_of_gt hlater), mem_log_cons_of_ne (ne_of_gt hlater)]
      exact hlog time' s a hs hreports

/-- **Asking does not disturb a cache.** Let the requests to a cache come one after the other, and
let requests that only ask be put in between at other times. Then each `get`, `has` and `accessCount`
that was there before is answered as it was without them, and in the end there were as many hits,
misses and evictions. -/
theorem log_of_observers (hc : Keyed c.entries) {own all : History α}
    (hall : all.Pairwise fun r s => r.1 < s.1) (hown : own.Sublist all)
    (hmore : ∀ r ∈ all, r ∉ own → r.2.observes = true) :
    (∀ time r a, (time, r) ∈ own → r.reports = true →
      ((time, r, a) ∈ c.log own ↔ (time, r, a) ∈ c.log all)) ∧
    (c.after own).stats.hits = (c.after all).stats.hits ∧
    (c.after own).stats.misses = (c.after all).stats.misses ∧
    (c.after own).stats.evictions = (c.after all).stats.evictions := by
  have hstart : Alike 0 c c := .refl hc 0
  obtain ⟨hlog, last, hafter⟩ := hstart.run hown hall (fun r _ => Nat.zero_le r.1) hmore
  exact ⟨hlog, hafter.lookups.1, hafter.lookups.2, hafter.evictions⟩

/-- `a` expires and is asked for: only then is it removed, and it is missed and makes room as it was
and did without the question. -/
theorem log_of_observers_expired_key :
    let own : History Nat := [(1, .set "a" 10 (some 2)), (2, .set "b" 20 none), (6, .get "a"),
      (7, .set "c" 30 none), (9, .get "b")]
    let all : History Nat := [(1, .set "a" 10 (some 2)), (2, .set "b" 20 none), (5, .has "a"),
      (6, .get "a"), (7, .set "c" 30 none), (8, .accessCount "b"), (9, .get "b"), (10, .stats)]
    let c : Cache Nat := .empty 2 60
    Keyed c.entries ∧ (all.Pairwise fun r s => r.1 < s.1) ∧ own.Sublist all ∧
    (∀ r ∈ all, r ∉ own → r.2.observes = true) ∧
    (9, .get "b", .value (some 20)) ∈ c.log own ∧ (9, .get "b", .value (some 20)) ∈ c.log all ∧
    (c.after own).stats.misses = 1 ∧ (c.after all).stats.misses = 1 := by
  intro own all c
  have hc : Keyed c.entries := List.nodup_nil
  have hall : all.Pairwise fun r s => r.1 < s.1 := by simp [all]
  have hown : own.Sublist all := by simp [own, all]
  have hmore : ∀ r ∈ all, r ∉ own → r.2.observes = true := by simp [own, all, Request.observes]
  obtain ⟨hlog, -, hmisses, -⟩ := log_of_observers hc hall hown hmore
  have hfound : ((c.after (own.take 4)).get 9 "b").1 = some 20 := by decide
  have hb : (9, .get "b", .value (some 20)) ∈ c.log own := by
    rw [← hfound]
    exact List.mem_of_getElem? (i := 4) rfl
  have hmissed : (c.after own).stats.misses = 1 := by decide
  exact ⟨hc, hall, hown, hmore, hb, (hlog 9 (.get "b") _ (by simp [own]) rfl).1 hb, hmissed,
    hmisses.symm.trans hmissed⟩

end TieredReport.Cache
