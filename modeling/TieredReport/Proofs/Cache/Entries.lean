/-
# What the operations of a cache do to its entries

One lemma for each operation says which entries there are afterwards; nothing
later looks into the operations again. What `set` may drop besides expired
entries is told by `mem_set_of_mem`: an entry that is evicted had as many keys
ahead of it, the new one included, as the cache has room for.

Key definition: `Cache.Keyed`.
Key theorems: `Cache.mem_sweep`, `Cache.oldest?_eq_some`, `Cache.mem_set`,
`Cache.mem_set_of_mem`.
-/
import Mathlib.Data.Finset.Card
import TieredReport.Cache

namespace TieredReport.Cache

universe u

variable {α : Type u} {c : Cache α} {entries : List (String × CacheEntry α)} {now : Nat}
  {key x : String} {e : CacheEntry α}

/-- No key has two entries. -/
def Keyed (entries : List (String × CacheEntry α)) : Prop := (entries.map (·.1)).Nodup

theorem Keyed.sublist {entries' : List (String × CacheEntry α)} (h : Keyed entries)
    (hs : entries'.Sublist entries) : Keyed entries' := List.Nodup.sublist (hs.map _) h

theorem Keyed.eq_of_mem {f : CacheEntry α} (h : Keyed entries) (he : (x, e) ∈ entries)
    (hf : (x, f) ∈ entries) : e = f := by
  have := List.inj_on_of_nodup_map h he hf rfl
  exact (Prod.mk.inj this).2

/-! ### Looking up, removing and changing entries -/

theorem mem_of_find? (h : c.find? key = some e) : (key, e) ∈ c.entries := by
  obtain ⟨⟨k, f⟩, hfind, rfl⟩ := Option.map_eq_some_iff.1 h
  have hk : k = key := by simpa using List.find?_some hfind
  exact hk ▸ List.mem_of_find?_eq_some hfind

theorem not_mem_of_find? (h : c.find? key = none) (e : CacheEntry α) : (key, e) ∉ c.entries := by
  intro he
  have := List.find?_eq_none.1 (Option.map_eq_none_iff.1 h) _ he
  simp at this

theorem find?_of_mem (hc : Keyed c.entries) (h : (key, e) ∈ c.entries) : c.find? key = some e := by
  cases hfind : c.find? key with
  | none => exact absurd h (not_mem_of_find? hfind e)
  | some f => rw [hc.eq_of_mem h (mem_of_find? hfind)]

theorem stores_eq_true_iff : c.stores key = true ↔ key ∈ c.entries.map (·.1) := by
  simp [stores]

theorem mem_without : (x, e) ∈ without entries key ↔ x ≠ key ∧ (x, e) ∈ entries := by
  simp [without, and_comm]

theorem without_sublist (entries : List (String × CacheEntry α)) (key : String) :
    (without entries key).Sublist entries := List.filter_sublist

theorem mem_modify {f : CacheEntry α → CacheEntry α} (h : (x, e) ∈ modify entries key f) :
    (x ≠ key ∧ (x, e) ∈ entries) ∨ (x = key ∧ ∃ e', (key, e') ∈ entries ∧ e = f e') := by
  obtain ⟨⟨y, e'⟩, hmem, heq⟩ := List.mem_map.1 h
  by_cases hy : y = key
  · subst hy
    rw [if_pos rfl] at heq
    cases heq
    exact Or.inr ⟨rfl, e', hmem, rfl⟩
  · rw [if_neg hy] at heq
    cases heq
    exact Or.inl ⟨hy, hmem⟩

theorem mem_modify_self {f : CacheEntry α → CacheEntry α} (h : (key, e) ∈ entries) :
    (key, f e) ∈ modify entries key f :=
  List.mem_map.2 ⟨(key, e), h, by simp⟩

theorem mem_modify_of_ne {f : CacheEntry α → CacheEntry α} (hx : x ≠ key) (h : (x, e) ∈ entries) :
    (x, e) ∈ modify entries key f :=
  List.mem_map.2 ⟨(x, e), h, by simp [hx]⟩

theorem keyed_modify {f : CacheEntry α → CacheEntry α} (h : Keyed entries) :
    Keyed (modify entries key f) := by
  have hkeys : (modify entries key f).map (·.1) = entries.map (·.1) := by
    rw [modify, List.map_map]
    refine List.map_congr_left fun e _ => ?_
    simp only [Function.comp_apply]
    split <;> rfl
  rw [Keyed, hkeys]
  exact h

/-! ### Making room -/

theorem mem_sweep :
    (x, e) ∈ (c.sweep now).entries ↔ (x, e) ∈ c.entries ∧ e.expired now = false := by
  simp [sweep, countExpired]

theorem sweep_sublist (now : Nat) (c : Cache α) : (c.sweep now).entries.Sublist c.entries :=
  List.filter_sublist

/-- The choice between two entries takes the one whose last access lies further back. -/
theorem foldl_oldest (rest : List (String × CacheEntry α)) (b : String × CacheEntry α) :
    let best := rest.foldl (fun best x => if x.2.lastAccess < best.2.lastAccess then x else best) b
    best ∈ b :: rest ∧ ∀ y ∈ b :: rest, best.2.lastAccess ≤ y.2.lastAccess := by
  induction rest generalizing b with
  | nil => simp
  | cons a rest ih =>
    intro best
    obtain ⟨hmem, hle⟩ := ih (if a.2.lastAccess < b.2.lastAccess then a else b)
    have hchoice := hle _ List.mem_cons_self
    refine ⟨?_, fun y hy => ?_⟩
    · rcases List.mem_cons.1 hmem with h | h
      · have : best = if a.2.lastAccess < b.2.lastAccess then a else b := h
        rw [this]
        split <;> simp
      · exact List.mem_cons_of_mem _ (List.mem_cons_of_mem _ h)
    · rcases List.mem_cons.1 hy with rfl | hy
      · refine le_trans hchoice ?_
        split <;> omega
      · rcases List.mem_cons.1 hy with rfl | hy
        · refine le_trans hchoice ?_
          split <;> omega
        · exact hle y (List.mem_cons_of_mem _ hy)

/-- The key that is evicted has the entry whose last access lies furthest back. -/
theorem oldest?_eq_some (h : oldest? entries = some key) :
    ∃ e, (key, e) ∈ entries ∧ ∀ y f, (y, f) ∈ entries → e.lastAccess ≤ f.lastAccess := by
  cases entries with
  | nil => simp [oldest?] at h
  | cons b rest =>
    obtain ⟨hmem, hle⟩ := foldl_oldest rest b
    rw [oldest?, Option.some.injEq] at h
    subst h
    exact ⟨_, hmem, fun y f hf => hle (y, f) hf⟩

theorem evict_sublist (c : Cache α) : c.evict.entries.Sublist c.entries := by
  unfold evict
  split
  · exact List.Sublist.refl _
  · exact without_sublist _ _

theorem makeRoom_sublist (c : Cache α) (key : String) :
    (c.makeRoom key).entries.Sublist c.entries := by
  unfold makeRoom
  split
  · exact evict_sublist c
  · exact List.Sublist.refl _

/-- An entry that has to make room is the oldest of as many as there is room for, and the key that
needs the room is not among them. -/
theorem mem_makeRoom_of_mem (key : String) (hc : Keyed c.entries) (h : (x, e) ∈ c.entries) :
    (x, e) ∈ (c.makeRoom key).entries ∨
    (key ∉ c.entries.map (·.1) ∧ c.maxSize ≤ c.entries.length ∧
      ∀ y f, (y, f) ∈ c.entries → e.lastAccess ≤ f.lastAccess) := by
  unfold makeRoom
  split
  · next hroom =>
    rw [Bool.and_eq_true, Bool.not_eq_true', decide_eq_true_eq] at hroom
    obtain ⟨hnew, hfull⟩ := hroom
    have hnew' : key ∉ c.entries.map (·.1) := by
      rw [← stores_eq_true_iff, hnew]
      simp
    unfold evict
    split
    · exact Or.inl h
    · next old hold =>
      obtain ⟨e', he', hle⟩ := oldest?_eq_some hold
      by_cases hx : x = old
      · subst hx
        rw [hc.eq_of_mem h he']
        exact Or.inr ⟨hnew', hfull, hle⟩
      · exact Or.inl (mem_without.2 ⟨hx, h⟩)
  · exact Or.inl h

/-! ### Storing -/

section Set

variable {value : α} {lifetime : Option Nat}

/-- The entry that `set` stores. -/
def fresh (now : Nat) (value : α) (lifetime : Nat) : CacheEntry α := ⟨value, now, lifetime, 0, now⟩

theorem makeRoom_limits (c : Cache α) (key : String) :
    (c.makeRoom key).lifetime = c.lifetime ∧ (c.makeRoom key).maxSize = c.maxSize := by
  unfold makeRoom evict
  split
  · split <;> exact ⟨rfl, rfl⟩
  · exact ⟨rfl, rfl⟩

theorem set_entries (c : Cache α) :
    (c.set now key value lifetime).entries =
      (key, fresh now value (lifetime.getD c.lifetime)) ::
        without ((c.sweep now).makeRoom key).entries key := by
  have h : ((c.sweep now).makeRoom key).lifetime = c.lifetime := (makeRoom_limits _ key).1
  simp only [set, fresh, h]

/-- What is stored after `set`: the new entry, and others from before that have not expired. -/
theorem mem_set (h : (x, e) ∈ (c.set now key value lifetime).entries) :
    (x = key ∧ e = fresh now value (lifetime.getD c.lifetime)) ∨
    (x ≠ key ∧ (x, e) ∈ c.entries ∧ e.expired now = false) := by
  rw [set_entries] at h
  rcases List.mem_cons.1 h with h | h
  · cases h
    exact Or.inl ⟨rfl, rfl⟩
  · obtain ⟨hx, h⟩ := mem_without.1 h
    exact Or.inr ⟨hx, mem_sweep.1 ((makeRoom_sublist _ key).subset h)⟩

theorem mem_set_self (c : Cache α) :
    (key, fresh now value (lifetime.getD c.lifetime)) ∈ (c.set now key value lifetime).entries := by
  rw [set_entries]
  exact List.mem_cons_self

theorem keyed_set (hc : Keyed c.entries) : Keyed (c.set now key value lifetime).entries := by
  have hroom : ((c.sweep now).makeRoom key).entries.Sublist c.entries :=
    (makeRoom_sublist _ key).trans (sweep_sublist now c)
  have hrest : Keyed (without ((c.sweep now).makeRoom key).entries key) :=
    hc.sublist ((without_sublist _ key).trans hroom)
  rw [set_entries, Keyed, List.map_cons, List.nodup_cons]
  refine ⟨fun hmem => ?_, hrest⟩
  obtain ⟨⟨y, f⟩, hf, hy⟩ := List.mem_map.1 hmem
  exact (mem_without.1 hf).1 hy

/-- **What is dropped for room.** An entry stays when another key is stored, unless it has expired
or as many other keys as the cache has room for are ahead of it: the new one, and stored ones that
were not accessed before it. -/
theorem mem_set_of_mem (hc : Keyed c.entries) (hx : x ≠ key) (h : (x, e) ∈ c.entries)
    (hlive : e.expired now = false) :
    (x, e) ∈ (c.set now key value lifetime).entries ∨
    ∃ others : Finset String, c.maxSize ≤ others.card ∧
      ∀ y ∈ others, y ≠ x ∧ (y = key ∨ ∃ f, (y, f) ∈ c.entries ∧ e.lastAccess ≤ f.lastAccess) := by
  have hsweep : Keyed (c.sweep now).entries := hc.sublist (sweep_sublist now c)
  have hmem : (x, e) ∈ (c.sweep now).entries := mem_sweep.2 ⟨h, hlive⟩
  rcases mem_makeRoom_of_mem key hsweep hmem with hstay | ⟨hnew, hfull, hle⟩
  · refine Or.inl ?_
    rw [set_entries]
    exact List.mem_cons_of_mem _ (mem_without.2 ⟨hx, hstay⟩)
  · -- the keys ahead: all that are stored but `x`, and the new one
    let stored := ((c.sweep now).entries.map (·.1)).toFinset
    have hcard : stored.card = (c.sweep now).entries.length := by
      rw [List.toFinset_card_of_nodup hsweep, List.length_map]
    have hxmem : x ∈ stored := List.mem_toFinset.2 (List.mem_map.2 ⟨_, hmem, rfl⟩)
    have hknot : key ∉ stored.erase x := fun hk =>
      hnew (List.mem_toFinset.1 (Finset.mem_of_mem_erase hk))
    refine Or.inr ⟨insert key (stored.erase x), ?_, fun y hy => ?_⟩
    · rw [Finset.card_insert_of_notMem hknot, Finset.card_erase_of_mem hxmem, hcard]
      have hpos : 0 < stored.card := Finset.card_pos.2 ⟨x, hxmem⟩
      have hmax : c.maxSize ≤ (c.sweep now).entries.length := hfull
      omega
    · rcases Finset.mem_insert.1 hy with rfl | hy
      · exact ⟨fun hyx => hx hyx.symm, Or.inl rfl⟩
      · obtain ⟨hyx, hy⟩ := Finset.mem_erase.1 hy
        obtain ⟨⟨y', f⟩, hf, rfl⟩ := List.mem_map.1 (List.mem_toFinset.1 hy)
        exact ⟨hyx, Or.inr ⟨f, (mem_sweep.1 hf).1, hle _ f hf⟩⟩

end Set

/-! ### Reading -/

theorem get_of_none (h : c.find? key = none) (now : Nat) :
    c.get now key = (none, { c with misses := c.misses + 1 }) := by
  rw [get, h]

theorem get_of_expired (h : c.find? key = some e) (he : e.expired now = true) :
    c.get now key = (none, { c.expire key with misses := c.misses + 1 }) := by
  simp [get, h, he]

theorem get_of_live (h : c.find? key = some e) (he : e.expired now = false) :
    c.get now key =
      (some e.value, { c with
        hits := c.hits + 1
        entries := modify c.entries key fun e =>
          { e with accesses := e.accesses + 1, lastAccess := now } }) := by
  simp [get, h, he]

/-- What is read is the value of an entry within its lifetime. -/
theorem mem_of_get {value : α} (h : (c.get now key).1 = some value) :
    ∃ e, (key, e) ∈ c.entries ∧ e.value = value ∧ e.expired now = false := by
  cases hfind : c.find? key with
  | none =>
    rw [get_of_none hfind now] at h
    simp at h
  | some e =>
    cases hexp : e.expired now with
    | true =>
      rw [get_of_expired hfind hexp] at h
      simp at h
    | false =>
      rw [get_of_live hfind hexp] at h
      exact ⟨e, mem_of_find? hfind, Option.some.inj h, hexp⟩

theorem get_of_mem (hc : Keyed c.entries) (h : (key, e) ∈ c.entries)
    (he : e.expired now = false) : (c.get now key).1 = some e.value := by
  rw [get_of_live (find?_of_mem hc h) he]

/-- Reading changes no value. -/
theorem mem_get (h : (x, e) ∈ (c.get now key).2.entries) :
    ∃ e', (x, e') ∈ c.entries ∧ e'.value = e.value := by
  cases hfind : c.find? key with
  | none =>
    rw [get_of_none hfind now] at h
    exact ⟨e, h, rfl⟩
  | some f =>
    cases hexp : f.expired now with
    | true =>
      rw [get_of_expired hfind hexp] at h
      exact ⟨e, (mem_without.1 h).2, rfl⟩
    | false =>
      rw [get_of_live hfind hexp] at h
      dsimp only at h
      rcases mem_modify h with ⟨-, h⟩ | ⟨rfl, e', he', rfl⟩
      · exact ⟨e, h, rfl⟩
      · exact ⟨e', he', rfl⟩

theorem has_of_none (h : c.find? key = none) (now : Nat) : c.has now key = (false, c) := by
  rw [has, h]

theorem has_of_expired (h : c.find? key = some e) (he : e.expired now = true) :
    c.has now key = (false, c.expire key) := by
  simp [has, h, he]

theorem has_of_live (h : c.find? key = some e) (he : e.expired now = false) :
    c.has now key = (true, c) := by
  simp [has, h, he]

theorem expire_entries (c : Cache α) (key : String) :
    (c.expire key).entries = without c.entries key := rfl

/-- Removing an entry that has expired leaves all others. -/
theorem mem_without_or {f : CacheEntry α} (hkeyed : Keyed entries) (h : (key, e) ∈ entries)
    (he : e.expired now = true) (hf : (x, f) ∈ entries) :
    (x, f) ∈ without entries key ∨ f.expired now = true := by
  by_cases hx : x = key
  · subst hx
    rw [hkeyed.eq_of_mem hf h]
    exact Or.inr he
  · exact Or.inl (mem_without.2 ⟨hx, hf⟩)

end TieredReport.Cache
