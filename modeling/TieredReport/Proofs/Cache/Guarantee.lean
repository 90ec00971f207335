/-
# What a cache guarantees

Over any history with increasing times, a `get` gives the value that was stored
last under its key and only within its lifetime, and it does give that value if
fewer other keys than there is room for are ahead (`get_after`).

`Follows` is what carries this from request to request. It is stated as seen
from a time after the history: every entry is what was stored last under its
key; every entry that was not accessed before another one is ahead of it, which
holds because each access is later than all others before; and a key that was
stored last and has no entry is out of its time or out of room.

Key definitions: `Cache.Follows`, `Cache.FollowsHistory`.
Key theorems: `Cache.Follows.missed`, `Cache.Follows.hit`, `Cache.Follows.set`,
`Cache.Follows.get_of_last`, `Cache.FollowsHistory.answer`, `Cache.followsHistory_empty`,
`Cache.get_after`.
-/
import TieredReport.Proofs.Cache.Entries
import TieredReport.Proofs.Cache.Requests

namespace TieredReport.Cache

universe u

variable {α : Type u}

/-- What the entries of a cache have to do with a history, seen at the time `now` after it: `last`
is what was stored last under each key, and `ahead` are the keys ahead of it. -/
structure Follows (c : Cache α) (last : String → Option (Stored α)) (ahead : String → Finset String)
    (now : Nat) : Prop where
  keyed : Keyed c.entries
  accessed : ∀ x e, (x, e) ∈ c.entries → e.lastAccess < now
  sound : ∀ x e, (x, e) ∈ c.entries → last x = some ⟨e.value, e.createdAt, e.lifetime⟩
  behind : ∀ x e y f, (x, e) ∈ c.entries → (y, f) ∈ c.entries → y ≠ x →
    e.lastAccess ≤ f.lastAccess → y ∈ ahead x
  kept : ∀ x s, last x = some s →
    (∃ e, (x, e) ∈ c.entries) ∨ s.lifetime < now - s.time ∨ c.maxSize ≤ (ahead x).card

namespace Follows

variable {c c' : Cache α} {last : String → Option (Stored α)} {ahead : String → Finset String}
  {time now : Nat} {key : String}

/-- An entry that has expired was stored longer ago than its lifetime. -/
theorem expired_lt (h : Follows c last ahead time) {x : String} {e : CacheEntry α}
    {s : Stored α} (hmem : (x, e) ∈ c.entries) (hs : last x = some s)
    (he : e.expired time = true) (hnow : time ≤ now) : s.lifetime < now - s.time := by
  have hsound := h.sound x e hmem
  rw [hs, Option.some.injEq] at hsound
  have hexp : e.lifetime < time - e.createdAt := by simpa [CacheEntry.expired] using he
  rw [hsound]
  show e.lifetime < now - e.createdAt
  omega

/-- Time passes, and entries may go that have expired. -/
theorem expire (h : Follows c last ahead time) (hnow : time ≤ now) (hmax : c'.maxSize = c.maxSize)
    (hsub : c'.entries.Sublist c.entries)
    (hstay : ∀ x e, (x, e) ∈ c.entries → (x, e) ∈ c'.entries ∨ e.expired time = true) :
    Follows c' last ahead now where
  keyed := h.keyed.sublist hsub
  accessed x e he := lt_of_lt_of_le (h.accessed x e (hsub.subset he)) hnow
  sound x e he := h.sound x e (hsub.subset he)
  behind x e y f he hf := h.behind x e y f (hsub.subset he) (hsub.subset hf)
  kept x s hs := by
    rw [hmax]
    rcases h.kept x s hs with ⟨e, he⟩ | hlate | hfull
    · rcases hstay x e he with he' | hexp
      · exact Or.inl ⟨e, he'⟩
      · exact Or.inr (Or.inl (h.expired_lt he hs hexp hnow))
    · exact Or.inr (Or.inl (by omega))
    · exact Or.inr (Or.inr hfull)

/-- A key is forgotten. -/
theorem delete {last' : String → Option (Stored α)} (h : Follows c last ahead time)
    (hnow : time < now) (hnone : last' key = none) (hne : ∀ x, x ≠ key → last' x = last x) :
    Follows (c.delete key).2 last' ahead now where
  keyed := h.keyed.sublist (without_sublist _ key)
  accessed x e he := lt_trans (h.accessed x e (mem_without.1 he).2) hnow
  sound x e he := by
    rw [hne x (mem_without.1 he).1]
    exact h.sound x e (mem_without.1 he).2
  behind x e y f he hf := h.behind x e y f (mem_without.1 he).2 (mem_without.1 hf).2
  kept x s hs := by
    have hx : x ≠ key := by
      rintro rfl
      simp [hnone] at hs
    rw [hne x hx] at hs
    rcases h.kept x s hs with ⟨e, he⟩ | hlate | hfull
    · exact Or.inl ⟨e, mem_without.2 ⟨hx, he⟩⟩
    · exact Or.inr (Or.inl (by omega))
    · exact Or.inr (Or.inr hfull)

/-- Everything is forgotten. -/
theorem clear {last' : String → Option (Stored α)} (hnone : ∀ x, last' x = none) :
    Follows c.clear last' ahead now where
  keyed := List.nodup_nil
  accessed x e he := by simp [Cache.clear] at he
  sound x e he := by simp [Cache.clear] at he
  behind x e y f he := by simp [Cache.clear] at he
  kept x s hs := by simp [hnone x] at hs

/-- A key is read: it has the latest access, so it goes ahead of the others. -/
theorem read {ahead' : String → Finset String} {e : CacheEntry α} (h : Follows c last ahead time)
    (hnow : time < now) (hmem : (key, e) ∈ c.entries) (hmax : c'.maxSize = c.maxSize)
    (hentries : c'.entries = modify c.entries key fun e =>
      { e with accesses := e.accesses + 1, lastAccess := time })
    (hne : ∀ x, x ≠ key → ahead' x = insert key (ahead x)) : Follows c' last ahead' now where
  keyed := by
    rw [hentries]
    exact keyed_modify h.keyed
  accessed x f hf := by
    rw [hentries] at hf
    rcases mem_modify hf with ⟨-, hf⟩ | ⟨-, e', -, rfl⟩
    · exact lt_trans (h.accessed x f hf) hnow
    · exact hnow
  sound x f hf := by
    rw [hentries] at hf
    rcases mem_modify hf with ⟨-, hf⟩ | ⟨rfl, e', he', rfl⟩
    · exact h.sound x f hf
    · exact h.sound x e' he'
  behind x f y g hf hg hyx hle := by
    rw [hentries] at hf hg
    rcases mem_modify hf with ⟨hx, hf⟩ | ⟨rfl, f', -, rfl⟩
    · rw [hne x hx]
      rcases mem_modify hg with ⟨-, hg⟩ | ⟨rfl, -⟩
      · exact Finset.mem_insert_of_mem (h.behind x f y g hf hg hyx hle)
      · exact Finset.mem_insert_self _ _
    · -- no other entry was accessed as late as this one
      rcases mem_modify hg with ⟨-, hg⟩ | ⟨rfl, -⟩
      · exact absurd hle (not_le.2 (h.accessed y g hg))
      · exact absurd rfl hyx
  kept x s hs := by
    rw [hentries, hmax]
    by_cases hx : x = key
    · subst hx
      exact Or.inl ⟨_, mem_modify_self hmem⟩
    · rw [hne x hx]
      rcases h.kept x s hs with ⟨f, hf⟩ | hlate | hfull
      · exact Or.inl ⟨f, mem_modify_of_ne hx hf⟩
      · exact Or.inr (Or.inl (by omega))
      · exact Or.inr (Or.inr (hfull.trans (Finset.card_le_card (Finset.subset_insert _ _))))

/-- A key is stored: it has the latest access, and what is dropped for it has expired or has as many
keys ahead as there is room for. -/
theorem set {last' : String → Option (Stored α)} {ahead' : String → Finset String} {value : α}
    {given : Option Nat} (h : Follows c last ahead time) (hnow : time < now)
    (hlast : last' key = some ⟨value, time, given.getD c.lifetime⟩)
    (hlast' : ∀ x, x ≠ key → last' x = last x)
    (hne : ∀ x, x ≠ key → ahead' x = insert key (ahead x)) :
    Follows (c.set time key value given) last' ahead' now where
  keyed := keyed_set h.keyed
  accessed x e he := by
    rcases mem_set he with ⟨-, rfl⟩ | ⟨-, he, -⟩
    · exact hnow
    · exact lt_trans (h.accessed x e he) hnow
  sound x e he := by
    rcases mem_set he with ⟨rfl, rfl⟩ | ⟨hx, he, -⟩
    · exact hlast
    · rw [hlast' x hx]
      exact h.sound x e he
  behind x e y f he hf hyx hle := by
    rcases mem_set he with ⟨rfl, rfl⟩ | ⟨hx, he, -⟩
    · -- no other entry was accessed as late as the new one
      rcases mem_set hf with ⟨rfl, -⟩ | ⟨-, hf, -⟩
      · exact absurd rfl hyx
      · exact absurd hle (not_le.2 (h.accessed y f hf))
    · rw [hne x hx]
      rcases mem_set hf with ⟨rfl, -⟩ | ⟨-, hf, -⟩
      · exact Finset.mem_insert_self _ _
      · exact Finset.mem_insert_of_mem (h.behind x e y f he hf hyx hle)
  kept x s hs := by
    have hmax : (c.set time key value given).maxSize = c.maxSize :=
      (makeRoom_limits (c.sweep time) key).2
    rw [hmax]
    by_cases hx : x = key
    · subst hx
      exact Or.inl ⟨_, mem_set_self c⟩
    rw [hlast' x hx] at hs
    rw [hne x hx]
    rcases h.kept x s hs with ⟨e, he⟩ | hlate | hfull
    · cases hexp : e.expired time with
      | true => exact Or.inr (Or.inl (h.expired_lt he hs hexp hnow.le))
      | false =>
        rcases mem_set_of_mem h.keyed hx he hexp with hstay | ⟨others, hcard, hothers⟩
        · exact Or.inl ⟨e, hstay⟩
        · refine Or.inr (Or.inr (hcard.trans (Finset.card_le_card fun y hy => ?_)))
          obtain ⟨hyx, rfl | ⟨f, hf, hle⟩⟩ := hothers y hy
          · exact Finset.mem_insert_self _ _
          · exact Finset.mem_insert_of_mem (h.behind x e y f he hf hyx hle)
    · exact Or.inr (Or.inl (by omega))
    · exact Or.inr (Or.inr (hfull.trans (Finset.card_le_card (Finset.subset_insert _ _))))

/-- A key is looked up in vain: at most its entry goes, which has expired. -/
theorem missed (h : Follows c last ahead time) (hnow : time ≤ now)
    (hget : (c.get time key).1 = none) : Follows (c.get time key).2 last ahead now := by
  cases hfind : c.find? key with
  | none =>
    rw [get_of_none hfind]
    exact h.expire hnow rfl (List.Sublist.refl _) fun x f hf => Or.inl hf
  | some e =>
    cases hexp : e.expired time with
    | true =>
      rw [get_of_expired hfind hexp]
      exact h.expire hnow rfl (without_sublist _ key) fun x f hf =>
        mem_without_or h.keyed (mem_of_find? hfind) hexp hf
    | false =>
      rw [get_of_live hfind hexp] at hget
      cases hget

/-- A key is looked up with success, which is to read it. -/
theorem hit {ahead' : String → Finset String} {value : α} (h : Follows c last ahead time)
    (hnow : time < now) (hget : (c.get time key).1 = some value)
    (hne : ∀ x, x ≠ key → ahead' x = insert key (ahead x)) :
    Follows (c.get time key).2 last ahead' now := by
  cases hfind : c.find? key with
  | none =>
    rw [get_of_none hfind] at hget
    cases hget
  | some e =>
    cases hexp : e.expired time with
    | true =>
      rw [get_of_expired hfind hexp] at hget
      cases hget
    | false =>
      rw [get_of_live hfind hexp]
      exact h.read hnow (mem_of_find? hfind) rfl rfl hne

/-- What is read was stored last. -/
theorem last_of_get {value : α} (h : Follows c last ahead now)
    (hget : (c.get now key).1 = some value) : ∃ s, last key = some s ∧ s.value = value := by
  obtain ⟨e, hmem, rfl, -⟩ := mem_of_get hget
  exact ⟨_, h.sound key e hmem, rfl⟩

/-- What was stored last is read within its lifetime, as long as fewer keys are ahead than there is
room for. -/
theorem get_of_last {s : Stored α} (h : Follows c last ahead now) (hs : last key = some s)
    (hlive : now - s.time ≤ s.lifetime) (hroom : (ahead key).card < c.maxSize) :
    (c.get now key).1 = some s.value := by
  rcases h.kept key s hs with ⟨e, hmem⟩ | hlate | hfull
  · obtain rfl : s = ⟨e.value, e.createdAt, e.lifetime⟩ :=
      Option.some.inj (hs.symm.trans (h.sound key e hmem))
    refine get_of_mem h.keyed hmem ?_
    simpa [CacheEntry.expired] using hlive
  · omega
  · omega

end Follows

/-! ### Histories -/

section History

variable {c : Cache α} {lifetime time now : Nat} {history : History α}

/-- No request changes the lifetime or the room of a cache. -/
theorem answer_limits (now : Nat) (c : Cache α) (r : Request α) :
    (c.answer now r).2.lifetime = c.lifetime ∧ (c.answer now r).2.maxSize = c.maxSize := by
  cases r with
  | set key value given => exact makeRoom_limits (c.sweep now) key
  | get key =>
    simp only [answer, Cache.get]
    split
    · exact ⟨rfl, rfl⟩
    · split <;> exact ⟨rfl, rfl⟩
  | has key =>
    simp only [answer, Cache.has]
    split
    · exact ⟨rfl, rfl⟩
    · split <;> exact ⟨rfl, rfl⟩
  | _ => exact ⟨rfl, rfl⟩

theorem after_limits (c : Cache α) (history : History α) :
    (c.after history).lifetime = c.lifetime ∧ (c.after history).maxSize = c.maxSize := by
  induction history using List.reverseRecOn with
  | nil => exact ⟨rfl, rfl⟩
  | append_singleton history r ih =>
    obtain ⟨hlife, hmax⟩ := answer_limits r.1 (c.after history) r.2
    rw [after_append, hlife, hmax]
    exact ih

/-- A cache follows a history if it does so with what the history says of each key. -/
def FollowsHistory (c : Cache α) (history : History α) (now : Nat) : Prop :=
  Follows (c.after history) (lastStored c.lifetime history) (c.rivals history) now

/-- A request that stores, reads and forgets nothing leaves the history's account of every key as it
is; at most it removes an entry that has expired. -/
theorem FollowsHistory.quiet {r : Request α} (h : FollowsHistory c history time) (hnow : time < now)
    (hrecord : ∀ x old, r.record c.lifetime time x old = old)
    (htouch : (c.after history).touches time r = none)
    (hentries : ((c.after history).answer time r).2.entries = (c.after history).entries ∨
      ∃ key e, (key, e) ∈ (c.after history).entries ∧ e.expired time = true ∧
        ((c.after history).answer time r).2.entries = without (c.after history).entries key) :
    FollowsHistory c (history ++ [(time, r)]) now := by
  have hlast : lastStored c.lifetime (history ++ [(time, r)]) = lastStored c.lifetime history := by
    funext x
    rw [lastStored_append, hrecord]
  have hahead : c.rivals (history ++ [(time, r)]) = c.rivals history :=
    funext (rivals_append_of_none htouch)
  have hmax := (answer_limits time (c.after history) r).2
  rw [FollowsHistory, after_append, hlast, hahead]
  rcases hentries with hsame | ⟨key, e, hmem, hexp, hwithout⟩
  · refine h.expire hnow.le hmax ?_ fun x f hf => Or.inl ?_
    · rw [hsame]
    · rwa [hsame]
  · refine h.expire hnow.le hmax ?_ fun x f hf => ?_
    · rw [hwithout]
      exact without_sublist _ key
    · rw [hwithout]
      exact mem_without_or h.keyed hmem hexp hf

/-- **One more request.** -/
theorem FollowsHistory.answer (h : FollowsHistory c history time) (hnow : time < now)
    (r : Request α) : FollowsHistory c (history ++ [(time, r)]) now := by
  have hlast : ∀ x, lastStored c.lifetime (history ++ [(time, r)]) x =
      r.record c.lifetime time x (lastStored c.lifetime history x) :=
    fun x => lastStored_append c.lifetime history time r x
  cases r with
  | set key value given =>
    rw [FollowsHistory, after_append]
    refine h.set hnow ?_ (fun x hx => ?_) fun x hx => ?_
    · rw [hlast, (after_limits c history).1]
      exact if_pos rfl
    · rw [hlast]
      exact if_neg (Ne.symm hx)
    · exact rivals_append_of_ne rfl (Ne.symm hx)
  | get key =>
    have hlast' : lastStored c.lifetime (history ++ [(time, .get key)]) =
        lastStored c.lifetime history := funext hlast
    rw [FollowsHistory, after_append, hlast']
    cases hget : ((c.after history).get time key).1 with
    | none =>
      have htouch : (c.after history).touches time (.get key) = none := by simp [touches, hget]
      have hahead : c.rivals (history ++ [(time, .get key)]) = c.rivals history :=
        funext (rivals_append_of_none htouch)
      rw [hahead]
      exact h.missed hnow.le hget
    | some value =>
      have htouch : (c.after history).touches time (.get key) = some key := by
        simp [touches, hget]
      exact h.hit hnow hget fun x hx => rivals_append_of_ne htouch (Ne.symm hx)
  | has key =>
    cases hfind : (c.after history).find? key with
    | none =>
      have hhas := has_of_none hfind time
      exact h.quiet hnow (fun _ _ => rfl) rfl (Or.inl (by simp [Cache.answer, hhas]))
    | some e =>
      cases hexp : e.expired time with
      | true =>
        have hhas := has_of_expired hfind hexp
        refine h.quiet hnow (fun _ _ => rfl) rfl (Or.inr ⟨key, e, mem_of_find? hfind, hexp, ?_⟩)
        simp only [Cache.answer, hhas, expire_entries]
      | false =>
        have hhas := has_of_live hfind hexp
        exact h.quiet hnow (fun _ _ => rfl) rfl (Or.inl (by simp [Cache.answer, hhas]))
  | delete key =>
    have hahead : c.rivals (history ++ [(time, .delete key)]) = c.rivals history :=
      funext (rivals_append_of_none rfl)
    rw [FollowsHistory, after_append, hahead]
    refine h.delete hnow ?_ fun x hx => ?_
    · rw [hlast]
      exact if_pos rfl
    · rw [hlast]
      exact if_neg (Ne.symm hx)
  | clear =>
    rw [FollowsHistory, after_append]
    exact Follows.clear hlast
  | _ => exact h.quiet hnow (fun _ _ => rfl) rfl (Or.inl rfl)

/-- A new cache and its history agree as long as time goes on from request to request. -/
theorem followsHistory_empty (maxSize lifetime : Nat) (h : Ordered history now) :
    FollowsHistory (Cache.empty maxSize lifetime) history now := by
  induction history using List.reverseRecOn generalizing now with
  | nil =>
    exact
      { keyed := List.nodup_nil
        accessed := fun x e he => by simp [Cache.empty] at he
        sound := fun x e he => by simp [Cache.empty] at he
        behind := fun x e y f he => by simp [Cache.empty] at he
        kept := fun x s hs => by simp [lastStored] at hs }
  | append_singleton history r ih =>
    obtain ⟨time, r⟩ := r
    obtain ⟨hhist, hnow⟩ := ordered_append h
    exact (ih hhist).answer hnow r

/-! ### The guarantee -/

/-- **What a cache gives, and what it does not lose.** Let the requests to a new cache come one
after the other. A value that is read then was stored last under its key, and no longer ago than its
lifetime. A value that was stored last under a key, no longer ago than its lifetime, is read if
fewer other keys than there is room for were stored or read since the key itself was. -/
theorem get_after (maxSize lifetime : Nat) (history : History α) (now : Nat) (key : String)
    (h : Ordered history now) :
    (∀ value, (((Cache.empty maxSize lifetime).after history).get now key).1 = some value →
      ∃ s, StoredLast lifetime history key s ∧ s.value = value ∧ now - s.time ≤ s.lifetime) ∧
    (∀ s, StoredLast lifetime history key s → now - s.time ≤ s.lifetime →
      ((Cache.empty maxSize lifetime).rivals history key).card < max maxSize 1 →
      (((Cache.empty maxSize lifetime).after history).get now key).1 = some s.value) := by
  have hfollows := followsHistory_empty (α := α) maxSize lifetime h
  refine ⟨fun value hget => ?_, fun s hs hlive hroom => ?_⟩
  · obtain ⟨e, hmem, rfl, hexp⟩ := mem_of_get hget
    refine ⟨⟨e.value, e.createdAt, e.lifetime⟩, ?_, rfl, ?_⟩
    · exact lastStored_eq_some_iff.1 (hfollows.sound key e hmem)
    · simpa [CacheEntry.expired] using hexp
  · have hlast := lastStored_eq_some_iff.2 hs
    rcases hfollows.kept key s hlast with ⟨e, hmem⟩ | hlate | hfull
    · have hsound := hfollows.sound key e hmem
      have heq : s = ⟨e.value, e.createdAt, e.lifetime⟩ := Option.some.inj (hlast.symm.trans hsound)
      subst heq
      refine get_of_mem hfollows.keyed hmem ?_
      simpa [CacheEntry.expired] using hlive
    · exact absurd hlive (not_le.2 hlate)
    · have hmax : ((Cache.empty maxSize lifetime : Cache α).after history).maxSize =
          max maxSize 1 :=
        (after_limits _ history).2
      rw [hmax] at hfull
      exact absurd hroom (not_lt.2 hfull)

/-- In a cache with room for two, `a` outlives a third key because it was read, and `b` does not. -/
theorem get_after_read_key :
    let history : History Nat :=
      [(1, .set "a" 10 none), (2, .set "b" 20 none), (3, .get "a"), (4, .set "c" 30 none)]
    Ordered history 5 ∧
    (((Cache.empty 2 60).after history).get 5 "a").1 = some 10 ∧
    (∃ s, StoredLast 60 history "a" s ∧ s.value = 10 ∧ 5 - s.time ≤ s.lifetime) ∧
    (((Cache.empty 2 60).after history).get 5 "b").1 = none := by
  intro history
  have h : Ordered history 5 := by
    simp [Ordered, history]
  have hs : StoredLast 60 history "a" ⟨10, 1, 60⟩ :=
    ⟨[], none, history.tail, rfl, rfl, by simp [history, Request.Spares]⟩
  have hroom : ((Cache.empty 2 60).rivals history "a").card < 2 := by decide
  obtain ⟨hsound, hkept⟩ := get_after 2 60 history 5 "a" h
  have hget := hkept _ hs (by decide) hroom
  exact ⟨h, hget, hsound 10 hget, by decide⟩

end History

end TieredReport.Cache
