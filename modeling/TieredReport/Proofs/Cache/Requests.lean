/-
# Histories of a cache

A history lists the requests to a cache, each with its time. Two things can be
said of it without looking into the cache. One is what was stored last under a
key (`StoredLast`): the last `set` of the key, with no `delete` of it and no
`clear` behind. The other is which keys are ahead of a key (`rivals`): those
that were stored or read since the key itself was; only whether a `get` reads
anything has to be asked of the cache.

Key definitions: `Cache.Request`, `Cache.answer`, `Cache.after`, `Cache.StoredLast`,
`Cache.lastStored`, `Cache.touches`, `Cache.rivals`, `Cache.Ordered`.
Key theorems: `Cache.lastStored_eq_some_iff`, `Cache.rivals_append_of_ne`.
-/
import Mathlib.Data.Finset.Card
import TieredReport.Cache

namespace TieredReport.Cache

universe u

/-- What can be asked of a cache. -/
inductive Request (α : Type u) where
  | set (key : String) (value : α) (lifetime : Option Nat)
  | get (key : String)
  | has (key : String)
  | delete (key : String)
  | accessCount (key : String)
  | size
  | isEmpty
  | maxSize
  | stats
  | clear

/-- What a cache says to a request. -/
inductive Answer (α : Type u) where
  | done
  | value (found : Option α)
  | flag (b : Bool)
  | accessCount (count : Option Nat)
  | number (n : Nat)
  | stats (s : CacheStats)

variable {α : Type u}

/-- Answer a request at a time. -/
def answer (now : Nat) (c : Cache α) : Request α → Answer α × Cache α
  | .set key value lifetime => (.done, c.set now key value lifetime)
  | .get key => (.value (c.get now key).1, (c.get now key).2)
  | .has key => (.flag (c.has now key).1, (c.has now key).2)
  | .delete key => (.flag (c.delete key).1, (c.delete key).2)
  | .accessCount key => (.accessCount (c.accessCount? now key), c)
  | .size => (.number c.size, c)
  | .isEmpty => (.flag (c.size == 0), c)
  | .maxSize => (.number c.maxSize, c)
  | .stats => (.stats c.stats, c)
  | .clear => (.done, c.clear)

/-- Requests with their times, in order. -/
abbrev History (α : Type u) := List (Nat × Request α)

/-- The cache after a history. -/
def after (c : Cache α) (history : History α) : Cache α :=
  history.foldl (fun c r => (c.answer r.1 r.2).2) c

/-- Each request of a history comes later than the one before it, and all come before `now`. -/
def Ordered (history : History α) (now : Nat) : Prop :=
  (history.map (·.1) ++ [now]).Pairwise (· < ·)

variable {c : Cache α} {history : History α} {now time : Nat} {r : Request α} {key : String}

@[simp] theorem after_nil : c.after [] = c := rfl

@[simp] theorem after_append (c : Cache α) (history : History α) (now : Nat) (r : Request α) :
    c.after (history ++ [(now, r)]) = ((c.after history).answer now r).2 := by
  simp [after]

/-- The requests before the last one are ordered too, and the last one is before `now`. -/
theorem ordered_append (h : Ordered (history ++ [(time, r)]) now) :
    Ordered history time ∧ time < now := by
  rw [Ordered, List.map_append, List.pairwise_append] at h
  exact ⟨h.1, h.2.2 time (by simp) now (by simp)⟩

/-! ### What was stored last -/

/-- A value with the time it was stored at and the lifetime it was given. -/
structure Stored (α : Type u) where
  value : α
  time : Nat
  lifetime : Nat

/-- Whether a request leaves what is stored under a key alone. -/
def Request.Spares (key : String) : Request α → Prop
  | .set key' _ _ => key' ≠ key
  | .delete key' => key' ≠ key
  | .clear => False
  | _ => True

/-- The last `set` of a key stored `s`, and since then the key was not deleted and the cache not
cleared. Where `set` gave no lifetime, it was the one of the cache. -/
def StoredLast (lifetime : Nat) (history : History α) (key : String) (s : Stored α) : Prop :=
  ∃ earlier given later, history = earlier ++ (s.time, .set key s.value given) :: later ∧
    s.lifetime = given.getD lifetime ∧ ∀ r ∈ later, r.2.Spares key

/-- What a request at a time makes of what was stored under a key. -/
def Request.record (lifetime now : Nat) (key : String) (old : Option (Stored α)) :
    Request α → Option (Stored α)
  | .set key' value given => if key' = key then some ⟨value, now, given.getD lifetime⟩ else old
  | .delete key' => if key' = key then none else old
  | .clear => none
  | _ => old

/-- What a history stored last under a key. -/
def lastStored (lifetime : Nat) (history : History α) (key : String) : Option (Stored α) :=
  history.foldl (fun old r => r.2.record lifetime r.1 key old) none

@[simp] theorem lastStored_append (lifetime : Nat) (history : History α) (now : Nat) (r : Request α)
    (key : String) : lastStored lifetime (history ++ [(now, r)]) key =
      r.record lifetime now key (lastStored lifetime history key) := by
  simp [lastStored]

/-- A request that spares a key leaves its record as it is. Any other one begins a new record or
ends the old one. -/
theorem record_cases (lifetime now : Nat) (key : String) (old : Option (Stored α)) (r : Request α) :
    (r.Spares key ∧ r.record lifetime now key old = old) ∨
    (∃ value given, r = .set key value given ∧
      r.record lifetime now key old = some ⟨value, now, given.getD lifetime⟩) ∨
    (¬ r.Spares key ∧ r.record lifetime now key old = none) := by
  cases r with
  | set key' value given =>
    by_cases h : key' = key
    · subst h
      exact Or.inr (Or.inl ⟨value, given, rfl, if_pos rfl⟩)
    · exact Or.inl ⟨h, if_neg h⟩
  | delete key' =>
    by_cases h : key' = key
    · exact Or.inr (Or.inr ⟨fun hs => hs h, if_pos h⟩)
    · exact Or.inl ⟨h, if_neg h⟩
  | clear => exact Or.inr (Or.inr ⟨fun hs => hs, rfl⟩)
  | _ => exact Or.inl ⟨trivial, rfl⟩

theorem storedLast_nil {lifetime : Nat} {s : Stored α} : ¬ StoredLast lifetime [] key s := by
  rintro ⟨earlier, given, later, h, -⟩
  simp at h

/-- A history that ends in a request stored last what that request stored, or what the history
before it did. -/
theorem storedLast_append {lifetime : Nat} {s : Stored α} :
    StoredLast lifetime (history ++ [(now, r)]) key s ↔
      (∃ given, r = .set key s.value given ∧ s.time = now ∧ s.lifetime = given.getD lifetime) ∨
      (r.Spares key ∧ StoredLast lifetime history key s) := by
  constructor
  · rintro ⟨earlier, given, later, h, hlife, hspares⟩
    rcases List.eq_nil_or_concat' later with rfl | ⟨later, r', rfl⟩
    · obtain ⟨-, hlast⟩ := List.append_inj' h rfl
      obtain ⟨rfl, rfl⟩ := Prod.mk.inj (List.cons.inj hlast).1
      exact Or.inl ⟨given, rfl, rfl, hlife⟩
    · rw [← List.cons_append, ← List.append_assoc] at h
      obtain ⟨hhist, hlast⟩ := List.append_inj' h rfl
      obtain rfl := (List.cons.inj hlast).1
      exact Or.inr ⟨hspares (now, r) (by simp), earlier, given, later, hhist, hlife,
        fun r hr => hspares r (by simp [hr])⟩
  · rintro (⟨given, rfl, rfl, hlife⟩ | ⟨hr, earlier, given, later, rfl, hlife, hspares⟩)
    · exact ⟨history, given, [], rfl, hlife, by simp⟩
    · refine ⟨earlier, given, later ++ [(now, r)], by simp, hlife, fun r' hr' => ?_⟩
      rcases List.mem_append.1 hr' with hr' | hr'
      · exact hspares r' hr'
      · rw [List.mem_singleton.1 hr']
        exact hr

/-- The record of a history is what it stored last. -/
theorem lastStored_eq_some_iff {lifetime : Nat} {s : Stored α} :
    lastStored lifetime history key = some s ↔ StoredLast lifetime history key s := by
  induction history using List.reverseRecOn with
  | nil => simp [lastStored, storedLast_nil]
  | append_singleton history r ih =>
    obtain ⟨now, r⟩ := r
    rw [lastStored_append, storedLast_append]
    rcases record_cases lifetime now key (lastStored lifetime history key) r with
      ⟨hr, h⟩ | ⟨value, given, rfl, h⟩ | ⟨hr, h⟩
    · rw [h, ih]
      constructor
      · exact fun hs => Or.inr ⟨hr, hs⟩
      · rintro (⟨given, rfl, -⟩ | ⟨-, hs⟩)
        · exact absurd rfl hr
        · exact hs
    · rw [h]
      constructor
      · intro hs
        cases hs
        exact Or.inl ⟨given, rfl, rfl, rfl⟩
      · rintro (⟨given', heq, htime, hlife⟩ | ⟨hr, -⟩)
        · obtain ⟨value', time, life⟩ := s
          cases heq
          cases htime
          cases hlife
          rfl
        · exact absurd rfl hr
    · rw [h]
      constructor
      · intro hs
        simp at hs
      · rintro (⟨given, rfl, -⟩ | ⟨hr', -⟩)
        · simp [Request.record] at h
        · exact absurd hr' hr

/-! ### Which keys are ahead of a key -/

/-- The key that a request stores, or reads with success. -/
def touches (c : Cache α) (now : Nat) : Request α → Option String
  | .set key _ _ => some key
  | .get key => if (c.get now key).1.isSome then some key else none
  | _ => none

/-- The keys that the requests of a history store or read with success, the last one first. -/
def touched : Cache α → History α → List String
  | _, [] => []
  | c, r :: later => touched (c.answer r.1 r.2).2 later ++ (c.touches r.1 r.2).toList

/-- The keys that were stored, or read with success, since a key itself was. -/
def rivals (c : Cache α) (history : History α) (key : String) : Finset String :=
  ((c.touched history).takeWhile (· ≠ key)).toFinset

theorem touched_append : ∀ (c : Cache α) (history : History α) (now : Nat) (r : Request α),
    c.touched (history ++ [(now, r)]) =
      ((c.after history).touches now r).toList ++ c.touched history
  | c, [], now, r => by simp [touched]
  | c, first :: history, now, r => by
    rw [List.cons_append, touched, touched_append, touched, List.append_assoc]
    rfl

theorem rivals_append_of_none (h : (c.after history).touches now r = none) (key : String) :
    c.rivals (history ++ [(now, r)]) key = c.rivals history key := by
  rw [rivals, touched_append, h]
  rfl

/-- Another key that is touched goes ahead. -/
theorem rivals_append_of_ne {key' : String} (h : (c.after history).touches now r = some key')
    (hne : key' ≠ key) :
    c.rivals (history ++ [(now, r)]) key = insert key' (c.rivals history key) := by
  rw [rivals, touched_append, h]
  simp [hne, rivals]

end TieredReport.Cache
