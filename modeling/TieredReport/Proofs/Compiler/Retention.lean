/-
# How long a compiled template is given again

While a compiled template is cached, every request for its key is given this one object, whatever
else the request says, and nothing is compiled. It stays cached until its lifetime is over, the
cache is emptied, or as many other keys as there is room for have been served since its own key was;
requests that are refused do not count. If it went, and its key was compiled anew, the new object is
given from then on (`answer_of_retained`).

`Cache.Follows` carries this from request to request, with what the moments of a history say of each
key: which compiled template was stored under it last (`lastStored`), and which other keys were
served since (`rivals`). A compilation is a look-up in vain and a `set` at one time, so `Follows` is
kept over the first of them without time going on.

The compiled templates of a history are told apart by how many compilations went before; so the
moment that stored one is the only one that did (`builds_unique`).

Key definitions: `Compiler.Moment.stores`, `Compiler.Moment.serves?`, `Compiler.lastStoring`,
`Compiler.rivals`, `Compiler.Ordered`, `Compiler.Follows`.
Key theorems: `Compiler.Follows.answer`, `Compiler.follows_after`, `Compiler.builds_unique`,
`Compiler.answer_of_retained`.
-/
import TieredReport.Proofs.Cache.Guarantee
import TieredReport.Proofs.Compiler.Accounting

namespace TieredReport.Compiler

/-! ### What a moment says of a key -/

namespace Moment

/-- The key of the template that a request is for. -/
def key? (m : Moment) : Option String := m.2.2.template?.map (·.cacheKey)

/-- The compiled template that is given. -/
def given? (m : Moment) : Option CompiledTemplate := m.answer.bind Except.toOption

/-- The key for which a compiled template is given, from the cache or newly built. -/
def serves? (m : Moment) : Option String := if m.given?.isSome then m.key? else none

/-- A compiled template is newly built and stored under a key. -/
def stores (key : String) (m : Moment) : Bool := m.builds && m.key? == some key

variable {m : Moment} {key : String} {compiled : CompiledTemplate}

theorem given?_eq_some_iff : m.given? = some compiled ↔ m.answer = some (.ok compiled) := by
  unfold given?
  cases m.answer with
  | none => simp
  | some answer => cases answer <;> simp [Except.toOption]

theorem stores_eq_true_iff : m.stores key = true ↔ m.builds = true ∧ m.key? = some key := by
  simp [stores]

theorem exists_of_builds (h : m.builds = true) : ∃ compiled, m.answer = some (.ok compiled) := by
  unfold builds at h
  split at h
  · next compiled hanswer => exact ⟨compiled, hanswer⟩
  · cases h

/-- A request for a template forgets nothing. -/
theorem clears_of_key? (h : m.key? = some key) : m.clears = false := by
  obtain ⟨c, now, r⟩ := m
  cases r with
  | clear => cases h
  | _ => rfl

theorem hits_of_template {c : Compiler} {time : Nat} {r : Request} {t : Template}
    (h : r.template? = some t) :
    Moment.hits (c, time, r) = (c.cache.get time t.cacheKey).1.isSome := by
  simp [hits, h]

end Moment

/-- The last moment that stored a compiled template under a key, if this was not forgotten since. -/
def lastStoring (all : List Moment) (key : String) : Option Moment :=
  (sinceClear all).find? (·.stores key)

/-- What was stored last under a key. -/
def lastStored (lifetime : Nat) (all : List Moment) (key : String) :
    Option (Cache.Stored CompiledTemplate) :=
  (lastStoring all key).bind fun m => m.given?.map fun compiled => ⟨compiled, m.2.1, lifetime⟩

/-- The other keys that were served since a key itself was. -/
def rivals (all : List Moment) (key : String) : Finset String :=
  ((all.filterMap (·.serves?)).takeWhile (· ≠ key)).toFinset

section

variable {m : Moment} {later all : List Moment} {key x : String} {lifetime : Nat}
  {compiled : CompiledTemplate}

theorem lastStoring_of_clears (h : m.clears = true) : lastStoring (m :: all) x = none := by
  rw [lastStoring, sinceClear, since_cons_of_reset h]
  rfl

/-- Over moments at which nothing was forgotten, the last one that stored is found first. -/
theorem lastStoring_append (h : ∀ m ∈ later, m.clears = false) :
    lastStoring (later ++ all) x = (later.find? (·.stores x)).or (lastStoring all x) := by
  have hsince : sinceClear (later ++ all) = later ++ sinceClear all :=
    List.takeWhile_append_of_pos fun m hm => by simp [h m hm]
  rw [lastStoring, hsince, List.find?_append]
  rfl

theorem lastStoring_cons_of_not_stores (hclears : m.clears = false) (h : m.stores x = false) :
    lastStoring (m :: all) x = lastStoring all x := by
  rw [lastStoring, sinceClear, since_cons_of_not_reset hclears, List.find?_cons_of_neg (by simp [h])]
  rfl

theorem lastStoring_cons_of_stores (h : m.stores x = true) : lastStoring (m :: all) x = some m := by
  have hclears := Moment.clears_of_key? (Moment.stores_eq_true_iff.1 h).2
  rw [lastStoring, sinceClear, since_cons_of_not_reset hclears, List.find?_cons_of_pos h]

theorem mem_of_lastStoring (h : lastStoring all x = some m) : m ∈ all ∧ m.stores x = true :=
  ⟨(List.takeWhile_sublist _).subset (List.mem_of_find?_eq_some h), List.find?_some h⟩

theorem lastStored_of_lastStoring (h : lastStoring all x = some m)
    (hanswer : m.answer = some (.ok compiled)) (lifetime : Nat) :
    lastStored lifetime all x = some ⟨compiled, m.2.1, lifetime⟩ := by
  rw [lastStored, h, Option.bind_some, Moment.given?_eq_some_iff.2 hanswer]
  rfl

theorem rivals_cons_of_none (h : m.serves? = none) : rivals (m :: all) x = rivals all x := by
  rw [rivals, List.filterMap_cons_none h]
  rfl

/-- Another key that is served goes ahead. -/
theorem rivals_cons_of_ne (h : m.serves? = some key) (hne : x ≠ key) :
    rivals (m :: all) x = insert key (rivals all x) := by
  rw [rivals, List.filterMap_cons_some h, List.takeWhile_cons_of_pos (by simpa using hne.symm),
    List.toFinset_cons]
  rfl

end

/-! ### One request -/

section

variable {c : Compiler} {all : List Moment} {time now : Nat} {t : Template}

/-- The entries of the cache are what the moments say of each key. -/
def Follows (c : Compiler) (all : List Moment) (now : Nat) : Prop :=
  c.cache.Follows (lastStored c.lifetime all) (rivals all) now

/-- To compile changes neither the lifetime of compiled templates nor the room for them. -/
theorem compile_limits (now : Nat) (t : Template) (c : Compiler) :
    (c.compile now t).2.lifetime = c.lifetime ∧
      (c.compile now t).2.cache.maxSize = c.cache.maxSize := by
  have hget : (c.cache.get now t.cacheKey).2.maxSize = c.cache.maxSize :=
    (Cache.answer_limits now c.cache (.get t.cacheKey)).2
  cases hfound : (c.cache.get now t.cacheKey).1 with
  | some compiled =>
    rw [compile_of_cached hfound]
    exact ⟨rfl, hget⟩
  | none =>
    cases hbuild : (build c.blockCap c.compilations t).1 with
    | error cause =>
      rw [compile_of_refused hfound hbuild]
      exact ⟨rfl, hget⟩
    | ok compiled =>
      rw [compile_of_built hfound hbuild]
      refine ⟨rfl, Eq.trans ?_ hget⟩
      exact (Cache.answer_limits now _ (.set t.cacheKey compiled (some c.lifetime))).2

/-- No request changes the lifetime of compiled templates or the room for them. -/
theorem answer_limits (now : Nat) (c : Compiler) (r : Request) :
    (c.answer now r).2.lifetime = c.lifetime ∧
      (c.answer now r).2.cache.maxSize = c.cache.maxSize := by
  cases r with
  | compile t => exact compile_limits now t c
  | compileJson j =>
    simp only [answer, compileJson]
    split
    · exact ⟨rfl, rfl⟩
    · exact compile_limits now _ c
  | clear => exact ⟨rfl, rfl⟩

/-- A moment that stores nothing and forgets nothing leaves what was stored last. -/
theorem lastStored_cons_of_not_stores {m : Moment} (hclears : m.clears = false)
    (hbuilds : m.builds = false) (lifetime : Nat) :
    lastStored lifetime (m :: all) = lastStored lifetime all := by
  funext x
  have hstores : m.stores x = false := by simp [Moment.stores, hbuilds]
  rw [lastStored, lastStoring_cons_of_not_stores hclears hstores]
  rfl

/-- **A request for a template.** A hit reads its key. A compilation looks it up in vain and then
stores it. A refusal only looks it up. -/
theorem Follows.compile (h : c.Follows all time) (hnow : time < now) {r : Request}
    (hr : r.template? = some t) : (c.compile time t).2.Follows ((c, time, r) :: all) now := by
  have hkey : Moment.key? (c, time, r) = some t.cacheKey := congrArg (Option.map _) hr
  have hclears := Moment.clears_of_key? hkey
  have hanswer : Moment.answer (c, time, r) = some (c.compile time t).1 :=
    congrArg Prod.fst (answer_of_template hr)
  have hserves : Moment.serves? (c, time, r) =
      if (c.compile time t).1.toOption.isSome then some t.cacheKey else none := by
    rw [Moment.serves?, Moment.given?, hanswer, hkey]
    rfl
  rw [Follows, (compile_limits time t c).1]
  cases hget : (c.cache.get time t.cacheKey).1 with
  | some compiled =>
    rw [compile_of_cached hget] at hanswer hserves ⊢
    have hbuilds : Moment.builds (c, time, r) = false := by
      rw [(Moment.of_ok hanswer).1, Moment.hits_of_template hr, hget]
      rfl
    rw [lastStored_cons_of_not_stores hclears hbuilds]
    exact Cache.Follows.hit h hnow hget fun x hx => rivals_cons_of_ne hserves hx
  | none =>
    have hmissed := Cache.Follows.missed h le_rfl hget
    cases hbuild : (build c.blockCap c.compilations t).1 with
    | error cause =>
      rw [compile_of_refused hget hbuild] at hanswer hserves ⊢
      have hrivals : rivals ((c, time, r) :: all) = rivals all :=
        funext fun x => rivals_cons_of_none hserves
      rw [lastStored_cons_of_not_stores hclears (Moment.of_error hanswer).1, hrivals]
      exact Cache.Follows.missed h hnow.le hget
    | ok compiled =>
      rw [compile_of_built hget hbuild] at hanswer hserves ⊢
      have hbuilds : Moment.builds (c, time, r) = true := by
        rw [(Moment.of_ok hanswer).1, Moment.hits_of_template hr, hget]
        rfl
      refine Cache.Follows.set hmissed hnow ?_ (fun x hx => ?_) fun x hx =>
        rivals_cons_of_ne hserves hx
      · have hstores := Moment.stores_eq_true_iff.2 ⟨hbuilds, hkey⟩
        exact lastStored_of_lastStoring (lastStoring_cons_of_stores hstores) hanswer c.lifetime
      · have hstores : Moment.stores x (c, time, r) = false := by
          simp [Moment.stores, hkey, hx.symm]
        rw [lastStored, lastStoring_cons_of_not_stores hclears hstores]
        rfl

/-- **One more request.** -/
theorem Follows.answer (h : c.Follows all time) (hnow : time < now) (r : Request) :
    (c.answer time r).2.Follows ((c, time, r) :: all) now := by
  cases htemplate : r.template? with
  | some t =>
    rw [answer_of_template htemplate]
    exact h.compile hnow htemplate
  | none =>
    rw [Follows, (answer_limits time c r).1]
    rcases Request.malformed_or_clear htemplate with ⟨j, e, rfl, hdecode⟩ | rfl
    · have hanswer : Moment.answer (c, time, .compileJson j) = _ :=
        congrArg Prod.fst (answer_of_malformed hdecode)
      have hserves : Moment.serves? (c, time, .compileJson j) = none := by
        rw [Moment.serves?, Moment.given?, hanswer]
        rfl
      have hrivals : rivals ((c, time, .compileJson j) :: all) = rivals all :=
        funext fun x => rivals_cons_of_none hserves
      rw [lastStored_cons_of_not_stores rfl (Moment.of_error hanswer).1, hrivals,
        answer_of_malformed hdecode]
      exact Cache.Follows.expire h hnow.le rfl (List.Sublist.refl _) fun x e he => Or.inl he
    · refine Cache.Follows.clear fun x => ?_
      rw [lastStored, lastStoring_of_clears rfl]
      rfl

/-- What was stored last under a key is found within its lifetime, as long as fewer keys were served
since than there is room for. -/
theorem Follows.get_eq_some (h : c.Follows all now) {m : Moment} {key : String}
    {compiled : CompiledTemplate} (hlast : lastStoring all key = some m)
    (hanswer : m.answer = some (.ok compiled)) (hlive : now ≤ m.2.1 + c.lifetime)
    (hroom : (rivals all key).card < c.cache.maxSize) :
    (c.cache.get now key).1 = some compiled :=
  Cache.Follows.get_of_last h (lastStored_of_lastStoring hlast hanswer c.lifetime)
    (Nat.sub_le_iff_le_add'.2 hlive) hroom

/-- The number of compilations grows where something is built, and nowhere else. -/
theorem compilations_answer (time : Nat) (c : Compiler) (r : Request) :
    (c.answer time r).2.compilations =
      c.compilations + if Moment.builds (c, time, r) then 1 else 0 := by
  cases hclears : Moment.clears (c, time, r) with
  | true =>
    cases r with
    | clear => rfl
    | _ => cases hclears
  | false => exact (Posted.answer c time hclears).compilations

/-- A compiled template is given to a request for a template. -/
theorem exists_template_of_ok {r : Request} {compiled : CompiledTemplate}
    (h : (c.answer time r).1 = some (.ok compiled)) :
    ∃ t, r.template? = some t ∧ (c.compile time t).1 = .ok compiled := by
  cases htemplate : r.template? with
  | some t =>
    rw [answer_of_template htemplate] at h
    exact ⟨t, rfl, Option.some.inj h⟩
  | none =>
    rcases Request.malformed_or_clear htemplate with ⟨j, e, rfl, hdecode⟩ | rfl
    · rw [answer_of_malformed hdecode] at h
      cases h
    · cases h

/-- A compiled template that is built has the number of compilations before it for its serial. -/
theorem serial_of_builds {m : Moment} {compiled : CompiledTemplate} (hbuilds : m.builds = true)
    (hanswer : m.answer = some (.ok compiled)) : compiled.serial = m.1.compilations := by
  obtain ⟨c, time, r⟩ := m
  obtain ⟨t, htemplate, hcompile⟩ := exists_template_of_ok hanswer
  rw [(Moment.of_ok hanswer).1, Moment.hits_of_template htemplate, Bool.not_eq_true',
    Option.isSome_eq_false_iff, Option.isNone_iff_eq_none] at hbuilds
  cases hbuild : (build c.blockCap c.compilations t).1 with
  | error cause =>
    rw [compile_of_refused hbuilds hbuild] at hcompile
    cases hcompile
  | ok built =>
    rw [compile_of_built hbuilds hbuild] at hcompile
    cases hcompile
    obtain ⟨sections, -, rfl⟩ := build_eq_ok hbuild
    rfl

end

/-! ### Histories -/

section

variable {c : Compiler} {history : History} {time now : Nat} {r : Request}

/-- Each request of a history comes later than the one before it, and all come before `now`. -/
def Ordered (history : History) (now : Nat) : Prop :=
  (history.map (·.1) ++ [now]).Pairwise (· < ·)

/-- The requests before one of a history are ordered too, and it comes before `now`. -/
theorem ordered_append {rest : History} (h : Ordered (history ++ (time, r) :: rest) now) :
    Ordered history time ∧ time < now := by
  rw [Ordered, List.map_append, List.append_assoc, List.pairwise_append] at h
  obtain ⟨hbefore, hrest, hcross⟩ := h
  refine ⟨?_, ?_⟩
  · rw [Ordered, List.pairwise_append]
    refine ⟨hbefore, List.pairwise_singleton _ _, fun a ha b hb => hcross a ha b ?_⟩
    simp only [List.mem_singleton] at hb
    simp [hb]
  · exact List.rel_of_pairwise_cons hrest (by simp)

theorem moments_append_singleton (c : Compiler) (history : History) (r : Nat × Request) :
    c.moments (history ++ [r]) = (c.after history, r) :: c.moments history :=
  moments_append _ c history r

/-- No history changes the lifetime of compiled templates or the room for them. -/
theorem after_limits (c : Compiler) (history : History) :
    (c.after history).lifetime = c.lifetime ∧
      (c.after history).cache.maxSize = c.cache.maxSize := by
  induction history using List.reverseRecOn with
  | nil => exact ⟨rfl, rfl⟩
  | append_singleton history r ih =>
    obtain ⟨hlifetime, hmax⟩ := answer_limits r.1 (c.after history) r.2
    rw [after_append, hlifetime, hmax]
    exact ih

/-- A new compiler and its moments agree as long as time goes on from request to request. -/
theorem follows_after (blockCap maxSize cacheLifetime lifetime : Nat) (h : Ordered history now) :
    ((new blockCap maxSize cacheLifetime lifetime).after history).Follows
      ((new blockCap maxSize cacheLifetime lifetime).moments history) now := by
  induction history using List.reverseRecOn generalizing now with
  | nil =>
    exact
      { keyed := List.nodup_nil
        accessed := fun x e he => by simp [new, Cache.empty] at he
        sound := fun x e he => by simp [new, Cache.empty] at he
        behind := fun x e y f he => by simp [new, Cache.empty] at he
        kept := fun x s hs => by cases hs }
  | append_singleton history r ih =>
    obtain ⟨hbefore, hnow⟩ := ordered_append h
    rw [after_append, moments_append_singleton]
    exact (ih hbefore).answer hnow r.2

/-- A moment lies before a time, and what it built before what is built by a compiler. -/
def Moment.Before (m : Moment) (c : Compiler) (now : Nat) : Prop :=
  m.2.1 < now ∧ m.1.compilations + (if m.builds then 1 else 0) ≤ c.compilations

/-- The moments of a history lie before what comes after it. -/
theorem before_after (h : Ordered history now) :
    ∀ m ∈ c.moments history, m.Before (c.after history) now := by
  induction history using List.reverseRecOn generalizing now with
  | nil => simp [moments, TieredReport.moments]
  | append_singleton history r ih =>
    obtain ⟨hbefore, hnow⟩ := ordered_append h
    intro m hm
    have hcompilations := compilations_answer r.1 (c.after history) r.2
    rw [moments_append_singleton, List.mem_cons] at hm
    rw [after_append]
    rcases hm with rfl | hm
    · exact ⟨hnow, hcompilations.ge⟩
    · obtain ⟨htime, hle⟩ := ih hbefore m hm
      exact ⟨htime.trans hnow, by omega⟩

/-- Of two moments of a history, the earlier one lies before the later one. -/
theorem pairwise_before (h : Ordered history now) :
    (c.moments history).Pairwise fun later earlier => earlier.Before later.1 later.2.1 := by
  induction history using List.reverseRecOn generalizing now with
  | nil => exact List.Pairwise.nil
  | append_singleton history r ih =>
    obtain ⟨hbefore, -⟩ := ordered_append h
    rw [moments_append_singleton, List.pairwise_cons]
    exact ⟨before_after hbefore, ih hbefore⟩

/-- **A compiled template is built once.** No two moments of a history build the same one. -/
theorem builds_unique (h : Ordered history now) {compiled : CompiledTemplate} {m₁ m₂ : Moment}
    (hmem₁ : m₁ ∈ c.moments history) (hmem₂ : m₂ ∈ c.moments history)
    (hbuilds₁ : m₁.builds = true) (hbuilds₂ : m₂.builds = true)
    (hanswer₁ : m₁.answer = some (.ok compiled)) (hanswer₂ : m₂.answer = some (.ok compiled)) :
    m₁ = m₂ := by
  have hserial : m₁.1.compilations = m₂.1.compilations :=
    (serial_of_builds hbuilds₁ hanswer₁).symm.trans (serial_of_builds hbuilds₂ hanswer₂)
  obtain ⟨newer, older, hsplit⟩ := List.append_of_mem hmem₁
  have hbefore := pairwise_before (c := c) h
  rw [hsplit, List.pairwise_append, List.pairwise_cons] at hbefore
  obtain ⟨-, ⟨holder, -⟩, hnewer⟩ := hbefore
  rw [hsplit, List.mem_append, List.mem_cons] at hmem₂
  rcases hmem₂ with hmem₂ | rfl | hmem₂
  · have hle := (hnewer m₂ hmem₂ m₁ List.mem_cons_self).2
    rw [hbuilds₁, if_pos rfl] at hle
    omega
  · rfl
  · have hle := (holder m₂ hmem₂).2
    rw [hbuilds₂, if_pos rfl] at hle
    omega

end

/-! ### What is given again -/

section

variable {blockCap maxSize cacheLifetime lifetime : Nat} {history : History} {now : Nat}
  {later earlier : List Moment} {m : Moment} {key : String} {compiled : CompiledTemplate}

/-- The compiler that a request of a history finds agrees with the moments before. -/
theorem follows_moment (hordered : Ordered history now)
    (hmoments : (new blockCap maxSize cacheLifetime lifetime).moments history =
      later ++ m :: earlier) : m.1.Follows earlier m.2.1 := by
  obtain ⟨before, rest, rfl, hstate, rfl⟩ := moments_eq_append hmoments
  rw [hstate]
  exact follows_after blockCap maxSize cacheLifetime lifetime (ordered_append hordered).1

/-- A compiled template that is given for a key was stored under it last, then or before. -/
theorem exists_lastStoring (h : m.1.Follows earlier m.2.1) (hkey : m.key? = some key)
    (hanswer : m.answer = some (.ok compiled)) :
    ∃ stored, lastStoring (m :: earlier) key = some stored ∧
      stored.answer = some (.ok compiled) := by
  cases hbuilds : m.builds with
  | true =>
    exact ⟨m, lastStoring_cons_of_stores (Moment.stores_eq_true_iff.2 ⟨hbuilds, hkey⟩), hanswer⟩
  | false =>
    have hstores : m.stores key = false := by simp [Moment.stores, hbuilds]
    rw [lastStoring_cons_of_not_stores (Moment.clears_of_key? hkey) hstores]
    obtain ⟨c, time, r⟩ := m
    obtain ⟨t, htemplate, hcompile⟩ := exists_template_of_ok hanswer
    obtain rfl : t.cacheKey = key := by simpa [Moment.key?, htemplate] using hkey
    cases hget : (c.cache.get time t.cacheKey).1 with
    | none =>
      simp [(Moment.of_ok hanswer).1, Moment.hits_of_template htemplate, hget] at hbuilds
    | some found =>
      rw [compile_of_cached hget] at hcompile
      cases hcompile
      obtain ⟨s, hs, rfl⟩ := Cache.Follows.last_of_get h hget
      obtain ⟨stored, hstored, hs⟩ := Option.bind_eq_some_iff.1 hs
      obtain ⟨value, hvalue, rfl⟩ := Option.map_eq_some_iff.1 hs
      exact ⟨stored, hstored, Moment.given?_eq_some_iff.1 hvalue⟩

/-- What was stored last after some more moments is what was stored last before them, unless one of
them stored anew; then it is younger. -/
theorem exists_lastStoring_append {stored : Moment}
    (hbefore : ∀ m' ∈ later, ∀ m ∈ earlier, m.2.1 < m'.2.1) (hkept : ∀ m ∈ later, m.clears = false)
    (hlast : lastStoring earlier key = some stored) :
    ∃ last, lastStoring (later ++ earlier) key = some last ∧ stored.2.1 ≤ last.2.1 ∧
      (last = stored ↔ ∀ m ∈ later, m.stores key = false) := by
  have hmem := (mem_of_lastStoring hlast).1
  rw [lastStoring_append hkept, hlast]
  cases hfind : later.find? (·.stores key) with
  | none =>
    refine ⟨stored, rfl, le_rfl, fun _ m hm => ?_, fun _ => rfl⟩
    simpa using List.find?_eq_none.1 hfind m hm
  | some newer =>
    have hnewer := List.mem_of_find?_eq_some hfind
    have hlt := hbefore newer hnewer stored hmem
    refine ⟨newer, rfl, hlt.le, ?_, fun hnone => ?_⟩
    · rintro rfl
      omega
    · exact absurd (List.find?_some hfind) (by simp [hnone newer hnewer])

/-- **What is given for a key again.** Let the requests to a new compiler come one after the other,
let one of them be given a compiled template for a key, and let nothing be forgotten since. There is
one moment that stored this template. A request for the key that comes no later than the lifetime
after it, while fewer other keys than there is room for were served since the key itself was,
compiles nothing; and it is given the same template again, whatever else it says, if and only if no
request in between has compiled the key anew. -/
theorem answer_of_retained (blockCap maxSize cacheLifetime lifetime : Nat) {history : History}
    {now : Nat} {r : Request} {t : Template} {later earlier : List Moment} {m : Moment}
    {compiled : CompiledTemplate} (hordered : Ordered history now) (hr : r.template? = some t)
    (hmoments : (new blockCap maxSize cacheLifetime lifetime).moments history =
      later ++ m :: earlier)
    (hkey : m.key? = some t.cacheKey) (hanswer : m.answer = some (.ok compiled))
    (hkept : ∀ m' ∈ later, m'.clears = false)
    (hroom : (rivals (later ++ m :: earlier) t.cacheKey).card < max maxSize 1) :
    let c := (new blockCap maxSize cacheLifetime lifetime).after history
    ∃ stored ∈ m :: earlier,
      (stored.stores t.cacheKey = true ∧ stored.answer = some (.ok compiled) ∧
        ∀ other ∈ later ++ m :: earlier, other.builds = true →
          other.answer = some (.ok compiled) → other = stored) ∧
      (now ≤ stored.2.1 + lifetime →
        (c.answer now r).2.compilations = c.compilations ∧
        ((c.answer now r).1 = some (.ok compiled) ↔
          ∀ m' ∈ later, m'.stores t.cacheKey = false)) := by
  intro c
  have hfollows := follows_after blockCap maxSize cacheLifetime lifetime hordered
  rw [hmoments] at hfollows
  obtain ⟨stored, hlast, hstored⟩ :=
    exists_lastStoring (follows_moment hordered hmoments) hkey hanswer
  obtain ⟨hmem, hstores⟩ := mem_of_lastStoring hlast
  have hunique : ∀ other ∈ later ++ m :: earlier, other.builds = true →
      other.answer = some (.ok compiled) → other = stored := fun other hother hbuilds hgiven =>
    builds_unique (c := new blockCap maxSize cacheLifetime lifetime) hordered
      (by rwa [hmoments]) (by rw [hmoments]; exact List.mem_append_right _ hmem) hbuilds
      (Moment.stores_eq_true_iff.1 hstores).1 hgiven hstored
  refine ⟨stored, hmem, ⟨hstores, hstored, hunique⟩, fun hlive => ?_⟩
  have htimes : ∀ m' ∈ later, ∀ m'' ∈ m :: earlier, m''.2.1 < m'.2.1 := by
    have hpairwise := pairwise_before (c := new blockCap maxSize cacheLifetime lifetime) hordered
    rw [hmoments, List.pairwise_append] at hpairwise
    exact fun m' hm' m'' hm'' => (hpairwise.2.2 m' hm' m'' hm'').1
  obtain ⟨last, hlastAll, hage, hiff⟩ := exists_lastStoring_append htimes hkept hlast
  obtain ⟨hlastMem, hlastStores⟩ := mem_of_lastStoring hlastAll
  have hlastBuilds := (Moment.stores_eq_true_iff.1 hlastStores).1
  obtain ⟨current, hcurrent⟩ := Moment.exists_of_builds hlastBuilds
  obtain ⟨hlifetime, hmax⟩ := after_limits (new blockCap maxSize cacheLifetime lifetime) history
  have hget : (c.cache.get now t.cacheKey).1 = some current := by
    refine hfollows.get_eq_some hlastAll hcurrent ?_ ?_
    · rw [hlifetime]
      exact hlive.trans (Nat.add_le_add_right hage lifetime)
    · rw [hmax]
      exact hroom
  rw [answer_of_template hr, compile_of_cached hget, ← hiff]
  refine ⟨rfl, fun heq => ?_, ?_⟩
  · cases heq
    exact hunique last hlastMem hlastBuilds hcurrent
  · rintro rfl
    rw [hcurrent] at hstored
    exact hstored

/-- With room for two, `a` is given again at the end of its lifetime: it was read when `b` was newer,
so that `c` took the place of `b`, and nothing was stored for the two requests that were refused.
The last request is for a template that could not even be compiled. -/
theorem answer_of_retained_at_end :
    let a : Template := ⟨"a", "Report", "1", .professional,
      [⟨"text", "Text", .custom, 0, true, [], some "text", []⟩], {}, none⟩
    let faulty : Template := { a with name := "", sections := [] }
    let new := Compiler.new 64 2 1800 100
    let before : History := [(1, .compile a), (2, .compile { a with id := "b" })]
    let rest : History :=
      [(4, .compile { a with id := "c" }), (5, .compile { faulty with id := "d" }),
        (6, .compileJson .null)]
    let c := new.after (before ++ (3, .compile a) :: rest)
    Ordered (before ++ (3, .compile a) :: rest) 101 ∧
      (c.cache.counts.evictions = 1 ∧ c.counts.failures = 2 ∧ c.compilations = 3) ∧
      ∃ compiled, Moment.answer (new.after before, 3, .compile a) = some (.ok compiled) ∧
        (c.answer 101 (.compile faulty)).1 = some (.ok compiled) ∧
        (c.answer 101 (.compile faulty)).2.compilations = 3 := by
  intro a faulty new before rest c
  let m : Moment := (new.after before, 3, .compile a)
  let later : List Moment := (new.after (before ++ [(3, .compile a)])).moments rest
  have hordered : Ordered (before ++ (3, .compile a) :: rest) 101 := by
    simp [Ordered, before, rest]
  have hmoments : new.moments (before ++ (3, .compile a) :: rest) =
      later ++ m :: new.moments before := by
    rw [List.append_cons, moments, moments_append_history, moments_append]
    rfl
  have hcounts : c.cache.counts.evictions = 1 ∧ c.counts.failures = 2 ∧ c.compilations = 3 := by
    decide +kernel
  have hgiven : m.given?.isSome = true := by
    decide +kernel
  obtain ⟨compiled, hgiven⟩ := Option.isSome_iff_exists.1 hgiven
  have hanswer := Moment.given?_eq_some_iff.1 hgiven
  have hkept : ∀ m' ∈ later, m'.clears = false := by
    decide +kernel
  have hroom : (rivals (later ++ m :: new.moments before) faulty.cacheKey).card < max 2 1 := by
    decide +kernel
  have hstoredAt : ∀ x ∈ m :: new.moments before, x.stores faulty.cacheKey = true → x.2.1 = 1 := by
    decide +kernel
  have hnoneNew : ∀ m' ∈ later, m'.stores faulty.cacheKey = false := by
    decide +kernel
  obtain ⟨stored, hmem, ⟨hstores, -⟩, hagain⟩ := answer_of_retained 64 2 1800 100 hordered
    (show (Request.compile faulty).template? = some faulty from rfl) hmoments rfl hanswer hkept hroom
  have htime : stored.2.1 = 1 := hstoredAt stored hmem hstores
  obtain ⟨hcompilations, hiff⟩ := hagain (by rw [htime])
  refine ⟨hordered, hcounts, compiled, hanswer, hiff.2 hnoneNew, ?_⟩
  rw [hcompilations]
  exact hcounts.2.2

/-- With room for one, `a` is compiled anew after `b` took its place; from then on it is the new
object that is given, although the first one is not yet at the end of its lifetime. -/
theorem answer_ne_of_rebuilt :
    let a : Template := ⟨"a", "Report", "1", .professional,
      [⟨"text", "Text", .custom, 0, true, [], some "text", []⟩], {}, none⟩
    let new := Compiler.new 64 1 1800 100
    let history : History := [(1, .compile a), (2, .compile { a with id := "b" }), (3, .compile a)]
    Ordered history 4 ∧ rivals (new.moments history) a.cacheKey = ∅ ∧
      ∃ first second, Moment.answer (new, 1, .compile a) = some (.ok first) ∧
        Moment.answer (new.after history, 4, .compile a) = some (.ok second) ∧
        first.serial = 0 ∧ second.serial = 2 := by
  intro a new history
  have hfirst : (Moment.given? (new, 1, .compile a)).map (·.serial) = some 0 := by
    decide +kernel
  have hsecond : (Moment.given? (new.after history, 4, .compile a)).map (·.serial) = some 2 := by
    decide +kernel
  obtain ⟨first, hfirst, hzero⟩ := Option.map_eq_some_iff.1 hfirst
  obtain ⟨second, hsecond, htwo⟩ := Option.map_eq_some_iff.1 hsecond
  exact ⟨by simp [Ordered, history], by decide +kernel, first, second,
    Moment.given?_eq_some_iff.1 hfirst, Moment.given?_eq_some_iff.1 hsecond, hzero, htwo⟩

end

end TieredReport.Compiler
