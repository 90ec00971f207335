/-
# Which compiled template a compiler hands out

The cache of a compiler joins the id and the version of a template with a colon.
Where both hold colons of their own, another template can have the same key: the
same text cut at another colon (`cacheKey_eq_iff`). As long as no two templates
do, each is given a compiled form with its own id and version, over every history;
as soon as two do, the second may be given the first (`faithful_iff`).

What holds of all entries over a history is `Backed`: each was built from a
template whose key it is stored under.

Key definitions: `Template.CutEarlier`, `Template.Confusable`, `Compiler.Backed`,
`Compiler.Faithful`.
Key theorems: `Template.cacheKey_eq_iff`, `Compiler.Backed.answer`, `Compiler.backed_after`,
`Compiler.faithful_iff`.
-/
import TieredReport.Proofs.Cache.Entries
import TieredReport.Proofs.Compiler.Requests

namespace TieredReport

namespace Template

/-! ### Keys -/

/-- The keys of two templates are one text, and the first one is cut at an earlier colon. -/
def CutEarlier (s t : Template) : Prop :=
  ∃ between, t.id = s.id ++ ":" ++ between ∧ s.version = between ++ ":" ++ t.version

/-- The keys of two templates are one text, cut at two colons. -/
def Confusable (s t : Template) : Prop := s.CutEarlier t ∨ t.CutEarlier s

variable {s t : Template}

theorem CutEarlier.cacheKey_eq (h : s.CutEarlier t) : s.cacheKey = t.cacheKey := by
  obtain ⟨between, hid, hversion⟩ := h
  simp only [cacheKey, hid, hversion, String.append_assoc]

theorem CutEarlier.id_ne (h : s.CutEarlier t) : s.id ≠ t.id := by
  obtain ⟨between, hid, -⟩ := h
  intro heq
  have hlength := congrArg String.length hid
  simp only [heq, String.length_append] at hlength
  have hcolon : (":" : String).length = 1 := rfl
  omega

/-- Two ways to cut one text: the second part of the first one has the rest of the longer first
part, or of nothing, before the second part of the other. -/
theorem eq_or_cutEarlier {rest : List Char} (hid : t.id.toList = s.id.toList ++ rest)
    (hversion : ':' :: s.version.toList = rest ++ ':' :: t.version.toList) :
    (s.id = t.id ∧ s.version = t.version) ∨ s.CutEarlier t := by
  cases rest with
  | nil =>
    rw [List.append_nil] at hid
    rw [List.nil_append] at hversion
    exact Or.inl ⟨String.toList_inj.1 hid.symm, String.toList_inj.1 (List.cons.inj hversion).2⟩
  | cons colon between =>
    rw [List.cons_append, List.cons.injEq] at hversion
    obtain ⟨rfl, hversion⟩ := hversion
    refine Or.inr ⟨String.ofList between, ?_, ?_⟩
    · apply String.toList_inj.1
      simp [hid]
    · apply String.toList_inj.1
      simp [hversion]

/-- **What a key tells.** -/
theorem cacheKey_eq_iff :
    s.cacheKey = t.cacheKey ↔ (s.id = t.id ∧ s.version = t.version) ∨ s.Confusable t := by
  constructor
  · intro h
    have hlist : s.id.toList ++ ':' :: s.version.toList =
        t.id.toList ++ ':' :: t.version.toList := by
      simpa [cacheKey] using congrArg String.toList h
    rcases List.append_eq_append_iff.1 hlist with ⟨rest, hid, hversion⟩ | ⟨rest, hid, hversion⟩
    · rcases eq_or_cutEarlier hid hversion with heq | hcut
      · exact Or.inl heq
      · exact Or.inr (Or.inl hcut)
    · rcases eq_or_cutEarlier hid hversion with ⟨hid, hversion⟩ | hcut
      · exact Or.inl ⟨hid.symm, hversion.symm⟩
      · exact Or.inr (Or.inr hcut)
  · rintro (⟨hid, hversion⟩ | hcut | hcut)
    · rw [cacheKey, hid, hversion, cacheKey]
    · exact hcut.cacheKey_eq
    · exact hcut.cacheKey_eq.symm

end Template

namespace Compiler

variable {c : Compiler} {among : Template → Prop} {now : Nat} {s t : Template}
  {compiled : CompiledTemplate}

/-! ### What the cache holds -/

/-- A compiled template is the compiled form of a template in a class, as far as its id and version
go, and is stored under the key of that template. -/
def BuiltAmong (among : Template → Prop) (key : String) (compiled : CompiledTemplate) : Prop :=
  ∃ s, among s ∧ s.Compilable ∧ s.cacheKey = key ∧ compiled.id = s.id ∧ compiled.version = s.version

/-- Every entry of the cache was built from a template of a class that has the key of the entry. -/
def Backed (among : Template → Prop) (c : Compiler) : Prop :=
  ∀ key e, (key, e) ∈ c.cache.entries → BuiltAmong among key e.value

theorem builtAmong_of_build {cap serial : Nat} (ht : among t)
    (h : (build cap serial t).1 = .ok compiled) : BuiltAmong among t.cacheKey compiled := by
  obtain ⟨sections, -, rfl⟩ := build_eq_ok h
  exact ⟨t, ht, (exists_build_iff cap serial t).1 ⟨_, h⟩, rfl, rfl, rfl⟩

/-- What `compile` gives has the key that was asked for, whether it was kept or is new. -/
theorem Backed.compile_eq_ok (h : Backed among c) (ht : among t)
    (hok : (c.compile now t).1 = .ok compiled) : BuiltAmong among t.cacheKey compiled := by
  cases hget : (c.cache.get now t.cacheKey).1 with
  | some found =>
    rw [compile_of_cached hget] at hok
    cases hok
    obtain ⟨e, hmem, rfl, -⟩ := Cache.mem_of_get hget
    exact h _ _ hmem
  | none =>
    cases hbuild : (build c.blockCap c.compilations t).1 with
    | error cause =>
      rw [compile_of_refused hget hbuild] at hok
      cases hok
    | ok built =>
      rw [compile_of_built hget hbuild] at hok
      cases hok
      exact builtAmong_of_build ht hbuild

theorem Backed.looked (h : Backed among c) (now : Nat) (t : Template) :
    Backed among (c.looked now t) := by
  intro key e he
  obtain ⟨e', he', hvalue⟩ := Cache.mem_get he
  rw [← hvalue]
  exact h key e' he'

theorem Backed.compile (h : Backed among c) (now : Nat) (ht : among t) :
    Backed among (c.compile now t).2 := by
  have hlooked := h.looked now t
  cases hget : (c.cache.get now t.cacheKey).1 with
  | some found =>
    rw [compile_of_cached hget]
    exact hlooked
  | none =>
    cases hbuild : (build c.blockCap c.compilations t).1 with
    | error cause =>
      rw [compile_of_refused hget hbuild]
      exact hlooked
    | ok built =>
      rw [compile_of_built hget hbuild]
      intro key e he
      rcases Cache.mem_set he with ⟨rfl, rfl⟩ | ⟨-, he, -⟩
      · exact builtAmong_of_build ht hbuild
      · exact hlooked key e he

/-- **One more request** for a template of the class, or for none. -/
theorem Backed.answer (h : Backed among c) (now : Nat) (r : Request)
    (hr : ∀ t, r.template? = some t → among t) : Backed among (c.answer now r).2 := by
  cases htemplate : r.template? with
  | some t =>
    rw [answer_of_template htemplate]
    exact h.compile now (hr t htemplate)
  | none =>
    rcases cache_answer_of_no_template now c htemplate with hcache | hcache
    · rw [Backed, hcache]
      exact h
    · rw [Backed, hcache]
      intro key e he
      simp [Cache.clear] at he

/-- A history asks only for templates of a class. -/
def AsksAmong (among : Template → Prop) (history : History) : Prop :=
  ∀ r ∈ history, ∀ t, r.2.template? = some t → among t

theorem backed_after (blockCap maxSize cacheLifetime lifetime : Nat) {history : History}
    (h : AsksAmong among history) :
    Backed among ((new blockCap maxSize cacheLifetime lifetime).after history) := by
  induction history using List.reverseRecOn with
  | nil =>
    intro key e he
    simp [new, Cache.empty] at he
  | append_singleton history r ih =>
    rw [after_append]
    refine (ih fun r' hr' => h r' ?_).answer r.1 r.2 (h r ?_)
    · exact List.mem_append_left _ hr'
    · exact List.mem_append_right _ (List.mem_singleton.2 rfl)

/-! ### Being given what was asked for -/

/-- Whenever templates of a class are asked for, in whatever order and with whatever time between,
and the last request is answered with a compiled template, this has the id and the version that were
asked for. -/
def Faithful (among : Template → Prop) (c : Compiler) : Prop :=
  ∀ (earlier : History) (now : Nat) (last : Request) (t : Template) (compiled : CompiledTemplate),
    AsksAmong among (earlier ++ [(now, last)]) →
    ((earlier ++ [(now, last)]).map (·.1)).Pairwise (· ≤ ·) →
    last.template? = some t → ((c.after earlier).answer now last).1 = some (.ok compiled) →
    compiled.id = t.id ∧ compiled.version = t.version

/-- A template that was built first is given for every template with its key until its lifetime is
over. -/
theorem compile_after_build (blockCap maxSize cacheLifetime : Nat) {lifetime : Nat}
    (hbuild : (build blockCap 0 s).1 = .ok compiled) (hkey : s.cacheKey = t.cacheKey)
    (hlive : now ≤ lifetime) :
    (((new blockCap maxSize cacheLifetime lifetime).after [(0, .compile s)]).compile now t).1 =
      .ok compiled := by
  let c := new blockCap maxSize cacheLifetime lifetime
  have hnone : (c.cache.get 0 s.cacheKey).1 = none := rfl
  have hbuild' : (build c.blockCap c.compilations s).1 = .ok compiled := hbuild
  show ((c.compile 0 s).2.compile now t).1 = .ok compiled
  rw [compile_of_built hnone hbuild']
  refine congrArg Prod.fst (compile_of_cached ?_)
  rw [← hkey]
  refine Cache.get_of_mem (Cache.keyed_set ?_) (Cache.mem_set_self _) ?_
  · exact List.nodup_nil
  · exact decide_eq_false (not_lt.2 hlive)

/-- **Each template is given its own compiled form exactly when keys do not run together.** The
templates of a class are always given a compiled form with their own id and version, if and only if
no template of the class that can be compiled has the key of another one, cut at another colon. -/
theorem faithful_iff (blockCap maxSize cacheLifetime lifetime : Nat) (among : Template → Prop) :
    Faithful among (new blockCap maxSize cacheLifetime lifetime) ↔
      ∀ s t, among s → among t → s.Compilable → ¬ s.Confusable t := by
  constructor
  · intro h s t hs ht hcompilable hconfusable
    obtain ⟨compiled, hbuild⟩ := (exists_build_iff blockCap 0 s).2 hcompilable
    have hkey : s.cacheKey = t.cacheKey := Template.cacheKey_eq_iff.2 (Or.inr hconfusable)
    have hcompile := compile_after_build blockCap maxSize cacheLifetime hbuild hkey
      (Nat.zero_le lifetime)
    have hasks : AsksAmong among ([(0, .compile s)] ++ [(0, .compile t)]) := by
      intro r hr t' ht'
      simp only [List.singleton_append, List.mem_cons, List.not_mem_nil, or_false] at hr
      rcases hr with rfl | rfl
      · cases ht'
        exact hs
      · cases ht'
        exact ht
    obtain ⟨hid, -⟩ := h _ 0 (.compile t) t compiled hasks (by simp) rfl (congrArg some hcompile)
    obtain ⟨sections, -, rfl⟩ := build_eq_ok hbuild
    rcases hconfusable with hcut | hcut
    · exact hcut.id_ne hid
    · exact hcut.id_ne hid.symm
  · intro h earlier now last t compiled hasks _ hlast hanswer
    have hbacked : Backed among ((new blockCap maxSize cacheLifetime lifetime).after earlier) :=
      backed_after _ _ _ _ fun r hr => hasks r (List.mem_append_left _ hr)
    have ht : among t := hasks (now, last) (by simp) t hlast
    rw [answer_of_template hlast, Option.some.injEq] at hanswer
    obtain ⟨s, hs, hcompilable, hkey, hid, hversion⟩ := hbacked.compile_eq_ok ht hanswer
    rcases Template.cacheKey_eq_iff.1 hkey with ⟨hid', hversion'⟩ | hconfusable
    · exact ⟨hid.trans hid', hversion.trans hversion'⟩
    · exact absurd hconfusable (h s t hs ht hcompilable)

/-- Version `b:c` of template `a` is given version `c` of template `a:b`. -/
theorem compile_gives_other :
    let s : Template := ⟨"a:b", "Report", "c", .professional,
      [⟨"text", "Text", .custom, 0, true, [], some "text", []⟩], {}, none⟩
    let t : Template := { s with id := "a", version := "b:c" }
    ∃ compiled, (((new 64 1000 1800000000 3600000000).after [(0, .compile s)]).answer 1
        (.compile t)).1 = some (.ok compiled) ∧
      compiled.id ≠ t.id ∧ compiled.version ≠ t.version := by
  intro s t
  have hcompilable : s.Compilable := ⟨by decide, by decide⟩
  obtain ⟨compiled, hbuild⟩ := (exists_build_iff 64 0 s).2 hcompilable
  have hcompile := compile_after_build 64 1000 1800000000 hbuild (t := t) rfl
    (show 1 ≤ 3600000000 by decide)
  refine ⟨compiled, congrArg some hcompile, ?_⟩
  obtain ⟨sections, -, rfl⟩ := build_eq_ok hbuild
  constructor
  · show "a:b" ≠ "a"
    decide
  · show "c" ≠ "b:c"
    decide

end Compiler

end TieredReport
