/-
# Which rule decides

Rules are ranked by descending priority, rules of one priority in the order in
which they were declared. Among the rules whose conditions hold the one that is
ranked first decides, and without such a rule the section appears. Conditions are
evaluated in the order of their ranks, up to the one that decides and no further,
so that just the failing conditions ranked before it are counted
(`includes_by_rank`).

The sort is stable, so places ascend within a priority and the sorted rules are
the rules at the ranked places (`exists_ranking`); on a list in order of rank the
decision is the first match (`decideBy_of_first`). Only the rules of each priority
and their order enter into the ranking, hence declaring rules of different
priorities in another order changes nothing.

Key definitions: `Rule.holds`, `Rule.fails`, `RankedBefore`, `Decides`, `evaluateInTurn`,
`DecidedAfter`.
Key theorems: `exists_ranking`, `decideBy_of_first`, `evaluateInTurn_of_no_crash`,
`ofRules_of_same_order`, `includes_by_rank`.
-/
import Mathlib.Data.Int.Order.Basic
import Mathlib.Data.List.FinRange
import TieredReport.Proofs.StableSort
import TieredReport.Proofs.Markup.Rendering
import TieredReport.Rule

namespace TieredReport

variable {helpers : HelperRegistry} {ctx : Context} {rules rules' : List Rule}

/-! ### Conditions -/

namespace Rule

/-- The reply of the condition of a rule. -/
def reply (helpers : HelperRegistry) (ctx : Context) (r : Rule) : Reply :=
  Markup.evaluate helpers ctx (.parseCondition r.condition)

/-- Whether the condition of a rule has a truthy value. -/
def holds (helpers : HelperRegistry) (ctx : Context) (r : Rule) : Bool :=
  match r.reply helpers ctx with
  | .value v => v.truthy
  | _ => false

/-- Whether the condition of a rule calls a helper that fails. -/
def fails (helpers : HelperRegistry) (ctx : Context) (r : Rule) : Bool :=
  match r.reply helpers ctx with
  | .failure _ => true
  | _ => false

/-- Whether the condition of a rule calls a helper that crashes. -/
def crashes (helpers : HelperRegistry) (ctx : Context) (r : Rule) : Bool :=
  match r.reply helpers ctx with
  | .crash _ => true
  | _ => false

/-- The run that evaluates the condition of a rule. -/
def ask (helpers : HelperRegistry) (ctx : Context) (r : Rule) : Run Bool :=
  Markup.holds helpers ctx (.parseCondition r.condition)

theorem ask_eq (helpers : HelperRegistry) (ctx : Context) (r : Rule) :
    r.ask helpers ctx = Markup.recover (r.reply helpers ctx) Value.truthy false := rfl

/-- A condition that does not crash holds or does not, and is counted if it fails. -/
theorem ask_of_no_crash {r : Rule} (h : r.crashes helpers ctx = false) :
    r.ask helpers ctx =
      ⟨.ok (r.holds helpers ctx), { helper := if r.fails helpers ctx then 1 else 0 }⟩ := by
  rw [ask_eq]
  unfold crashes at h
  unfold holds fails
  cases hreply : r.reply helpers ctx with
  | value v => rfl
  | failure e => rfl
  | crash reason => simp [hreply] at h

/-- A condition that holds is evaluated without a failure. -/
theorem ask_of_holds {r : Rule} (h : r.holds helpers ctx = true) :
    r.ask helpers ctx = Run.pure true := by
  rw [ask_eq]
  unfold holds at h
  cases hreply : r.reply helpers ctx with
  | value v =>
    rw [hreply] at h
    exact congrArg Run.pure h
  | failure e => simp [hreply] at h
  | crash reason => simp [hreply] at h

/-- A condition that does not hold is false or crashes. -/
theorem eq_false_of_not_holds {r : Rule} (h : r.holds helpers ctx = false) {b : Bool}
    (hb : (r.ask helpers ctx).outcome = .ok b) : b = false := by
  rw [ask_eq] at hb
  unfold holds at h
  cases hreply : r.reply helpers ctx with
  | value v =>
    rw [hreply] at h hb
    exact (Except.ok.inj hb).symm.trans h
  | failure e =>
    rw [hreply] at hb
    exact (Except.ok.inj hb).symm
  | crash reason =>
    rw [hreply] at hb
    cases hb

end Rule

/-! ### Ranks -/

/-- Of two rules in a list, given by their places, the first one is ranked before the second one:
its priority is greater, or it is the same and the rule was declared earlier. -/
def RankedBefore (rules : List Rule) (i j : Fin rules.length) : Prop :=
  (rules.get j).priority < (rules.get i).priority ∨
    (rules.get i).priority = (rules.get j).priority ∧ i < j

instance (rules : List Rule) (i j : Fin rules.length) : Decidable (RankedBefore rules i j) :=
  inferInstanceAs (Decidable (_ ∨ _))

/-- The rule at a place decides: its condition holds, and it is ranked before every other rule whose
condition holds. -/
structure Decides (helpers : HelperRegistry) (ctx : Context) (rules : List Rule)
    (i : Fin rules.length) : Prop where
  holds : (rules.get i).holds helpers ctx = true
  first : ∀ j, (rules.get j).holds helpers ctx = true → j = i ∨ RankedBefore rules i j

theorem rankedBefore_iff {i j : Fin rules.length} : RankedBefore rules i j ↔
    -(rules.get i).priority.toInt < -(rules.get j).priority.toInt ∨
      -(rules.get i).priority.toInt = -(rules.get j).priority.toInt ∧ i < j := by
  rw [RankedBefore, Int32.lt_iff_toInt_lt, ← Int32.toInt_inj, Int.neg_lt_neg_iff,
    Int.neg_inj]

/-- No rule is ranked before one that is ranked before it. -/
theorem RankedBefore.asymm {i j : Fin rules.length} (h : RankedBefore rules i j) :
    ¬ RankedBefore rules j i := by
  rw [rankedBefore_iff] at h ⊢
  omega

/-- What stands before a place in the order of ranks is ranked before it, and what stands behind it
after it. -/
theorem rankedBefore_of_split {i j : Fin rules.length} {before after : List (Fin rules.length)}
    (hrank : (before ++ i :: after).Pairwise (RankedBefore rules)) :
    (j ∈ before → RankedBefore rules j i) ∧ (j ∈ after → RankedBefore rules i j) := by
  obtain ⟨-, hrest, hsplit⟩ := List.pairwise_append.1 hrank
  exact ⟨fun hj => hsplit j hj i List.mem_cons_self, fun hj => List.rel_of_pairwise_cons hrest hj⟩

theorem mem_before_iff {i j : Fin rules.length} {before after : List (Fin rules.length)}
    (hrank : (before ++ i :: after).Pairwise (RankedBefore rules)) (hj : j ∈ before ++ i :: after) :
    j ∈ before ↔ RankedBefore rules j i := by
  refine ⟨(rankedBefore_of_split hrank).1, fun hbefore => ?_⟩
  rcases List.mem_append.1 hj with hmem | hmem
  · exact hmem
  · rcases List.mem_cons.1 hmem with rfl | hmem
    · exact absurd hbefore hbefore.asymm
    · exact absurd hbefore ((rankedBefore_of_split hrank).2 hmem).asymm

/-- Merge sort by descending priority is stable. -/
theorem isStableSort_ofRules (rules : List Rule) :
    IsStableSort (fun r : ParsedRule => -r.priority.toInt) (rules.map .ofRule)
      (RuleSet.ofRules rules).rules := by
  apply isStableSort_mergeSort
  intro a b
  rw [decide_eq_true_eq, Int32.le_iff_toInt_le, Int.neg_le_neg_iff]

/-- **The ranking.** Rules are tried in the order of their ranks. -/
theorem exists_ranking (rules : List Rule) : ∃ places : List (Fin rules.length),
    places.Pairwise (RankedBefore rules) ∧ (∀ i, i ∈ places) ∧
      (RuleSet.ofRules rules).rules = (places.map rules.get).map .ofRule := by
  let key : Fin rules.length → Int := fun i => -(rules.get i).priority.toInt
  let places := (List.finRange rules.length).mergeSort fun i j => key i ≤ key j
  have hsort : IsStableSort key (List.finRange rules.length) places :=
    isStableSort_mergeSort (fun i j => decide_eq_true_iff) _
  refine ⟨places, ?_, fun i => hsort.mem_iff.2 (List.mem_finRange i), ?_⟩
  · exact (hsort.pairwise (List.pairwise_lt_finRange _)).imp fun h => rankedBefore_iff.2 h
  · have hmap : IsStableSort (fun r : ParsedRule => -r.priority.toInt)
        (((List.finRange rules.length).map rules.get).map .ofRule)
        ((places.map rules.get).map .ofRule) := by
      rw [List.map_map, List.map_map]
      exact hsort.map fun i => rfl
    rw [List.map_get_finRange] at hmap
    exact (isStableSort_ofRules rules).unique hmap

/-- The order in which rules of different priorities are declared does not matter. -/
theorem ofRules_of_same_order (h : ∀ k, withKey (·.priority.toInt) k rules' =
    withKey (·.priority.toInt) k rules) : RuleSet.ofRules rules' = RuleSet.ofRules rules := by
  have hkey : ∀ (k : Int) (l : List Rule),
      withKey (fun r : ParsedRule => -r.priority.toInt) k (l.map .ofRule) =
        (withKey (·.priority.toInt) (-k) l).map .ofRule := by
    intro k l
    have hmap := @withKey_map _ _ _ _ (fun r : Rule => -r.priority.toInt)
      (fun r : ParsedRule => -r.priority.toInt) ParsedRule.ofRule (fun _ => rfl) k l
    have hneg : ∀ r : Rule, -r.priority.toInt = k ↔ r.priority.toInt = -k := fun r => by omega
    rw [hmap]
    simp only [withKey, hneg]
  have hsort := isStableSort_ofRules rules
  have hsort' : IsStableSort (fun r : ParsedRule => -r.priority.toInt) (rules.map .ofRule)
      (RuleSet.ofRules rules').rules := by
    refine ⟨(isStableSort_ofRules rules').ascending, fun k => ?_⟩
    rw [(isStableSort_ofRules rules').stable, hkey, hkey, h]
  exact congrArg RuleSet.mk (hsort'.unique hsort)

/-! ### The first match -/

/-- Evaluate the conditions of some rules one after the other. -/
def evaluateInTurn (helpers : HelperRegistry) (ctx : Context) : List Rule → Run Unit
  | [] => Run.pure ()
  | r :: rest => (r.ask helpers ctx).bind fun _ => evaluateInTurn helpers ctx rest

theorem decideBy_cons (r : Rule) (rest : List Rule) :
    RuleSet.decideBy helpers ctx ((r :: rest).map .ofRule) =
      (r.ask helpers ctx).bind fun b =>
        if b then Run.pure (r.action == .includes)
        else RuleSet.decideBy helpers ctx (rest.map .ofRule) := rfl

/-- The first rule whose condition holds decides, once the conditions before it were evaluated. -/
theorem decideBy_of_first {r : Rule} (hr : r.holds helpers ctx = true) (after : List Rule) :
    ∀ {before : List Rule}, (∀ e ∈ before, e.holds helpers ctx = false) →
      RuleSet.decideBy helpers ctx ((before ++ r :: after).map .ofRule) =
        (evaluateInTurn helpers ctx (before ++ [r])).bind fun _ =>
          Run.pure (r.action == .includes)
  | [], _ => by
    rw [List.nil_append, List.nil_append, decideBy_cons, evaluateInTurn, Rule.ask_of_holds hr]
    simp only [Run.pure_bind, evaluateInTurn, if_true]
  | e :: before, h => by
    obtain ⟨he, hbefore⟩ := List.forall_mem_cons.1 h
    rw [List.cons_append, List.cons_append, decideBy_cons, evaluateInTurn, Run.bind_assoc]
    apply Run.bind_congr
    intro b hb
    rw [Rule.eq_false_of_not_holds he hb]
    exact decideBy_of_first hr after hbefore

/-- Where no condition holds, all of them are evaluated and the section appears. -/
theorem decideBy_of_none : ∀ {rules : List Rule}, (∀ e ∈ rules, e.holds helpers ctx = false) →
    RuleSet.decideBy helpers ctx (rules.map .ofRule) =
      (evaluateInTurn helpers ctx rules).bind fun _ => Run.pure true
  | [], _ => rfl
  | e :: rest, h => by
    obtain ⟨he, hrest⟩ := List.forall_mem_cons.1 h
    rw [decideBy_cons, evaluateInTurn, Run.bind_assoc]
    apply Run.bind_congr
    intro b hb
    rw [Rule.eq_false_of_not_holds he hb]
    exact decideBy_of_none hrest

/-- Conditions that do not crash are counted where they fail. -/
theorem evaluateInTurn_of_no_crash : ∀ {rules : List Rule},
    (∀ r ∈ rules, r.crashes helpers ctx = false) →
      evaluateInTurn helpers ctx rules =
        ⟨.ok (), { helper := rules.countP (·.fails helpers ctx) }⟩
  | [], _ => rfl
  | r :: rest, h => by
    obtain ⟨hr, hrest⟩ := List.forall_mem_cons.1 h
    rw [evaluateInTurn, Rule.ask_of_no_crash hr]
    simp only [Run.bind, evaluateInTurn_of_no_crash hrest, List.countP_cons, Run.mk.injEq, true_and]
    ext
    · simp [Nat.add_comm]
    · rfl
    · rfl

/-! ### Decisions -/

/-- A run evaluates the conditions at certain places, each of them once and in the order of their
ranks, and comes to a verdict then. Unless one of them crashes, it counts those that fail. -/
structure DecidedAfter (helpers : HelperRegistry) (ctx : Context) (rules : List Rule)
    (asked : Fin rules.length → Prop) [DecidablePred asked] (verdict : Bool) (run : Run Bool) :
    Prop where
  evaluated : ∃ places : List (Fin rules.length), places.Pairwise (RankedBefore rules) ∧
    (∀ i, i ∈ places ↔ asked i) ∧
    run = (evaluateInTurn helpers ctx (places.map rules.get)).bind fun _ => Run.pure verdict
  result : (∀ i, asked i → (rules.get i).crashes helpers ctx = false) →
    run = ⟨.ok verdict, { helper := ((List.finRange rules.length).countP fun i =>
      asked i ∧ (rules.get i).fails helpers ctx) }⟩

/-- Places in the order of their ranks count as often as they do in the order of the list. -/
theorem countP_places {places : List (Fin rules.length)} {asked : Fin rules.length → Prop}
    [DecidablePred asked] (hrank : places.Pairwise (RankedBefore rules))
    (hasked : ∀ i, i ∈ places ↔ asked i) (p : Rule → Bool) :
    (places.map rules.get).countP p =
      (List.finRange rules.length).countP fun i => asked i ∧ p (rules.get i) := by
  have hperm : places.Perm ((List.finRange rules.length).filter asked) := by
    apply (List.perm_ext_iff_of_nodup _ ((List.nodup_finRange _).filter _)).2
    · intro i
      simp [hasked]
    · refine hrank.imp ?_
      rintro i j hij rfl
      exact hij.asymm hij
  rw [List.countP_map, hperm.countP_eq, List.countP_filter]
  congr 1
  funext i
  simp [Bool.and_comm]

theorem decidedAfter_of_places {places : List (Fin rules.length)} {asked : Fin rules.length → Prop}
    [DecidablePred asked] {verdict : Bool} {run : Run Bool}
    (hrank : places.Pairwise (RankedBefore rules)) (hasked : ∀ i, i ∈ places ↔ asked i)
    (hrun : run =
      (evaluateInTurn helpers ctx (places.map rules.get)).bind fun _ => Run.pure verdict) :
    DecidedAfter helpers ctx rules asked verdict run := by
  refine ⟨⟨places, hrank, hasked, hrun⟩, fun hcrash => ?_⟩
  have hno : ∀ r ∈ places.map rules.get, r.crashes helpers ctx = false := by
    intro r hr
    obtain ⟨i, hi, rfl⟩ := List.mem_map.1 hr
    exact hcrash i ((hasked i).1 hi)
  rw [hrun, evaluateInTurn_of_no_crash hno, countP_places hrank hasked]
  simp [Run.bind, Run.pure]

/-- **Precedence of rules.** Either no condition holds, all of them are evaluated, and the section
appears; or the first rule by rank among those whose conditions hold decides, and what is evaluated
are the conditions ranked before it and its own. Rules of different priorities may be declared in
another order. -/
theorem includes_by_rank (helpers : HelperRegistry) (ctx : Context) (rules : List Rule) :
    ((∀ i, (rules.get i).holds helpers ctx = false) ∧
        DecidedAfter helpers ctx rules (fun _ => True) true
          ((RuleSet.ofRules rules).includes helpers ctx) ∨
      ∃ i, Decides helpers ctx rules i ∧
        DecidedAfter helpers ctx rules (fun j => RankedBefore rules j i ∨ j = i)
          ((rules.get i).action == .includes) ((RuleSet.ofRules rules).includes helpers ctx)) ∧
    ∀ rules', (∀ k, withKey (·.priority.toInt) k rules' = withKey (·.priority.toInt) k rules) →
      (RuleSet.ofRules rules').includes helpers ctx =
        (RuleSet.ofRules rules).includes helpers ctx := by
  refine ⟨?_, fun rules' h => by rw [ofRules_of_same_order h]⟩
  obtain ⟨places, hrank, hall, hrules⟩ := exists_ranking rules
  rw [RuleSet.includes, hrules]
  cases hfind : places.find? fun i => (rules.get i).holds helpers ctx with
  | none =>
    left
    have hnone : ∀ i, (rules.get i).holds helpers ctx = false := fun i => by
      simpa using List.find?_eq_none.1 hfind i (hall i)
    refine ⟨hnone, decidedAfter_of_places hrank (fun i => iff_true_intro (hall i)) ?_⟩
    apply decideBy_of_none
    intro r hr
    obtain ⟨i, -, rfl⟩ := List.mem_map.1 hr
    exact hnone i
  | some i =>
    right
    obtain ⟨hi, before, after, rfl, hbefore⟩ := List.find?_eq_some_iff_append.1 hfind
    have hnone : ∀ j ∈ before, (rules.get j).holds helpers ctx = false := fun j hj => by
      simpa using hbefore j hj
    refine ⟨i, ⟨hi, fun j hj => ?_⟩, ?_⟩
    · rcases List.mem_append.1 (hall j) with hmem | hmem
      · rw [hnone j hmem] at hj
        cases hj
      · exact (List.mem_cons.1 hmem).imp_right (rankedBefore_of_split hrank).2
    · have hprefix : (before ++ [i]).Sublist (before ++ i :: after) :=
        (List.singleton_sublist.2 List.mem_cons_self).append_left before
      refine decidedAfter_of_places (hrank.sublist hprefix) (fun j => ?_) ?_
      · rw [List.mem_append, List.mem_singleton, mem_before_iff hrank (hall j)]
      · have hbeforeRules : ∀ r ∈ before.map rules.get, r.holds helpers ctx = false := by
          intro r hr
          obtain ⟨j, hj, rfl⟩ := List.mem_map.1 hr
          exact hnone j hj
        have hfirst := decideBy_of_first hi (after.map rules.get) hbeforeRules
        simpa only [List.map_append, List.map_cons, List.map_nil] using hfirst

/-- Two rules of one priority, declared behind one whose condition fails and before one of a lower
priority: the first of them decides, and the failure is counted. -/
theorem includes_by_rank_ties :
    let refuse : List Value → Reply := fun _ => .failure (.custom "refuse" "")
    let helpers := (HelperRegistry.empty {}).register "refuse" refuse
    let ctx : Context := .root (.map [("flag", .bool true)])
    let rules : List Rule := [⟨"flag", .includes, -1⟩, ⟨"flag", .excludes, 3⟩,
      ⟨"flag", .includes, 3⟩, ⟨"refuse flag", .includes, 5⟩]
    let rules' : List Rule := [⟨"flag", .excludes, 3⟩, ⟨"refuse flag", .includes, 5⟩,
      ⟨"flag", .includes, 3⟩, ⟨"flag", .includes, -1⟩]
    (∀ k, withKey (·.priority.toInt) k rules' = withKey (·.priority.toInt) k rules) ∧
      (RuleSet.ofRules rules).includes helpers ctx = ⟨.ok false, { helper := 1 }⟩ ∧
      (RuleSet.ofRules rules').includes helpers ctx = ⟨.ok false, { helper := 1 }⟩ := by
  intro refuse helpers ctx rules rules'
  obtain ⟨hdecided, horder⟩ := includes_by_rank helpers ctx rules
  have hsame : ∀ k, withKey (·.priority.toInt) k rules' = withKey (·.priority.toInt) k rules := by
    intro k
    by_cases hk : k ∈ rules.map (·.priority.toInt)
    · have hall : ∀ k ∈ rules.map (·.priority.toInt),
          withKey (·.priority.toInt) k rules' = withKey (·.priority.toInt) k rules := by
        decide +kernel
      exact hall k hk
    · have hmap : rules'.map (·.priority.toInt) ⊆ rules.map (·.priority.toInt) := by decide +kernel
      have hnil : ∀ l : List Rule, l.map (·.priority.toInt) ⊆ rules.map (·.priority.toInt) →
          withKey (·.priority.toInt) k l = [] := by
        intro l hl
        refine List.filter_eq_nil_iff.2 fun r hr heq => hk ?_
        exact of_decide_eq_true heq ▸ hl (List.mem_map_of_mem hr)
      rw [hnil rules' hmap, hnil rules (List.Subset.refl _)]
  have hrun : (RuleSet.ofRules rules).includes helpers ctx = ⟨.ok false, { helper := 1 }⟩ := by
    rcases hdecided with ⟨hnone, -⟩ | ⟨i, hi, hafter⟩
    · exact absurd (hnone 1) (by decide +kernel)
    · have hplace : ∀ j : Fin rules.length, (rules.get j).holds helpers ctx = true →
          1 = j ∨ RankedBefore rules j 1 → j = 1 := by decide +kernel
      obtain rfl := hplace i hi.holds (hi.first 1 (by decide +kernel))
      have hcount : ((List.finRange rules.length).countP fun j =>
          (RankedBefore rules j 1 ∨ j = 1) ∧ (rules.get j).fails helpers ctx) = 1 := by
        decide +kernel
      rw [hafter.result (by decide +kernel), hcount]
      rfl
  exact ⟨hsame, hrun, (horder rules' hsame).trans hrun⟩

end TieredReport
