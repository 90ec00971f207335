/-
# A condition in a rule and in a block

A condition is written in two places: in a rule, where braces around it may be left
out, and in the opening tag of a block. On the one way it is trimmed and rid of its
braces, on the other it is found as the body of a tag, trimmed, and rid of the
keyword. Both ways lead to the same expression as long as the condition could stand
in a tag at all, that is, as long as the tag does not end within it: the condition
itself then does not end in braces (`parseCondition_of_clear`), and the braces that
were put around it are the ones that are taken off (`parseCondition_braced`).

So a rule that excludes its section does so exactly where a block with the same
condition shows its content, and where a helper fails or crashes it does so in both
(`excludes_iff_shown`).

Key definitions: `Markup.braced`.
Key theorems: `Markup.parseCondition_of_clear`, `Markup.parseCondition_braced`,
`Markup.parse_conditional`, `excludes_iff_shown`.
-/
import TieredReport.Proofs.Markup.Recovery
import TieredReport.Proofs.Markup.Rendering
import TieredReport.Rule

namespace TieredReport

namespace Markup

/-- A text between double braces. -/
def braced (s : String) : String := "\x7b\x7b" ++ s ++ "\x7d\x7d"

theorem toList_braced (s : String) : (braced s).toList = tagSpelling s.toList := by
  simp [braced, tagSpelling]

/-! ### The condition of a rule -/

theorem eq_append_of_afterStart? {start : List Char} : ∀ {s rest : List Char},
    Text.afterStart? start s = some rest → s = start ++ rest := by
  induction start with
  | nil =>
    intro s rest h
    exact Option.some.inj h
  | cons p start ih =>
    intro s rest h
    cases s with
    | nil => cases h
    | cons c s =>
      unfold Text.afterStart? at h
      split at h
      · next hpc => rw [hpc, ih h, List.cons_append]
      · cases h

theorem beforeEnd?_append (ending s : List Char) :
    Text.beforeEnd? ending (s ++ ending) = some s := by
  rw [Text.beforeEnd?, List.reverse_append, afterStart?_append]
  simp

theorem eq_append_of_beforeEnd? {ending s start : List Char}
    (h : Text.beforeEnd? ending s = some start) : s = start ++ ending := by
  obtain ⟨rest, hrest, rfl⟩ := Option.map_eq_some_iff.1 h
  have hs := eq_append_of_afterStart? hrest
  rw [← List.reverse_reverse s, hs, List.reverse_append, List.reverse_reverse]

/-- Braces are taken off where they stand on both sides. -/
theorem withoutBraces_tagSpelling (s : List Char) : withoutBraces (tagSpelling s) = s := by
  have hstart : Text.afterStart? ['{', '{'] (tagSpelling s) = some (s ++ ['}', '}']) :=
    afterStart?_append ['{', '{'] _
  rw [withoutBraces, hstart, Option.bind_some, beforeEnd?_append]
  rfl

/-- A text that does not end in braces is left as it is. -/
theorem withoutBraces_of_not_suffix {s : List Char} (h : ¬ ['}', '}'] <:+ s) :
    withoutBraces s = s := by
  rw [withoutBraces]
  cases hstart : Text.afterStart? ['{', '{'] s with
  | none => rfl
  | some rest =>
    rw [Option.bind_some]
    cases hend : Text.beforeEnd? ['}', '}'] rest with
    | none => rfl
    | some inner =>
      refine absurd ⟨'{' :: '{' :: inner, ?_⟩ h
      rw [eq_append_of_afterStart? hstart, eq_append_of_beforeEnd? hend]
      rfl

theorem isInfix_trim (s : List Char) : Text.trim s <:+: s :=
  (List.rdropWhile_prefix Text.isBlank _).isInfix.trans (List.dropWhile_suffix _).isInfix

/-- A condition within which no tag ends is read as it stands. -/
theorem parseCondition_of_clear {s : String} (h : Clear '}' s.toList) :
    Expression.parseCondition s = .parse s.toList := by
  have hend : ¬ ['}', '}'] <:+ Text.trim s.toList := fun hsuffix =>
    h.undoubled (hsuffix.isInfix.trans (isInfix_trim s.toList))
  rw [Expression.parseCondition, withoutBraces_of_not_suffix hend, parse_trim]

/-- A condition in braces is read as what stands between them. -/
theorem parseCondition_braced (s : String) :
    Expression.parseCondition (braced s) = .parse s.toList := by
  have htrim : Text.trim (tagSpelling s.toList) = tagSpelling s.toList := by
    refine Text.trim_eq_self rfl ?_
    have hend : tagSpelling s.toList = ('{' :: '{' :: s.toList ++ ['}']) ++ ['}'] := by
      simp [tagSpelling]
    rw [hend, List.getLast?_concat]
    rfl
  rw [Expression.parseCondition, toList_braced, htrim, withoutBraces_tagSpelling]

/-! ### The condition of a block -/

/-- A block around a text, from its source. -/
theorem parse_conditional {cap : Nat} (hcap : 1 ≤ cap) {condition shown : String}
    (hcondition : Clear '}' condition.toList) (hne : shown ≠ "") (hshown : Clear '{' shown.toList) :
    parse cap (braced ("#if " ++ condition) ++ shown ++ braced "/if") =
      ⟨[.cond (.parse condition.toList) [.text shown] []], 0⟩ := by
  let block : Element := .block .cond condition.toList [.text shown.toList] []
  have hblock : WellFormeds [block] := by
    have hne' : shown.toList ≠ [] := fun h => hne (String.toList_eq_nil_iff.1 h)
    simp only [block, WellFormeds, Element.WellFormed]
    exact ⟨⟨hcondition, ⟨⟨hne', hshown⟩, fun _ => rfl, trivial⟩, trivial⟩, fun _ => rfl, trivial⟩
  have hsource : braced ("#if " ++ condition) ++ shown ++ braced "/if" =
      String.ofList (print [block]) := by
    apply String.toList_injective
    rw [String.toList_append, String.toList_append, toList_braced, toList_braced,
      String.toList_ofList, print_cons, print_block, print_cons, Element.print_text]
    simp [print, written, printElse_nil, BlockKind.openBody, BlockKind.closeBody,
      BlockKind.keyword]
  have hnodes : nodes [block] = [.cond (.parse condition.toList) [.text shown] []] := by
    simp [block, nodes, Element.node, Node.block]
  have hdepth : nestings (nodes [block]) ≤ cap := by
    rw [hnodes]
    simpa [nestings, Node.nesting] using hcap
  obtain ⟨hcut, hcount⟩ := cutTree_eq_nodes hblock hdepth
  rw [hsource, parse_print_elements cap hblock, hcut, hcount, hnodes]

/-- The block is rendered by asking its condition. -/
theorem Renderer.renderSource_conditional (r : Renderer) (hcap : 1 ≤ r.blockCap) (ctx : Context)
    {condition shown : String} (hcondition : Clear '}' condition.toList) (hne : shown ≠ "")
    (hshown : Clear '{' shown.toList) :
    r.renderSource ctx (braced ("#if " ++ condition) ++ shown ++ braced "/if") =
      (holds r.helpers ctx (.parse condition.toList)).bind fun b =>
        Run.pure (if b then shown else "") := by
  obtain ⟨blocks, hblocks⟩ : ∃ blocks, r.blockCap = blocks + 1 := ⟨r.blockCap - 1, by omega⟩
  have hnone : Run.count (.tooDeep 0) = Run.pure () := rfl
  rw [Renderer.renderSource, parse_conditional hcap hcondition hne hshown, hnone]
  dsimp only
  rw [Run.pure_bind, Renderer.render, hblocks, render_cond]
  congr 1
  funext b
  cases b with
  | false => exact render_nil ..
  | true => exact render_text ..

end Markup

/-! ### Rules and blocks -/

/-- A rule on its own that excludes its section does so where its condition holds. -/
theorem includes_excluding (helpers : HelperRegistry) (ctx : Context) (condition : String)
    (priority : Int32) :
    (RuleSet.ofRules [⟨condition, .excludes, priority⟩]).includes helpers ctx =
      (Markup.holds helpers ctx (.parseCondition condition)).bind fun b => Run.pure (!b) := by
  have hrules : (RuleSet.ofRules [⟨condition, .excludes, priority⟩]).rules =
      [⟨.parseCondition condition, .excludes, priority⟩] := List.mergeSort_singleton _
  rw [RuleSet.includes, hrules, RuleSet.decideBy]
  congr 1
  funext b
  cases b <;> rfl

/-- **Rules and blocks decide alike.** Let a condition be such that no tag ends in it, and let a rule
give it with or without braces around it. The rule excludes its section if and only if a block with
the condition shows its text, it leaves the section if and only if the block shows nothing, and one
crashes if and only if the other does; and the same helper failures are counted. -/
theorem excludes_iff_shown (r : Markup.Renderer) (hcap : 1 ≤ r.blockCap) (ctx : Context)
    {condition written : String} (hcondition : Markup.Clear '}' condition.toList)
    (hwritten : written = condition ∨ written = Markup.braced condition) (priority : Int32) :
    let rule := (RuleSet.ofRules [⟨written, .excludes, priority⟩]).includes r.helpers ctx
    let block := r.renderSource ctx
      (Markup.braced ("#if " ++ condition) ++ "X" ++ Markup.braced "/if")
    (rule.outcome = .ok false ↔ block.outcome = .ok "X") ∧
    (rule.outcome = .ok true ↔ block.outcome = .ok "") ∧
    (∀ reason, rule.outcome = .error reason ↔ block.outcome = .error reason) ∧
    rule.failures = block.failures := by
  intro rule block
  let asked := Markup.holds r.helpers ctx (.parse condition.toList)
  have hread : Markup.Expression.parseCondition written = .parse condition.toList := by
    rcases hwritten with rfl | rfl
    · exact Markup.parseCondition_of_clear hcondition
    · exact Markup.parseCondition_braced condition
  have hrule : rule = asked.bind fun b => Run.pure (!b) := by
    have hincludes := includes_excluding r.helpers ctx written priority
    rwa [hread] at hincludes
  have hblock : block = asked.bind fun b => Run.pure (if b then "X" else "") :=
    r.renderSource_conditional hcap ctx hcondition (by decide)
      (Markup.clear_singleton.2 (by decide))
  rw [hrule, hblock]
  cases hasked : asked.outcome with
  | error reason => simp [Run.bind, hasked]
  | ok b => cases b <;> simp [Run.bind, Run.pure, hasked]

/-- Of a condition with braces in a quoted argument and blanks around it the helper fails: the rule
leaves its section, the block shows nothing, and each counts the failure. A condition without braces
holds: the rule excludes its section, the block shows its text, and neither counts anything. -/
theorem excludes_iff_shown_refused_and_met :
    let refuse : List Value → Reply := fun _ => .failure (.custom "refuse" "")
    let r : Markup.Renderer := ⟨(HelperRegistry.empty {}).register "refuse" refuse, .empty 1, 0, 1⟩
    let ctx : Context := .root (.map [("ready", .bool true)])
    let rule := fun written => (RuleSet.ofRules [⟨written, .excludes, 0⟩]).includes r.helpers ctx
    let block := fun condition => r.renderSource ctx
      (Markup.braced ("#if " ++ condition) ++ "X" ++ Markup.braced "/if")
    let refused := " refuse \"\x7b\x7b\" "
    let met := " ready"
    1 ≤ r.blockCap ∧
      (Markup.Clear '}' refused.toList ∧
        (rule (Markup.braced refused)).outcome = .ok true ∧ (block refused).outcome = .ok "" ∧
        (rule (Markup.braced refused)).failures = { helper := 1 } ∧
        (block refused).failures = { helper := 1 }) ∧
      Markup.Clear '}' met.toList ∧
        (rule met).outcome = .ok false ∧ (block met).outcome = .ok "X" ∧
        (rule met).failures = .none ∧ (block met).failures = .none := by
  intro refuse r ctx rule block refused met
  have hcap : 1 ≤ r.blockCap := Nat.le_refl 1
  have hrefused : Markup.Clear '}' refused.toList := Markup.clear_of_not_mem (by decide)
  have hmet : Markup.Clear '}' met.toList := Markup.clear_of_not_mem (by decide)
  obtain ⟨-, hleaves, -, hfailures⟩ := excludes_iff_shown r hcap ctx hrefused (Or.inr rfl) 0
  obtain ⟨hexcludes, -, -, hfailures'⟩ := excludes_iff_shown r hcap ctx hmet (Or.inl rfl) 0
  obtain ⟨hrule, hcount⟩ : (rule (Markup.braced refused)).outcome = .ok true ∧
      (rule (Markup.braced refused)).failures = { helper := 1 } := by
    decide +kernel
  obtain ⟨hrule', hcount'⟩ : (rule met).outcome = .ok false ∧ (rule met).failures = .none := by
    decide +kernel
  exact ⟨hcap, ⟨hrefused, hrule, hleaves.1 hrule, hcount, hfailures.symm.trans hcount⟩,
    hmet, hrule', hexcludes.1 hrule', hcount', hfailures'.symm.trans hcount'⟩

end TieredReport
