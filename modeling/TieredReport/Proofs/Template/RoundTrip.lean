/-
# Definitions of templates are read back

A template is written with a member for each field, except for texts that are absent, and read
with a default for each field that may be absent. Field by field the reader takes back what was
written, so a template is read back from its definition whatever it holds
(`Template.decode_toJson`). A definition that leaves fields to their defaults, or that is an
array of fields, is therefore the same for everyone who asks as the one that is written for what
was read from it (`Template.definition_roundTrips`).

Key theorems: `Json.variant_nameIn`, `Json.Reads.optional`, `Rule.decode_toJson`,
`Chart.decode_toJson`, `Section.decode_toJson`, `Styling.decode_toJson`,
`Template.decode_toJson`, `Template.definition_roundTrips`.
-/
import TieredReport.Compiler
import TieredReport.Proofs.Json.Records

namespace TieredReport

namespace Json

/-! ### Variants and absent texts -/

/-- A variant is read back from its name, if no other variant has that name. -/
theorem variant_nameIn {α : Type} [DecidableEq α] {variants : List (String × α)} {a : α}
    (hnames : (Fields.names variants).Nodup) (ha : a ∈ variants.map (·.2)) :
    variant variants (.text (nameIn variants a)) = .ok a := by
  obtain ⟨v, hfind, hmem, hv⟩ : ∃ v, variants.find? (fun v => v.2 = a) = some v ∧
      v ∈ variants ∧ v.2 = a := by
    obtain ⟨w, hw, hwa⟩ := List.mem_map.1 ha
    have hsome : (variants.find? fun v => v.2 = a).isSome = true :=
      List.find?_isSome.2 ⟨w, hw, decide_eq_true hwa⟩
    obtain ⟨v, hv⟩ := Option.isSome_iff_exists.1 hsome
    exact ⟨v, hv, List.mem_of_find?_eq_some hv, by simpa using List.find?_some hv⟩
  have hname : nameIn variants a = v.1 := by
    rw [nameIn, hfind]
    rfl
  rw [hname, variant, Fields.get?_of_mem hnames hmem, hv]

/-- A text that is left out where there is none is read back. -/
theorem Reads.optional (name : String) (s : Option String) :
    Reads (Json.fieldOr name none (nullable string)) (optionalMember name s) s := by
  cases s with
  | none => exact .absent name none _
  | some s => exact .fieldOr name none rfl

end Json

open Json (Reads)

theorem Tier.decode_name (t : Tier) : Json.variant Tier.all (.text t.name) = .ok t :=
  Json.variant_nameIn (by decide) (by cases t <;> decide)

theorem RuleAction.decode_name (a : RuleAction) :
    Json.variant RuleAction.all (.text a.name) = .ok a :=
  Json.variant_nameIn (by decide) (by cases a <;> decide)

theorem SectionKind.decode_name (k : SectionKind) :
    Json.variant SectionKind.all (.text k.name) = .ok k :=
  Json.variant_nameIn (by decide) (by cases k <;> decide)

theorem ChartKind.decode_name (k : ChartKind) :
    Json.variant ChartKind.all (.text k.name) = .ok k :=
  Json.variant_nameIn (by decide) (by cases k <;> decide)

/-! ### Records -/

theorem Rule.decode_toJson (r : Rule) : Rule.decode r.toJson = .ok r := by
  have hreads := Reads.map Rule.mk (.field "condition" (Json.string_text r.condition))
    |>.seq (.field "action" r.action.decode_name)
    |>.seq (.fieldOr "priority" 0 (Json.int32_toInt r.priority))
  exact Json.record_of_reads (by decide) hreads "ConditionalRule"

theorem Chart.decode_toJson (c : Chart) : Chart.decode c.toJson = .ok c := by
  have hreads := Reads.map Chart.mk (.field "id" (Json.string_text c.id))
    |>.seq (.field "type" c.kind.decode_name)
    |>.seq (.optional "title" c.title)
    |>.seq (.optional "data_path" c.dataPath)
    |>.seq (.fieldOr "options" .null (Json.anything_self c.options))
  exact Json.record_of_reads (by decide) hreads "Visualization"

theorem Section.decode_toJson (s : Section) : Section.decode s.toJson = .ok s := by
  have hreads := Reads.map Section.mk (.field "id" (Json.string_text s.id))
    |>.seq (.field "title" (Json.string_text s.title))
    |>.seq (.field "type" s.kind.decode_name)
    |>.seq (.fieldOr "order" 0 (Json.int32_toInt s.order))
    |>.seq (.fieldOr "required" false (Json.boolean_bool s.required))
    |>.seq (.fieldOr "rules" [] (Json.list_map Rule.decode_toJson s.rules))
    |>.seq (.optional "markup" s.markup)
    |>.seq (.fieldOr "visualizations" [] (Json.list_map Chart.decode_toJson s.charts))
  exact Json.record_of_reads (by decide) hreads "Section"

theorem Styling.decode_toJson (s : Styling) : Styling.decode s.toJson = .ok s := by
  let standard : Styling := {}
  have hreads := Reads.map Styling.mk
      (.fieldOr "font_family" standard.fontFamily (Json.string_text s.fontFamily))
    |>.seq (.fieldOr "primary_color" standard.primaryColor (Json.string_text s.primaryColor))
    |>.seq (.fieldOr "secondary_color" standard.secondaryColor
      (Json.string_text s.secondaryColor))
    |>.seq (.fieldOr "page_size" standard.pageSize (Json.string_text s.pageSize))
  exact Json.record_of_reads (by decide) hreads "Styling"

/-- **A template is read back from the definition that is written for it.** -/
theorem Template.decode_toJson (t : Template) : Template.decode t.toJson = .ok t := by
  have hreads := Reads.map Template.mk (.field "id" (Json.string_text t.id))
    |>.seq (.field "name" (Json.string_text t.name))
    |>.seq (.field "version" (Json.string_text t.version))
    |>.seq (.field "tier" t.tier.decode_name)
    |>.seq (.field "sections" (Json.list_map Section.decode_toJson t.sections))
    |>.seq (.fieldOr "styling" {} t.styling.decode_toJson)
    |>.seq (.optional "description" t.description)
  exact Json.record_of_reads (by decide) hreads "Template"

/-- **Definitions round-trip.** Every template is read back from what is written for it. So a
definition that is read, written and read again gives the same template, with the same key, the
same fault if it has one and the same profile, and a compiler answers to what was written as it
does to the definition itself. -/
theorem Template.definition_roundTrips :
    (∀ t : Template, Template.decode t.toJson = .ok t) ∧
      ∀ (j : Json) (t : Template), Template.decode j = .ok t →
        (∃ t', Template.decode t.toJson = .ok t' ∧ t' = t ∧ t'.cacheKey = t.cacheKey ∧
          t'.fault? = t.fault? ∧ Profile.ofTemplate t' = Profile.ofTemplate t) ∧
        ∀ (c : Compiler) (now : Nat), c.compileJson now t.toJson = c.compileJson now j := by
  refine ⟨Template.decode_toJson, fun j t hj => ⟨?_, fun c now => ?_⟩⟩
  · exact ⟨t, t.decode_toJson, rfl, rfl, rfl, rfl⟩
  · rw [Compiler.compileJson, Compiler.compileJson, hj, t.decode_toJson]

/-- A definition given as an array of fields, with a section that leaves most of its fields to
their defaults and a chart whose options are null. -/
theorem Template.definition_roundTrips_array : ∃ (j : Json) (t : Template),
    j = .array [.text "q", .text "Quarter", .text "2", .text "enterprise", .array [.ofMembers
      [("id", .text "a"), ("title", .text "A"), ("type", .text "risk_assessment"),
        ("markup", .null), ("visualizations", .array [.ofMembers
          [("id", .text "c"), ("type", .text "pie"), ("options", .null)]])]]] ∧
      Template.decode j = .ok t ∧ t.styling = {} ∧
      (∃ t', Template.decode t.toJson = .ok t' ∧ t' = t ∧ t'.cacheKey = t.cacheKey ∧
        t'.fault? = t.fault? ∧ Profile.ofTemplate t' = Profile.ofTemplate t) ∧
      t.cacheKey = "q:2" ∧ t.fault? = none ∧ (Profile.ofTemplate t).score = 15 := by
  let t : Template :=
    { id := "q", name := "Quarter", version := "2", tier := .enterprise
      sections := [
        { id := "a", title := "A", kind := .riskAssessment, order := 0, required := false
          rules := [], markup := none
          charts := [
            { id := "c", kind := .pie, title := none, dataPath := none, options := .null }] }]
      styling := {}, description := none }
  refine ⟨_, t, rfl, ?read, rfl, (Template.definition_roundTrips.2 _ t ?read).1, ?_⟩
  case read => rfl
  exact ⟨by decide +kernel, by decide +kernel, by decide +kernel⟩

end TieredReport
