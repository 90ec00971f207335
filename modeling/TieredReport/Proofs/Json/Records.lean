/-
# Records are read back field by field

What is written for a field is read back by the reader of that field, and the members of a
record are those of its fields, in order of declaration (`Reads`). No two fields have the same
name, so each finds its own member wherever the order of names puts it, and a record that is
read back in each of its fields is read back as a whole (`record_of_reads`). Nothing here
depends on how many fields a record has, or on which of them may be left out.

Key definitions: `Json.FieldReader.names`, `Json.Reads`.
Key theorems: `Fields.get?_ofList`, `Json.Reads.seq`, `Json.record_of_reads`, `Json.list_map`.
-/
import Mathlib.Data.List.Induction
import TieredReport.Json.Decode

namespace TieredReport

namespace Fields

universe u

variable {α : Type u} {fs gs : Fields α} {name : String}

/-! ### Looking up members -/

/-- What stands first is found first. -/
theorem get?_append (fs gs : Fields α) (name : String) :
    get? (fs ++ gs) name = (get? fs name).or (get? gs name) := by
  induction fs with
  | nil => rfl
  | cons f rest ih =>
    rw [List.cons_append, get?, get?, ih]
    by_cases hn : f.1 = name
    · rw [if_pos hn, if_pos hn, Option.some_or]
    · rw [if_neg hn, if_neg hn]

/-- Of members of different names each is found under its own. -/
theorem get?_of_mem {m : String × α} (hnames : (names fs).Nodup) (h : m ∈ fs) :
    get? fs m.1 = some m.2 := by
  induction fs with
  | nil => cases h
  | cons f rest ih =>
    have hcons : (f.1 :: names rest).Nodup := hnames
    obtain ⟨hnew, hrest⟩ := List.nodup_cons.1 hcons
    rw [get?]
    rcases List.mem_cons.1 h with rfl | h
    · rw [if_pos rfl]
    · have hmem : m.1 ∈ names rest := List.mem_map_of_mem h
      have hne : f.1 ≠ m.1 := fun heq => hnew (heq ▸ hmem)
      rw [if_neg hne, ih hrest h]

theorem get?_eq_none (h : name ∉ names fs) : get? fs name = none := by
  cases hget : get? fs name with
  | none => rfl
  | some a => exact absurd (List.mem_map_of_mem (mem_of_get? hget)) h

/-- A member whose name is chosen is found among the chosen ones, and no other is. -/
theorem get?_filter (chosen : String → Bool) (fs : Fields α) (name : String) :
    get? (fs.filter fun f => chosen f.1) name = if chosen name then get? fs name else none := by
  induction fs with
  | nil => simp [get?]
  | cons f rest ih =>
    rw [List.filter_cons]
    by_cases hn : f.1 = name
    · subst hn
      by_cases hc : chosen f.1 = true
      · rw [if_pos hc, if_pos hc, get?, if_pos rfl, get?, if_pos rfl]
      · rw [if_neg hc, ih, if_neg hc, if_neg hc]
    · by_cases hc : chosen f.1 = true
      · rw [if_pos hc, get?, if_neg hn, ih, get?, if_neg hn]
      · rw [if_neg hc, ih, get?, if_neg hn]

theorem mem_insert {m : String × α} {a : α} (h : m ∈ insert fs name a) :
    m = (name, a) ∨ m ∈ fs := by
  fun_induction insert fs name a with
  | case1 name a => exact .inl (List.mem_singleton.1 h)
  | case2 b rest name a => exact (List.mem_cons.1 h).imp_right (List.mem_cons_of_mem _)
  | case3 n b rest name a hn hlt => exact List.mem_cons.1 h
  | case4 n b rest name a hn hlt ih =>
    rcases List.mem_cons.1 h with rfl | h
    · exact .inr List.mem_cons_self
    · exact (ih h).imp_right (List.mem_cons_of_mem _)

theorem ofList_append_singleton (ms : List (String × α)) (m : String × α) :
    ofList (ms ++ [m]) = insert (ofList ms) m.1 m.2 := by
  simp [ofList]

/-- Putting members in order adds none. -/
theorem mem_of_mem_ofList {ms : List (String × α)} {m : String × α} (h : m ∈ ofList ms) :
    m ∈ ms := by
  induction ms using List.reverseRecOn with
  | nil => exact h
  | append_singleton ms last ih =>
    rw [ofList_append_singleton] at h
    rcases mem_insert h with rfl | h
    · exact List.mem_append_right _ List.mem_cons_self
    · exact List.mem_append_left _ (ih h)

/-- **Members of different names keep their values when they are put in order.** -/
theorem get?_ofList {ms : List (String × α)} (hnames : (names ms).Nodup) (name : String) :
    get? (ofList ms) name = get? ms name := by
  induction ms using List.reverseRecOn with
  | nil => rfl
  | append_singleton ms last ih =>
    have hsplit : (names ms ++ [last.1]).Nodup := by simpa [names] using hnames
    obtain ⟨hms, -, hnew⟩ := List.nodup_append.1 hsplit
    rw [ofList_append_singleton, get?_insert, ih hms, get?_append, get?]
    by_cases hn : last.1 = name
    · have habsent : name ∉ names ms := fun hmem => hnew _ hmem _ List.mem_cons_self hn.symm
      rw [if_pos hn, if_pos hn, get?_eq_none habsent, Option.none_or]
    · rw [if_neg hn, if_neg hn]
      exact (Option.or_none).symm

end Fields

namespace Json

variable {α β : Type} {ms ms' : List (String × Json)} {a : α} {name : String}

/-! ### Fields -/

/-- The names of the fields of a record. -/
def FieldReader.names (r : FieldReader α) : List String := r.checks.map (·.1)

/-- The members `ms`, which are written for the fields of `r`, are read back as `a`. That no two
fields have the same name is asked for where it is needed, so that it is checked only once, of a
whole record. -/
structure Reads (r : FieldReader α) (ms : List (String × Json)) (a : α) : Prop where
  /-- A field has at most one member, and the members stand in order of declaration. -/
  names : (Fields.names ms).Sublist r.names
  /-- Each member fits its field. -/
  fits : r.names.Nodup → ∀ m ∈ ms, ∀ c ∈ r.checks, c.1 = m.1 → c.2 m.2 = none
  /-- A record with these members, and whatever else under other names, makes `a`. -/
  builds : r.names.Nodup → ∀ g : Given,
    (∀ name ∈ r.names, Fields.get? g.members name = Fields.get? ms name) → r.build g = .ok a

namespace Reads

theorem pure (a : α) : Reads (Pure.pure a) [] a where
  names := List.Sublist.refl _
  fits _ _ hm := absurd hm List.not_mem_nil
  builds _ _ _ := rfl

/-- **Fields that are read back one by one are read back together.** -/
theorem seq {f : FieldReader (α → β)} {x : FieldReader α} {h : α → β} (hf : Reads f ms h)
    (hx : Reads x ms' a) : Reads (f <*> x) (ms ++ ms') (h a) := by
  have hchecks : (f <*> x).checks = f.checks ++ x.checks := rfl
  have hnames : (f <*> x).names = f.names ++ x.names := List.map_append
  refine ⟨?_, fun hnodup m hm c hc hname => ?_, fun hnodup g hg => ?_⟩
  · rw [hnames, Fields.names, List.map_append]
    exact hf.names.append hx.names
  · rw [hnames] at hnodup
    obtain ⟨hnodupF, hnodupX, hapart⟩ := List.nodup_append.1 hnodup
    rw [hchecks] at hc
    rcases List.mem_append.1 hm with hm | hm
    · have hmine : m.1 ∈ f.names := hf.names.subset (List.mem_map_of_mem hm)
      rcases List.mem_append.1 hc with hc | hc
      · exact hf.fits hnodupF m hm c hc hname
      · exact absurd hname.symm (hapart _ hmine _ (List.mem_map_of_mem hc))
    · have hmine : m.1 ∈ x.names := hx.names.subset (List.mem_map_of_mem hm)
      rcases List.mem_append.1 hc with hc | hc
      · exact absurd hname (hapart _ (List.mem_map_of_mem hc) _ hmine)
      · exact hx.fits hnodupX m hm c hc hname
  · rw [hnames] at hnodup hg
    obtain ⟨hnodupF, hnodupX, hapart⟩ := List.nodup_append.1 hnodup
    -- no member of the one side has the name of a field of the other
    have hbuildF : f.build g = .ok h := by
      refine hf.builds hnodupF g fun name hname => ?_
      have habsent : name ∉ Fields.names ms' := fun hmem =>
        hapart _ hname _ (hx.names.subset hmem) rfl
      rw [hg name (List.mem_append_left _ hname), Fields.get?_append,
        Fields.get?_eq_none habsent, Option.or_none]
    have hbuildX : x.build g = .ok a := by
      refine hx.builds hnodupX g fun name hname => ?_
      have habsent : name ∉ Fields.names ms := fun hmem =>
        hapart _ (hf.names.subset hmem) _ hname rfl
      rw [hg name (List.mem_append_right _ hname), Fields.get?_append,
        Fields.get?_eq_none habsent, Option.none_or]
    show f.build g <*> x.build g = _
    rw [hbuildF, hbuildX]
    rfl

theorem map (h : α → β) {x : FieldReader α} (hx : Reads x ms a) : Reads (h <$> x) ms (h a) :=
  (pure h).seq hx

variable {d : Decoder α} {j : Json}

/-- A reader of one field, which makes `a` of its member. -/
theorem single {r : FieldReader α} (hchecks : r.checks = [(name, fault? d)]) (hd : d j = .ok a)
    (hbuild : ∀ g : Given, Fields.get? g.members name = some j → r.build g = .ok a) :
    Reads r [(name, j)] a := by
  have hnames : r.names = [name] := by rw [FieldReader.names, hchecks, List.map_singleton]
  refine ⟨?_, fun _ m hm c hc _ => ?_, fun _ g hg => hbuild g ?_⟩
  · rw [hnames]
    exact List.Sublist.refl _
  · rw [hchecks] at hc
    rw [List.mem_singleton.1 hm, List.mem_singleton.1 hc]
    show fault? d j = none
    rw [fault?, hd]
  · rw [hnames] at hg
    rw [hg name List.mem_cons_self, Fields.get?, if_pos rfl]

/-- A field that has to be there is read back from its member. -/
theorem field (name : String) (hd : d j = .ok a) : Reads (field name d) [(name, j)] a :=
  single rfl hd fun g hget => by simp only [Json.field, hget, hd]

/-- A field with a default is read back from its member, whatever the default is. -/
theorem fieldOr (name : String) (default : α) (hd : d j = .ok a) :
    Reads (fieldOr name default d) [(name, j)] a :=
  single rfl hd fun g hget => by simp only [Json.fieldOr, hget, hd]

/-- A field without a member takes its default. -/
theorem absent (name : String) (default : α) (d : Decoder α) :
    Reads (Json.fieldOr name default d) [] default where
  names := List.nil_sublist _
  fits _ _ hm := absurd hm List.not_mem_nil
  builds := by
    intro _ g hg
    have hget : Fields.get? g.members name = none := by
      rw [hg name List.mem_cons_self, Fields.get?]
    simp only [Json.fieldOr, hget]

end Reads

/-! ### Records -/

/-- **A record is read back where its fields are.** -/
theorem record_of_reads {r : FieldReader α} (hnames : r.names.Nodup) (h : Reads r ms a)
    (name : String) : record name r (.ofMembers ms) = .ok a := by
  let g : Given :=
    ⟨name, r.names, none, (Fields.ofList ms).filter fun m => r.names.contains m.1⟩
  have hfault : r.firstFault? g = none := by
    refine List.findSome?_eq_none_iff.2 fun m hm => ?_
    have hmem : m ∈ ms := Fields.mem_of_mem_ofList (List.mem_filter.1 hm).1
    cases hcheck : Fields.get? r.checks m.1 with
    | none => rfl
    | some check => exact h.fits hnames m hmem (m.1, check) (Fields.mem_of_get? hcheck) rfl
  have hbuild : r.build g = .ok a := by
    refine h.builds hnames g fun field hfield => ?_
    have hchosen : r.names.contains field = true := List.contains_iff_mem.2 hfield
    have hget : Fields.get? g.members field = Fields.get? (Fields.ofList ms) field := by
      rw [Fields.get?_filter r.names.contains, if_pos hchosen]
    rw [hget, Fields.get?_ofList (h.names.nodup hnames)]
  have hgiven : Given.of name (r.checks.map (·.1)) (.ofMembers ms) = .ok g := rfl
  simp only [record, hgiven, bind, Except.bind, hfault, hbuild]
  rfl

/-! ### Values -/

theorem string_text (s : String) : string (.text s) = .ok s := rfl

theorem boolean_bool (b : Bool) : boolean (.bool b) = .ok b := rfl

theorem anything_self (j : Json) : anything j = .ok j := rfl

theorem int32_toInt (n : Int32) : int32 (.integer n.toInt) = .ok n := by
  have hlow : Int32.minValue.toInt ≤ n.toInt := Int32.minValue_le_toInt n
  have hhigh : n.toInt ≤ Int32.maxValue.toInt := Int32.toInt_le n
  have hread : integerIn "i32" Int32.minValue.toInt Int32.maxValue.toInt (.integer n.toInt) =
      .ok n.toInt := if_pos ⟨hlow, hhigh⟩
  rw [int32, hread, Except.map, Int32.ofInt_toInt]

/-- A list is read back where its items are. -/
theorem list_map {item : Decoder α} {write : α → Json} (h : ∀ a, item (write a) = .ok a)
    (as : List α) : list item (.array (as.map write)) = .ok as := by
  show (as.map write).mapM item = .ok as
  induction as with
  | nil => rfl
  | cons a as ih =>
    rw [List.map_cons, List.mapM_cons, h a, ih]
    rfl

end Json

end TieredReport
