/-
# Two ways to follow a dotted path

A map follows a path by looking up its segments one after the other. A context cuts the path at its
first dot, takes what stands before it as a bound name, and lets the value of that name follow the
rest. Where the members of the map are what the context binds, both come to the same
(`resolve_root_of_rest`, `resolve_root_of_name`), save for a path that ends with its first dot. There
the map still looks up the empty name behind the dot; but no rest is left to be followed, and the
context finds nothing (`resolve_root_of_no_rest`). So the two differ exactly where something has the
empty name (`resolve_root_eq_iff`).

Key definition: `Context.LeadsToEmptyName`.
Key theorems: `Value.descend_map_cons`, `Context.resolve_root_of_rest`,
`Context.resolve_root_of_no_rest`, `Context.resolve_root_eq_iff`.
-/
import TieredReport.Proofs.Context.Merging

namespace TieredReport

namespace Value

variable {members : Scope} {path : String} {name rest : List Char}

/-- A path that is not empty is followed segment by segment. -/
theorem getPath?_eq_descend (v : Value) (h : path ≠ "") :
    v.getPath? path = v.descend (segments path.toList) := by
  rw [getPath?, if_neg]
  rwa [String.isEmpty_iff]

/-- A map looks up the first segment among its members, and the value there follows the others. -/
theorem descend_map_cons (members : Scope) (first : String) (others : List String) :
    (map members).descend (first :: others) =
      (Fields.get? members first).bind (·.descend others) := by
  rw [descend, List.foldlM_cons]
  rfl

/-- What stands before the first dot of a path is its first segment. -/
theorem segments_of_cut (h : Text.cut? '.' path.toList = some (name, rest)) :
    segments path.toList = String.ofList name :: segments rest := by
  rw [segments, Text.splitOn_eq_cut?, h]
  rfl

/-- A path without a dot is its only segment. -/
theorem segments_of_no_cut (h : Text.cut? '.' path.toList = none) :
    segments path.toList = [path] := by
  rw [segments, Text.splitOn_eq_cut?, h, List.map_singleton, String.ofList_toList]

/-- Only a map has something under the empty name. -/
theorem get?_empty_eq_some_iff {v found : Value} :
    v.get? "" = some found ↔ ∃ inner, v = map inner ∧ Fields.get? inner "" = some found := by
  cases v with
  | map inner =>
    constructor
    · intro h
      exact ⟨inner, rfl, h⟩
    · rintro ⟨inner', heq, h⟩
      cases heq
      exact h
  | array items =>
    -- the empty text is no index
    have hindex : Number.nat? Number.maxNat64 [] = none := rfl
    simp [get?, hindex]
  | _ => simp [get?]

end Value

namespace Context

variable {members : Scope} {path : String} {name rest : List Char}

/-! ### Where the first dot is -/

/-- A path without a dot is a name. -/
theorem resolve_root_of_name (hpath : path ≠ "") (htrim : Text.trim path.toList = path.toList)
    (h : Text.cut? '.' path.toList = none) :
    (root (.map members)).resolve path = (Value.map members).getPath? path := by
  have hne : ¬ path.toList.isEmpty = true := by simpa using hpath
  have hdescend : (Value.map members).getPath? path = Fields.get? members path := by
    rw [Value.getPath?_eq_descend _ hpath, Value.segments_of_no_cut h, Value.descend_map_cons]
    exact Option.bind_fun_some _
  have hresolve : (root (.map members)).resolve path = (root (.map members)).get? path := by
    simp [resolve, htrim, hne, h]
  rw [hresolve, hdescend, get?_root_map]

/-- A name is looked up, and its value follows what stands behind the first dot. -/
theorem resolve_root_of_cut (hpath : path ≠ "") (htrim : Text.trim path.toList = path.toList)
    (h : Text.cut? '.' path.toList = some (name, rest)) :
    (root (.map members)).resolve path =
      (Fields.get? members (String.ofList name)).bind (·.getPath? (String.ofList rest)) := by
  have hne : ¬ path.toList.isEmpty = true := by simpa using hpath
  simp [resolve, htrim, hne, h, get?_root_map]

/-- So does the map, even if nothing stands there. -/
theorem getPath?_map_of_cut (hpath : path ≠ "")
    (h : Text.cut? '.' path.toList = some (name, rest)) :
    (Value.map members).getPath? path =
      (Fields.get? members (String.ofList name)).bind (·.descend (Value.segments rest)) := by
  rw [Value.getPath?_eq_descend _ hpath, Value.segments_of_cut h, Value.descend_map_cons]

/-- **Where something stands behind the first dot**, the two ways come to the same. -/
theorem resolve_root_of_rest (hpath : path ≠ "") (htrim : Text.trim path.toList = path.toList)
    (h : Text.cut? '.' path.toList = some (name, rest)) (hrest : rest ≠ []) :
    (root (.map members)).resolve path = (Value.map members).getPath? path := by
  have hrest' : String.ofList rest ≠ "" := by simpa using hrest
  rw [resolve_root_of_cut hpath htrim h, getPath?_map_of_cut hpath h]
  congr 1
  funext v
  rw [Value.getPath?_eq_descend v hrest', String.toList_ofList]

/-- **Where nothing stands behind the first dot**, the context finds nothing, and the map looks up
the empty name. -/
theorem resolve_root_of_no_rest (hpath : path ≠ "") (htrim : Text.trim path.toList = path.toList)
    (h : Text.cut? '.' path.toList = some (name, [])) :
    (root (.map members)).resolve path = none ∧
      (Value.map members).getPath? path =
        (Fields.get? members (String.ofList name)).bind (·.get? "") := by
  constructor
  · rw [resolve_root_of_cut hpath htrim h]
    exact Option.bind_fun_none _
  · rw [getPath?_map_of_cut hpath h]
    congr 1
    funext v
    have hsegments : Value.segments [] = [""] := rfl
    rw [hsegments, Value.descend, List.foldlM_cons]
    exact bind_pure _

/-! ### Where the two ways part -/

/-- A path is a name with its only dot behind it, and leads from a map to a member with the empty
name. -/
def LeadsToEmptyName (members : Scope) (path : String) : Prop :=
  ∃ (name : String) (inner : Scope) (found : Value), path = name ++ "." ∧ '.' ∉ name.toList ∧
    Fields.get? members name = some (.map inner) ∧ Fields.get? inner "" = some found

/-- Such a path ends with its first dot, and the map finds something behind it. -/
theorem leadsToEmptyName_iff (hpath : path ≠ "") : LeadsToEmptyName members path ↔
    ∃ name, Text.cut? '.' path.toList = some (name, []) ∧
      ((Fields.get? members (String.ofList name)).bind (·.get? "")).isSome = true := by
  constructor
  · rintro ⟨name, inner, found, rfl, hname, hmember, hfound⟩
    refine ⟨name.toList, ?_, ?_⟩
    · rw [String.toList_append]
      exact Text.cut?_append hname []
    · rw [String.ofList_toList, hmember, Option.bind_some, Value.get?, hfound]
      rfl
  · rintro ⟨name, hcut, hsome⟩
    obtain ⟨found, hfound⟩ := Option.isSome_iff_exists.1 hsome
    obtain ⟨v, hmember, hv⟩ := Option.bind_eq_some_iff.1 hfound
    obtain ⟨inner, rfl, hinner⟩ := Value.get?_empty_eq_some_iff.1 hv
    obtain ⟨hspelling, hname⟩ := Text.cut?_eq_some hcut
    refine ⟨String.ofList name, inner, found, ?_, ?_, hmember, hinner⟩
    · apply String.toList_inj.1
      rw [hspelling, String.toList_append, String.toList_ofList]
      rfl
    · rwa [String.toList_ofList]

/-- **A context and its map follow a path alike, except to an empty name behind the only dot.** A
path that is neither empty nor has blanks around it is followed by the map segment by segment; and
the context made of the map comes to the same, if and only if the path does not end with its first
dot before a member with the empty name. -/
theorem resolve_root_eq_iff (members : Scope) (path : String) (hpath : path ≠ "")
    (htrim : Text.trim path.toList = path.toList) :
    (Value.map members).getPath? path =
        (Value.map members).descend (Value.segments path.toList) ∧
      ((root (.map members)).resolve path = (Value.map members).getPath? path ↔
        ¬ LeadsToEmptyName members path) := by
  refine ⟨Value.getPath?_eq_descend _ hpath, ?_⟩
  rw [leadsToEmptyName_iff hpath]
  cases hcut : Text.cut? '.' path.toList with
  | none => simp [resolve_root_of_name hpath htrim hcut]
  | some cut =>
    obtain ⟨name, rest⟩ := cut
    by_cases hrest : rest = []
    · subst hrest
      obtain ⟨hnone, hlookup⟩ : (root (.map members)).resolve path = none ∧ _ :=
        resolve_root_of_no_rest hpath htrim hcut
      rw [hnone, hlookup]
      cases hfound : (Fields.get? members (String.ofList name)).bind (·.get? "") <;> simp [hfound]
    · simp [resolve_root_of_rest hpath htrim hcut hrest, hrest]

/-- An empty segment between two others makes no difference. -/
theorem resolve_root_eq_empty_segment :
    let members : Scope := [("a", .map [("", .map [("b", .bool true)])])]
    ((Value.map members).getPath? "a..b" = some (.bool true) ∧
        (Value.map members).getPath? "a..b" = (Value.map members).descend ["a", "", "b"]) ∧
      (root (.map members)).resolve "a..b" = (Value.map members).getPath? "a..b" := by
  intro members
  have hpath : "a..b" ≠ "" := by decide
  obtain ⟨hdescend, hiff⟩ := resolve_root_eq_iff members "a..b" hpath rfl
  refine ⟨⟨rfl, hdescend⟩, hiff.2 ?_⟩
  rw [leadsToEmptyName_iff hpath]
  rintro ⟨name, hcut, -⟩
  cases hcut

/-- The path `a.` leads to the member with the empty name, but a context finds nothing there. -/
theorem resolve_root_ne_last_dot :
    let members : Scope := [("a", .map [("", .bool true)])]
    ("a." ≠ "" ∧ Text.trim "a.".toList = "a.".toList) ∧
      (Value.map members).getPath? "a." = some (.bool true) ∧
      (root (.map members)).resolve "a." = none := by
  exact ⟨⟨by decide, rfl⟩, rfl, rfl⟩

end Context

end TieredReport
