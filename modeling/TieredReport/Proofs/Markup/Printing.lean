/-
# Scanning what was printed

The scan of printed elements finds the very pieces that were written
(`pieces_print`), because every text is clear of opening marks and every body of
closing ones. Of the tags of a block it reads off the kind and the argument,
whatever blanks stand around that.

Key definition: `TagNext`.
Key theorems: `ofBody_openBody`, `print_block`, `pieces_print`.
-/
import TieredReport.Proofs.Markup.Layout
import TieredReport.Proofs.Text.Trim

namespace TieredReport.Markup

/-! ### How the tags of a block are read -/

theorem afterStart?_append (start s : List Char) :
    Text.afterStart? start (start ++ s) = some s := by
  induction start with
  | nil => rfl
  | cons c start ih => rw [List.cons_append, Text.afterStart?, if_pos rfl, ih]

/-- Blanks around the argument of a block do not count. -/
theorem blockArgument?_append (keyword argument : List Char) :
    blockArgument? keyword (keyword ++ Text.trimEnd (' ' :: argument)) =
      some (Text.trim argument) := by
  have hblank : Text.isBlank ' ' = true := by decide
  rw [blockArgument?, afterStart?_append, Text.trimEnd_cons]
  by_cases h : Text.trimEnd argument = []
  · have : Text.trim argument = [] := by
      rw [← Text.trim_trimEnd, h]
      rfl
    rw [if_pos ⟨h, hblank⟩, this]
  · rw [if_neg fun h' => h h'.1]
    simp only [hblank, if_true]
    rw [Text.trim_cons_of_blank hblank, Text.trim_trimEnd]

theorem ofBody_openBody (kind : BlockKind) (argument : List Char) :
    Tag.ofBody (kind.openBody argument) = .opening kind (Text.trim argument) := by
  cases kind with
  | cond =>
    have htrim : Text.trim (BlockKind.cond.openBody argument) =
        "#if".toList ++ Text.trimEnd (' ' :: argument) :=
      @Text.trimEnd_append "#if".toList (by decide) (' ' :: argument)
    rw [Tag.ofBody, htrim, blockArgument?_append]
  | loop =>
    have htrim : Text.trim (BlockKind.loop.openBody argument) =
        "#each".toList ++ Text.trimEnd (' ' :: argument) :=
      @Text.trimEnd_append "#each".toList (by decide) (' ' :: argument)
    have hcond : blockArgument? "#if".toList ("#each".toList ++ Text.trimEnd (' ' :: argument)) =
        none := rfl
    rw [Tag.ofBody, htrim, hcond, blockArgument?_append]

theorem ofBody_closeBody (kind : BlockKind) : Tag.ofBody kind.closeBody = .closing kind := by
  cases kind <;> decide

theorem ofBody_elseBody : Tag.ofBody elseBody = .otherwise := by decide

theorem parse_trim (s : List Char) : Expression.parse (Text.trim s) = Expression.parse s := by
  unfold Expression.parse
  rw [Text.trim_trim]

theorem clear_of_not_mem {mark : Char} {s : List Char} (h : mark ∉ s) : Clear mark s := by
  have := (clear_nil mark).append_left h
  rwa [List.append_nil] at this

theorem clear_openBody {argument : List Char} (kind : BlockKind) (h : Clear '}' argument) :
    Clear '}' (kind.openBody argument) := by
  cases kind with
  | cond => exact @Clear.append_left _ "#if ".toList _ (by decide) h
  | loop => exact @Clear.append_left _ "#each ".toList _ (by decide) h

theorem clear_closeBody (kind : BlockKind) : Clear '}' kind.closeBody :=
  clear_of_not_mem (by cases kind <;> decide)

theorem clear_elseBody : Clear '}' elseBody := clear_of_not_mem (by decide)

/-! ### The scan finds what was written -/

/-- The source is at its end or a tag follows, so a text before it is over. -/
def TagNext (rest : List Char) : Prop :=
  rest = [] ∨ ∃ body rest', Clear '}' body ∧ rest = tagSpelling body ++ rest'

theorem tagNext_tag {body : List Char} (h : Clear '}' body) (rest : List Char) :
    TagNext (tagSpelling body ++ rest) := Or.inr ⟨body, rest, h, rfl⟩

theorem pieces_nil : pieces [] = [] := by
  rw [pieces_text (by simp)]
  rfl

theorem pieces_tagSpelling {body : List Char} (h : Clear '}' body) (rest : List Char) :
    pieces (tagSpelling body ++ rest) = .tag body :: pieces rest :=
  pieces_append_tag (s := []) rest (clear_nil '{') h

theorem pieces_text_append {s rest : List Char} (hne : s ≠ []) (hs : Clear '{' s)
    (hrest : TagNext rest) : pieces (s ++ rest) = .text s :: pieces rest := by
  have hthen : ∀ xs, textThen s xs = .text s :: xs := fun xs => by simp [textThen, hne]
  rcases hrest with rfl | ⟨body, rest, hbody, rfl⟩
  · rw [List.append_nil, pieces_text hs.undoubled, pieces_nil, hthen]
  · rw [pieces_append_tag rest hs hbody, hthen, pieces_tagSpelling hbody]

theorem print_cons (e : Element) (es : List Element) : print (e :: es) = e.print ++ print es := by
  rw [print, written, List.flatMap_append]
  rfl

/-- The else tag of a branch and the branch, or nothing for an empty branch. -/
def writtenElse (es : List Element) : List Piece :=
  if es.isEmpty then [] else .tag elseBody :: written es

/-- The same as it is printed. -/
def printElse (es : List Element) : List Char := (writtenElse es).flatMap Piece.spelling

theorem writtenElse_nil : writtenElse [] = [] := rfl

theorem writtenElse_cons (e : Element) (es : List Element) :
    writtenElse (e :: es) = .tag elseBody :: written (e :: es) := rfl

theorem printElse_nil : printElse [] = [] := rfl

theorem printElse_cons (e : Element) (es : List Element) :
    printElse (e :: es) = tagSpelling elseBody ++ print (e :: es) := rfl

theorem written_block (kind : BlockKind) (argument : List Char) (primary alternate : List Element) :
    Element.written (.block kind argument primary alternate) =
      .tag (kind.openBody argument) ::
        (written primary ++ (writtenElse alternate ++ [.tag kind.closeBody])) := by
  rw [Element.written]
  rfl

theorem print_block (kind : BlockKind) (argument : List Char) (primary alternate : List Element) :
    Element.print (.block kind argument primary alternate) =
      tagSpelling (kind.openBody argument) ++
        (print primary ++ (printElse alternate ++ tagSpelling kind.closeBody)) := by
  rw [Element.print, written_block]
  simp [print, printElse, Piece.spelling]

theorem Element.print_text (s : List Char) : Element.print (.text s) = s := by
  simp [Element.print, Element.written, Piece.spelling]

theorem Element.print_expression (body source : List Char) :
    Element.print (.expression body source) = tagSpelling body := by
  simp [Element.print, Element.written, Piece.spelling]

theorem Element.print_reference (body : List Char) (name : String) (args : List (String × Arg)) :
    Element.print (.reference body name args) = tagSpelling body := by
  simp [Element.print, Element.written, Piece.spelling]

theorem print_tag {e : Element} (h : e.WellFormed) (htext : e.isText = false) :
    ∃ body rest, Clear '}' body ∧ e.print = tagSpelling body ++ rest := by
  cases e with
  | text s => simp [Element.isText] at htext
  | expression body source =>
    rw [Element.WellFormed] at h
    exact ⟨body, [], h.1, by rw [Element.print_expression, List.append_nil]⟩
  | reference body name args =>
    rw [Element.WellFormed] at h
    exact ⟨body, [], h.1, by rw [Element.print_reference, List.append_nil]⟩
  | block kind argument primary alternate =>
    rw [Element.WellFormed] at h
    exact ⟨_, _, clear_openBody kind h.1, print_block kind argument primary alternate⟩

/-- Elements that do not begin with a text are the end of a text before them. -/
theorem tagNext_print {es : List Element} {rest : List Char} (h : WellFormeds es)
    (htext : es.head?.any Element.isText = false) (hrest : TagNext rest) :
    TagNext (print es ++ rest) := by
  cases es with
  | nil => exact hrest
  | cons e es =>
    rw [WellFormeds] at h
    obtain ⟨body, rest', hbody, hprint⟩ := print_tag h.1 (by simpa using htext)
    rw [print_cons, hprint, List.append_assoc, List.append_assoc]
    exact tagNext_tag hbody _

mutual

theorem Element.pieces_print : ∀ {e : Element} {rest : List Char}, e.WellFormed →
    (e.isText = true → TagNext rest) → pieces (e.print ++ rest) = e.written ++ pieces rest
  | .text s, rest, h, hrest => by
    rw [Element.WellFormed] at h
    rw [Element.print_text, Element.written, pieces_text_append h.1 h.2 (hrest rfl)]
    rfl
  | .expression body source, rest, h, _ => by
    rw [Element.WellFormed] at h
    rw [Element.print_expression, Element.written, pieces_tagSpelling h.1]
    rfl
  | .reference body name args, rest, h, _ => by
    rw [Element.WellFormed] at h
    rw [Element.print_reference, Element.written, pieces_tagSpelling h.1]
    rfl
  | .block kind argument primary alternate, rest, h, _ => by
    rw [Element.WellFormed] at h
    obtain ⟨harg, hp, ha⟩ := h
    have hclose : pieces (tagSpelling kind.closeBody ++ rest) =
        .tag kind.closeBody :: pieces rest :=
      pieces_tagSpelling (clear_closeBody kind) rest
    have hnext : TagNext (tagSpelling kind.closeBody ++ rest) :=
      tagNext_tag (clear_closeBody kind) rest
    rw [print_block, written_block, List.append_assoc, pieces_tagSpelling (clear_openBody kind harg),
      List.append_assoc, List.append_assoc]
    cases halt : alternate with
    | nil =>
      rw [printElse_nil, writtenElse_nil, List.nil_append, pieces_print hp hnext, hclose]
      simp
    | cons e es =>
      rw [printElse_cons, writtenElse_cons, ← halt, List.append_assoc,
        pieces_print hp (tagNext_tag clear_elseBody _), pieces_tagSpelling clear_elseBody,
        pieces_print ha hnext, hclose]
      simp

/-- **The scan finds what was written.** -/
theorem pieces_print : ∀ {es : List Element} {rest : List Char}, WellFormeds es → TagNext rest →
    pieces (print es ++ rest) = written es ++ pieces rest
  | [], rest, _, _ => by simp [print, written]
  | e :: es, rest, h, hrest => by
    rw [WellFormeds] at h
    obtain ⟨he, htext, hes⟩ := h
    rw [print_cons, written, List.append_assoc,
      Element.pieces_print he fun ht => tagNext_print hes (htext ht) hrest,
      pieces_print hes hrest, List.append_assoc]

end

end TieredReport.Markup
