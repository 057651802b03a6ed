import FivegLab.Lines
import FivegLab.Marks
import FivegLab.Pattern
import Mathlib.Data.List.TakeWhile

/-!
# Visible lines

What can be seen of a text, line by line.  Stripping the text and ending its last
line leave that as it is, colours are taken from each line on its own, and
what the text tells by markers its visible lines tell.
-/

namespace FivegLab.Text

/-- The parts of a text between its line feeds. -/
def newlineParts : List Char → List (List Char)
  | [] => [[]]
  | c :: rest => if c = '\n' then [] :: newlineParts rest else consLine c (newlineParts rest)

/-- The lines that are not blank, without the white space around them. -/
def visibleChars (text : List Char) : List (List Char) :=
  ((newlineParts text).map stripChars).filter fun line => line ≠ []

def visibleLines (text : String) : List String := (visibleChars text.toList).map String.ofList

theorem newlineParts_ne_nil (text : List Char) : newlineParts text ≠ [] := by
  cases text with
  | nil => exact List.cons_ne_nil _ _
  | cons c text =>
      rw [newlineParts]
      split
      · exact List.cons_ne_nil _ _
      · cases newlineParts text with
        | nil => exact List.cons_ne_nil _ _
        | cons line lines => exact List.cons_ne_nil _ _

theorem newlineParts_append (text rest : List Char) :
    newlineParts (text ++ '\n' :: rest) = newlineParts text ++ newlineParts rest := by
  induction text with
  | nil => simp [newlineParts]
  | cons c text ih =>
      rw [List.cons_append, newlineParts, newlineParts, ih]
      split
      · rfl
      · exact consLine_append (newlineParts_ne_nil text) _

theorem newlineParts_line {line : List Char} (withinLine : '\n' ∉ line) :
    newlineParts line = [line] := by
  induction line with
  | nil => rfl
  | cons c line ih =>
      rw [List.mem_cons, not_or] at withinLine
      rw [newlineParts, if_neg (Ne.symm withinLine.1), ih withinLine.2]
      rfl

/-- A character at the end stands at the end of the last line. -/
theorem newlineParts_concat {c : Char} (other : c ≠ '\n') (text : List Char) :
    ∃ earlier last, newlineParts text = earlier ++ [last] ∧
      newlineParts (text ++ [c]) = earlier ++ [last ++ [c]] := by
  induction text with
  | nil => exact ⟨[], [], rfl, by simp [newlineParts, other, consLine]⟩
  | cons d text ih =>
      rcases ih with ⟨earlier, last, parts, longer⟩
      rw [List.cons_append, newlineParts, newlineParts, parts, longer]
      split
      · exact ⟨[] :: earlier, last, rfl, rfl⟩
      · cases earlier with
        | nil => exact ⟨[], d :: last, rfl, rfl⟩
        | cons line earlier => exact ⟨(d :: line) :: earlier, last, rfl, rfl⟩

section Strip

variable {c : Char} (space : isSpace c = true) (text : List Char)
include space

theorem stripChars_cons : stripChars (c :: text) = stripChars text := by
  rw [stripChars, List.dropWhile_cons, if_pos space, stripChars]

theorem stripChars_concat : stripChars (text ++ [c]) = stripChars text := by
  rw [stripChars, stripChars]
  by_cases blank : ∀ d ∈ text, isSpace d = true
  · have nothing : text.dropWhile isSpace = [] := List.dropWhile_eq_nil_iff.mpr blank
    have nothing' : (text ++ [c]).dropWhile isSpace = [] := by
      rw [List.dropWhile_eq_nil_iff]
      intro d member
      rcases List.mem_append.mp member with member | member
      · exact blank d member
      · rw [List.mem_singleton.mp member, space]
    rw [nothing, nothing']
  · have something : text.dropWhile isSpace ≠ [] := fun empty =>
      blank (List.dropWhile_eq_nil_iff.mp empty)
    rw [List.dropWhile_append, if_neg (by simpa using something), List.reverse_append,
      List.reverse_singleton, List.singleton_append, List.dropWhile_cons, if_pos space]

theorem visibleChars_cons : visibleChars (c :: text) = visibleChars text := by
  rw [visibleChars, visibleChars, newlineParts]
  split
  · rfl
  · cases parts : newlineParts text with
    | nil => exact absurd parts (newlineParts_ne_nil text)
    | cons line lines => rw [consLine, List.map_cons, List.map_cons, stripChars_cons space]

theorem visibleChars_concat : visibleChars (text ++ [c]) = visibleChars text := by
  by_cases newline : c = '\n'
  · rw [newline, visibleChars, newlineParts_append, List.map_append, List.filter_append]
    exact List.append_nil _
  · rcases newlineParts_concat newline text with ⟨earlier, last, parts, longer⟩
    rw [visibleChars, visibleChars, parts, longer, List.map_append, List.map_append,
      List.map_singleton, List.map_singleton, stripChars_concat space]

end Strip

theorem visibleChars_append (text rest : List Char) :
    visibleChars (text ++ '\n' :: rest) = visibleChars text ++ visibleChars rest := by
  rw [visibleChars, newlineParts_append, List.map_append, List.filter_append]
  rfl

/-- The white space around a text, and the text. -/
theorem stripChars_split (text : List Char) : ∃ front back,
    text = front ++ (stripChars text ++ back) ∧ (∀ c ∈ front, isSpace c = true) ∧
      ∀ c ∈ back, isSpace c = true := by
  refine ⟨text.takeWhile isSpace,
    ((text.dropWhile isSpace).reverse.takeWhile isSpace).reverse, ?_, ?_, ?_⟩
  · rw [stripChars, ← List.reverse_append, List.takeWhile_append_dropWhile, List.reverse_reverse,
      List.takeWhile_append_dropWhile]
  · intro c member
    exact List.mem_takeWhile_imp member
  · intro c member
    exact List.mem_takeWhile_imp (List.mem_reverse.mp member)

section Around

variable {α : Type} {f : List Char → α}

theorem eq_blank_append (cons : ∀ c text, isSpace c = true → f (c :: text) = f text)
    {front : List Char} (blank : ∀ c ∈ front, isSpace c = true) (text : List Char) :
    f (front ++ text) = f text := by
  induction front with
  | nil => rfl
  | cons c front ih =>
      rw [List.forall_mem_cons] at blank
      rw [List.cons_append, cons c _ blank.1, ih blank.2]

theorem eq_append_blank (concat : ∀ c text, isSpace c = true → f (text ++ [c]) = f text)
    {back : List Char} (blank : ∀ c ∈ back, isSpace c = true) (text : List Char) :
    f (text ++ back) = f text := by
  induction back generalizing text with
  | nil => rw [List.append_nil]
  | cons c back ih =>
      rw [List.forall_mem_cons] at blank
      rw [List.append_cons, ih blank.2, concat c _ blank.1]

/-- What white space around a text leaves as it is, stripping leaves too. -/
theorem eq_stripChars (cons : ∀ c text, isSpace c = true → f (c :: text) = f text)
    (concat : ∀ c text, isSpace c = true → f (text ++ [c]) = f text) (text : List Char) :
    f (stripChars text) = f text := by
  rcases stripChars_split text with ⟨front, back, split, frontBlank, backBlank⟩
  conv_rhs => rw [split, eq_blank_append cons frontBlank, eq_append_blank concat backBlank]

end Around

theorem stripChars_append_blank {back : List Char} (blank : ∀ c ∈ back, isSpace c = true)
    (text : List Char) : stripChars (text ++ back) = stripChars text :=
  eq_append_blank (fun _ text space => stripChars_concat space text) blank text

theorem stripChars_blank_append {front : List Char} (blank : ∀ c ∈ front, isSpace c = true)
    (text : List Char) : stripChars (front ++ text) = stripChars text :=
  eq_blank_append (fun _ text space => stripChars_cons space text) blank text

theorem stripChars_eq_nil_iff {text : List Char} :
    stripChars text = [] ↔ ∀ c ∈ text, isSpace c = true := by
  constructor
  · intro empty
    rcases stripChars_split text with ⟨front, back, split, frontBlank, backBlank⟩
    rw [empty, List.nil_append] at split
    rw [split]
    intro c member
    rcases List.mem_append.mp member with member | member
    · exact frontBlank c member
    · exact backBlank c member
  · intro blank
    exact stripChars_append_blank blank []

/-- A stripped text begins and ends with something visible. -/
theorem stripChars_ends (text : List Char) :
    (∀ c ∈ (stripChars text).head?, isSpace c = false) ∧
      ∀ c ∈ (stripChars text).getLast?, isSpace c = false := by
  have first : ∀ {text : List Char}, ∀ c ∈ (text.dropWhile isSpace).head?, isSpace c = false := by
    intro text c head
    cases rest : text.dropWhile isSpace with
    | nil => rw [rest] at head; cases head
    | cons d rest' =>
        rw [rest] at head
        cases head
        have dropped := List.head?_dropWhile_not isSpace text
        rw [rest] at dropped
        simpa using dropped
  have last : ∀ c ∈ (stripChars text).getLast?, isSpace c = false := by
    rw [stripChars, List.getLast?_reverse]
    exact first
  refine ⟨?_, last⟩
  have start : stripChars text <+: text.dropWhile isSpace := by
    have ending := List.dropWhile_suffix (l := (text.dropWhile isSpace).reverse) isSpace
    rwa [← List.reverse_prefix, List.reverse_reverse] at ending
  rcases start with ⟨back, split⟩
  intro c head
  apply first c
  rw [← split]
  exact List.mem_head?_append_of_mem_head? head

/-- A text with visible ends is stripped. -/
theorem stripChars_eq_self {text : List Char} (head : ∀ c ∈ text.head?, isSpace c = false)
    (last : ∀ c ∈ text.getLast?, isSpace c = false) : stripChars text = text := by
  have kept : ∀ {text : List Char}, (∀ c ∈ text.head?, isSpace c = false) →
      text.dropWhile isSpace = text := by
    intro text head
    cases text with
    | nil => rfl
    | cons c text => rw [List.dropWhile_cons, if_neg (by simp [head c rfl])]
  rw [stripChars, kept head, kept (by rwa [List.head?_reverse]), List.reverse_reverse]

theorem afterColourCode_length {text rest : List Char} (read : afterColourCode text = some rest) :
    rest.length ≤ text.length := by
  unfold afterColourCode at read
  split at read
  case h_1 text =>
    have shorter := (List.dropWhile_suffix (l := text) fun c => c.isDigit || c == ';').length_le
    split at read
    case h_1 found =>
      rw [Option.some.injEq] at read
      rw [found, List.length_cons, read] at shorter
      rw [List.length_cons]
      omega
    case h_2 => cases read
  case h_2 => cases read

/-- The limit is enough, when it is not less than the length of the text. -/
theorem withoutColourChars_limit {limit limit' : ℕ} {text : List Char}
    (enough : text.length ≤ limit) (enough' : text.length ≤ limit') :
    withoutColourChars limit text = withoutColourChars limit' text := by
  induction limit generalizing limit' text with
  | zero =>
      rw [List.length_eq_zero_iff.mp (by omega : text.length = 0)]
      cases limit' with
      | zero => rfl
      | succ limit' => rfl
  | succ limit ih =>
      cases text with
      | nil =>
          cases limit' with
          | zero => rfl
          | succ limit' => rfl
      | cons c text =>
          rw [List.length_cons] at enough enough'
          rcases Nat.exists_eq_add_one_of_ne_zero (by omega : limit' ≠ 0) with ⟨limit', rfl⟩
          rw [withoutColourChars, withoutColourChars]
          split
          case h_1 rest found =>
            have shorter : rest.length ≤ text.length := by
              rw [Option.ite_none_right_eq_some] at found
              exact afterColourCode_length found.2
            exact ih (by omega) (by omega)
          case h_2 => exact congrArg _ (ih (by omega) (by omega))

section Colour

variable {c : Char} (space : isSpace c = true)
include space

theorem toNat_of_isSpace : c.toNat ≠ 0x1b ∧ (c.isDigit || c == ';') = false ∧ c ≠ 'm' ∧
    c ≠ '[' := by
  have range := space
  simp only [isSpace, Bool.or_eq_true, Bool.and_eq_true, decide_eq_true_eq, beq_iff_eq] at range
  refine ⟨by omega, ?_, ?_, ?_⟩
  · rw [Bool.or_eq_false_iff]
    constructor
    · cases digit : c.isDigit with
      | false => rfl
      | true =>
          simp only [Char.isDigit, Bool.and_eq_true, decide_eq_true_eq, ge_iff_le,
            UInt32.le_iff_toNat_le] at digit
          have low : 48 ≤ c.toNat := digit.1
          have high : c.toNat ≤ 57 := digit.2
          omega
    · rw [beq_eq_false_iff_ne]
      rintro rfl
      revert space
      decide
  · rintro rfl
    revert space
    decide
  · rintro rfl
    revert space
    decide

theorem afterColourCode_append (text rest : List Char) :
    afterColourCode (text ++ c :: rest) =
      (afterColourCode text).map fun left => left ++ c :: rest := by
  rcases toNat_of_isSpace space with ⟨_, part, other, start⟩
  cases text with
  | nil =>
      rw [List.nil_append, afterColourCode]
      · rfl
      · simp [start]
  | cons d text =>
      by_cases bracket : d = '['
      · subst bracket
        have stop : (text ++ c :: rest).dropWhile (fun c => c.isDigit || c == ';') =
            text.dropWhile (fun c => c.isDigit || c == ';') ++ c :: rest := by
          induction text with
          | nil => rw [List.nil_append, List.dropWhile_cons, if_neg (by simp [part])]; rfl
          | cons d text ih =>
              rw [List.cons_append, List.dropWhile_cons, List.dropWhile_cons, ih]
              split
              · rfl
              · rfl
        rw [List.cons_append, afterColourCode, afterColourCode, stop]
        cases text.dropWhile fun c => c.isDigit || c == ';' with
        | nil => simp [other]
        | cons d left =>
            by_cases closing : d = 'm'
            · subst closing
              rfl
            · simp [closing]
      · rw [List.cons_append, afterColourCode, afterColourCode]
        · rfl
        · simp [bracket]
        · simp [bracket]

/-- No colour code reaches over white space. -/
theorem withoutColourChars_append {limit limit' : ℕ} {text rest : List Char}
    (enough : text.length ≤ limit) (enough' : limit + rest.length < limit') :
    withoutColourChars limit' (text ++ c :: rest) =
      withoutColourChars limit text ++ c :: withoutColourChars rest.length rest := by
  have visible := (toNat_of_isSpace space).1
  have next : ∀ more, rest.length ≤ more →
      withoutColourChars (more + 1) (c :: rest) = c :: withoutColourChars rest.length rest := by
    intro more enough
    rw [withoutColourChars, if_neg visible]
    exact congrArg _ (withoutColourChars_limit enough le_rfl)
  induction limit generalizing limit' text with
  | zero =>
      rcases Nat.exists_eq_add_one_of_ne_zero (by omega : limit' ≠ 0) with ⟨limit', rfl⟩
      rw [List.length_eq_zero_iff.mp (by omega : text.length = 0)]
      exact next limit' (by omega)
  | succ limit ih =>
      rcases Nat.exists_eq_add_one_of_ne_zero (by omega : limit' ≠ 0) with ⟨limit', rfl⟩
      cases text with
      | nil => exact next limit' (by omega)
      | cons d text =>
          rw [List.length_cons] at enough
          have later : ∀ left : List Char, left.length ≤ text.length →
              withoutColourChars limit' (left ++ c :: rest) =
                withoutColourChars limit left ++ c :: withoutColourChars rest.length rest :=
            fun left shorter => ih (by omega) (by omega)
          rw [List.cons_append, withoutColourChars, withoutColourChars,
            afterColourCode_append space]
          by_cases escape : d.toNat = 0x1b
          · rw [if_pos escape, if_pos escape]
            cases code : afterColourCode text with
            | none => exact congrArg (d :: ·) (later text le_rfl)
            | some left => exact later left (afterColourCode_length code)
          · rw [if_neg escape, if_neg escape]
            exact congrArg (d :: ·) (later text le_rfl)

end Colour

/-- The characters of a text without its colour codes. -/
def colourless (text : List Char) : List Char := withoutColourChars text.length text

theorem withoutColour_toList (text : String) :
    (withoutColour text).toList = colourless text.toList := by
  rw [withoutColour, String.toList_ofList, colourless, String.length_toList]

section Colourless

variable {c : Char} (space : isSpace c = true)
include space

theorem colourless_append (text rest : List Char) :
    colourless (text ++ c :: rest) = colourless text ++ c :: colourless rest :=
  withoutColourChars_append space le_rfl (by simp)

theorem colourless_cons (text : List Char) : colourless (c :: text) = c :: colourless text :=
  colourless_append space [] text

theorem colourless_concat (text : List Char) : colourless (text ++ [c]) = colourless text ++ [c] :=
  colourless_append space text []

end Colourless

theorem visibleChars_colourless_stripChars (text : List Char) :
    visibleChars (colourless (stripChars text)) = visibleChars (colourless text) := by
  refine eq_stripChars (f := fun text => visibleChars (colourless text)) ?_ ?_ text
  · intro c text space
    rw [colourless_cons space, visibleChars_cons space]
  · intro c text space
    rw [colourless_concat space, visibleChars_concat space]

/-- The lines that can be seen of a text without its colours. -/
def plainLines (text : String) : List String := visibleLines (withoutColour text)

theorem plainLines_strip (text : String) :
    visibleLines (withoutColour (strip text)) = plainLines text := by
  rw [plainLines, visibleLines, visibleLines, withoutColour_toList, withoutColour_toList, strip,
    String.toList_ofList, visibleChars_colourless_stripChars]

theorem plainLines_append (text rest : String) :
    plainLines (text ++ "\n" ++ rest) = plainLines text ++ plainLines rest := by
  have chars : (text ++ "\n" ++ rest).toList = text.toList ++ '\n' :: rest.toList := by
    simp [String.toList_append]
  rw [plainLines, plainLines, plainLines, visibleLines, visibleLines, visibleLines,
    withoutColour_toList, withoutColour_toList, withoutColour_toList, chars,
    colourless_append (by decide), visibleChars_append, List.map_append]

theorem plainLines_endLine (text : String) : plainLines (endLine text) = plainLines text := by
  rw [endLine]
  split
  · rfl
  · have ended := plainLines_append text ""
    rw [String.append_empty] at ended
    rw [ended]
    exact List.append_nil _

theorem plainLines_linesText (lines : List String) :
    plainLines (linesText lines) = lines.flatMap plainLines := by
  induction lines with
  | nil => rfl
  | cons line lines ih =>
      rw [linesText, List.foldr_cons, plainLines_append, List.flatMap_cons, ← ih]
      rfl

namespace Markers

variable {markers : Markers}

/-- The markers begin and end with something visible. -/
def Visible (markers : Markers) : Prop := ∀ marker ∈ markers.success :: markers.failures,
  (∀ c ∈ marker.toList.head?, isSpace c = false) ∧ ∀ c ∈ marker.toList.getLast?, isSpace c = false

instance : Decidable markers.Visible :=
  decidable_of_iff (∀ marker ∈ markers.success :: markers.failures,
    marker.toList.head?.all (!isSpace ·) = true ∧ marker.toList.getLast?.all (!isSpace ·) = true)
    (by simp [Visible, Option.all_eq_true])

theorem Visible.marksChars_cons (visible : markers.Visible) {c : Char} (space : isSpace c = true)
    (text : List Char) : markers.marksChars (c :: text) = markers.marksChars text := by
  have nowhere : markers.markAt (c :: text) = markers.markAt [] := by
    apply markAt_eq
    intro marker member
    rw [List.prefix_nil]
    constructor
    · rintro ⟨rest, start⟩
      cases chars : marker.toList with
      | nil => rfl
      | cons d part =>
          rw [chars, List.cons_append, List.cons.injEq] at start
          have seen := (visible marker member).1 d (by rw [chars]; rfl)
          rw [start.1, space] at seen
          cases seen
    · intro empty
      rw [empty]
      exact List.nil_prefix
  rw [marksChars, nowhere, ← marksChars, marksChars_nil, List.nil_append]

theorem Visible.markAt_concat (visible : markers.Visible) {c : Char} (space : isSpace c = true)
    (text : List Char) : markers.markAt (text ++ [c]) = markers.markAt text := by
  apply markAt_eq
  intro marker member
  rw [List.prefix_concat_iff, or_iff_right_iff_imp]
  intro whole
  have seen := (visible marker member).2 c (by rw [whole, List.getLast?_concat]; rfl)
  rw [space] at seen
  cases seen

theorem Visible.marksChars_concat (visible : markers.Visible) {c : Char} (space : isSpace c = true)
    (text : List Char) : markers.marksChars (text ++ [c]) = markers.marksChars text := by
  induction text with
  | nil => exact visible.marksChars_cons space []
  | cons d text ih =>
      rw [List.cons_append, marksChars, marksChars, ih, ← List.cons_append,
        visible.markAt_concat space]

theorem Visible.marksChars_stripChars (visible : markers.Visible) (text : List Char) :
    markers.marksChars (stripChars text) = markers.marksChars text :=
  eq_stripChars (fun _ text space => visible.marksChars_cons space text)
    (fun _ text space => visible.marksChars_concat space text) text

theorem marksChars_newlineParts (text : List Char) :
    markers.marksChars text = (newlineParts text).flatMap markers.marksChars := by
  induction size : text.length using Nat.strong_induction_on generalizing text with
  | _ size ih =>
      by_cases line : '\n' ∈ text
      · rcases List.eq_append_cons_of_mem line with ⟨front, rest, rfl, withinLine⟩
        have shorter := ih rest.length (by rw [← size]; simp; omega) rest rfl
        have ended : (front ++ ['\n']).getLast? = some '\n' := by simp
        rw [newlineParts_append, newlineParts_line withinLine, List.flatMap_append, ← shorter,
          List.flatMap_singleton, List.append_cons, marksChars_append ended, marksChars_newline]
      · rw [newlineParts_line line, List.flatMap_singleton]

/-- The visible lines tell what the text tells. -/
theorem Visible.marksChars_visibleChars (visible : markers.Visible) (text : List Char) :
    markers.marksChars text = (visibleChars text).flatMap markers.marksChars := by
  rw [marksChars_newlineParts, visibleChars]
  induction newlineParts text with
  | nil => rfl
  | cons line lines ih =>
      rw [List.flatMap_cons, List.map_cons, List.filter_cons, ih,
        ← visible.marksChars_stripChars line]
      split
      case isTrue => rw [List.flatMap_cons]
      case isFalse blank =>
        rw [decide_eq_true_eq, not_not] at blank
        rw [blank, marksChars_nil, List.nil_append]

theorem marks_linesText (lines : List String) :
    markers.marks (linesText lines) = lines.flatMap markers.marks := by
  induction lines with
  | nil => exact marksChars_nil
  | cons line lines ih =>
      have chars : (linesText (line :: lines)).toList =
          (line.toList ++ ['\n']) ++ (linesText lines).toList := by
        simp [linesText, String.toList_append]
      rw [marks, chars, marksChars_append (by simp), marksChars_newline, List.flatMap_cons, ← ih]
      rfl

theorem Visible.scan_visibleLines (visible : markers.Visible) (text : String) :
    markers.scan text = markers.scan (linesText (visibleLines text)) := by
  have lines : (visibleLines text).flatMap markers.marks =
      (visibleChars text.toList).flatMap markers.marksChars := by
    rw [visibleLines, List.flatMap_map]
    simp only [marks, String.toList_ofList]
  rw [scan, scan, marks_linesText, lines, ← visible.marksChars_visibleChars, marks]

end Markers

end FivegLab.Text
