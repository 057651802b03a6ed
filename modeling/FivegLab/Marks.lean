import FivegLab.Text

/-!
# Markers in a text

A text tells of successes and of failures by markers.  What it tells last is
what a scan from left to right ends with, and what the positions of the last
occurrences tell.
-/

namespace FivegLab.Text

/-- What a marker tells. -/
inductive Mark where
  | success
  | failure
  deriving DecidableEq, Repr

/-- The marker of success and those of failure.  No two of them begin at one
place, and each is part of a line. -/
structure Markers where
  success : String
  failures : List String
  someFailure : failures ≠ []
  apart : ∀ failure ∈ failures, ¬success.toList <+: failure.toList ∧
    ¬failure.toList <+: success.toList
  withinLine : ∀ marker ∈ success :: failures, '\n' ∉ marker.toList

/-- What a mark makes of the state that it finds. -/
def follow (_ : Bool) : Mark → Bool
  | .success => true
  | .failure => false

theorem foldl_follow_of_ne_nil {marks : List Mark} (some : marks ≠ []) (state other : Bool) :
    marks.foldl follow state = marks.foldl follow other := by
  cases marks with
  | nil => exact absurd rfl some
  | cons mark marks => cases mark <;> rfl

/-- The last mark alone decides. -/
theorem foldl_follow_of_last {marks : List Mark} {last : Mark} (is : marks.getLast? = some last)
    (state : Bool) : marks.foldl follow state = follow state last := by
  rcases List.getLast?_eq_some_iff.mp is with ⟨front, rfl⟩
  rw [List.foldl_append]
  cases last <;> rfl

namespace Markers

variable (markers : Markers)

/-- The mark that stands at the beginning of a text. -/
def markAt (text : List Char) : Option Mark :=
  if markers.success.toList <+: text then some .success
  else if ∃ failure ∈ markers.failures, failure.toList <+: text then some .failure
  else none

/-- The marks of a text, from left to right. -/
def marksChars : List Char → List Mark
  | [] => (markers.markAt []).toList
  | c :: rest => (markers.markAt (c :: rest)).toList ++ marksChars rest

def marks (text : String) : List Mark := markers.marksChars text.toList

/-- The state after a text: it changes at each marker. -/
def scan (text : String) : Bool := (markers.marks text).foldl follow false

/-- The last success is later than every failure. -/
def LatestSucceeded (text : String) : Prop :=
  ∀ failure ∈ markers.failures, rfind text failure < rfind text markers.success

variable {markers}

theorem success_ne_nil : markers.success.toList ≠ [] := by
  rcases List.exists_mem_of_ne_nil _ markers.someFailure with ⟨failure, member⟩
  intro empty
  apply (markers.apart failure member).1
  rw [empty]
  exact List.nil_prefix

theorem failure_ne_nil {failure : String} (member : failure ∈ markers.failures) :
    failure.toList ≠ [] := by
  intro empty
  apply (markers.apart failure member).2
  rw [empty]
  exact List.nil_prefix

theorem marksChars_nil : markers.marksChars [] = [] := by
  have noFailure : ¬∃ failure ∈ markers.failures, failure.toList <+: [] := by
    rintro ⟨failure, member, start⟩
    exact failure_ne_nil member (List.prefix_nil.mp start)
  rw [marksChars, markAt, if_neg (fun start => success_ne_nil (List.prefix_nil.mp start)),
    if_neg noFailure]
  rfl

theorem markAt_eq_success_iff {text : List Char} :
    markers.markAt text = some .success ↔ markers.success.toList <+: text := by
  rw [markAt]
  split
  case isTrue start => simp [start]
  case isFalse other => split <;> simp [other]

end Markers

/-- What is within a line does not go over the end of it. -/
theorem prefix_append_iff {marker text rest : List Char} (withinLine : '\n' ∉ marker)
    (line : '\n' ∈ text) : marker <+: text ++ rest ↔ marker <+: text := by
  constructor
  · intro start
    rcases List.prefix_or_prefix_of_prefix start (List.prefix_append text rest) with inside | whole
    · exact inside
    · exact absurd (whole.subset line) withinLine
  · intro start
    exact start.trans (List.prefix_append text rest)

/-- A part of a line is in one of two texts if it is in them together. -/
theorem infix_append_iff {part text rest : List Char} (withinLine : '\n' ∉ part)
    (ended : text.getLast? = some '\n') :
    part <:+: text ++ rest ↔ part <:+: text ∨ part <:+: rest := by
  constructor
  · intro inside
    induction text with
    | nil => simp at ended
    | cons c text ih =>
        have line : '\n' ∈ c :: text := List.mem_of_getLast? ended
        rw [List.cons_append, List.infix_cons_iff, ← List.cons_append,
          prefix_append_iff withinLine line] at inside
        rcases inside with start | later
        · exact .inl start.isInfix
        · cases text with
          | nil => exact .inr later
          | cons d text =>
              rw [List.getLast?_cons_cons] at ended
              rcases ih ended later with first | second
              · exact .inl (first.trans (List.suffix_cons c _).isInfix)
              · exact .inr second
  · rintro (first | second)
    · exact first.trans (List.prefix_append text rest).isInfix
    · exact second.trans (List.suffix_append text rest).isInfix

/-- `rfind`, on the characters of a text. -/
def rfindChars (part text : List Char) : ℤ :=
  match lastIndexChars part text with
  | some index => index
  | none => -1

theorem rfind_eq {text part : String} : rfind text part = rfindChars part.toList text.toList :=
  rfl

theorem rfindChars_nil {part : List Char} (some : part ≠ []) : rfindChars part [] = -1 := by
  simp [rfindChars, lastIndexChars, some]

theorem neg_one_le_rfindChars (part text : List Char) : -1 ≤ rfindChars part text := by
  rw [rfindChars]
  split
  · omega
  · omega

/-- An occurrence in the rest is later; without one, the beginning counts. -/
theorem rfindChars_cons (part : List Char) (c : Char) (rest : List Char) :
    rfindChars part (c :: rest) =
      if 0 ≤ rfindChars part rest then rfindChars part rest + 1
      else if part <+: c :: rest then 0 else -1 := by
  cases found : lastIndexChars part rest with
  | some index =>
      have later : (0 : ℤ) ≤ index := Int.natCast_nonneg index
      simp [rfindChars, lastIndexChars, found]
  | none =>
      by_cases start : part <+: c :: rest
      · simp [rfindChars, lastIndexChars, found, start]
      · simp [rfindChars, lastIndexChars, found, start]

namespace Markers

variable {markers : Markers}

/-- A text without marks has no marker in it. -/
theorem marksChars_eq_nil_iff {text : List Char} :
    markers.marksChars text = [] ↔
      ∀ marker ∈ markers.success :: markers.failures, rfindChars marker.toList text = -1 := by
  induction text with
  | nil =>
      refine iff_of_true marksChars_nil ?_
      intro marker member
      rcases List.mem_cons.mp member with rfl | member
      · exact rfindChars_nil success_ne_nil
      · exact rfindChars_nil (failure_ne_nil member)
  | cons c rest ih =>
      have head : (markers.markAt (c :: rest)).toList = [] ↔
          ∀ marker ∈ markers.success :: markers.failures, ¬marker.toList <+: c :: rest := by
        rw [List.forall_mem_cons, markAt]
        split
        case isTrue start => simp [start]
        case isFalse other => split <;> simp_all
      rw [marksChars, List.append_eq_nil_iff, ih, head, ← forall₂_and]
      refine forall₂_congr fun marker _ => ?_
      have least := neg_one_le_rfindChars marker.toList rest
      rw [rfindChars_cons]
      split
      case isTrue later => omega
      case isFalse =>
        split
        case isTrue start => simp [start]
        case isFalse other =>
          simp only [other, not_false_eq_true, true_and, iff_true]
          omega

/-- Without a mark in the rest, what stands at the beginning decides. -/
theorem latest_cons_of_absent {c : Char} {rest : List Char}
    (absent : markers.marksChars rest = []) :
    (∀ failure ∈ markers.failures,
        rfindChars failure.toList (c :: rest) < rfindChars markers.success.toList (c :: rest)) ↔
      markers.markAt (c :: rest) = some .success := by
  have never : ∀ marker ∈ markers.success :: markers.failures,
      rfindChars marker.toList (c :: rest) = if marker.toList <+: c :: rest then 0 else -1 := by
    intro marker member
    have := marksChars_eq_nil_iff.mp absent marker member
    rw [rfindChars_cons, if_neg (by omega)]
  rw [markAt_eq_success_iff, never markers.success List.mem_cons_self]
  constructor
  · intro later
    rcases List.exists_mem_of_ne_nil _ markers.someFailure with ⟨failure, member⟩
    by_contra other
    have least := neg_one_le_rfindChars failure.toList (c :: rest)
    have := later failure member
    rw [if_neg other] at this
    omega
  · intro start failure member
    have apart := markers.apart failure member
    have other : ¬failure.toList <+: c :: rest := by
      intro failed
      rcases List.prefix_or_prefix_of_prefix start failed with inside | inside
      · exact apart.1 inside
      · exact apart.2 inside
    rw [never failure (List.mem_cons_of_mem _ member), if_neg other, if_pos start]
    omega

/-- With a mark in the rest, what stands at the beginning does not matter. -/
theorem latest_cons_of_present {c : Char} {rest : List Char}
    (present : markers.marksChars rest ≠ []) :
    (∀ failure ∈ markers.failures,
        rfindChars failure.toList (c :: rest) < rfindChars markers.success.toList (c :: rest)) ↔
      ∀ failure ∈ markers.failures,
        rfindChars failure.toList rest < rfindChars markers.success.toList rest := by
  by_cases succeeded : 0 ≤ rfindChars markers.success.toList rest
  · refine forall₂_congr fun failure _ => ?_
    have least := neg_one_le_rfindChars failure.toList rest
    rw [rfindChars_cons, rfindChars_cons, if_pos succeeded]
    split
    · omega
    · split <;> omega
  · have least := neg_one_le_rfindChars markers.success.toList rest
    obtain ⟨failure, member, failed⟩ : ∃ failure ∈ markers.failures,
        0 ≤ rfindChars failure.toList rest := by
      by_contra none
      push Not at none
      apply present
      rw [marksChars_eq_nil_iff, List.forall_mem_cons]
      refine ⟨by omega, ?_⟩
      intro failure member
      have := none failure member
      have := neg_one_le_rfindChars failure.toList rest
      omega
    refine iff_of_false ?_ ?_
    · intro later
      have := later failure member
      rw [rfindChars_cons, rfindChars_cons, if_pos failed, if_neg succeeded] at this
      split at this <;> omega
    · intro later
      have := later failure member
      omega

/-- The positions of the last occurrences tell the state after a scan.  The
induction is on the text, its beginning first. -/
theorem latestSucceeded_iff_scan (text : String) :
    markers.LatestSucceeded text ↔ markers.scan text = true := by
  rw [LatestSucceeded, scan, marks]
  simp only [rfind_eq]
  induction text.toList with
  | nil =>
      rcases List.exists_mem_of_ne_nil _ markers.someFailure with ⟨failure, member⟩
      simp only [marksChars_nil, List.foldl_nil, Bool.false_eq_true, iff_false]
      intro later
      have absent := rfindChars_nil (markers.success_ne_nil)
      have absentToo := rfindChars_nil (failure_ne_nil member)
      have := later failure member
      omega
  | cons c rest ih =>
      rw [marksChars, List.foldl_append]
      by_cases absent : markers.marksChars rest = []
      · rw [latest_cons_of_absent absent, absent, List.foldl_nil]
        cases markers.markAt (c :: rest) with
        | none => simp
        | some mark => cases mark <;> simp [follow]
      · rw [latest_cons_of_present absent, ih, foldl_follow_of_ne_nil absent]

theorem markAt_eq {text text' : List Char}
    (same : ∀ marker ∈ markers.success :: markers.failures,
      (marker.toList <+: text ↔ marker.toList <+: text')) :
    markers.markAt text = markers.markAt text' := by
  have failures : (∃ failure ∈ markers.failures, failure.toList <+: text) ↔
      ∃ failure ∈ markers.failures, failure.toList <+: text' := by
    refine exists_congr fun failure => and_congr_right fun member => ?_
    exact same failure (List.mem_cons_of_mem _ member)
  simp only [markAt, same markers.success List.mem_cons_self, failures]

theorem markAt_append {text rest : List Char} (line : '\n' ∈ text) :
    markers.markAt (text ++ rest) = markers.markAt text :=
  markAt_eq fun marker member => prefix_append_iff (markers.withinLine marker member) line

theorem marksChars_append {text : List Char} (ended : text.getLast? = some '\n')
    (rest : List Char) :
    markers.marksChars (text ++ rest) = markers.marksChars text ++ markers.marksChars rest := by
  induction text with
  | nil => simp at ended
  | cons c text ih =>
      have line : '\n' ∈ c :: text := List.mem_of_getLast? ended
      rw [List.cons_append, marksChars, marksChars, List.append_assoc, ← List.cons_append,
        markAt_append line]
      cases text with
      | nil => rw [List.nil_append, marksChars_nil, List.nil_append]
      | cons d text =>
          rw [List.getLast?_cons_cons] at ended
          rw [ih ended]

end Markers

/-- A text that is written line by line. -/
def linesText (lines : List String) : String :=
  lines.foldr (fun line text => line ++ "\n" ++ text) ""

/-- A text whose last line is ended. -/
def endLine (text : String) : String :=
  if text.toList = [] ∨ text.toList.getLast? = some '\n' then text else text ++ "\n"

/-- An ended line adds nothing to the parts of lines. -/
theorem prefix_newline_iff {marker text : List Char} (withinLine : '\n' ∉ marker) :
    marker <+: text ++ ['\n'] ↔ marker <+: text := by
  rw [List.prefix_concat_iff, or_iff_right_iff_imp]
  rintro rfl
  simp at withinLine

theorem infix_newline_iff {part text : List Char} (withinLine : '\n' ∉ part) :
    part <:+: text ++ ['\n'] ↔ part <:+: text := by
  rw [List.infix_concat_iff, or_iff_right_iff_imp, List.suffix_concat_iff]
  rintro (rfl | ⟨front, rfl, _⟩)
  · exact List.nil_infix
  · simp at withinLine

theorem Markers.marksChars_newline (markers : Markers) (text : List Char) :
    markers.marksChars (text ++ ['\n']) = markers.marksChars text := by
  have same : ∀ text, markers.markAt (text ++ ['\n']) = markers.markAt text := fun _ =>
    markAt_eq fun marker member => prefix_newline_iff (markers.withinLine marker member)
  induction text with
  | nil =>
      have alone := same []
      have nothing : (markers.markAt []).toList = [] := marksChars_nil
      rw [List.nil_append] at alone
      simp only [List.nil_append, marksChars, alone, nothing]
  | cons c text ih =>
      rw [List.cons_append, marksChars, marksChars, ih, ← List.cons_append, same]

section EndLine

variable (text rest : String)

/-- What a text tells and what is added on lines of its own are told one after the other. -/
theorem Markers.marks_endLine_append (markers : Markers) :
    markers.marks (endLine text ++ rest) = markers.marks text ++ markers.marks rest := by
  rw [marks, String.toList_append, endLine]
  split
  case isTrue ended =>
    rcases ended with empty | last
    · rw [marks, empty, List.nil_append, marksChars_nil]
      rfl
    · rw [marksChars_append last]
      rfl
  case isFalse =>
    have last : (text ++ "\n").toList.getLast? = some '\n' := by simp [String.toList_append]
    rw [marksChars_append last, String.toList_append]
    exact congrArg (· ++ _) (marksChars_newline markers _)

/-- More lines end in the state that their last mark makes. -/
theorem Markers.scan_endLine_append (markers : Markers) :
    markers.scan (endLine text ++ rest) =
      (markers.marks rest).foldl follow (markers.scan text) := by
  rw [scan, marks_endLine_append, List.foldl_append, scan]

theorem contains_endLine_append {text rest part : String} (withinLine : '\n' ∉ part.toList) :
    Contains (endLine text ++ rest) part ↔ Contains text part ∨ Contains rest part := by
  rw [Contains, String.toList_append, endLine]
  split
  case isTrue ended =>
    rcases ended with empty | last
    · rw [Contains, empty, List.nil_append, List.infix_nil]
      constructor
      · exact .inr
      · rintro (nothing | inside)
        · rw [nothing]
          exact List.nil_infix
        · exact inside
    · exact infix_append_iff withinLine last
  case isFalse =>
    have last : (text ++ "\n").toList.getLast? = some '\n' := by simp [String.toList_append]
    rw [infix_append_iff withinLine last, String.toList_append]
    exact or_congr_left (infix_newline_iff withinLine)

end EndLine

end FivegLab.Text
