import FivegLab.Text

/-!
# Lines of a text

How `splitlines` splits a text that is written line by line: a line feed ends a
line whatever stands in front of it, and a part without breaks stays whole.
-/

namespace FivegLab.Text

/-- The lines with a character in front of the first one. -/
def consLine (c : Char) : List (List Char) → List (List Char)
  | [] => [[c]]
  | line :: lines => (c :: line) :: lines

theorem consLine_append {c : Char} {lines : List (List Char)} (some : lines ≠ [])
    (more : List (List Char)) : consLine c (lines ++ more) = consLine c lines ++ more := by
  cases lines with
  | nil => exact absurd rfl some
  | cons line lines => rfl

theorem splitLinesChars_cons {c : Char} {text : List Char}
    (single : ¬(c = '\r' ∧ text.head? = some '\n')) :
    splitLinesChars (c :: text) =
      if isLineBreak c then [] :: splitLinesChars text else consLine c (splitLinesChars text) := by
  rw [splitLinesChars]
  · rfl
  · rintro rest rfl rfl
    exact single ⟨rfl, rfl⟩

theorem splitLinesChars_ne_nil {text : List Char} (some : text ≠ []) :
    splitLinesChars text ≠ [] := by
  unfold splitLinesChars
  split
  · exact absurd rfl some
  · simp
  · split
    · simp
    · split
      · simp
      · simp

/-- A line feed ends a line, whatever is in front of it. -/
theorem splitLinesChars_newline (text rest : List Char) :
    splitLinesChars (text ++ '\n' :: rest) =
      splitLinesChars (text ++ ['\n']) ++ splitLinesChars rest := by
  have step : ∀ c text, (∀ rest, c = '\r' → text = '\n' :: rest → False) →
      splitLinesChars (text ++ '\n' :: rest) =
        splitLinesChars (text ++ ['\n']) ++ splitLinesChars rest →
      splitLinesChars (c :: text ++ '\n' :: rest) =
        splitLinesChars (c :: text ++ ['\n']) ++ splitLinesChars rest := by
    intro c text single ih
    by_cases pair : c = '\r' ∧ text = []
    · rcases pair with ⟨rfl, rfl⟩
      rfl
    · have apart : ∀ tail, ¬(c = '\r' ∧ (text ++ '\n' :: tail).head? = some '\n') := by
        rintro tail ⟨rfl, head⟩
        cases text with
        | nil => exact pair ⟨rfl, rfl⟩
        | cons d text =>
            rw [List.cons_append, List.head?_cons, Option.some.injEq] at head
            exact single text rfl (by rw [head])
      rw [List.cons_append, List.cons_append, splitLinesChars_cons (apart rest),
        splitLinesChars_cons (apart []), ih]
      split
      · rfl
      · exact consLine_append (splitLinesChars_ne_nil (by simp)) _
  induction text using splitLinesChars.induct with
  | case1 => rfl
  | case2 text ih =>
      simp only [List.cons_append, splitLinesChars]
      simpa using ih
  | case3 c text single _ ih => exact step c text single ih
  | case4 c text single _ _ ih => exact step c text single ih
  | case5 c text single _ _ _ _ ih => exact step c text single ih

/-- A line with no break in it is one line. -/
theorem splitLinesChars_line {line : List Char} (plain : ∀ c ∈ line, isLineBreak c = false) :
    splitLinesChars (line ++ ['\n']) = [line] := by
  induction line with
  | nil => rfl
  | cons c line ih =>
      rw [List.forall_mem_cons] at plain
      have single : ¬(c = '\r' ∧ (line ++ ['\n']).head? = some '\n') := by
        rintro ⟨rfl, _⟩
        exact absurd plain.1 (by decide)
      rw [List.cons_append, splitLinesChars_cons single, plain.1, ih plain.2]
      rfl

/-- What has no break in it stands at the end of the last line. -/
theorem splitLinesChars_append {part : List Char} (plain : ∀ c ∈ part, isLineBreak c = false)
    (some : part ≠ []) (text : List Char) : ∃ earlier start,
      splitLinesChars (text ++ (part ++ ['\n'])) = earlier ++ [start ++ part] := by
  have step : ∀ c text, (∀ rest, c = '\r' → text = '\n' :: rest → False) →
      (∃ earlier start, splitLinesChars (text ++ (part ++ ['\n'])) = earlier ++ [start ++ part]) →
      ∃ earlier start, splitLinesChars (c :: text ++ (part ++ ['\n'])) =
        earlier ++ [start ++ part] := by
    rintro c text single ⟨earlier, start, ih⟩
    have apart : ¬(c = '\r' ∧ (text ++ (part ++ ['\n'])).head? = Option.some '\n') := by
      rintro ⟨rfl, head⟩
      cases text with
      | nil =>
          rcases List.exists_cons_of_ne_nil some with ⟨d, more, rfl⟩
          have first := plain d List.mem_cons_self
          simp only [List.nil_append, List.cons_append, List.head?_cons, Option.some.injEq] at head
          rw [head] at first
          exact absurd first (by decide)
      | cons d text =>
          rw [List.cons_append, List.head?_cons, Option.some.injEq] at head
          exact single text rfl (by rw [head])
    rw [List.cons_append, splitLinesChars_cons apart, ih]
    split
    · exact ⟨[] :: earlier, start, rfl⟩
    · cases earlier with
      | nil => exact ⟨[], c :: start, rfl⟩
      | cons line earlier => exact ⟨(c :: line) :: earlier, start, rfl⟩
  induction text using splitLinesChars.induct with
  | case1 => exact ⟨[], [], splitLinesChars_line plain⟩
  | case2 text ih =>
      rcases ih with ⟨earlier, start, ih⟩
      refine ⟨[] :: earlier, start, ?_⟩
      simp only [List.cons_append, splitLinesChars]
      simpa using ih
  | case3 c text single _ ih => exact step c text single ih
  | case4 c text single _ _ ih => exact step c text single ih
  | case5 c text single _ _ _ _ ih => exact step c text single ih

end FivegLab.Text
