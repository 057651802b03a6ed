import FivegLab.Text

/-!
# The words of a text

How `str.split` divides a text at white space, and in which words of the whole a
part of it ends and begins.
-/

namespace FivegLab.Text

variable {c : Char} {part text : List Char}

theorem wordsChars_space (space : isSpace c = true) (text : List Char) :
    wordsChars (c :: text) = wordsChars text := by
  rw [wordsChars.eq_def]
  exact if_pos space

/-- A visible character stands alone, or begins the next word. -/
theorem wordsChars_visible (visible : ¬isSpace c = true) (text : List Char) :
    wordsChars (c :: text) = [c] :: wordsChars text ∨
      ∃ word words, wordsChars text = word :: words ∧ wordsChars (c :: text) =
      (c :: word) :: words := by
  rw [wordsChars.eq_def]
  dsimp only
  rw [if_neg visible]
  split
  · exact .inl rfl
  · split
    · exact .inl rfl
    · split
      case h_1 none =>
        rw [none]
        exact .inl rfl
      case h_2 word words some => exact .inr ⟨word, words, some, rfl⟩

/-- A text that begins with something visible has a word. -/
theorem wordsChars_ne_nil (visible : ¬isSpace c = true) : wordsChars (c :: text) ≠ [] := by
  rcases wordsChars_visible visible text with alone | ⟨word, words, _, begun⟩
  · simp [alone]
  · simp [begun]

/-- A white space character ends the words before it. -/
theorem wordsChars_append (space : isSpace c = true) (text rest : List Char) :
    wordsChars (text ++ c :: rest) = wordsChars text ++ wordsChars rest := by
  induction text with
  | nil => rw [List.nil_append, wordsChars_space space, wordsChars, List.nil_append]
  | cons d text ih =>
      rw [List.cons_append]
      by_cases blank : isSpace d = true
      · rw [wordsChars_space blank, wordsChars_space blank, ih]
      · cases text with
        | nil =>
            rw [List.nil_append, wordsChars.eq_def, wordsChars.eq_def [d]]
            simp [blank, space, wordsChars_space space]
        | cons e text =>
            rw [wordsChars.eq_def, wordsChars.eq_def (d :: e :: text)]
            dsimp only [List.cons_append] at ih ⊢
            rw [if_neg blank, if_neg blank, ih]
            by_cases next : isSpace e = true
            · rw [if_pos next, if_pos next]
              rfl
            · rw [if_neg next, if_neg next]
              cases word : wordsChars (e :: text) with
              | nil => exact absurd word (wordsChars_ne_nil next)
              | cons => rfl

/-- A visible part at the beginning of a text is the beginning of its first word. -/
theorem wordsChars_start (visible : ∀ c ∈ part, isSpace c = false) (some : part ≠ [])
    (rest : List Char) :
    ∃ word words, wordsChars (part ++ rest) = word :: words ∧ part <+: word := by
  induction part with
  | nil => exact absurd rfl some
  | cons c part ih =>
      rw [List.forall_mem_cons] at visible
      rw [List.cons_append, wordsChars.eq_def]
      dsimp only
      rw [if_neg (by simp [visible.1])]
      cases part with
      | nil =>
          rw [List.nil_append]
          split
          · exact ⟨[c], [], rfl, List.prefix_refl _⟩
          · split
            · exact ⟨[c], _, rfl, List.prefix_refl _⟩
            · split
              · exact ⟨[c], [], rfl, List.prefix_refl _⟩
              · exact ⟨_, _, rfl, List.prefix_append [c] _⟩
      | cons d part =>
          rcases ih visible.2 (by simp) with ⟨word, words, begun, start⟩
          rw [List.cons_append] at begun ⊢
          dsimp only
          rw [if_neg (by simp [visible.2 d List.mem_cons_self]), begun]
          exact ⟨_, _, rfl, List.cons_prefix_cons.mpr ⟨rfl, start⟩⟩

/-- A text of visible characters is one word. -/
theorem wordsChars_word (visible : ∀ c ∈ part, isSpace c = false) (some : part ≠ []) :
    wordsChars part = [part] := by
  induction part with
  | nil => exact absurd rfl some
  | cons c part ih =>
      rw [List.forall_mem_cons] at visible
      rw [wordsChars.eq_def]
      dsimp only
      rw [if_neg (by simp [visible.1])]
      cases part with
      | nil => rfl
      | cons d part =>
          dsimp only
          rw [if_neg (by simp [visible.2 d List.mem_cons_self]), ih visible.2 (by simp)]

/-- A visible part at the end of a text is the end of its last word. -/
theorem wordsChars_end (visible : ∀ c ∈ part, isSpace c = false) (some : part ≠ [])
    (text : List Char) :
    ∃ words word, wordsChars (text ++ part) = words ++ [word] ∧ part <:+ word := by
  induction text with
  | nil => exact ⟨[], part, wordsChars_word visible some, List.suffix_refl _⟩
  | cons c text ih =>
      rcases ih with ⟨words, word, ended, suffix⟩
      rw [List.cons_append]
      by_cases space : isSpace c = true
      · exact ⟨words, word, by rw [wordsChars_space space, ended], suffix⟩
      · rcases wordsChars_visible space (text ++ part) with alone | ⟨first, others, split, begun⟩
        · exact ⟨[c] :: words, word, by rw [alone, ended, List.cons_append], suffix⟩
        · rw [ended] at split
          cases words with
          | nil =>
              cases split
              exact ⟨[], c :: word, begun, suffix.trans (List.suffix_cons _ _)⟩
          | cons _ words =>
              cases split
              exact ⟨(c :: first) :: words, word, begun, suffix⟩

/-- Two visible parts with white space in between are the end of a word and the
beginning of the next. -/
theorem wordsChars_pair {first second : List Char} (space : isSpace c = true)
    (firstVisible : ∀ c ∈ first, isSpace c = false) (firstSome : first ≠ [])
    (secondVisible : ∀ c ∈ second, isSpace c = false) (secondSome : second ≠ [])
    (occurs : first ++ c :: second <:+: text) :
    ∃ word next, [word, next] <:+: wordsChars text ∧ first <:+ word ∧ second <+: next := by
  rcases occurs with ⟨before, after, rfl⟩
  rcases wordsChars_end firstVisible firstSome before with ⟨words, word, ended, suffix⟩
  rcases wordsChars_start secondVisible secondSome after with ⟨next, others, begun, start⟩
  have split : before ++ (first ++ c :: second) ++ after =
      (before ++ first) ++ c :: (second ++ after) := by
    simp
  refine ⟨word, next, ⟨words, others, ?_⟩, suffix, start⟩
  rw [split, wordsChars_append space, ended, begun]
  simp

theorem isSpace_lowerChar (c : Char) : isSpace (lowerChar c) = isSpace c := by
  unfold lowerChar
  split
  case isTrue letter =>
    have letters : (List.range 91).all fun n => n < 65 ||
        (isSpace (Char.ofNat (n + 32)) == isSpace (Char.ofNat n)) := by
      decide +kernel
    have low : 65 ≤ c.toNat := letter.1
    have high : c.toNat ≤ 90 := letter.2
    have same := List.all_eq_true.mp letters c.toNat (List.mem_range.mpr (by omega))
    rw [Char.ofNat_toNat, Bool.or_eq_true, decide_eq_true_iff, beq_iff_eq] at same
    exact same.resolve_left (by omega)
  case isFalse => rfl

/-- Lower case leaves the words where they are. -/
theorem wordsChars_lower (text : List Char) :
    wordsChars (text.map lowerChar) = (wordsChars text).map (List.map lowerChar) := by
  induction text with
  | nil => rfl
  | cons c text ih =>
      rw [List.map_cons, wordsChars.eq_def, wordsChars.eq_def (c :: text)]
      dsimp only
      rw [isSpace_lowerChar, ih]
      split
      · rfl
      · cases text with
        | nil => rfl
        | cons d text =>
            rw [List.map_cons]
            dsimp only
            rw [isSpace_lowerChar]
            split
            · rfl
            · cases wordsChars (d :: text) with
              | nil => rfl
              | cons => rfl

end FivegLab.Text
