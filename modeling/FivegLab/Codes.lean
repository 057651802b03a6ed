import Mathlib.Data.List.Forall2

/-!
# Codes that delimit themselves

Two codes, each followed by a rest, may only read the same when they stand for
values that agree and the same rest follows.  This composes: for words over an
alphabet, for runs of symbols of a class, for pairs, and for separated items.
-/

namespace FivegLab

namespace Codes

variable {α β γ : Type}

/-- The codes of two values are told apart from each other and from what follows. -/
def Apart (follows : List β → Prop) (agree : Prop) (first second : List β) : Prop :=
  ∀ rest rest', follows rest → follows rest' → first ++ rest = second ++ rest' →
    agree ∧ rest = rest'

/-- Anything may follow. -/
def Anything (_ : List β) : Prop := True

/-- Nothing follows, or a symbol outside a class. -/
def Outside (inside : β → Prop) (rest : List β) : Prop := ∀ symbol ∈ rest.head?, ¬inside symbol

theorem Outside.cons {inside : β → Prop} {symbol : β} (outside : ¬inside symbol) (rest : List β) :
    Outside inside (symbol :: rest) := by
  intro head isHead
  rw [List.head?_cons, Option.mem_some_iff] at isHead
  rwa [← isHead]

theorem Outside.nil {inside : β → Prop} : Outside inside [] := by
  intro head isHead
  simp at isHead

theorem Apart.mono {follows narrower : List β → Prop} {agree weaker : Prop}
    {first second : List β} (apart : Apart follows agree first second)
    (narrow : ∀ rest, narrower rest → follows rest) (weaken : agree → weaker) :
    Apart narrower weaker first second := by
  intro rest rest' after after' same
  rcases apart rest rest' (narrow rest after) (narrow rest' after') same with ⟨agreed, rest_eq⟩
  exact ⟨weaken agreed, rest_eq⟩

/-- Codes that differ in the first symbol are told apart. -/
theorem apart_of_heads {follows : List β → Prop} {agree : Prop} {symbol symbol' : β}
    {first second : List β} (different : symbol ≠ symbol') :
    Apart follows agree (symbol :: first) (symbol' :: second) := by
  intro rest rest' _ _ same
  rw [List.cons_append, List.cons_append, List.cons.injEq] at same
  exact absurd same.1 different

/-- Codes that can be decoded in front of anything are told apart. -/
theorem apart_of_decoder {code : α → List β} {decode : List β → Option (α × List β)}
    (decodes : ∀ value rest, decode (code value ++ rest) = some (value, rest)) (first second : α) :
    Apart Anything (first = second) (code first) (code second) := by
  intro rest rest' _ _ same
  have decoded := congrArg decode same
  rw [decodes, decodes, Option.some.injEq, Prod.mk.injEq] at decoded
  exact decoded

/-- Runs of symbols of a class end where the class does. -/
theorem apart_of_inside {inside : β → Prop} {first second : List β}
    (allFirst : ∀ symbol ∈ first, inside symbol) (allSecond : ∀ symbol ∈ second, inside symbol) :
    Apart (Outside inside) (first = second) first second := by
  induction first generalizing second with
  | nil =>
      intro rest rest' after after' same
      cases second with
      | nil => exact ⟨rfl, same⟩
      | cons symbol second =>
          have head : symbol ∈ rest.head? := by
            rw [List.nil_append] at same
            rw [same]
            simp
          exact absurd (allSecond symbol (by simp)) (after symbol head)
  | cons symbol first ih =>
      intro rest rest' after after' same
      cases second with
      | nil =>
          have head : symbol ∈ rest'.head? := by
            rw [List.nil_append] at same
            rw [← same]
            simp
          exact absurd (allFirst symbol (by simp)) (after' symbol head)
      | cons symbol' second =>
          rw [List.cons_append, List.cons_append, List.cons.injEq] at same
          rcases same with ⟨sameSymbol, same⟩
          have firsts : ∀ symbol ∈ first, inside symbol := fun _ member =>
            allFirst _ (List.mem_cons_of_mem _ member)
          have seconds : ∀ symbol ∈ second, inside symbol := fun _ member =>
            allSecond _ (List.mem_cons_of_mem _ member)
          rcases ih firsts seconds rest rest' after after' same with ⟨sameRest, rest_eq⟩
          exact ⟨by rw [sameSymbol, sameRest], rest_eq⟩

theorem Apart.cons {follows : List β → Prop} {agree : Prop} {first second : List β}
    (apart : Apart follows agree first second) (symbol : β) :
    Apart follows agree (symbol :: first) (symbol :: second) := by
  intro rest rest' after after' same
  rw [List.cons_append, List.cons_append, List.cons.injEq] at same
  exact apart rest rest' after after' same.2

theorem Apart.refl (code : List β) : Apart Anything True code code := by
  intro rest rest' _ _ same
  exact ⟨trivial, List.append_cancel_left same⟩

/-- Two codes in a row. -/
theorem Apart.append {follows between : List β → Prop} {agree agree' : Prop}
    {first second first' second' : List β} (left : Apart between agree first second)
    (right : Apart follows agree' first' second')
    (enters : ∀ rest, follows rest → between (first' ++ rest))
    (enters' : ∀ rest, follows rest → between (second' ++ rest)) :
    Apart follows (agree ∧ agree') (first ++ first') (second ++ second') := by
  intro rest rest' after after' same
  rw [List.append_assoc, List.append_assoc] at same
  rcases left _ _ (enters rest after) (enters' rest' after') same with ⟨agreed, same⟩
  rcases right rest rest' after after' same with ⟨agreed', rest_eq⟩
  exact ⟨⟨agreed, agreed'⟩, rest_eq⟩

/-- Words are told apart when their letters are, and no letter begins with the
end mark. -/
theorem apart_flatMap {code : α → List β} {mark : β}
    (letters : ∀ letter letter', Apart Anything (letter = letter') (code letter) (code letter'))
    (opens : ∀ letter, ∃ symbol rest, code letter = symbol :: rest ∧ symbol ≠ mark)
    (first second : List α) :
    Apart Anything (first = second) (first.flatMap code ++ [mark])
      (second.flatMap code ++ [mark]) := by
  induction first generalizing second with
  | nil =>
      intro rest rest' _ _ same
      cases second with
      | nil => exact ⟨rfl, by simpa using same⟩
      | cons letter second =>
          rcases opens letter with ⟨symbol, others, code_eq, different⟩
          simp only [List.flatMap_nil, List.flatMap_cons, code_eq, List.nil_append,
            List.cons_append, List.cons.injEq] at same
          exact absurd same.1.symm different
  | cons letter first ih =>
      intro rest rest' _ _ same
      cases second with
      | nil =>
          rcases opens letter with ⟨symbol, others, code_eq, different⟩
          simp only [List.flatMap_nil, List.flatMap_cons, code_eq, List.nil_append,
            List.cons_append, List.cons.injEq] at same
          exact absurd same.1 different
      | cons letter' second =>
          simp only [List.flatMap_cons, List.append_assoc] at same
          have parts := (letters letter letter').append (ih second) (fun _ _ => trivial)
            (fun _ _ => trivial)
          rcases parts rest rest' trivial trivial (by simpa using same) with
            ⟨⟨sameLetter, sameRest⟩, rest_eq⟩
          exact ⟨by rw [sameLetter, sameRest], rest_eq⟩

/-- Separated items are told apart when the items are. -/
theorem apart_intercalate {code : α → List β} {agrees : α → α → Prop} {comma close : β}
    {follows : List β → Prop} (commaFollows : ∀ rest, follows (comma :: rest))
    (closeFollows : ∀ rest, follows (close :: rest)) (different : comma ≠ close)
    {first second : List α} (someFirst : first ≠ []) (someSecond : second ≠ [])
    (items : ∀ item ∈ first, ∀ item' ∈ second,
      Apart follows (agrees item item') (code item) (code item')) :
    Apart Anything (List.Forall₂ agrees first second)
      ([comma].intercalate (first.map code) ++ [close])
      ([comma].intercalate (second.map code) ++ [close]) := by
  induction first generalizing second with
  | nil => exact absurd rfl someFirst
  | cons item first ih =>
      cases second with
      | nil => exact absurd rfl someSecond
      | cons item' second =>
          have head := items item List.mem_cons_self item' List.mem_cons_self
          have closes : ∀ rest, Anything rest → follows ([close] ++ rest) :=
            fun rest _ => closeFollows rest
          have continues : ∀ others rest, Anything rest → follows (comma :: others ++ rest) :=
            fun others rest _ => commaFollows (others ++ rest)
          cases first with
          | nil =>
              cases second with
              | nil =>
                  have both := head.append (Apart.refl [close]) closes closes
                  simpa using both
              | cons next second =>
                  have ends : Apart Anything False [close]
                      (comma :: ([comma].intercalate ((next :: second).map code) ++ [close])) :=
                    apart_of_heads different.symm
                  have both := head.append ends closes (continues _)
                  simpa using both
          | cons next first =>
              cases second with
              | nil =>
                  have ends : Apart Anything False
                      (comma :: ([comma].intercalate ((next :: first).map code) ++ [close]))
                      [close] :=
                    apart_of_heads different
                  have both := head.append ends (continues _) closes
                  simpa using both
              | cons next' second =>
                  have others : ∀ item ∈ next :: first, ∀ item' ∈ next' :: second,
                      Apart follows (agrees item item') (code item) (code item') :=
                    fun _ member _ member' => items _ (List.mem_cons_of_mem _ member) _
                      (List.mem_cons_of_mem _ member')
                  have tails := ih (by simp) (by simp) others
                  have both := head.append (tails.cons comma) (continues _) (continues _)
                  simpa using both

/-- Possibly no items: then none begins with the end mark. -/
theorem apart_enclosed {code : α → List β} {agrees : α → α → Prop} {comma close : β}
    {follows : List β → Prop} (commaFollows : ∀ rest, follows (comma :: rest))
    (closeFollows : ∀ rest, follows (close :: rest)) (different : comma ≠ close)
    {first second : List α}
    (opensFirst : ∀ item ∈ first, ∃ symbol rest, code item = symbol :: rest ∧ symbol ≠ close)
    (opensSecond : ∀ item ∈ second, ∃ symbol rest, code item = symbol :: rest ∧ symbol ≠ close)
    (items : ∀ item ∈ first, ∀ item' ∈ second,
      Apart follows (agrees item item') (code item) (code item')) :
    Apart Anything (List.Forall₂ agrees first second)
      ([comma].intercalate (first.map code) ++ [close])
      ([comma].intercalate (second.map code) ++ [close]) := by
  have begins {items : List α} {item : α} {symbol : β} {rest : List β}
      (code_eq : code item = symbol :: rest) :
      ∃ more, [comma].intercalate ((item :: items).map code) ++ [close] = symbol :: more := by
    rw [List.map_cons, code_eq, List.intercalate_cons_cons_left]
    exact ⟨_, rfl⟩
  cases first with
  | nil =>
      cases second with
      | nil => exact (Apart.refl _).mono (fun _ after => after) fun _ => .nil
      | cons item' second =>
          rcases opensSecond item' List.mem_cons_self with ⟨symbol, rest, code_eq, unended⟩
          rcases begins code_eq with ⟨more, text_eq⟩
          rw [text_eq]
          exact apart_of_heads (Ne.symm unended)
  | cons item first =>
      cases second with
      | nil =>
          rcases opensFirst item List.mem_cons_self with ⟨symbol, rest, code_eq, unended⟩
          rcases begins code_eq with ⟨more, text_eq⟩
          rw [text_eq]
          exact apart_of_heads unended
      | cons item' second =>
          exact apart_intercalate commaFollows closeFollows different (by simp) (by simp) items

end Codes

end FivegLab
