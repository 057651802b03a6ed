import Mathlib.Data.List.Basic
import Mathlib.Data.List.Infix
import Mathlib.Data.List.TakeWhile

/-!
# Regular expressions

Expressions that are searched in a text, with word boundaries and a look at the
character before.  `Regex.Matches` says what an expression matches between its
neighbours; `Regex.ends` lists the matches at one place in the order in which a
backtracking search prefers them, and `Regex.search` finds the first match.
-/

namespace FivegLab

/-- A regular expression; the only repetitions are those of a class of characters. -/
inductive Regex
  | nothing
  | one (accepts : Char → Bool)
  | many (accepts : Char → Bool)
  | sequence (first second : Regex)
  | either (first second : Regex)
  | boundary (isWord : Char → Bool)
  | notAfter (rejects : Char → Bool)

namespace Regex

/-- A fixed text, when `alike c d` says that `d` stands for `c`. -/
def literal (alike : Char → Char → Bool) : List Char → Regex
  | [] => nothing
  | c :: rest => sequence (one (alike c)) (literal alike rest)

/-- One of several expressions. -/
def oneOf (first : Regex) : List Regex → Regex
  | [] => first
  | second :: rest => either first (oneOf second rest)

def optional (regex : Regex) : Regex := either regex nothing

/-- One or more characters of a class. -/
def some (accepts : Char → Bool) : Regex := sequence (one accepts) (many accepts)

def repeated (accepts : Char → Bool) : ℕ → Regex
  | 0 => nothing
  | count + 1 => sequence (one accepts) (repeated accepts count)

/-- Expressions one after the other. -/
def all : List Regex → Regex
  | [] => nothing
  | [last] => last
  | first :: rest => sequence first (all rest)

/-- The character in front of what follows a text. -/
def lastOf (before : Option Char) (text : List Char) : Option Char := text.getLast?.or before

/-- Exactly one of the two neighbours of a place is part of a word. -/
def isBoundary (isWord : Char → Bool) (before after : Option Char) : Bool :=
  before.any isWord != after.any isWord

/-- `regex.Matches before taken rest`: after the character `before` and in front of
`rest`, the expression matches `taken`. -/
inductive Matches : Regex → Option Char → List Char → List Char → Prop
  | nothing {before : Option Char} {rest : List Char} : Matches .nothing before [] rest
  | one {accepts : Char → Bool} {before : Option Char} {c : Char} {rest : List Char}
      (accepted : accepts c) : Matches (.one accepts) before [c] rest
  | many {accepts : Char → Bool} {before : Option Char} {taken rest : List Char}
      (accepted : ∀ c ∈ taken, accepts c) : Matches (.many accepts) before taken rest
  | sequence {first second : Regex} {before : Option Char} {taken more rest : List Char}
      (matchesFirst : Matches first before taken (more ++ rest))
      (matchesSecond : Matches second (lastOf before taken) more rest) :
      Matches (.sequence first second) before (taken ++ more) rest
  | left {first second : Regex} {before : Option Char} {taken rest : List Char}
      (matchesFirst : Matches first before taken rest) :
      Matches (.either first second) before taken rest
  | right {first second : Regex} {before : Option Char} {taken rest : List Char}
      (matchesSecond : Matches second before taken rest) :
      Matches (.either first second) before taken rest
  | boundary {isWord : Char → Bool} {before : Option Char} {rest : List Char}
      (atBoundary : isBoundary isWord before rest.head?) : Matches (.boundary isWord) before [] rest
  | notAfter {rejects : Char → Bool} {before : Option Char} {rest : List Char}
      (accepted : ∀ c ∈ before, rejects c = false) : Matches (.notAfter rejects) before [] rest

section

variable {first second : Regex} {before : Option Char} {taken rest : List Char}
  {accepts : Char → Bool}

@[simp]
theorem matches_nothing_iff : nothing.Matches before taken rest ↔ taken = [] :=
  ⟨by rintro ⟨⟩; rfl, by rintro rfl; exact .nothing⟩

@[simp]
theorem matches_one_iff :
    (one accepts).Matches before taken rest ↔ ∃ c, taken = [c] ∧ accepts c := by
  constructor
  · rintro (_ | accepted)
    exact ⟨_, rfl, accepted⟩
  · rintro ⟨c, rfl, accepted⟩
    exact .one accepted

@[simp]
theorem matches_many_iff :
    (many accepts).Matches before taken rest ↔ ∀ c ∈ taken, accepts c := by
  constructor
  · rintro (_ | _ | accepted)
    exact accepted
  · exact .many

theorem matches_sequence_iff : (sequence first second).Matches before taken rest ↔
    ∃ start more, taken = start ++ more ∧ first.Matches before start (more ++ rest) ∧
      second.Matches (lastOf before start) more rest := by
  constructor
  · rintro (_ | _ | _ | ⟨matchesFirst, matchesSecond⟩)
    exact ⟨_, _, rfl, matchesFirst, matchesSecond⟩
  · rintro ⟨start, more, rfl, matchesFirst, matchesSecond⟩
    exact .sequence matchesFirst matchesSecond

theorem matches_either_iff : (either first second).Matches before taken rest ↔
    first.Matches before taken rest ∨ second.Matches before taken rest := by
  constructor
  · intro matched
    cases matched with
    | left matched => exact .inl matched
    | right matched => exact .inr matched
  · rintro (matched | matched)
    · exact .left matched
    · exact .right matched

@[simp]
theorem matches_repeated_iff {count : ℕ} : (repeated accepts count).Matches before taken rest ↔
    taken.length = count ∧ ∀ c ∈ taken, accepts c := by
  induction count generalizing before taken with
  | zero =>
      rw [repeated, matches_nothing_iff]
      constructor
      · rintro rfl
        exact ⟨rfl, by simp⟩
      · rintro ⟨length, _⟩
        exact List.length_eq_zero_iff.mp length
  | succ count ih =>
      simp only [repeated, matches_sequence_iff, matches_one_iff, ih]
      constructor
      · rintro ⟨_, more, rfl, ⟨c, rfl, accepted⟩, length, acceptedMore⟩
        refine ⟨by simp [length], ?_⟩
        simp only [List.singleton_append, List.mem_cons, forall_eq_or_imp]
        exact ⟨accepted, acceptedMore⟩
      · rintro ⟨length, accepted⟩
        cases taken with
        | nil => exact absurd length (by simp)
        | cons c more =>
            simp only [List.mem_cons, forall_eq_or_imp] at accepted
            exact ⟨[c], more, rfl, ⟨c, rfl, accepted.1⟩, by simpa using length, accepted.2⟩

@[simp]
theorem matches_some_iff : (Regex.some accepts).Matches before taken rest ↔
    taken ≠ [] ∧ ∀ c ∈ taken, accepts c := by
  simp only [Regex.some, matches_sequence_iff, matches_one_iff, matches_many_iff]
  constructor
  · rintro ⟨_, more, rfl, ⟨c, rfl, accepted⟩, acceptedMore⟩
    refine ⟨by simp, ?_⟩
    simp only [List.singleton_append, List.mem_cons, forall_eq_or_imp]
    exact ⟨accepted, acceptedMore⟩
  · rintro ⟨nonempty, accepted⟩
    rcases List.exists_cons_of_ne_nil nonempty with ⟨c, more, rfl⟩
    simp only [List.mem_cons, forall_eq_or_imp] at accepted
    exact ⟨[c], more, rfl, ⟨c, rfl, accepted.1⟩, accepted.2⟩

end

/-- The texts that the expression matches at a place, in the order of preference. -/
def ends : Regex → Option Char → List Char → List (List Char)
  | .nothing, _, _ => [[]]
  | .one accepts, _, text =>
      match text with
      | [] => []
      | c :: _ => if accepts c then [[c]] else []
  | .many accepts, _, text => (text.takeWhile accepts).inits.reverse
  | .sequence first second, before, text =>
      (first.ends before text).flatMap fun taken =>
        (second.ends (lastOf before taken) (text.drop taken.length)).map (taken ++ ·)
  | .either first second, before, text => first.ends before text ++ second.ends before text
  | .boundary isWord, before, text => if isBoundary isWord before text.head? then [[]] else []
  | .notAfter rejects, before, _ => if before.any rejects then [] else [[]]

section

variable {before : Option Char} {text : List Char}

@[simp]
theorem ends_nothing : nothing.ends before text = [[]] := rfl

@[simp]
theorem ends_one_nil {accepts : Char → Bool} : (one accepts).ends before [] = [] := rfl

theorem ends_one_cons {accepts : Char → Bool} {c : Char} :
    (one accepts).ends before (c :: text) = if accepts c then [[c]] else [] := rfl

theorem ends_many {accepts : Char → Bool} :
    (many accepts).ends before text = (text.takeWhile accepts).inits.reverse := rfl

theorem ends_sequence {first second : Regex} : (sequence first second).ends before text =
    (first.ends before text).flatMap fun taken =>
      (second.ends (lastOf before taken) (text.drop taken.length)).map (taken ++ ·) := rfl

theorem ends_either {first second : Regex} :
    (either first second).ends before text = first.ends before text ++ second.ends before text :=
  rfl

theorem ends_boundary {isWord : Char → Bool} : (boundary isWord).ends before text =
    if isBoundary isWord before text.head? then [[]] else [] := rfl

theorem ends_notAfter {rejects : Char → Bool} : (notAfter rejects).ends before text =
    if before.any rejects then [] else [[]] := rfl

end

/-- The first match at the place after `before`, or at a later one. -/
def searchFrom (regex : Regex) (before : Option Char) (text : List Char) : Option (List Char) :=
  match regex.ends before text with
  | taken :: _ => .some taken
  | [] =>
      match text with
      | [] => none
      | c :: rest => searchFrom regex (.some c) rest

/-- `regex.search(text).group()`. -/
def search (regex : Regex) (text : List Char) : Option (List Char) := regex.searchFrom none text

/-- The expression matches somewhere in the text. -/
def Found (regex : Regex) (text : List Char) : Prop := (regex.search text).isSome

instance (regex : Regex) (text : List Char) : Decidable (regex.Found text) :=
  inferInstanceAs (Decidable (_ = true))

section

variable {before : Option Char} {text taken : List Char}

theorem mem_ends_nothing_iff : taken ∈ nothing.ends before text ↔
    ∃ rest, text = taken ++ rest ∧ nothing.Matches before taken rest := by
  rw [ends_nothing, List.mem_singleton]
  constructor
  · rintro rfl
    exact ⟨text, rfl, .nothing⟩
  · rintro ⟨rest, rfl, ⟨⟩⟩
    rfl

theorem mem_ends_one_iff {accepts : Char → Bool} : taken ∈ (one accepts).ends before text ↔
    ∃ rest, text = taken ++ rest ∧ (one accepts).Matches before taken rest := by
  cases text with
  | nil =>
      constructor
      · intro mem
        exact absurd mem List.not_mem_nil
      · rintro ⟨rest, split, matched⟩
        rcases matched with _ | accepted
        exact absurd split (List.cons_ne_nil _ _).symm
  | cons c text =>
      rw [ends_one_cons]
      constructor
      · intro mem
        split at mem
        case isTrue accepted =>
          rcases List.mem_singleton.mp mem with rfl
          exact ⟨text, rfl, .one accepted⟩
        case isFalse => exact absurd mem List.not_mem_nil
      · rintro ⟨rest, split, matched⟩
        rcases matched with _ | accepted
        rw [List.singleton_append, List.cons.injEq] at split
        rw [split.1, if_pos accepted]
        exact List.mem_singleton_self _

theorem mem_ends_many_iff {accepts : Char → Bool} : taken ∈ (many accepts).ends before text ↔
    ∃ rest, text = taken ++ rest ∧ (many accepts).Matches before taken rest := by
  rw [ends_many, List.mem_reverse, List.mem_inits]
  constructor
  · intro start
    rcases start.trans (List.takeWhile_prefix accepts) with ⟨rest, split⟩
    refine ⟨rest, split.symm, .many fun c mem => ?_⟩
    exact List.mem_takeWhile_imp (start.subset mem)
  · rintro ⟨rest, rfl, matched⟩
    rcases matched with _ | _ | accepted
    rw [List.takeWhile_append_of_pos accepted]
    exact List.prefix_append _ _

theorem mem_ends_boundary_iff {isWord : Char → Bool} :
    taken ∈ (boundary isWord).ends before text ↔
      ∃ rest, text = taken ++ rest ∧ (boundary isWord).Matches before taken rest := by
  rw [ends_boundary]
  constructor
  · intro mem
    split at mem
    case isTrue atBoundary =>
      rcases List.mem_singleton.mp mem with rfl
      exact ⟨text, rfl, .boundary atBoundary⟩
    case isFalse => exact absurd mem List.not_mem_nil
  · rintro ⟨rest, rfl, ⟨⟩⟩
    rename_i atBoundary
    rw [List.nil_append, if_pos atBoundary]
    exact List.mem_singleton_self _

theorem mem_ends_notAfter_iff {rejects : Char → Bool} :
    taken ∈ (notAfter rejects).ends before text ↔
      ∃ rest, text = taken ++ rest ∧ (notAfter rejects).Matches before taken rest := by
  rw [ends_notAfter]
  constructor
  · intro mem
    split at mem
    case isTrue => exact absurd mem List.not_mem_nil
    case isFalse accepted =>
      rcases List.mem_singleton.mp mem with rfl
      refine ⟨text, rfl, .notAfter fun c mem => ?_⟩
      cases mem
      exact Bool.eq_false_iff.mpr accepted
  · rintro ⟨rest, rfl, ⟨⟩⟩
    rename_i accepted
    cases before with
    | none => exact List.mem_singleton_self _
    | some c =>
        have fine : rejects c = false := accepted c rfl
        simp [fine]

end

theorem mem_ends_iff {regex : Regex} {before : Option Char} {text taken : List Char} :
    taken ∈ regex.ends before text ↔
      ∃ rest, text = taken ++ rest ∧ regex.Matches before taken rest := by
  induction regex generalizing before text taken with
  | nothing => exact mem_ends_nothing_iff
  | one accepts => exact mem_ends_one_iff
  | many accepts => exact mem_ends_many_iff
  | sequence first second ihFirst ihSecond =>
      simp only [ends_sequence, List.mem_flatMap, List.mem_map, ihFirst, ihSecond]
      constructor
      · rintro ⟨start, ⟨rest, rfl, matchesFirst⟩, more, ⟨tail, split, matchesSecond⟩, rfl⟩
        rw [List.drop_left] at split
        subst split
        exact ⟨tail, (List.append_assoc _ _ _).symm, .sequence matchesFirst matchesSecond⟩
      · rintro ⟨rest, rfl, matched⟩
        rcases matched with _ | _ | _ | ⟨matchesFirst, matchesSecond⟩
        refine ⟨_, ⟨_, List.append_assoc _ _ _, matchesFirst⟩, _, ⟨_, ?_, matchesSecond⟩, rfl⟩
        rw [List.append_assoc, List.drop_left]
  | either first second ihFirst ihSecond =>
      rw [ends_either, List.mem_append, ihFirst, ihSecond]
      constructor
      · rintro (⟨rest, rfl, matched⟩ | ⟨rest, rfl, matched⟩)
        · exact ⟨rest, rfl, .left matched⟩
        · exact ⟨rest, rfl, .right matched⟩
      · rintro ⟨rest, rfl, matched⟩
        cases matched with
        | left matched => exact .inl ⟨rest, rfl, matched⟩
        | right matched => exact .inr ⟨rest, rfl, matched⟩
  | boundary isWord => exact mem_ends_boundary_iff
  | notAfter rejects => exact mem_ends_notAfter_iff

theorem matches_of_mem_ends {regex : Regex} {before : Option Char} {text taken : List Char}
    (mem : taken ∈ regex.ends before text) :
    ∃ rest, text = taken ++ rest ∧ regex.Matches before taken rest :=
  mem_ends_iff.mp mem

theorem Matches.mem_ends {regex : Regex} {before : Option Char} {taken rest : List Char}
    (matched : regex.Matches before taken rest) : taken ∈ regex.ends before (taken ++ rest) :=
  mem_ends_iff.mpr ⟨rest, rfl, matched⟩

@[simp]
theorem lastOf_nil (before : Option Char) : lastOf before [] = before := by
  simp [lastOf]

@[simp]
theorem lastOf_cons (before : Option Char) (c : Char) (text : List Char) :
    lastOf before (c :: text) = lastOf (.some c) text := by
  cases text with
  | nil => rfl
  | cons d text => simp [lastOf, List.getLast?_cons]

/-- A search finds a match exactly if there is one somewhere. -/
theorem searchFrom_isSome_iff {regex : Regex} {before : Option Char} {text : List Char} :
    (regex.searchFrom before text).isSome ↔ ∃ front taken rest,
      text = front ++ (taken ++ rest) ∧ regex.Matches (lastOf before front) taken rest := by
  induction text generalizing before with
  | nil =>
      rw [searchFrom]
      constructor
      · intro found
        cases list : regex.ends before [] with
        | nil => simp [list] at found
        | cons taken more =>
            have mem : taken ∈ regex.ends before [] := by simp [list]
            rcases matches_of_mem_ends mem with ⟨rest, split, matched⟩
            exact ⟨[], taken, rest, split, by simpa using matched⟩
      · rintro ⟨front, taken, rest, split, matched⟩
        rcases List.append_eq_nil_iff.mp split.symm with ⟨rfl, nothing⟩
        have mem : taken ∈ regex.ends before [] := by
          rw [mem_ends_iff]
          exact ⟨rest, nothing.symm, by simpa using matched⟩
        cases list : regex.ends before [] with
        | nil => simp [list] at mem
        | cons head more => simp
  | cons c text ih =>
      rw [searchFrom]
      cases list : regex.ends before (c :: text) with
      | cons head more =>
          have mem : head ∈ regex.ends before (c :: text) := by simp [list]
          rcases matches_of_mem_ends mem with ⟨rest, split, matched⟩
          exact iff_of_true rfl ⟨[], head, rest, split, by simpa using matched⟩
      | nil =>
          dsimp only
          rw [ih]
          constructor
          · rintro ⟨front, taken, rest, rfl, matched⟩
            exact ⟨c :: front, taken, rest, rfl, by simpa using matched⟩
          · rintro ⟨front, taken, rest, split, matched⟩
            cases front with
            | nil =>
                have mem : taken ∈ regex.ends before (c :: text) := by
                  rw [mem_ends_iff]
                  exact ⟨rest, split, by simpa using matched⟩
                simp [list] at mem
            | cons head front =>
                rw [List.cons_append, List.cons.injEq] at split
                rcases split with ⟨rfl, rfl⟩
                exact ⟨front, taken, rest, rfl, by simpa using matched⟩

/-- What a search finds is a match. -/
theorem matches_of_searchFrom {regex : Regex} {before : Option Char} {text taken : List Char}
    (found : regex.searchFrom before text = .some taken) : ∃ front rest,
      text = front ++ (taken ++ rest) ∧ regex.Matches (lastOf before front) taken rest := by
  induction text generalizing before with
  | nil =>
      rw [searchFrom] at found
      split at found
      next list =>
        cases found
        have mem : taken ∈ regex.ends before [] := by simp [list]
        rcases matches_of_mem_ends mem with ⟨rest, split, matched⟩
        exact ⟨[], rest, split, by simpa using matched⟩
      next => exact absurd found (by simp)
  | cons c text ih =>
      rw [searchFrom] at found
      split at found
      next list =>
        cases found
        have mem : taken ∈ regex.ends before (c :: text) := by simp [list]
        rcases matches_of_mem_ends mem with ⟨rest, split, matched⟩
        exact ⟨[], rest, split, by simpa using matched⟩
      next =>
        rcases ih found with ⟨front, rest, rfl, matched⟩
        exact ⟨c :: front, rest, rfl, by simpa using matched⟩

theorem matches_of_search {regex : Regex} {text taken : List Char}
    (found : regex.search text = .some taken) : ∃ front rest,
      text = front ++ (taken ++ rest) ∧ regex.Matches (lastOf none front) taken rest :=
  matches_of_searchFrom found

theorem found_iff {regex : Regex} {text : List Char} :
    regex.Found text ↔ ∃ front taken rest, text = front ++ (taken ++ rest) ∧
      regex.Matches (lastOf none front) taken rest :=
  searchFrom_isSome_iff

/-- A search passes a front in which no match begins. -/
theorem searchFrom_append {regex : Regex} {before : Option Char} {front text : List Char}
    (none : ∀ start c more, front = start ++ c :: more → ∀ taken rest,
      c :: (more ++ text) = taken ++ rest → ¬regex.Matches (lastOf before start) taken rest) :
    regex.searchFrom before (front ++ text) = regex.searchFrom (lastOf before front) text := by
  induction front generalizing before with
  | nil => simp
  | cons c front ih =>
      have missing : regex.ends before (c :: (front ++ text)) = [] := by
        apply List.eq_nil_iff_forall_not_mem.mpr
        intro taken mem
        rcases matches_of_mem_ends mem with ⟨rest, split, matched⟩
        exact none [] c front rfl taken rest split (by simpa using matched)
      rw [List.cons_append, searchFrom, missing]
      dsimp only
      rw [ih, lastOf_cons]
      intro start d more split taken rest same matched
      refine none (c :: start) d more (by rw [split]; rfl) taken rest same ?_
      rwa [lastOf_cons]

/-- No place has a longer match than the preferred one. -/
def Greedy (regex : Regex) : Prop := ∀ before text,
  (regex.ends before text).Pairwise fun taken other => other.length ≤ taken.length

/-- No place has more than one match. -/
def Single (regex : Regex) : Prop := ∀ before text, (regex.ends before text).length ≤ 1

theorem single_nothing : Single nothing := by
  intro before text
  exact le_rfl

theorem single_one (accepts : Char → Bool) : Single (one accepts) := by
  intro before text
  cases text with
  | nil => simp
  | cons c text =>
      rw [ends_one_cons]
      split
      · simp
      · simp

theorem single_sequence {first second : Regex} (singleFirst : first.Single)
    (singleSecond : second.Single) : (sequence first second).Single := by
  intro before text
  have short := singleFirst before text
  rw [ends_sequence]
  match list : first.ends before text with
  | [] => simp
  | [taken] => simpa using singleSecond (lastOf before taken) (text.drop taken.length)
  | _ :: _ :: _ =>
      rw [list] at short
      exact absurd short (by simp)

theorem single_repeated (accepts : Char → Bool) (count : ℕ) : (repeated accepts count).Single := by
  induction count with
  | zero => exact single_nothing
  | succ count ih => exact single_sequence (single_one accepts) ih

theorem Single.greedy {regex : Regex} (single : regex.Single) : regex.Greedy := by
  intro before text
  have short := single before text
  match list : regex.ends before text with
  | [] => simp
  | [taken] => simp
  | _ :: _ :: _ =>
      rw [list] at short
      exact absurd short (by simp)

theorem greedy_many (accepts : Char → Bool) : (many accepts).Greedy := by
  intro before text
  rw [ends_many, List.pairwise_reverse]
  generalize text.takeWhile accepts = run
  induction run with
  | nil => simp
  | cons c run ih =>
      rw [List.inits_cons, List.pairwise_cons, List.pairwise_map]
      refine ⟨?_, ?_⟩
      · intro taken _
        exact Nat.zero_le _
      · apply ih.imp
        intro taken other shorter
        simpa using shorter

theorem greedy_sequence {first second : Regex} (single : first.Single) (greedy : second.Greedy) :
    (sequence first second).Greedy := by
  intro before text
  have short := single before text
  rw [ends_sequence]
  match list : first.ends before text with
  | [] => simp
  | [taken] =>
      rw [List.flatMap_singleton, List.pairwise_map]
      apply (greedy _ _).imp
      intro more other shorter
      simpa using shorter
  | _ :: _ :: _ =>
      rw [list] at short
      exact absurd short (by simp)

theorem greedy_optional {regex : Regex} (greedy : regex.Greedy) : regex.optional.Greedy := by
  intro before text
  rw [Regex.optional, ends_either, ends_nothing, List.pairwise_append]
  refine ⟨greedy before text, by simp, ?_⟩
  intro taken _ other mem
  rw [List.mem_singleton.mp mem]
  exact Nat.zero_le _

theorem greedy_some (accepts : Char → Bool) : (Regex.some accepts).Greedy :=
  greedy_sequence (single_one accepts) (greedy_many accepts)

/-- An expression all whose matches at a place are the same. -/
theorem greedy_of_unique {regex : Regex} (unique : ∀ before taken other rest otherRest,
    taken ++ rest = other ++ otherRest → regex.Matches before taken rest →
      regex.Matches before other otherRest → taken = other) : regex.Greedy := by
  intro before text
  apply List.pairwise_of_forall_mem_list
  intro taken mem other otherMem
  rcases matches_of_mem_ends mem with ⟨rest, split, matched⟩
  rcases matches_of_mem_ends otherMem with ⟨otherRest, otherSplit, otherMatched⟩
  rw [unique before taken other rest otherRest (split.symm.trans otherSplit) matched otherMatched]

/-- All matches of the expression in a text lie within one of its parts. -/
def OnlyWithin (regex : Regex) (front part rest : List Char) : Prop :=
  ∀ start taken more, front ++ (part ++ rest) = start ++ (taken ++ more) →
    regex.Matches (lastOf none start) taken more →
      ∃ skipped left, start = front ++ skipped ∧ part = skipped ++ (taken ++ left)

/-- A match within which all others lie is what a search finds. -/
theorem search_eq_some {regex : Regex} (greedy : regex.Greedy) {front taken rest : List Char}
    (matched : regex.Matches (lastOf none front) taken rest)
    (only : regex.OnlyWithin front taken rest) :
    regex.search (front ++ (taken ++ rest)) = .some taken := by
  have passed : regex.search (front ++ (taken ++ rest)) =
      regex.searchFrom (lastOf none front) (taken ++ rest) := by
    apply searchFrom_append
    rintro start c more rfl other otherRest same otherMatched
    obtain ⟨skipped, _, split, _⟩ := only start other otherRest (by rw [← same]; simp) otherMatched
    have longer := congrArg List.length split
    simp at longer
  have mem : taken ∈ regex.ends (lastOf none front) (taken ++ rest) := matched.mem_ends
  rw [passed]
  have first : ∀ other ∈ regex.ends (lastOf none front) (taken ++ rest),
      ∃ left, taken = other ++ left := by
    intro other otherMem
    rcases matches_of_mem_ends otherMem with ⟨otherRest, split, otherMatched⟩
    rcases only front other otherRest (by rw [split]) otherMatched with ⟨skipped, left, start, part⟩
    have nothing : skipped = [] := by simpa using start
    rw [nothing, List.nil_append] at part
    exact ⟨left, part⟩
  have longest := greedy (lastOf none front) (taken ++ rest)
  unfold searchFrom
  cases list : regex.ends (lastOf none front) (taken ++ rest) with
  | nil =>
      rw [list] at mem
      exact absurd mem List.not_mem_nil
  | cons other more =>
      rw [list] at mem first longest
      rcases first other List.mem_cons_self with ⟨left, split⟩
      rcases List.mem_cons.mp mem with rfl | later
      · rfl
      · have shorter := (List.pairwise_cons.mp longest).1 taken later
        have lengths := congrArg List.length split
        rw [List.length_append] at lengths
        have nothing : left = [] := List.length_eq_zero_iff.mp (by omega)
        rw [split, nothing, List.append_nil]

/-- A search finds the match at its place, if all matches there are the same. -/
theorem searchFrom_of_unique {regex : Regex} {before : Option Char} {taken rest : List Char}
    (matched : regex.Matches before taken rest) (unique : ∀ other otherRest,
      taken ++ rest = other ++ otherRest → regex.Matches before other otherRest → taken = other) :
    regex.searchFrom before (taken ++ rest) = .some taken := by
  have mem : taken ∈ regex.ends before (taken ++ rest) := matched.mem_ends
  unfold searchFrom
  cases list : regex.ends before (taken ++ rest) with
  | nil =>
      rw [list] at mem
      exact absurd mem List.not_mem_nil
  | cons other more =>
      have first : other ∈ regex.ends before (taken ++ rest) := by simp [list]
      rcases matches_of_mem_ends first with ⟨otherRest, split, otherMatched⟩
      rw [unique other otherRest split otherMatched]

/-- A search finds nothing in a part without the characters that every match has. -/
theorem search_eq_none {regex : Regex} {c : Char} {front part rest : List Char}
    (needed : ∀ before taken more, regex.Matches before taken more → c ∈ taken) (missing : c ∉ part)
    (only : regex.OnlyWithin front part rest) :
    regex.search (front ++ (part ++ rest)) = none := by
  cases found : regex.search (front ++ (part ++ rest)) with
  | none => rfl
  | some taken =>
      rcases matches_of_search found with ⟨start, more, split, matched⟩
      rcases only start taken more split matched with ⟨_, _, _, same⟩
      have mem := needed _ _ _ matched
      rw [same] at missing
      exact absurd (by simp [mem]) missing

end Regex

end FivegLab
