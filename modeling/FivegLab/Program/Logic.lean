import FivegLab.Program.Basic

/-!
# Programs in a world

A world is a state that answers the operations of an interface.  Its answers are
a relation: an operation may have several replies, each with the state it leaves
behind.  `Program.Satisfies` is the weakest precondition of a program in such a
world, with an obligation at every call besides the postcondition; its soundness
is proved once, for the calls of a partial run and for the value of a full one.
-/

namespace FivegLab

/-- How a world of states `W` answers the operations of an interface: the state
before, the operation, a possible reply, and the state after. -/
abbrev Answers (I : Interface) (W : Type) :=
  W → (op : I.Op) → I.Reply op → W → Prop

variable {I : Interface} {W : Type} {α β : Type}

/-- The world can give the replies of a trace one after the other. -/
inductive Admits (answers : Answers I W) : W → List (Event I) → W → Prop
  | nil (world : W) : Admits answers world [] world
  | cons {event : Event I} {trace : List (Event I)} {world middle final : W}
      (answer : answers world event.op event.reply middle)
      (rest : Admits answers middle trace final) :
      Admits answers world (event :: trace) final

section

variable {answers : Answers I W}

@[simp]
theorem admits_nil_iff {world final : W} :
    Admits answers world [] final ↔ final = world := by
  constructor
  · rintro ⟨⟩
    rfl
  · rintro rfl
    exact .nil _

@[simp]
theorem admits_cons_iff {event : Event I} {trace : List (Event I)} {world final : W} :
    Admits answers world (event :: trace) final ↔
      ∃ middle, answers world event.op event.reply middle ∧
        Admits answers middle trace final := by
  constructor
  · rintro (_ | ⟨answer, rest⟩)
    exact ⟨_, answer, rest⟩
  · rintro ⟨middle, answer, rest⟩
    exact .cons answer rest

theorem admits_append_iff {first rest : List (Event I)} {world final : W} :
    Admits answers world (first ++ rest) final ↔
      ∃ middle, Admits answers world first middle ∧ Admits answers middle rest final := by
  induction first generalizing world with
  | nil => simp
  | cons event first ih =>
      simp only [List.cons_append, admits_cons_iff, ih]
      constructor
      · rintro ⟨next, answer, middle, admitsFirst, admitsRest⟩
        exact ⟨middle, ⟨next, answer, admitsFirst⟩, admitsRest⟩
      · rintro ⟨middle, ⟨next, answer, admitsFirst⟩, admitsRest⟩
        exact ⟨next, answer, middle, admitsFirst, admitsRest⟩

/-- A world that gives any reply and remembers every event. -/
def recording : Answers I (List (Event I)) :=
  fun earlier op reply later => later = earlier ++ [⟨op, reply⟩]

theorem admits_recording (earlier trace : List (Event I)) :
    Admits recording earlier trace (earlier ++ trace) := by
  induction trace generalizing earlier with
  | nil => simp
  | cons event trace ih =>
      have rest := ih (earlier ++ [event])
      rw [List.append_assoc] at rest
      exact .cons rfl rest

end

namespace Program

/-- The weakest precondition of a program for a postcondition, together with an
obligation on the operation, the state before and the state after every call. -/
def Satisfies (answers : Answers I W) (obligation : W → I.Op → W → Prop)
    (post : α → W → Prop) : Program I α → W → Prop
  | .done value, world => post value world
  | .call op next, world =>
      ∀ reply after, answers world op reply after →
        obligation world op after ∧ (next reply).Satisfies answers obligation post after
  | .unfinished, _ => True

variable {answers : Answers I W} {obligation : W → I.Op → W → Prop}

theorem satisfies_bind {program : Program I α} {next : α → Program I β}
    {post : β → W → Prop} {world : W} :
    (program.bind next).Satisfies answers obligation post world ↔
      program.Satisfies answers obligation
        (fun value middle => (next value).Satisfies answers obligation post middle) world := by
  induction program generalizing world with
  | done value => rfl
  | call op continuation ih => simp only [Program.bind, Satisfies, ih]
  | unfinished => rfl

theorem Satisfies.mono {program : Program I α} {post weaker : α → W → Prop} {world : W}
    (satisfied : program.Satisfies answers obligation post world)
    (implies : ∀ value world, post value world → weaker value world) :
    program.Satisfies answers obligation weaker world := by
  induction program generalizing world with
  | done value => exact implies _ _ satisfied
  | call op continuation ih =>
      intro reply after answer
      rcases satisfied reply after answer with ⟨obliged, rest⟩
      exact ⟨obliged, ih reply rest⟩
  | unfinished => trivial

/-- A weaker obligation is met. -/
theorem Satisfies.weaken {program : Program I α} {post : α → W → Prop} {world : W}
    {weaker : W → I.Op → W → Prop} (satisfied : program.Satisfies answers obligation post world)
    (implies : ∀ before op after, obligation before op after → weaker before op after) :
    program.Satisfies answers weaker post world := by
  induction program generalizing world with
  | done value => exact satisfied
  | call op continuation ih =>
      intro reply after answer
      rcases satisfied reply after answer with ⟨obliged, rest⟩
      exact ⟨implies _ _ _ obliged, ih reply rest⟩
  | unfinished => trivial

/-- A full run in the world ends in the postcondition. -/
theorem Satisfies.of_runs {program : Program I α} {post : α → W → Prop} {world final : W}
    {trace : List (Event I)} {value : α}
    (satisfied : program.Satisfies answers obligation post world)
    (runs : program.Runs trace value) (admits : Admits answers world trace final) :
    post value final := by
  induction runs generalizing world with
  | done value =>
      rw [admits_nil_iff] at admits
      subst final
      exact satisfied
  | call reply _ ih =>
      rw [admits_cons_iff] at admits
      rcases admits with ⟨middle, answer, rest⟩
      exact ih (satisfied reply middle answer).2 rest

/-- Every call of a partial run in the world meets the obligation. -/
theorem Satisfies.of_emits {program : Program I α} {post : α → W → Prop}
    {world before after : W} {trace : List (Event I)} {event : Event I}
    (satisfied : program.Satisfies answers obligation post world)
    (emits : program.Emits (trace ++ [event]))
    (admits : Admits answers world trace before)
    (answer : answers before event.op event.reply after) :
    obligation before event.op after := by
  induction trace generalizing program world with
  | nil =>
      rw [admits_nil_iff] at admits
      subst before
      rcases emits with _ | ⟨reply, _⟩
      exact (satisfied reply after answer).1
  | cons head trace ih =>
      rw [admits_cons_iff] at admits
      rcases admits with ⟨middle, first, rest⟩
      rcases emits with _ | ⟨reply, emits⟩
      exact ih (satisfied reply middle first).2 emits rest

end Program

end FivegLab
