import FivegLab.Program.Realize

/-!
# Noting the calls of a routine

Of some events a note is taken, such as of the commands of a host.  `Routine.Notes` is the
weakest precondition over the notes so far, with the notes that are allowed at every
call; a `Routine.Block` takes the notes of a given shape, one after the other, and
returns behind the last of them, whatever is replied, and may be stopped before.
-/

namespace FivegLab

variable {I : Interface} {τ κ ε α β : Type} {note : Event I → Option τ} {shape : τ → κ}

/-- The notes of a trace, in order. -/
def noted (note : Event I → Option τ) (trace : List (Event I)) : List τ := trace.filterMap note

theorem noted_cons (event : Event I) (trace : List (Event I)) :
    noted note (event :: trace) = (note event).toList ++ noted note trace := by
  rw [noted, List.filterMap_cons]
  cases note event <;> rfl

theorem noted_append (first rest : List (Event I)) :
    noted note (first ++ rest) = noted note first ++ noted note rest :=
  List.filterMap_append

/-- A world that gives any reply and takes the notes. -/
def noting (note : Event I → Option τ) : Answers I (List τ) :=
  fun earlier op reply later => later = earlier ++ (note ⟨op, reply⟩).toList

theorem admits_noting (earlier : List τ) (trace : List (Event I)) :
    Admits (noting note) earlier trace (earlier ++ noted note trace) := by
  induction trace generalizing earlier with
  | nil => simp [noted]
  | cons event trace ih =>
      have rest := ih (earlier ++ (note event).toList)
      rw [List.append_assoc, ← noted_cons] at rest
      exact .cons rfl rest

namespace Routine

/-- After the notes `earlier`, only notes are taken that are allowed behind those before
them, and the routine ends as told. -/
def Notes (note : Event I → Option τ) (allowed : List τ → Prop)
    (post : Except ε α → List τ → Prop) (earlier : List τ) (routine : Routine I Unit ε α) : Prop :=
  routine.Ensures (noting note) (fun _ _ later => allowed later)
    (fun ended _ later => post ended later) () earlier

section

variable {allowed : List τ → Prop} {earlier : List τ}

theorem notes_pure {value : α} {post : Except ε α → List τ → Prop}
    (holds : post (.ok value) earlier) :
    Notes note allowed post earlier (pure value : Routine I Unit ε α) := holds

theorem notes_raise {error : ε} {post : Except ε α → List τ → Prop}
    (holds : post (.error error) earlier) :
    Notes note allowed post earlier (raise error : Routine I Unit ε α) := holds

theorem notes_ofExcept {value : Except ε α} {post : Except ε α → List τ → Prop}
    (holds : post value earlier) :
    Notes note allowed post earlier (ofExcept value : Routine I Unit ε α) := by
  cases value with
  | error error => exact holds
  | ok value => exact holds

theorem notes_bind {routine : Routine I Unit ε α} {next : α → Routine I Unit ε β}
    {post : Except ε β → List τ → Prop}
    (first : Notes note allowed (fun ended later =>
      match ended with
      | .ok value => Notes note allowed post later (next value)
      | .error error => post (.error error) later) earlier routine) :
    Notes note allowed post earlier (routine >>= next) := by
  rw [Notes, ensures_bind]
  refine Ensures.mono first ?_
  rintro (error | value) _ later ended
  · exact ended
  · exact ended

theorem Notes.mono {routine : Routine I Unit ε α} {post weaker : Except ε α → List τ → Prop}
    (notes : Notes note allowed post earlier routine)
    (implies : ∀ ended later, post ended later → weaker ended later) :
    Notes note allowed weaker earlier routine :=
  Ensures.mono notes fun ended _ later => implies ended later

theorem notes_attempt {routine : Routine I Unit ε α}
    {post : Except ε (Except ε α) → List τ → Prop}
    (notes : Notes note allowed (fun ended => post (.ok ended)) earlier routine) :
    Notes note allowed post earlier (attempt routine) := by
  rw [Notes, ensures_attempt]
  exact notes

theorem notes_call {op : I.Op} {post : Except ε (I.Reply op) → List τ → Prop}
    (permitted : ∀ reply, allowed (earlier ++ (note ⟨op, reply⟩).toList))
    (holds : ∀ reply, post (.ok reply) (earlier ++ (note ⟨op, reply⟩).toList)) :
    Notes note allowed post earlier (call op : Routine I Unit ε _) := by
  rintro reply _ rfl
  exact ⟨permitted reply, holds reply⟩

/-- The notes of a run are allowed all along. -/
theorem Notes.of_emits {routine : Routine I Unit ε α} {post : Except ε α → List τ → Prop}
    {trace : List (Event I)} (notes : Notes note allowed post [] routine) (start : allowed [])
    (emits : routine.Emits () trace) : allowed (noted note trace) := by
  rcases List.eq_nil_or_concat trace with rfl | ⟨trace, event, rfl⟩
  · exact start
  · rw [List.concat_eq_append] at emits ⊢
    have permitted := Ensures.of_emits notes emits (admits_noting [] trace) rfl
    have last : noted note [event] = (note event).toList := by
      rw [noted_cons]
      exact List.append_nil _
    rwa [List.nil_append, ← last, ← noted_append] at permitted

theorem Notes.of_runs {routine : Routine I Unit ε α} {post : Except ε α → List τ → Prop}
    {trace : List (Event I)} {outcome : Except ε α} {after : Unit}
    (notes : Notes note allowed post [] routine) (runs : routine.Runs () trace outcome after) :
    post outcome (noted note trace) :=
  Ensures.of_runs notes runs (admits_noting [] trace)

end

/-- The routine takes notes of the shapes of a block, one after the other; it returns behind
the last of them, and may be stopped before. -/
def Block (note : Event I → Option τ) (shape : τ → κ) (block : List κ)
    (holds : α → List τ → Prop) (routine : Routine I Unit ε α) : Prop :=
  ∀ (allowed : List τ → Prop) (earlier : List τ),
    (∀ taken : List τ, taken.map shape <+: block → allowed (earlier ++ taken)) →
    Notes note allowed (fun ended later => ∃ taken : List τ, later = earlier ++ taken ∧
      match ended with
      | .ok value => taken.map shape = block ∧ holds value taken
      | .error _ => taken.map shape <+: block) earlier routine

variable {block block' : List κ} {holds : α → List τ → Prop} {holds' : α → β → List τ → Prop}

theorem block_pure (value : α) :
    Block note shape [] (fun result taken => result = value ∧ taken = [])
      (pure value : Routine I Unit ε α) :=
  fun _ _ _ => notes_pure ⟨[], (List.append_nil _).symm, rfl, rfl, rfl⟩

theorem block_ofExcept (value : Except ε α) :
    Block note shape [] (fun result taken => value = .ok result ∧ taken = [])
      (ofExcept value : Routine I Unit ε α) := by
  intro allowed earlier _
  refine notes_ofExcept ⟨[], (List.append_nil _).symm, ?_⟩
  cases value with
  | error error => exact List.prefix_rfl
  | ok value => exact ⟨rfl, rfl, rfl⟩

theorem Block.bind {routine : Routine I Unit ε α} {next : α → Routine I Unit ε β}
    (first : Block note shape block holds routine)
    (rest : ∀ value, Block note shape block' (holds' value) (next value)) :
    Block note shape (block ++ block') (fun result taken => ∃ value before after,
      taken = before ++ after ∧ holds value before ∧ holds' value result after)
      (routine >>= next) := by
  intro allowed earlier permitted
  refine notes_bind ((first allowed earlier fun taken begins => ?_).mono ?_)
  · exact permitted taken (begins.trans (List.prefix_append _ _))
  · rintro (error | value) _ ⟨before, rfl, ended⟩
    · exact ⟨before, rfl, ended.trans (List.prefix_append _ _)⟩
    · rcases ended with ⟨whole, holding⟩
      refine (rest value allowed (earlier ++ before) fun taken begins => ?_).mono ?_
      · rw [List.append_assoc]
        refine permitted _ ?_
        rw [List.map_append, whole]
        exact List.prefix_append_right_inj _ |>.mpr begins
      · rintro (error | result) _ ⟨after, rfl, ended⟩
        · refine ⟨before ++ after, List.append_assoc _ _ _, ?_⟩
          rw [List.map_append, whole]
          exact List.prefix_append_right_inj _ |>.mpr ended
        · refine ⟨before ++ after, List.append_assoc _ _ _, ?_, value, before, after, rfl, holding,
            ended.2⟩
          rw [List.map_append, whole, ended.1]

theorem Block.mono {weaker : α → List τ → Prop} {routine : Routine I Unit ε α}
    (blocked : Block note shape block holds routine)
    (implies : ∀ value taken, holds value taken → weaker value taken) :
    Block note shape block weaker routine := by
  intro allowed earlier permitted
  refine (blocked allowed earlier permitted).mono ?_
  rintro (error | value) _ ⟨taken, rfl, ended⟩
  · exact ⟨taken, rfl, ended⟩
  · exact ⟨taken, rfl, ended.1, implies value taken ended.2⟩

section

variable {op : I.Op} {next : I.Reply op → Except ε α} {taken : I.Reply op → τ} {key : κ}

/-- A call of which a note is taken, and whose reply may raise. -/
theorem block_noted (notes : ∀ reply, note ⟨op, reply⟩ = some (taken reply))
    (shapes : ∀ reply, shape (taken reply) = key) :
    Block note shape [key] (fun value issued => ∃ reply, issued = [taken reply] ∧
      next reply = .ok value)
      (call op >>= fun reply => ofExcept (next reply) : Routine I Unit ε α) := by
  intro allowed earlier permitted
  have whole (reply : I.Reply op) : [taken reply].map shape = [key] := by
    rw [List.map_singleton, shapes]
  have allows (reply : I.Reply op) : allowed (earlier ++ (note ⟨op, reply⟩).toList) := by
    rw [notes reply]
    exact permitted [taken reply] (whole reply ▸ List.prefix_rfl)
  refine notes_bind (notes_call allows fun reply => notes_ofExcept ?_)
  rw [notes reply]
  refine ⟨[taken reply], rfl, ?_⟩
  cases returned : next reply with
  | error error => exact whole reply ▸ List.prefix_rfl
  | ok value => exact ⟨whole reply, reply, rfl, returned⟩

/-- Such a call, of which it is kept how it ends. -/
theorem block_attempt_noted (notes : ∀ reply, note ⟨op, reply⟩ = some (taken reply))
    (shapes : ∀ reply, shape (taken reply) = key) :
    Block note shape [key]
      (fun ended issued => ∃ reply, issued = [taken reply] ∧ next reply = ended)
      (attempt (call op >>= fun reply => ofExcept (next reply) : Routine I Unit ε α)) := by
  intro allowed earlier permitted
  have whole (reply : I.Reply op) : [taken reply].map shape = [key] := by
    rw [List.map_singleton, shapes]
  have allows (reply : I.Reply op) : allowed (earlier ++ (note ⟨op, reply⟩).toList) := by
    rw [notes reply]
    exact permitted [taken reply] (whole reply ▸ List.prefix_rfl)
  refine notes_attempt (notes_bind (notes_call allows fun reply => notes_ofExcept ?_))
  rw [notes reply]
  exact ⟨[taken reply], rfl, whole reply, reply, rfl, rfl⟩

end

/-- A call of which no note is taken, and whose reply may raise. -/
theorem block_silent {op : I.Op} {next : I.Reply op → Except ε α}
    (silent : ∀ reply, note ⟨op, reply⟩ = none) :
    Block note shape [] (fun _ taken => taken = [])
      (call op >>= fun reply => ofExcept (next reply) : Routine I Unit ε α) := by
  intro allowed earlier permitted
  have allows (reply : I.Reply op) : allowed (earlier ++ (note ⟨op, reply⟩).toList) := by
    rw [silent reply]
    exact permitted [] List.prefix_rfl
  refine notes_bind (notes_call allows fun reply => notes_ofExcept ?_)
  rw [silent reply]
  refine ⟨[], rfl, ?_⟩
  cases next reply with
  | error error => exact List.prefix_rfl
  | ok value => exact ⟨rfl, rfl⟩

/-- What is done behind a routine, however it ends, and takes no notes. -/
theorem Block.finally {routine : Routine I Unit ε α} {last : Routine I Unit ε Unit}
    (blocked : Block note shape block holds routine)
    (silent : Block note shape [] (fun _ taken => taken = []) last) :
    Block note shape block holds (do
      let ended ← attempt routine
      last
      ofExcept ended) := by
  intro allowed earlier permitted
  refine notes_bind (notes_attempt ((blocked allowed earlier permitted).mono ?_))
  rintro ended _ ⟨taken, rfl, ends⟩
  have begins : taken.map shape <+: block := by
    cases ended with
    | error error => exact ends
    | ok value => exact ends.1 ▸ List.prefix_rfl
  refine notes_bind ((silent allowed (earlier ++ taken) fun more none => ?_).mono ?_)
  · rw [List.prefix_nil, List.map_eq_nil_iff] at none
    rw [none, List.append_nil]
    exact permitted taken begins
  · rintro (error | last) _ ⟨more, rfl, stopped⟩
    · rw [List.prefix_nil, List.map_eq_nil_iff] at stopped
      rw [stopped, List.append_nil]
      exact ⟨taken, rfl, begins⟩
    · rw [stopped.2, List.append_nil]
      exact notes_ofExcept ⟨taken, rfl, ends⟩

end Routine

end FivegLab
