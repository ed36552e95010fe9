/-! # Courses of transducers

    Much of this library is driven by one input at a time: a node by calls,
    packets and timers, a sender by what its connection asks of it. Each of
    them is a **transducer**: it answers an input or faults, and the answer
    holds the state that comes next.

    The **course** of a transducer is what comes of a row of inputs: the steps
    that were taken before the first fault, and the state in the end unless
    there was one. There is no other notion of a run. Whatever is on record of
    one, what was sent, what was handed out or what could be seen after each
    step, is read off the steps of the course. So what a single step preserves,
    the record included, is carried to the end of all runs by one induction. -/

namespace ReliableStream

/-- What answers inputs one after the other. -/
structure Transducer (σ ι τ ε : Type) where
  answer : σ → ι → Except ε τ
  /-- The state after an answer. -/
  next : τ → σ

/-- A step of a transducer: the state and the input that met, and the answer. -/
structure Transducer.Step (σ ι τ : Type) where
  before : σ
  input : ι
  answer : τ

/-- What comes of a row of inputs. -/
structure Course (σ ι τ ε : Type) where
  /-- The steps before the first fault. -/
  steps : List (Transducer.Step σ ι τ)
  /-- The state in the end, unless there was a fault. -/
  final : Except ε σ

namespace Transducer

variable {σ ι τ ε : Type}

/-- Answers one input after the other, until one faults. -/
def course (M : Transducer σ ι τ ε) (s : σ) : List ι → Course σ ι τ ε
  | [] => ⟨[], .ok s⟩
  | input :: rest =>
    match M.answer s input with
    | .error fault => ⟨[], .error fault⟩
    | .ok answer =>
      let others := M.course (M.next answer) rest
      ⟨⟨s, input, answer⟩ :: others.steps, others.final⟩

variable {M : Transducer σ ι τ ε} {s s' : σ} {input : ι} {inputs rest : List ι} {answer : τ}
  {fault : ε}

theorem course_cons (h : M.answer s input = .ok answer) :
    M.course s (input :: rest) = ⟨⟨s, input, answer⟩ :: (M.course (M.next answer) rest).steps,
      (M.course (M.next answer) rest).final⟩ := by
  rw [course, h]

theorem course_cons_of_error (h : M.answer s input = .error fault) :
    M.course s (input :: rest) = ⟨[], .error fault⟩ := by
  rw [course, h]

/-- A course that comes to an end answers its first input. -/
theorem exists_of_final_cons (h : (M.course s (input :: rest)).final = .ok s') :
    ∃ answer, M.answer s input = .ok answer ∧ (M.course (M.next answer) rest).final = .ok s' := by
  cases hanswer : M.answer s input with
  | error fault =>
    rw [course_cons_of_error hanswer] at h
    cases h
  | ok answer =>
    rw [course_cons hanswer] at h
    exact ⟨answer, rfl, h⟩

/-- **What every step preserves holds in the end.** It may say how the state has
    to do with the steps that led there. -/
theorem steps_induction {P : List (Step σ ι τ) → σ → Prop} (h : P [] s)
    (hstep : ∀ {past m input answer}, P past m → M.answer m input = .ok answer →
      P (past ++ [⟨m, input, answer⟩]) (M.next answer))
    (hfinal : (M.course s inputs).final = .ok s') : P (M.course s inputs).steps s' := by
  induction inputs generalizing s P with
  | nil =>
    cases hfinal
    exact h
  | cons input rest ih =>
    obtain ⟨answer, hanswer, hrest⟩ := exists_of_final_cons hfinal
    rw [course_cons hanswer]
    -- For the rest of the course the first step lies in the past already.
    exact ih (P := fun past => P (⟨s, input, answer⟩ :: past)) (hstep h hanswer)
      (fun hpast => hstep hpast) hrest

/-- The same where nothing is said of the past. -/
theorem final_induction {P : σ → Prop} (h : P s)
    (hstep : ∀ {m input answer}, P m → M.answer m input = .ok answer → P (M.next answer))
    (hfinal : (M.course s inputs).final = .ok s') : P s' :=
  steps_induction (P := fun _ => P) h (fun hpast hanswer => hstep hpast hanswer) hfinal

/-- What every step preserves is found by every step, also where the course
    comes to a fault later. -/
theorem forall_steps {P : σ → Prop} (h : P s)
    (hstep : ∀ {m input answer}, P m → M.answer m input = .ok answer → P (M.next answer)) :
    ∀ step ∈ (M.course s inputs).steps,
      P step.before ∧ M.answer step.before step.input = .ok step.answer := by
  induction inputs generalizing s with
  | nil => exact nofun
  | cons input rest ih =>
    cases hanswer : M.answer s input with
    | error fault =>
      rw [course_cons_of_error hanswer]
      exact nofun
    | ok answer =>
      rw [course_cons hanswer]
      intro step hmem
      rcases List.mem_cons.mp hmem with rfl | hmem
      · exact ⟨h, hanswer⟩
      · exact ih (hstep h hanswer) step hmem

/-- A course that comes to an end takes a step for each input. -/
theorem length_steps (h : (M.course s inputs).final = .ok s') :
    (M.course s inputs).steps.length = inputs.length := by
  induction inputs generalizing s with
  | nil => rfl
  | cons input rest ih =>
    obtain ⟨answer, hanswer, hrest⟩ := exists_of_final_cons h
    rw [course_cons hanswer, List.length_cons, List.length_cons, ih hrest]

/-- The fault of a course is that of a step. -/
theorem exists_of_final_eq_error (h : (M.course s inputs).final = .error fault) :
    ∃ m input, M.answer m input = .error fault := by
  induction inputs generalizing s with
  | nil => cases h
  | cons input rest ih =>
    cases hanswer : M.answer s input with
    | error fault' =>
      rw [course_cons_of_error hanswer] at h
      cases h
      exact ⟨s, input, hanswer⟩
    | ok answer =>
      rw [course_cons hanswer] at h
      exact ih h

/-- A course comes to its end if no step faults that it can take. -/
theorem exists_final {P : σ → Prop} {Q : ι → Prop} (h : P s) (hinputs : ∀ input ∈ inputs, Q input)
    (hstep : ∀ {m input}, P m → Q input → ∃ answer, M.answer m input = .ok answer ∧
      P (M.next answer)) : ∃ s', (M.course s inputs).final = .ok s' := by
  induction inputs generalizing s with
  | nil => exact ⟨s, rfl⟩
  | cons input rest ih =>
    obtain ⟨answer, hanswer, hnext⟩ := hstep h (hinputs input List.mem_cons_self)
    rw [course_cons hanswer]
    exact ih hnext fun input hmem => hinputs input (List.mem_cons_of_mem _ hmem)

end Transducer

/-! ### Courses seen from elsewhere -/

namespace Course

variable {σ ι τ ε σ' ι' τ' ε' α : Type}

/-- What a course ends with, and what is on record then if every step is
    entered. -/
def recorded (c : Course σ ι τ ε) (enter : α → Transducer.Step σ ι τ → α) (a : α) :
    Except ε (σ × α) :=
  c.final.map fun s => (s, c.steps.foldl enter a)

theorem of_recorded {c : Course σ ι τ ε} {enter : α → Transducer.Step σ ι τ → α} {a b : α} {s : σ}
    (h : c.recorded enter a = .ok (s, b)) : c.final = .ok s ∧ c.steps.foldl enter a = b := by
  unfold recorded at h
  cases hfinal : c.final with
  | error fault =>
    rw [hfinal] at h
    cases h
  | ok last =>
    rw [hfinal] at h
    cases h
    exact ⟨rfl, rfl⟩

/-- The course with other names for states, inputs, answers and faults. -/
def translate (c : Course σ ι τ ε) (state : σ → σ') (input : ι → ι') (answer : τ → τ')
    (fault : ε → ε') : Course σ' ι' τ' ε' where
  steps := c.steps.map fun step => ⟨state step.before, input step.input, answer step.answer⟩
  final := (c.final.map state).mapError fault

/-- What is on record of a translated course is what is on record of the course,
    if translated steps are entered as the steps are. -/
theorem recorded_translate (c : Course σ ι τ ε) {state : σ → σ'} {word : ι → ι'} {reply : τ → τ'}
    {trap : ε → ε'} {enter : α → Transducer.Step σ ι τ → α}
    {enter' : α → Transducer.Step σ' ι' τ' → α} (a : α)
    (henter : ∀ a step, enter' a ⟨state step.before, word step.input, reply step.answer⟩ =
      enter a step) : (c.translate state word reply trap).recorded enter' a =
      ((c.recorded enter a).map fun (s, b) => (state s, b)).mapError trap := by
  have hsteps : (c.translate state word reply trap).steps.foldl enter' a =
      c.steps.foldl enter a := by
    unfold translate
    rw [List.foldl_map]
    simp only [henter]
  unfold recorded
  rw [hsteps]
  unfold translate
  cases c.final <;> rfl

end Course

namespace Transducer

variable {σ ι τ ε σ' ι' τ' ε' α : Type}

/-- **What every step preserves, entered in a record, holds in the end.** -/
theorem recorded_induction {M : Transducer σ ι τ ε} {enter : α → Step σ ι τ → α}
    {P : α → σ → Prop} {s s' : σ} {inputs : List ι} {a b : α} (h : P a s)
    (hstep : ∀ {a m input answer}, P a m → M.answer m input = .ok answer →
      P (enter a ⟨m, input, answer⟩) (M.next answer))
    (hrecorded : (M.course s inputs).recorded enter a = .ok (s', b)) : P b s' := by
  obtain ⟨hfinal, rfl⟩ := Course.of_recorded hrecorded
  refine steps_induction (P := fun past m => P (past.foldl enter a) m) h ?_ hfinal
  intro past m input answer hpast hanswer
  rw [List.foldl_append]
  exact hstep hpast hanswer

/-- **A translated course** is the course of what is translated, if every step
    is that the course can come to. -/
theorem course_translate {M : Transducer σ ι τ ε} {M' : Transducer σ' ι' τ' ε'} (state : σ → σ')
    (word : ι → ι') (reply : τ → τ') (trap : ε → ε') {P : σ → List ι → Prop}
    (hanswer : ∀ {m input rest}, P m (input :: rest) →
      M'.answer (state m) (word input) = ((M.answer m input).map reply).mapError trap)
    (hnext : ∀ answer, M'.next (reply answer) = state (M.next answer))
    (hstep : ∀ {m input rest answer}, P m (input :: rest) → M.answer m input = .ok answer →
      P (M.next answer) rest) {s : σ} {inputs : List ι} (h : P s inputs) :
    M'.course (state s) (inputs.map word) =
      (M.course s inputs).translate state word reply trap := by
  induction inputs generalizing s with
  | nil => rfl
  | cons input rest ih =>
    have htranslated := hanswer h
    cases hfirst : M.answer s input with
    | error fault =>
      rw [hfirst] at htranslated
      rw [List.map_cons, course_cons_of_error hfirst, course_cons_of_error htranslated]
      rfl
    | ok answer =>
      rw [hfirst] at htranslated
      rw [List.map_cons, course_cons hfirst, course_cons htranslated, hnext,
        ih (hstep h hfirst)]
      rfl

end Transducer

end ReliableStream
