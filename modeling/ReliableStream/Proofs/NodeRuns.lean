import ReliableStream.Proofs.Changes
import ReliableStream.Proofs.Courses
/-! # Runs of a node

    A node is driven by calls of its application, by packets and by timers,
    each at a time of the clock. Its runs are the courses of one transducer,
    and differ only in what is read off them: the nodes on the way, the node in
    the end, or that node with all that was sent and armed until then. -/

namespace ReliableStream

namespace Node

/-- A node answers an input with effects. -/
def transducer : Transducer Node (Duration × Input) (Node × List Effect) Fault where
  answer n p := n.react p.1 p.2
  next := Prod.fst

/-- A step of a node. -/
abbrev Step := Transducer.Step Node (Duration × Input) (Node × List Effect)

/-- What comes of inputs to a node. -/
def course (n : Node) (inputs : List (Duration × Input)) :
    Course Node (Duration × Input) (Node × List Effect) Fault := transducer.course n inputs

/-- The nodes of a run, which ends early with a fault. -/
def history (n : Node) (inputs : List (Duration × Input)) : List Node :=
  n :: (n.course inputs).steps.map fun step => step.answer.1

/-- The node after a run, if no input faults. -/
def after (n : Node) (inputs : List (Duration × Input)) : Option Node :=
  (n.course inputs).final.toOption

/-- The node after one input after the other, and all that it did. -/
def run (n : Node) (inputs : List (Duration × Input)) : Except Fault (Node × List Effect) :=
  (n.course inputs).recorded (fun done step => done ++ step.answer.2) []

/-- What is on record after a run, if no input faults, where the record shows the
    node and every step is entered. -/
def observed {α : Type} (node : α → Node) (enter : α → Step → α) (a : α)
    (inputs : List (Duration × Input)) : Option α :=
  (((node a).course inputs).recorded enter a).toOption.map Prod.snd

variable {n n' m : Node} {now : Duration} {input : Input} {inputs rest : List (Duration × Input)}
  {effects : List Effect}

theorem final_of_after (h : n.after inputs = some m) : (n.course inputs).final = .ok m := by
  unfold after at h
  cases hfinal : (n.course inputs).final with
  | error fault =>
    rw [hfinal] at h
    cases h
  | ok last =>
    rw [hfinal] at h
    cases h
    rfl

/-- A run goes on from the node that its first input leaves. -/
theorem after_cons (h : n.react now input = .ok (n', effects)) :
    n.after ((now, input) :: rest) = n'.after rest := by
  unfold after course
  rw [Transducer.course_cons h]
  rfl

theorem mem_history_self (n : Node) (inputs : List (Duration × Input)) : n ∈ n.history inputs :=
  List.mem_cons_self

theorem history_cons (h : n.react now input = .ok (n', effects)) :
    n.history ((now, input) :: rest) = n :: n'.history rest := by
  unfold history course
  rw [Transducer.course_cons h]
  rfl

theorem history_cons_of_error {fault : Fault} (h : n.react now input = .error fault) :
    n.history ((now, input) :: rest) = [n] := by
  unfold history course
  rw [Transducer.course_cons_of_error h]
  rfl

/-- Nothing but what it did distinguishes the two ways to tell of a run. -/
theorem after_of_run (h : n.run inputs = .ok (m, effects)) : n.after inputs = some m := by
  unfold after
  rw [(Course.of_recorded h).1]
  rfl

/-- What every step preserves holds after every run. -/
theorem of_after (P : Node → Prop) (h : P n)
    (hstep : ∀ m m' now input effects, P m → m.react now input = .ok (m', effects) → P m')
    (hm : n.after inputs = some m) : P m :=
  Transducer.final_induction h (fun hpast hreact => hstep _ _ _ _ _ hpast hreact)
    (final_of_after hm)

/-- What every step preserves holds of every node of a run. -/
theorem forall_mem_history {P : Node → Prop} (h : P n)
    (hstep : ∀ m m' now input effects, P m → m.react now input = .ok (m', effects) → P m')
    (inputs : List (Duration × Input)) : ∀ m ∈ n.history inputs, P m := by
  intro m hm
  rcases List.mem_cons.mp hm with rfl | hm
  · exact h
  · obtain ⟨step, hmem, rfl⟩ := List.mem_map.mp hm
    obtain ⟨hbefore, hreact⟩ := Transducer.forall_steps h
      (fun hpast hreact => hstep _ _ _ _ _ hpast hreact) step hmem
    exact hstep _ _ _ _ _ hbefore hreact

section Observed

variable {α : Type} {node : α → Node} {enter : α → Step → α} {a b : α}

/-- What every step preserves holds of the record in the end. -/
theorem of_observed {P : α → Prop} (hobserved : observed node enter a inputs = some b) (h : P a)
    (hnode : ∀ a step, node (enter a step) = step.answer.1)
    (hstep : ∀ {a now input n' effects}, P a → (node a).react now input = .ok (n', effects) →
      P (enter a ⟨node a, (now, input), (n', effects)⟩)) : P b := by
  unfold observed at hobserved
  cases hrecorded : ((node a).course inputs).recorded enter a with
  | error fault =>
    rw [hrecorded] at hobserved
    cases hobserved
  | ok last =>
    rw [hrecorded] at hobserved
    cases hobserved
    -- That the record shows the node is carried along.
    refine (Transducer.recorded_induction (P := fun a m => node a = m ∧ P a) ⟨rfl, h⟩ ?_
      hrecorded).2
    rintro a _ ⟨now, input⟩ ⟨n', effects⟩ ⟨rfl, ha⟩ hreact
    exact ⟨hnode _ _, hstep ha hreact⟩

/-- There is a record of every run that comes to an end, and it shows the node
    in the end. -/
theorem exists_observed (hnode : ∀ a step, node (enter a step) = step.answer.1)
    (h : (node a).after inputs = some m) :
    ∃ b, observed node enter a inputs = some b ∧ node b = m := by
  have hfinal := final_of_after h
  have hshown := Transducer.steps_induction (M := transducer)
    (P := fun past m => node (past.foldl enter a) = m) rfl ?_ hfinal
  · refine ⟨_, ?_, hshown⟩
    unfold observed Course.recorded
    rw [hfinal]
    rfl
  · intro past m p answer _ _
    rw [List.foldl_append]
    exact hnode _ _

end Observed

end Node

end ReliableStream
