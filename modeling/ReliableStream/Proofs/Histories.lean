/-! # Histories

    A **history** is a list that grows at its end: the flights of a sender, the
    trace of a network, the events that were taken off an agenda. What an entry
    has to do with the entries before it is settled when it is added, and stays
    true of every longer history. -/

namespace ReliableStream

variable {α : Type} {P Q : List α → α → Prop} {history : List α} {entry : α}

/-- Each entry of a history is such as the entries before it demand. -/
def EachAfter (P : List α → α → Prop) (history : List α) : Prop :=
  ∀ earlier entry later, history = earlier ++ entry :: later → P earlier entry

theorem eachAfter_nil : EachAfter P [] := by
  intro earlier entry later hsplit
  simp at hsplit

theorem EachAfter.concat (h : EachAfter P history) (hentry : P history entry) :
    EachAfter P (history ++ [entry]) := by
  intro earlier other later hsplit
  -- What comes after the other entry is nothing, or ends with the new one.
  rcases List.eq_nil_or_concat later with rfl | ⟨front, last, rfl⟩
  · obtain ⟨rfl, hlast⟩ := List.append_inj' hsplit rfl
    cases hlast
    exact hentry
  · have hsplit' : history ++ [entry] = (earlier ++ other :: front) ++ [last] := by
      rw [hsplit, List.concat_eq_append, List.append_assoc, List.cons_append]
    exact h earlier other front (List.append_inj' hsplit' rfl).1

/-- One entry comes before another wherever that one stands in a history. -/
def ComesBefore (history : List α) (first second : α) : Prop :=
  ∀ earlier later, history = earlier ++ second :: later → first ∈ earlier

/-- In a history that follows an order, an entry comes before those that it may
    not follow. -/
theorem comesBefore_of_pairwise {R : α → α → Prop} {first second : α}
    (h : history.Pairwise R) (hmem : first ∈ history) (hne : first ≠ second)
    (hnot : ¬ R second first) : ComesBefore history first second := by
  intro earlier later hsplit
  subst hsplit
  rcases List.mem_append.mp hmem with hearlier | hrest
  · exact hearlier
  · rcases List.mem_cons.mp hrest with heq | hlater
    · exact absurd heq hne
    · have hrest := (List.pairwise_append.mp h).2.1
      exact absurd ((List.pairwise_cons.mp hrest).1 first hlater) hnot

end ReliableStream
