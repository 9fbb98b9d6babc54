import Mathlib.Tactic.Common

/-!
# Machines

A machine answers an input and goes on to its next state. Two machines whose answers agree step
by step, from states that stay related, agree on every list of inputs. It is enough that the
answers of the first look like those of the second.
-/

namespace KeyedGraph

variable {S T I O V : Type*}

/-- The answers of a machine to a list of inputs, and the state that it ends in. -/
def transcript (step : S → I → O × S) : List I → S → List O × S
  | [], s => ([], s)
  | i :: inputs, s =>
    let (answers, last) := transcript step inputs (step s i).2
    ((step s i).1 :: answers, last)

lemma transcript_cons (step : S → I → O × S) (i : I) (inputs : List I) (s : S) :
    transcript step (i :: inputs) s =
      ((step s i).1 :: (transcript step inputs (step s i).2).1,
        (transcript step inputs (step s i).2).2) := rfl

/-- What is true of a state and survives every step on the inputs is true behind all of them. -/
lemma transcript_induction {step : S → I → O × S} {P : S → Prop} {inputs : List I}
    (h : ∀ i ∈ inputs, ∀ s, P s → P (step s i).2) {s : S} (hs : P s) :
    P (transcript step inputs s).2 := by
  induction inputs generalizing s with
  | nil => exact hs
  | cons i inputs ih =>
    obtain ⟨hi, h⟩ := List.forall_mem_cons.mp h
    exact ih h (hi s hs)

/-- If the answers of one machine look like those of another in every step from related states,
they do so on every list of inputs, and the machines end in related states. -/
theorem transcript_view {step : S → I → O × S} {step' : T → I → V × T} (view : O → V)
    {R : S → T → Prop}
    (h : ∀ s t i, R s t → view (step s i).1 = (step' t i).1 ∧ R (step s i).2 (step' t i).2)
    (inputs : List I) {s : S} {t : T} (hst : R s t) :
    (transcript step inputs s).1.map view = (transcript step' inputs t).1 ∧
      R (transcript step inputs s).2 (transcript step' inputs t).2 := by
  induction inputs generalizing s t with
  | nil => exact ⟨rfl, hst⟩
  | cons i inputs ih =>
    obtain ⟨ho, hr⟩ := h s t i hst
    obtain ⟨hos, hrs⟩ := ih hr
    refine ⟨?_, hrs⟩
    rw [transcript_cons, transcript_cons, List.map_cons, ho, hos]

/-- Machines that agree in every step from related states have the same answers and end in
related states. -/
theorem transcript_agree {step : S → I → O × S} {step' : T → I → O × T} {R : S → T → Prop}
    (h : ∀ s t i, R s t → (step s i).1 = (step' t i).1 ∧ R (step s i).2 (step' t i).2)
    (inputs : List I) {s : S} {t : T} (hst : R s t) :
    (transcript step inputs s).1 = (transcript step' inputs t).1 ∧
      R (transcript step inputs s).2 (transcript step' inputs t).2 := by
  have hview := transcript_view id h inputs hst
  rwa [List.map_id] at hview

end KeyedGraph
