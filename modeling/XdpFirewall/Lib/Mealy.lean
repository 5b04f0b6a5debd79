import Mathlib.Logic.Basic

/-!
# Mealy — machines that answer each event

A machine takes an event in every state and gives an answer. Two machines that answer alike in
related states, and stay related, answer alike for as long as they run.
-/

namespace XdpFirewall
namespace Lib

variable {S T E O : Type}

/-- The answers to a list of events, and the state after it. -/
def answerAll (step : S → E → O × S) : S → List E → List O × S
  | s, [] => ([], s)
  | s, e :: es =>
      let answer := step s e
      let rest := answerAll step answer.2 es
      (answer.1 :: rest.1, rest.2)

/-- What holds of every answer in every state holds of the answers of a run. -/
theorem forall_answerAll {step : S → E → O × S} {p : E → O → Prop} {es : List E}
    (h : ∀ e ∈ es, ∀ s, p e (step s e).1) (s : S) :
    ∀ pair ∈ es.zip (answerAll step s es).1, p pair.1 pair.2 := by
  induction es generalizing s with
  | nil => simp
  | cons e es ih =>
      intro pair hpair
      rw [answerAll, List.zip_cons_cons, List.mem_cons] at hpair
      rcases hpair with rfl | hpair
      · exact h e List.mem_cons_self s
      · exact ih (fun e he => h e (List.mem_cons_of_mem _ he)) _ pair hpair

/-- One step of a simulation: the answers are equal and the states stay related. -/
def Simulates (related : S → T → Prop) (left : O × S) (right : O × T) : Prop :=
  left.1 = right.1 ∧ related left.2 right.2

theorem answerAll_simulates {step : S → E → O × S} {step' : T → E → O × T}
    {related : S → T → Prop} {ok : E → Prop}
    (hstep : ∀ s t e, related s t → ok e → Simulates related (step s e) (step' t e))
    {es : List E} (hok : ∀ e ∈ es, ok e) {s : S} {t : T} (h : related s t) :
    Simulates related (answerAll step s es) (answerAll step' t es) := by
  induction es generalizing s t with
  | nil => exact ⟨rfl, h⟩
  | cons e es ih =>
      obtain ⟨hanswer, hrelated⟩ := hstep s t e h (hok e List.mem_cons_self)
      obtain ⟨hanswers, hlast⟩ := ih (fun e he => hok e (List.mem_cons_of_mem _ he)) hrelated
      refine ⟨?_, hlast⟩
      rw [answerAll, answerAll, hanswer, hanswers]

end Lib
end XdpFirewall
