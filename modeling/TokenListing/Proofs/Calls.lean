/-! # Sequences of calls and of rounds

A machine is called again and again, and each call gets a reply. Two machines whose replies agree
call by call agree on every sequence of calls. A loop does one round after another: a round leads to
another one or gives the result of the loop, and nothing in it says that there is a last round.
-/
namespace TokenListing

/-- The loop comes from a state to a result in so many rounds. -/
inductive Rounds {State Result : Type} (round : State → State ⊕ Result) :
    State → Nat → Result → Prop where
  | last {state : State} {result : Result} (ends : round state = .inr result) :
      Rounds round state 1 result
  | more {state next : State} {count : Nat} {result : Result} (leads : round state = .inl next)
      (later : Rounds round next count result) : Rounds round state (count + 1) result

namespace Calls

variable {State Other Call Reply : Type}

def replies (step : State → Call → Reply × State) (state : State) :
    List Call → List Reply × State
  | [] => ([], state)
  | call :: calls =>
    ((step state call).1 :: (replies step (step state call).2 calls).1,
      (replies step (step state call).2 calls).2)

theorem replies_append (step : State → Call → Reply × State) (state : State)
    (first second : List Call) :
    replies step state (first ++ second) =
      ((replies step state first).1 ++ (replies step (replies step state first).2 second).1,
        (replies step (replies step state first).2 second).2) := by
  induction first generalizing state with
  | nil => simp [replies]
  | cons call first ih => simp [replies, ih]

theorem length_replies (step : State → Call → Reply × State) (state : State)
    (calls : List Call) : (replies step state calls).1.length = calls.length := by
  induction calls generalizing state with
  | nil => rfl
  | cons call calls ih => exact congrArg (· + 1) (ih _)

/-- A relation between machines under which every call gets equal replies and which every call
keeps. -/
def Bisimulation (step : State → Call → Reply × State) (step' : Other → Call → Reply × Other)
    (related : State → Other → Prop) : Prop :=
  ∀ state other call, related state other →
    (step state call).1 = (step' other call).1 ∧
      related (step state call).2 (step' other call).2

theorem Bisimulation.replies {step : State → Call → Reply × State}
    {step' : Other → Call → Reply × Other} {related : State → Other → Prop}
    (alike : Bisimulation step step' related) {state : State} {other : Other}
    (h : related state other) (calls : List Call) :
    (replies step state calls).1 = (replies step' other calls).1 ∧
      related (replies step state calls).2 (replies step' other calls).2 := by
  induction calls generalizing state other with
  | nil => exact ⟨rfl, h⟩
  | cons call calls ih =>
    obtain ⟨same, next⟩ := alike state other call h
    obtain ⟨rest, last⟩ := ih next
    refine ⟨?_, last⟩
    rw [Calls.replies, Calls.replies, same, rest]

end Calls
end TokenListing
