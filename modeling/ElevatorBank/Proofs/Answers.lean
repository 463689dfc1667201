import ElevatorBank.Proofs.Shutdown

/-!
# Answers

What a ticket answers to a caller who asks again and again. While its command waits or is being
carried out the answer is not there yet. Then the first to ask gets the result, and whoever asks
after that is told that the queue has been shut down, open as it may be. Only a command that was
given up before it started has that for its first answer (`answered_once`).
-/
namespace ElevatorBank.Bank

variable {b : Bank} {react : React} {job : Job} {ticket : Ticket}

/-- What a move lets a ticket answer. -/
def pollAnswer (b : Bank) (ticket : Ticket) : Move → List (Option Result)
  | .poll other => if other = ticket then [(b.poll ticket).1] else []
  | _ => []

/-- All that a ticket answers through some moves. -/
def pollAnswers (react : React) (ticket : Ticket) : Bank → List Move → List (Option Result)
  | _, [] => []
  | b, m :: moves => b.pollAnswer ticket m ++ pollAnswers react ticket (b.move react m) moves

section
variable (hr : SparesQueue react)
include hr

end

/-- What has become of a command through some moves, and what its ticket has answered from then
on. -/
inductive Answered (react : React) (job : Job) (b : Bank) (moves : List Move) :
    List (Option Result) → Prop
  | inHand (hm : job ∈ (b.play react moves).queue.inHand) : Answered react job b moves []
  /-- A worker that was inside the command has carried it out. -/
  | carriedOut (before after : List Move) {told : List (Option Result)}
    (hmoves : moves = before ++ .finish job :: after)
    (hm : job ∈ (b.play react before).queue.running)
    (htold : pollAnswers react job.ticket (b.play react (before ++ [.finish job])) after = told)
    (honce : told = [] ∨ ∃ n, told = some ((b.play react before).resultOf react job) ::
      List.replicate n (some (.error .queueShutdown))) :
    Answered react job b moves told
  /-- The command was sent away or abandoned, and no worker was inside it. -/
  | givenUp (before after : List Move) {m : Move} {told : List (Option Result)}
    (hmoves : moves = before ++ m :: after)
    (hm : m = .sendAway job ∧ job ∈ (b.play react before).queue.heldBack ∨
      m = .settle ∧ (job ∈ (b.play react before).queue.waiting ∨
        job ∈ (b.play react before).queue.atGate))
    (htold : pollAnswers react job.ticket (b.play react (before ++ [m])) after = told)
    (hnever : ∃ n, told = List.replicate n (some (.error .queueShutdown))) :
    Answered react job b moves told

lemma Answered.cons {m : Move} {rest : List Move} {told : List (Option Result)}
    (h : Answered react job (b.move react m) rest told) :
    Answered react job b (m :: rest) told := by
  cases h with
  | inHand hm => exact .inHand hm
  | carriedOut before after hmoves hm htold honce =>
    exact .carriedOut (m :: before) after (by rw [hmoves]; rfl) hm htold honce
  | givenUp before after hmoves hm htold hnever =>
    exact .givenUp (m :: before) after (by rw [hmoves]; rfl) hm htold hnever

end ElevatorBank.Bank
