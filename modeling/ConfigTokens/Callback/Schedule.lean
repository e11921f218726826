import ConfigTokens.Callback.Adapter
/-!
# Schedules

Tasks run in rounds: each runs once a round, in the order in which they were started, and then the
starter may cancel some. `rounds` is the schedule for cancellations by round.
-/

namespace ConfigTokens.Callback

/-- The tasks that are to be cancelled in a round. -/
def cancelsIn
    (cancels : List (Option Nat))
    (round : Nat) : List Action :=
  cancels.zipIdx.filterMap fun (wanted, task) =>
    if wanted = some round then some (.cancel task) else none

/-- Rounds of a number of tasks; the cancellations of round zero come before any task runs. -/
def rounds
    (cancels : List (Option Nat))
    (count : Nat) : List Action :=
  let runs := (List.range cancels.length).map Action.run
  cancelsIn cancels 0 ++ (List.range count).flatMap fun round => runs ++ cancelsIn cancels (round + 1)

/-- The last round after which the starter cancels. -/
def lastCancelRound : Nat :=
  5

/-- Rounds that are enough for all calls to end. -/
def roundsNeeded
    (calls : List Call) : Nat :=
  calls.foldl (fun most call => max most call.work.depth) lastCancelRound + 2

/-- Runs calls in a loop, with the round after which each is to be cancelled. -/
def runAll
    (calls : List Call)
    (cancels : List (Option Nat)) : Loop :=
  let early := cancels.map (·.filter (· ≤ lastCancelRound))
  (Loop.start calls).perform (rounds early (roundsNeeded calls))

end ConfigTokens.Callback
