import LootLedger.Http.Redirect

/-!
# Scripted services

A network whose answers are known beforehand. It notes what is asked of it and how long its
client waits, so what a client does can be read off the script afterwards.

## Main definitions

* `Http.Script`, `Http.Script.send`, `Http.Script.wait`
* `Http.Script.ask`: a request that goes where it is sent on to
* `Http.Script.ofReplies`: one service that gives its replies in order
-/

namespace LootLedger.Http

/-- A network whose answers are known beforehand, and what was asked of it so far. -/
structure Script where
  /-- What comes of a request after the earlier ones. -/
  outcome : (earlier : List Url) → Url → Outcome
  /-- The requests so far, first one first. -/
  asked : List Url := []
  /-- The pauses so far, first one first. -/
  waits : List Wait := []

namespace Script

/-- Answers a request and notes it. -/
def send (url : Url) : StateM Script Outcome := fun script =>
  (script.outcome script.asked url, { script with asked := script.asked ++ [url] })

/-- Answers a request, after those it leads to where it is sent on. -/
def ask (url : Url) : StateM Script Outcome :=
  askAround send usualMoves url

/-- Notes a pause. -/
def wait (w : Wait) : StateM Script Unit := fun script =>
  ((), { script with waits := script.waits ++ [w] })

/-- The sum of the pauses in seconds. -/
def paused (script : Script) : Nat :=
  script.waits.foldr (fun w total => w.seconds.toNat + total) 0

/-- A network with one service, which gives its replies in order and then repeats the last one.
Without replies it is out of reach, as is everything else. -/
def ofReplies (service : Url) (replies : List Response) : Script where
  outcome earlier url :=
    if url.sameOrigin service then
      let before := (earlier.filter (·.sameOrigin service)).length
      match (replies[before]?).or replies.getLast? with
      | some r => .response r
      | none => .failure .unreachable
    else .failure .unreachable

/-- The requests that a service got. -/
def received (script : Script) (service : Url) : List Url :=
  script.asked.filter (·.sameOrigin service)

end Script

end LootLedger.Http
