import QueryGateway.Gateway
import QueryGateway.Proofs.Gateway.Clearance

/-! Sessions: one job after the other, of any kind.

The gateway keeps no state, so a session is a row of plays, one a job
(`exists_plays_of_serve`); what the jobs of a session share is the world that answers. -/
namespace QueryGateway

open Dialogue

/-- What the gateway can be called for. -/
inductive Job where
  | single (r : Request) (account : AccountContext)
  | batch (text : String) (template : Request) (account : AccountContext)
  | stream (r : Request) (account : AccountContext)

namespace Job

/-- The request of a job; for a batch, what stands for all of a request but its statement. -/
def request : Job → Request
  | .single r _ | .batch _ r _ | .stream r _ => r

def account : Job → AccountContext
  | .single _ a | .batch _ _ a | .stream _ a => a

/-- Whether a job is for the one statement of its request. -/
def alone : Job → Bool
  | .single .. | .stream .. => true
  | .batch .. => false

end Job

namespace Gateway

/-- Does one job. -/
def perform (g : Gateway) : Job → Consultation StreamAnswer
  | .single r account => do return .envelope (← g.runSingle r account)
  | .batch text template account => do return .envelope (← g.runBatch text template account)
  | .stream r account => g.openStream r account

/-- Does one job after the other. -/
def serve (g : Gateway) : List Job → Consultation (List StreamAnswer)
  | [] => return []
  | job :: jobs => do
    let answer ← g.perform job
    let answers ← g.serve jobs
    return answer :: answers

end Gateway

/-- A job with what happened during it and how it was answered. -/
structure Play where
  job : Job
  events : List Event
  answer : StreamAnswer

/-- A session is a row of plays. -/
theorem exists_plays_of_serve {g : Gateway} {jobs : List Job} {events : List Event}
    {answers : List StreamAnswer} (h : (g.serve jobs).Yields events answers) :
    ∃ plays : List Play, plays.map Play.job = jobs ∧ plays.flatMap Play.events = events ∧
      plays.map Play.answer = answers ∧
      ∀ play ∈ plays, (g.perform play.job).Yields play.events play.answer := by
  induction jobs generalizing events answers with
  | nil =>
    obtain ⟨rfl, rfl⟩ := yields_pure.mp h
    exact ⟨[], rfl, rfl, rfl, List.forall_mem_nil _⟩
  | cons job jobs ih =>
    obtain ⟨first, answer, later, rfl, hfirst, hlater⟩ := yields_bind.mp h
    obtain ⟨answers', hsecond, rfl⟩ := yields_map.mp hlater
    obtain ⟨plays, rfl, rfl, rfl, hplays⟩ := ih hsecond
    refine ⟨⟨job, first, answer⟩ :: plays, rfl, rfl, rfl, fun play hplay => ?_⟩
    rcases List.mem_cons.mp hplay with rfl | hplay
    · exact hfirst
    · exact hplays play hplay

/-- A world in which the authorizer grants everything, nothing is kept, and the database
does what it is asked and has no rows. -/
def agreeable : (c : Call) → Unit → c.Answer × Unit
  | .authorize .., _ => (Verdict.granted, ())
  | .lookUp _, _ => (.ok none, ())
  | .keep .., _ => (.ok (), ())
  | .execute .., _ => (.ok {}, ())
  | .openBatch, _ => (.ok (), ())
  | .executeInBatch .., _ => (.ok {}, ())
  | .commit, _ => (.ok (), ())
  | .rollback, _ => (.ok (), ())
  | .stream .., _ => ([], ())

end QueryGateway
