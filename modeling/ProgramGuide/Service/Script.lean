import ProgramGuide.Service.Task

/-!
# Scripted services

A script lays down what the service answers: for every method and path a list of
replies, of which the last is repeated.  Tasks are run against it one at a time, or as
a group whose members wait for the refresh lock together.
-/

namespace ProgramGuide

inductive Outcome where
  | answer (response : Response)
  | unreachable
  | cancellation
  deriving DecidableEq, Repr

structure Reply where
  outcome : Outcome
  /-- The clock moves on before the answer. -/
  delay : Span
  deriving DecidableEq, Repr

structure Route where
  method : Method
  path : String
  replies : List Reply
  deriving DecidableEq, Repr

/-- The shared store, the clock, the script and what has been sent, latest first. -/
structure World where
  store : TokenStore
  now : Instant
  cancelled : Bool
  routes : List Route
  sent : List Request
  deriving DecidableEq, Repr

namespace World

def start (now : Instant) (routes : List Route) : World := ⟨.empty, now, false, routes, []⟩

/-- The clock some time later; it stops at the last instant. -/
def advance (w : World) (delay : Span) : World :=
  { w with now := (w.now.later? delay.seconds delay.nanos).getD w.now }

def nextReply (request : Request) : List Route → Reply × List Route
  | [] => (⟨.answer ⟨404, ""⟩, .zero⟩, [])
  | route :: routes =>
      if route.method == request.method && route.path == request.path then
        match route.replies with
        | [] => (⟨.answer ⟨404, ""⟩, .zero⟩, route :: routes)
        | [reply] => (reply, route :: routes)
        | reply :: replies => (reply, { route with replies } :: routes)
      else
        let (reply, rest) := nextReply request routes
        (reply, route :: rest)

def exchange (w : World) (request : Request) : Except Failure Response × World :=
  if w.cancelled then (.error .cancelled, w)
  else
    let (reply, routes) := nextReply request w.routes
    let w := { w with routes, sent := request :: w.sent }.advance reply.delay
    match reply.outcome with
    | .answer response => (.ok response, w)
    | .unreachable => (.error .network, w)
    | .cancellation => (.error .cancelled, { w with cancelled := true })

end World

namespace Task

/-- The result of a task that runs alone, so that the lock is always free. -/
def run : Task α → World → α × World
  | done a, w => (a, w)
  | clock next, w => (next w.now).run w
  | inspect next, w => (next w.store).run w
  | amend change next, w => next.run { w with store := change w.store }
  | lock next, w => (next !w.cancelled).run w
  | unlock next, w => next.run w
  | exchange request next, w =>
      let (result, w) := w.exchange request
      (next result).run w

def runToLock : Task α → World → Task α × World
  | done a, w => (done a, w)
  | clock next, w => (next w.now).runToLock w
  | inspect next, w => (next w.store).runToLock w
  | amend change next, w => next.runToLock { w with store := change w.store }
  | lock next, w => (lock next, w)
  | unlock next, w => next.runToLock w
  | exchange request next, w =>
      let (result, w) := w.exchange request
      (next result).runToLock w

def thread (f : Task α → World → β × World) : List (Task α) → World → List β × World
  | [], w => ([], w)
  | t :: rest, w =>
      let (b, w) := f t w
      let (bs, w) := thread f rest w
      (b :: bs, w)

/-- The results of tasks that start together: all come to the lock, and then they pass
it in their order. -/
def runTogether (tasks : List (Task α)) (w : World) : List α × World :=
  let (waiting, w) := thread runToLock tasks w
  thread run waiting w

end Task

end ProgramGuide
