import TableFeed.Service.Client

/-!
# Scripted servers

A server that answers by a script, to try out what a client sends and makes of the answers. The
`n`-th request takes the `n`-th exchange of the script, any later one the last; without a script
every request succeeds with an empty text. It redirects no request: its answers are final.
-/

namespace TableFeed.Service

/-- A scripted server, with the requests that have come to it. -/
structure Server where
  script : List Exchange := []
  received : List Request := []

namespace Server

/-- What comes of the next request. -/
def next (s : Server) : Exchange :=
  match s.script[s.received.length]? with
  | some e => e
  | none => s.script.getLastD (.answered 200 [])

/-- The way to a scripted server. -/
def transport : Transport (StateM Server) := fun r s =>
  (s.next, { s with received := s.received ++ [r] })

end Server

/-- The way to a server that cannot be reached. -/
def unreachable {m : Type → Type} [Monad m] (detail : String) : Transport m := fun _ =>
  return .unanswered detail

end TableFeed.Service
