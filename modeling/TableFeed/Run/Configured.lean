import TableFeed.Config.Basic
import TableFeed.Run.Processor
import TableFeed.Service.Api

/-!
# Runs as configured

A configuration without a fault says all that a run needs: the dialect and the line mode, and the
service to whose handlers the models go.
-/

namespace TableFeed.Config

open TableFeed Service

/-- The client for the configured service. -/
def client (c : Config) : Client := Client.forService c.address c.backend.authToken

/-- The processor that a configuration describes. One more failure is left out: that the HTTP client
cannot be built, which is an invalid configuration too ("Failed to build HTTP client"). It lies with
the machine and with no field of the configuration, so here a client can always be built. -/
def processor? {m : Type → Type} [Monad m] (c : Config) (send : Transport m) :
    Except Fault (Run.Processor m) :=
  match c.fault? with
  | some f => .error f
  | none => .ok { dialect := c.dialect, mode := c.mode, handlers := apiHandlers send c.client }

end TableFeed.Config
