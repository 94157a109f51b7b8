import Coordination.DataSeller.Extension
import Coordination.Library.Async

/-!
# What the seller waits for

The requests a task of the seller suspends on: the reads and writes of the
Runtime client, the artifact store and the timer. An answer is what the awaited
call resolves to, or the exception it rejects with; what the Runtime says is
arbitrary.
-/

namespace Coordination

namespace DataSeller

open JavaScript Library

/-- The callers of `status`. The request on the wire is the same for all of them. -/
inductive Reader where
  | countersign
  | notification
  | delivery
  | retry
  | outcome
  | rejection
  deriving DecidableEq

/-- A request, with the deal it is made for. -/
inductive Request where
  | status (reader : Reader) (dealId : String)
  | funding (dealId termsHash : String)
  | runtimeCard (dealId : String) (contract : Value)
  | acceptance (dealId : String) (contract : Value)
  | fundingSignatures (dealId termsHash : String) (submission : Value)
  | evidence (dealId : String) (envelope : Value)
  | command (dealId : String) (command : Value)
  | stored (dealId : String)
  | sleep (seconds : ℕ)

/-- What an awaited call resolves to. -/
abbrev Reply := Except Failure (Option Value)

/-- A task of the seller over a state `σ`, which may start jobs `κ`. -/
abbrev Task (σ κ : Type) := Async Failure σ Request Reply κ

/-- `await` a request. -/
def call {σ κ : Type} (r : Request) : Task σ κ (Option Value) :=
  .await r Async.ofExcept

end DataSeller

end Coordination
