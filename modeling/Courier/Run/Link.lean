import Courier.Request
import Courier.Reply
import Courier.Time.Span

/-!
# Links

A link takes requests to the downstream service.  What it answers, and after how long, may depend on
its own state, which changes when a call is started.
-/

namespace Courier

/-- A reply, or an error of the caller's own making. -/
abbrev Answer := Except String Reply

/-- What a call comes to and how long it takes. -/
structure Step where
  answer : Answer
  latency : Span

/-- A downstream service with states in `σ`. -/
abbrev Link (σ : Type) := Request → σ → Step × σ

end Courier
