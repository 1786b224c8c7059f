import Courier.Reply
import Courier.Time.Span

/-!
# Progress of attempts

What a retry decision may look at: the number of the current attempt, the time that had passed when
the last reply was taken down, and that reply.
-/

namespace Courier

structure Progress where
  number : Nat
  elapsed : Span
  last : Option Reply
  deriving DecidableEq

namespace Progress

/-- Before the first attempt. -/
def initial : Progress := ⟨1, 0, none⟩

def record (progress : Progress) (reply : Reply) (elapsed : Span) : Progress :=
  { progress with last := some reply, elapsed := elapsed }

def advance (progress : Progress) : Progress := { progress with number := progress.number + 1 }

/-- Summary of the last reply, empty before there is one. -/
def lastText (progress : Progress) : String := (progress.last.map Reply.summary).getD ""

end Progress

end Courier
