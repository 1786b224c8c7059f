import Courier.Proofs.Pool.Join

/-!
# The size of a pool

How many workers a pool has settles when a payload is run and beside which others, but nothing of
what is reported of it apart from the times.  The one thing that depends on the moment of a start is
whether the clock still holds the deadline: where it does not, thirty years stand in for the timeout.
-/

namespace Courier

theorem Terms.HeldAt.mono {terms : Terms} {origin later : Moment} (hheld : terms.HeldAt later)
    (hle : origin ≤ later) : terms.HeldAt origin :=
  hheld.imp_left (Nat.add_le_add_right hle _).trans_lt

namespace Pool

variable {σ : Type} {setup : Setup σ} {s : σ} {answer : Bytes → Step} {pool other : Pool σ}
  {actions others : List Action} {n m : Nat}

/-- Answers with the body after a while. -/
def echo (timeout latency : Span) : Setup Unit where
  terms := ⟨"", timeout, fun _ ↦ .stop "", fun k ↦ ⟨Ulid.ofNat k⟩, .usual⟩
  link := fun request _ ↦ (⟨.ok (.success 200 request.body), latency⟩, ())
  clock := fun _ ↦ ⟨0, 0⟩

def brief : Setup Unit := echo (Span.ofSeconds 30) (Span.ofSeconds 10)

end Pool

end Courier
