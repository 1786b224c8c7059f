import Courier.Binary64.Notation
import Courier.Problem
import Courier.Retry.Progress
import Courier.Time.Seconds

/-!
# Retry policies

A policy bounds the number of attempts and sets the wait after each: the initial interval times a
power of the coefficient, at most the maximum interval.
-/

namespace Courier

structure Policy where
  attempts : Nat
  initial : Span
  coefficient : Binary64
  maximum : Span
  deriving DecidableEq

namespace Policy

/-- Three attempts, waiting one second, then twice as long each time, up to a hundred seconds. -/
def standard : Policy := ⟨3, Span.ofSeconds 1, Binary64.ofNat 2, Span.ofSeconds 100⟩

/-- A single attempt. -/
def once : Policy := { standard with attempts := 1 }

/-- Why a policy cannot be used. -/
inductive Defect where
  | noAttempts
  | coefficient (value : Binary64)
  | intervals (initial maximum : Span)
  deriving DecidableEq

def Defect.detail : Defect → String
  | .noAttempts => "maximum_attempts must be at least 1"
  | .coefficient value =>
    "backoff_coefficient must be a finite number >= 1.0, got " ++ String.ofList value.plain
  | .intervals initial maximum =>
    "initial_interval " ++ initial.text ++ " exceeds maximum_interval " ++ maximum.text

def Defect.problem (defect : Defect) : Problem := .invalidPolicy defect.detail

/-- The policy itself when it can be used. -/
def check (policy : Policy) : Except Defect Policy :=
  if policy.attempts = 0 then .error .noAttempts
  else if ¬ policy.coefficient.isFinite ∨ policy.coefficient.less Binary64.one then
    .error (.coefficient policy.coefficient)
  else if policy.maximum < policy.initial then .error (.intervals policy.initial policy.maximum)
  else .ok policy

/-- The standard policy with a number of attempts. -/
def ofAttempts (attempts : Nat) : Except Defect Policy :=
  check { standard with attempts := attempts }

/-- Whether another attempt may follow. -/
def allows (policy : Policy) (progress : Progress) : Bool :=
  progress.last.any Reply.isFailure && progress.number < policy.attempts

/-- The wait after attempt `n` in seconds, before the cap. -/
def rawBackoff (policy : Policy) (n : Nat) : Binary64 :=
  policy.initial.inSeconds.mul (policy.coefficient.power (min (n - 1) (Numeral.greatest 31)))

/-- A wait of so many seconds, at most the maximum.  The cap is applied to the seconds, so that only
numbers below it are turned back into a span; a negative number of seconds is no wait. -/
def capped (maximum : Span) : Binary64 → Span
  | .finite negative m =>
    if maximum.inSeconds.atMost (.finite negative m) then maximum
    else if negative then 0 else Span.ofMagnitude m
  | _ => maximum

/-- The wait after attempt `n`. -/
def backoff (policy : Policy) (n : Nat) : Span := capped policy.maximum (policy.rawBackoff n)

end Policy

end Courier
