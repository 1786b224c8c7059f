import Courier.Text.Utf8

/-!
# Replies

What a downstream call comes to: a status below 400 is a success, any other status a failure, and no
status at all a transport failure.
-/

namespace Courier

inductive Reply where
  | success (status : Nat) (body : Bytes)
  | httpFailure (status : Nat) (body : Bytes)
  | transportFailure (cause : String)
  deriving DecidableEq

namespace Reply

inductive Kind where
  | success
  | httpFailure
  | transportFailure
  deriving DecidableEq

def Kind.name : Kind → String
  | .success => "SUCCESS"
  | .httpFailure => "HTTP_FAILURE"
  | .transportFailure => "TRANSPORT_FAILURE"

def ofStatus (status : Nat) (body : Bytes) : Reply :=
  if status < 400 then .success status body else .httpFailure status body

def kind : Reply → Kind
  | .success _ _ => .success
  | .httpFailure _ _ => .httpFailure
  | .transportFailure _ => .transportFailure

/-- Whether another attempt may mend it. -/
def isFailure : Reply → Bool
  | .success _ _ => false
  | _ => true

def status? : Reply → Option Nat
  | .success status _ => some status
  | .httpFailure status _ => some status
  | .transportFailure _ => none

/-- One line for people: a success shows its status only. -/
def summary : Reply → String
  | .success status _ => toString status
  | .httpFailure status body => toString status ++ ": " ++ Utf8.lossy body
  | .transportFailure cause => "transport: " ++ cause

end Reply

end Courier
