import Courier.Proofs.Json.Limits
import Courier.Proofs.Pool.Load
import Courier.Proofs.Run.Attempts
import Courier.Proofs.Run.Pace

/-!
# Accepted settings

What is checked when settings are read is relied on elsewhere: by the policy, by the terms of runs,
by the number of workers and by the clock.  Each of them makes a check or a correction of its own,
and none of these finds anything to object to in settings that were accepted.
-/

namespace Courier

/-- With any attempt at all the standard policy can be used. -/
theorem Policy.check_of_attempts {attempts : Nat} (hpositive : 0 < attempts) :
    check { standard with attempts := attempts } = .ok { standard with attempts := attempts } := by
  apply check_of_valid hpositive <;> dsimp only <;> decide +kernel

namespace Settings

variable {lookup : String → Option String} {settings candidate : Settings}

/-- What the check of settings makes sure of. -/
structure Sound (settings : Settings) : Prop where
  scheme : hasScheme settings.linkAddress = true
  timeout_pos : 0 < settings.timeout
  timeout_le : settings.timeout ≤ Span.ofSeconds longestTimeout
  concurrency_pos : 0 < settings.concurrency
  concurrency_le : settings.concurrency ≤ mostWorkers
  attempts_pos : 0 < settings.attempts

theorem attempts_pos_of_policy {policy : Policy} (hpolicy : settings.policy = .ok policy) :
    0 < settings.attempts :=
  (Policy.check_eq_ok hpolicy).2

theorem sound_of_check (hcheck : check candidate = .ok settings) :
    settings = candidate ∧ settings.Sound := by
  unfold check at hcheck
  split at hcheck
  · contradiction
  · next hscheme =>
    split at hcheck
    · contradiction
    · next htimeout =>
      split at hcheck
      · contradiction
      · next hconcurrency =>
        split at hcheck
        · next policy hpolicy =>
          cases hcheck
          rw [not_or] at htimeout hconcurrency
          exact ⟨rfl, not_not.mp hscheme, Nat.pos_of_ne_zero htimeout.1, not_lt.mp htimeout.2,
            Nat.pos_of_ne_zero hconcurrency.1, not_lt.mp hconcurrency.2,
            attempts_pos_of_policy hpolicy⟩
        · contradiction

/-- Settings that are read have been checked. -/
theorem sound_of_ofLookup (hsettings : ofLookup lookup = .ok settings) : settings.Sound := by
  obtain ⟨seconds, _, hsettings⟩ := Json.Reader.exists_of_bind_eq_ok hsettings
  obtain ⟨attempts, _, hsettings⟩ := Json.Reader.exists_of_bind_eq_ok hsettings
  obtain ⟨concurrency, _, hsettings⟩ := Json.Reader.exists_of_bind_eq_ok hsettings
  exact (sound_of_check hsettings).2

theorem Sound.check_eq (hsound : settings.Sound) :
    Policy.check { Policy.standard with attempts := settings.attempts } =
      .ok { Policy.standard with attempts := settings.attempts } :=
  Policy.check_of_attempts hsound.attempts_pos

theorem Sound.policy_eq (hsound : settings.Sound) :
    settings.policy = .ok { Policy.standard with attempts := settings.attempts } :=
  hsound.check_eq

/-- Only what is made sure of is checked. -/
theorem Sound.accepted (hsound : settings.Sound) : check settings = .ok settings := by
  rw [check, if_neg (not_not.mpr hsound.scheme), if_neg, if_neg, hsound.policy_eq]
  · exact not_or.mpr ⟨hsound.concurrency_pos.ne', not_lt.mpr hsound.concurrency_le⟩
  · exact not_or.mpr ⟨hsound.timeout_pos.ne', not_lt.mpr hsound.timeout_le⟩

/-- The terms of the settings. -/
def terms (settings : Settings) (attemptId : Nat → AttemptId) (clockRange : ClockRange) : Terms :=
  ⟨Request.targetOf settings.linkAddress, settings.timeout,
    Policy.decide { Policy.standard with attempts := settings.attempts }, attemptId, clockRange⟩

theorem Sound.ofSettings_eq (hsound : settings.Sound) (attemptId : Nat → AttemptId)
    (clockRange : ClockRange) :
    Terms.ofSettings settings attemptId clockRange = .ok (settings.terms attemptId clockRange) := by
  rw [Terms.ofSettings, hsound.policy_eq]
  dsimp only
  rw [Terms.ofPolicy, hsound.check_eq, terms]

section Runs

variable {terms : Terms} {now : Moment}

/-- A year fits on the clock, so that no deadline is cut. -/
theorem Sound.watch_eq (hsound : settings.Sound) (htimeout : terms.timeout = settings.timeout)
    (hroom : now + Span.ofSeconds longestTimeout < terms.clockRange.bound) (payload : Bytes) :
    (Run.start terms payload now).watch = ⟨now, now + settings.timeout⟩ := by
  have hheld : now + settings.timeout < terms.clockRange.bound :=
    (Nat.add_le_add_left hsound.timeout_le now).trans_lt hroom
  rw [Run.watch_start, Watch.start, htimeout, ClockRange.after, if_pos hheld]

end Runs

end Settings

end Courier
