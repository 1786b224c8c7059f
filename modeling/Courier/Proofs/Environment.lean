import Courier.Proofs.Settings
import Courier.Proofs.Text.Trimmed
import Mathlib.Logic.Function.Basic

/-!
# Settings as they are written

What an environment has to hold to give settings, and which settings it gives.  A blank variable
stands for its default like a missing one, a number may be padded with white space and zeros, and
texts are kept as they are.
-/

namespace Courier.Settings

variable {lookup : String → Option String} {settings : Settings} {key value default : String}
  {limit number n seconds attempts concurrency : Nat}

/-! ## Single variables -/

/-- What counts for a variable: its value, or the default if the value is missing or blank. -/
def effective (lookup : String → Option String) (key default : String) : String :=
  match lookup key with
  | none => default
  | some value => if value.toList.all Text.isBlank then default else value

theorem present_of_none (hkey : lookup key = none) : present lookup key = none := by
  rw [present, hkey, Option.filter_none]

theorem present_of_blank (hkey : lookup key = some value)
    (hblank : ∀ c ∈ value.toList, Text.isBlank c = true) : present lookup key = none := by
  rw [present, hkey, Option.filter_some, Text.trim_of_blank hblank]
  rfl

theorem present_of_some (hkey : lookup key = some value)
    (hblank : ¬ ∀ c ∈ value.toList, Text.isBlank c = true) : present lookup key = some value := by
  rw [present, hkey, Option.filter_some, if_pos]
  rw [decide_eq_true_eq, List.isEmpty_iff, Text.trim_eq_nil_iff]
  exact hblank

theorem getD_present (lookup : String → Option String) (key default : String) :
    (present lookup key).getD default = effective lookup key default := by
  unfold effective
  split
  · next hkey => rw [present_of_none hkey, Option.getD_none]
  · next value hkey =>
    split
    · next hblank =>
      rw [present_of_blank hkey (List.all_eq_true.mp hblank), Option.getD_none]
    · next hblank =>
      rw [present_of_some hkey (mt List.all_eq_true.mpr hblank), Option.getD_some]

/-- A number that is unset is read as if its default had been written. -/
theorem numberAt_eq_ok_iff (hdefault : Numeral.read limit (Text.trim default.toList) = .ok number) :
    numberAt lookup key limit number = .ok n ↔
      Numeral.Spells (effective lookup key default).toList n ∧ n ≤ limit := by
  have hunset (hpresent : present lookup key = none) :
      numberAt lookup key limit number = .ok n ↔ Numeral.Spells default.toList n ∧ n ≤ limit := by
    rw [numberAt, hpresent, ← Numeral.read_trim_eq_ok_iff, hdefault]
    dsimp only
    rw [Except.ok.injEq, Except.ok.injEq]
  unfold effective
  split
  · next hkey => exact hunset (present_of_none hkey)
  · next value hkey =>
    split
    · next hblank => exact hunset (present_of_blank hkey (List.all_eq_true.mp hblank))
    · next hblank =>
      rw [numberAt, present_of_some hkey (mt List.all_eq_true.mpr hblank),
        ← Numeral.read_trim_eq_ok_iff]
      dsimp only
      cases Numeral.read limit (Text.trim value.toList) with
      | ok m =>
        dsimp only
        rw [Except.ok.injEq, Except.ok.injEq]
      | error defect => exact ⟨fun h ↦ by contradiction, fun h ↦ by contradiction⟩

theorem problem_of_numberAt {defect : Defect}
    (hnumber : numberAt lookup key limit number = .error defect) :
    ∃ detail, defect.problem = .settings detail := by
  unfold numberAt at hnumber
  split at hnumber
  · contradiction
  · split at hnumber
    · contradiction
    · cases hnumber
      exact ⟨_, rfl⟩

/-! ## Ranges -/

/-- What is checked of settings apart from the number of attempts. -/
structure InRange (settings : Settings) : Prop where
  scheme : "http://".toList <+: settings.linkAddress.toList ∨
    "https://".toList <+: settings.linkAddress.toList
  timeout : 0 < settings.timeout ∧ settings.timeout ≤ Span.ofSeconds longestTimeout
  concurrency : 0 < settings.concurrency ∧ settings.concurrency ≤ mostWorkers

theorem hasScheme_iff {address : String} : hasScheme address = true ↔
    "http://".toList <+: address.toList ∨ "https://".toList <+: address.toList := by
  rw [hasScheme, Bool.or_eq_true, List.isPrefixOf_iff_prefix, List.isPrefixOf_iff_prefix]

theorem InRange.sound (hrange : settings.InRange) (hattempts : 0 < settings.attempts) :
    settings.Sound :=
  ⟨hasScheme_iff.mpr hrange.scheme, hrange.timeout.1, hrange.timeout.2, hrange.concurrency.1,
    hrange.concurrency.2, hattempts⟩

/-- The policy is checked last. -/
theorem InRange.check_of_no_attempts (hrange : settings.InRange)
    (hattempts : settings.attempts = 0) : check settings = .error (.policy .noAttempts) := by
  have hpolicy : settings.policy = .error .noAttempts := by
    rw [policy, hattempts]
    rfl
  rw [check, if_neg (not_not.mpr (hasScheme_iff.mpr hrange.scheme)), if_neg, if_neg, hpolicy]
  · exact not_or.mpr ⟨hrange.concurrency.1.ne', not_lt.mpr hrange.concurrency.2⟩
  · exact not_or.mpr ⟨hrange.timeout.1.ne', not_lt.mpr hrange.timeout.2⟩

theorem check_of_not_inRange (hrange : ¬ settings.InRange) :
    ∃ defect detail, check settings = .error defect ∧ defect.problem = .settings detail := by
  unfold check
  split
  · exact ⟨_, _, rfl, rfl⟩
  · next hscheme =>
    split
    · exact ⟨_, _, rfl, rfl⟩
    · next htimeout =>
      split
      · exact ⟨_, _, rfl, rfl⟩
      · next hconcurrency =>
        rw [not_or] at htimeout hconcurrency
        exact absurd ⟨hasScheme_iff.mp (not_not.mp hscheme),
          ⟨Nat.pos_of_ne_zero htimeout.1, not_lt.mp htimeout.2⟩,
          Nat.pos_of_ne_zero hconcurrency.1, not_lt.mp hconcurrency.2⟩ hrange

/-! ## Whole environments -/

/-- The settings with these numbers and the texts of an environment. -/
def withNumbers (lookup : String → Option String) (seconds attempts concurrency : Nat) :
    Settings where
  linkAddress := effective lookup "FISO_LINK_ADDR" "http://localhost:3500"
  taskQueue := effective lookup "TASK_QUEUE" "order-processing"
  orchestrator := effective lookup "TEMPORAL_HOST" "localhost:7233"
  orchestratorNamespace := effective lookup "TEMPORAL_NAMESPACE" "default"
  timeout := Span.ofSeconds seconds
  attempts := attempts
  concurrency := concurrency

/-- An environment writes settings down: its texts are theirs, and its numbers spell theirs and are
not too large; the number of attempts may be zero. -/
structure Writes (lookup : String → Option String) (settings : Settings) : Prop where
  linkAddress : settings.linkAddress = effective lookup "FISO_LINK_ADDR" "http://localhost:3500"
  scheme : "http://".toList <+: settings.linkAddress.toList ∨
    "https://".toList <+: settings.linkAddress.toList
  taskQueue : settings.taskQueue = effective lookup "TASK_QUEUE" "order-processing"
  orchestrator : settings.orchestrator = effective lookup "TEMPORAL_HOST" "localhost:7233"
  orchestratorNamespace :
    settings.orchestratorNamespace = effective lookup "TEMPORAL_NAMESPACE" "default"
  timeout : ∃ seconds,
    Numeral.Spells (effective lookup "START_TO_CLOSE_TIMEOUT_SECS" "30").toList seconds ∧
      1 ≤ seconds ∧ seconds ≤ 31536000 ∧ settings.timeout = Span.ofSeconds seconds
  attempts : Numeral.Spells (effective lookup "MAX_ATTEMPTS" "3").toList settings.attempts ∧
    settings.attempts ≤ 2 ^ 32 - 1
  concurrency :
    Numeral.Spells (effective lookup "WORKER_CONCURRENCY" "4").toList settings.concurrency ∧
      1 ≤ settings.concurrency ∧ settings.concurrency ≤ 1024

/-- The three numbers of an environment as they are read. -/
structure Numbers (lookup : String → Option String) (seconds attempts concurrency : Nat) :
    Prop where
  seconds : numberAt lookup "START_TO_CLOSE_TIMEOUT_SECS" (Numeral.greatest 64)
    standard.timeout.seconds = .ok seconds
  attempts : numberAt lookup "MAX_ATTEMPTS" (Numeral.greatest 32) standard.attempts = .ok attempts
  concurrency : numberAt lookup "WORKER_CONCURRENCY" (Numeral.greatest 64) standard.concurrency =
    .ok concurrency

theorem secondsAt_iff : numberAt lookup "START_TO_CLOSE_TIMEOUT_SECS" (Numeral.greatest 64)
      standard.timeout.seconds = .ok n ↔
    Numeral.Spells (effective lookup "START_TO_CLOSE_TIMEOUT_SECS" "30").toList n ∧
      n ≤ Numeral.greatest 64 :=
  numberAt_eq_ok_iff (by decide +kernel)

theorem attemptsAt_iff :
    numberAt lookup "MAX_ATTEMPTS" (Numeral.greatest 32) standard.attempts = .ok n ↔
      Numeral.Spells (effective lookup "MAX_ATTEMPTS" "3").toList n ∧ n ≤ Numeral.greatest 32 :=
  numberAt_eq_ok_iff (by decide +kernel)

theorem concurrencyAt_iff :
    numberAt lookup "WORKER_CONCURRENCY" (Numeral.greatest 64) standard.concurrency = .ok n ↔
      Numeral.Spells (effective lookup "WORKER_CONCURRENCY" "4").toList n ∧
        n ≤ Numeral.greatest 64 :=
  numberAt_eq_ok_iff (by decide +kernel)

theorem Numbers.ofLookup_eq (hnumbers : Numbers lookup seconds attempts concurrency) :
    ofLookup lookup = check (withNumbers lookup seconds attempts concurrency) := by
  unfold ofLookup
  rw [hnumbers.seconds, hnumbers.attempts, hnumbers.concurrency, getD_present, getD_present,
    getD_present, getD_present]
  rfl

/-- Settings that are written down have numbers that are read. -/
theorem Writes.exists_numbers (hwrites : Writes lookup settings) :
    ∃ seconds, Numbers lookup seconds settings.attempts settings.concurrency ∧
      settings = withNumbers lookup seconds settings.attempts settings.concurrency := by
  obtain ⟨seconds, hspells, hleast, hmost, htimeout⟩ := hwrites.timeout
  have hseconds : seconds ≤ Numeral.greatest 64 := hmost.trans (by decide)
  have hconcurrency : settings.concurrency ≤ Numeral.greatest 64 :=
    hwrites.concurrency.2.2.trans (by decide)
  refine ⟨seconds, ⟨secondsAt_iff.mpr ⟨hspells, hseconds⟩,
    attemptsAt_iff.mpr ⟨hwrites.attempts.1, hwrites.attempts.2⟩,
    concurrencyAt_iff.mpr ⟨hwrites.concurrency.1, hconcurrency⟩⟩, ?_⟩
  rw [withNumbers, ← hwrites.linkAddress, ← hwrites.taskQueue, ← hwrites.orchestrator,
    ← hwrites.orchestratorNamespace, ← htimeout]

theorem Writes.inRange (hwrites : Writes lookup settings) : settings.InRange := by
  obtain ⟨seconds, _, hleast, hmost, htimeout⟩ := hwrites.timeout
  refine ⟨hwrites.scheme, ?_, hwrites.concurrency.2⟩
  rw [htimeout]
  exact ⟨Nat.mul_pos hleast (by decide), Nat.mul_le_mul_right _ hmost⟩

/-- Numbers that are read and in range are written down. -/
theorem Numbers.writes (hnumbers : Numbers lookup seconds attempts concurrency)
    (hrange : (withNumbers lookup seconds attempts concurrency).InRange) :
    Writes lookup (withNumbers lookup seconds attempts concurrency) where
  linkAddress := rfl
  scheme := hrange.scheme
  taskQueue := rfl
  orchestrator := rfl
  orchestratorNamespace := rfl
  timeout := by
    obtain ⟨hpositive, hmost⟩ := hrange.timeout
    exact ⟨seconds, (secondsAt_iff.mp hnumbers.seconds).1, Nat.pos_of_mul_pos_right hpositive,
      Nat.le_of_mul_le_mul_right hmost (by decide), rfl⟩
  attempts := attemptsAt_iff.mp hnumbers.attempts
  concurrency := ⟨(concurrencyAt_iff.mp hnumbers.concurrency).1, hrange.concurrency⟩

/-- Either all three numbers are read or one of them is a fault. -/
theorem numbers_or_fault (lookup : String → Option String) :
    (∃ seconds attempts concurrency, Numbers lookup seconds attempts concurrency) ∨
      ∃ defect detail, ofLookup lookup = .error defect ∧ defect.problem = .settings detail := by
  cases hseconds : numberAt lookup "START_TO_CLOSE_TIMEOUT_SECS" (Numeral.greatest 64)
      standard.timeout.seconds with
  | error defect =>
    obtain ⟨detail, hproblem⟩ := problem_of_numberAt hseconds
    refine .inr ⟨defect, detail, ?_, hproblem⟩
    rw [ofLookup, hseconds]
    rfl
  | ok seconds =>
    cases hattempts : numberAt lookup "MAX_ATTEMPTS" (Numeral.greatest 32) standard.attempts with
    | error defect =>
      obtain ⟨detail, hproblem⟩ := problem_of_numberAt hattempts
      refine .inr ⟨defect, detail, ?_, hproblem⟩
      rw [ofLookup, hseconds, hattempts]
      rfl
    | ok attempts =>
      cases hconcurrency : numberAt lookup "WORKER_CONCURRENCY" (Numeral.greatest 64)
          standard.concurrency with
      | error defect =>
        obtain ⟨detail, hproblem⟩ := problem_of_numberAt hconcurrency
        refine .inr ⟨defect, detail, ?_, hproblem⟩
        rw [ofLookup, hseconds, hattempts, hconcurrency]
        rfl
      | ok concurrency =>
        exact .inl ⟨seconds, attempts, concurrency, hseconds, hattempts, hconcurrency⟩

theorem Writes.ofLookup_eq (hwrites : Writes lookup settings) :
    ofLookup lookup = check settings := by
  obtain ⟨seconds, hnumbers, hsettings⟩ := hwrites.exists_numbers
  rw [hsettings]
  exact hnumbers.ofLookup_eq

theorem Writes.accepted (hwrites : Writes lookup settings) (hattempts : 0 < settings.attempts) :
    ofLookup lookup = .ok settings :=
  hwrites.ofLookup_eq.trans (hwrites.inRange.sound hattempts).accepted

theorem Writes.refused (hwrites : Writes lookup settings) (hattempts : settings.attempts = 0) :
    ofLookup lookup = .error (.policy .noAttempts) :=
  hwrites.ofLookup_eq.trans (hwrites.inRange.check_of_no_attempts hattempts)

theorem not_writes_of_fault {defect : Defect} {detail : String}
    (hfault : ofLookup lookup = .error defect) (hproblem : defect.problem = .settings detail)
    (settings : Settings) : ¬ Writes lookup settings := by
  intro hwrites
  rcases Nat.eq_zero_or_pos settings.attempts with hzero | hpositive
  · rw [hwrites.refused hzero] at hfault
    cases hfault
    contradiction
  · rw [hwrites.accepted hpositive] at hfault
    contradiction

/-- An environment that writes no settings down is a fault of the settings. -/
theorem writes_or_fault (lookup : String → Option String) :
    (∃ settings, Writes lookup settings) ∨
      ∃ defect detail, ofLookup lookup = .error defect ∧ defect.problem = .settings detail := by
  rcases numbers_or_fault lookup with ⟨seconds, attempts, concurrency, hnumbers⟩ | hfault
  · by_cases hrange : (withNumbers lookup seconds attempts concurrency).InRange
    · exact .inl ⟨_, hnumbers.writes hrange⟩
    · obtain ⟨defect, detail, hcheck, hproblem⟩ := check_of_not_inRange hrange
      exact .inr ⟨defect, detail, hnumbers.ofLookup_eq.trans hcheck, hproblem⟩
  · exact .inr hfault

/-- Settings that are read are written down, with an attempt at least. -/
theorem writes_of_ofLookup (hsettings : ofLookup lookup = .ok settings) :
    Writes lookup settings ∧ 1 ≤ settings.attempts := by
  rcases writes_or_fault lookup with ⟨other, hwrites⟩ | ⟨defect, _, hfault, _⟩
  · rcases Nat.eq_zero_or_pos other.attempts with hzero | hpositive
    · rw [hwrites.refused hzero] at hsettings
      contradiction
    · rw [hwrites.accepted hpositive] at hsettings
      cases hsettings
      exact ⟨hwrites, hpositive⟩
  · rw [hfault] at hsettings
    contradiction

/-- Under settings that are read no number of an attempt leaves its 32 bits. -/
theorem counts_of_ofLookup (hsettings : ofLookup lookup = .ok settings)
    (attemptId : Nat → AttemptId) (clockRange : ClockRange) :
    (settings.terms attemptId clockRange).Counts :=
  Terms.counts_of_policy { Policy.standard with attempts := settings.attempts } rfl
    (writes_of_ofLookup hsettings).1.attempts.2

/-! ## Blank variables -/

theorem ofLookup_congr {other : String → Option String}
    (hsame : ∀ key, present lookup key = present other key) : ofLookup lookup = ofLookup other := by
  have hnumber (key : String) (limit default : Nat) :
      numberAt lookup key limit default = numberAt other key limit default := by
    rw [numberAt, numberAt, hsame]
  unfold ofLookup
  simp only [hnumber, hsame]

/-- Whatever the other variables are, a blank one counts as missing. -/
theorem ofLookup_update_blank (lookup : String → Option String) (key : String)
    (hblank : ∀ c ∈ value.toList, Text.isBlank c = true) :
    ofLookup (Function.update lookup key (some value)) =
      ofLookup (Function.update lookup key none) := by
  apply ofLookup_congr
  intro other
  by_cases hkey : other = key
  · rw [hkey, present_of_blank (Function.update_self key (some value) lookup) hblank,
      present_of_none (Function.update_self key none lookup)]
  · rw [present, present, Function.update_of_ne hkey, Function.update_of_ne hkey]

/-- Settings are read from just the environments that write them down with at least one attempt.
All others are faults, and a blank variable counts as missing. -/
theorem settings_follow_grammar (lookup : String → Option String) :
    (∀ settings, ofLookup lookup = .ok settings ↔ Writes lookup settings ∧ 1 ≤ settings.attempts) ∧
      ((∃ settings, Writes lookup settings ∧ 1 ≤ settings.attempts ∧
          ofLookup lookup = .ok settings) ∨
        (∃ settings defect, Writes lookup settings ∧ settings.attempts = 0 ∧
          ofLookup lookup = .error defect ∧
            defect.problem = .invalidPolicy "maximum_attempts must be at least 1") ∨
        (∀ settings, ¬ Writes lookup settings) ∧
          ∃ defect detail, ofLookup lookup = .error defect ∧ defect.problem = .settings detail) ∧
      ∀ key value, (∀ c ∈ value.toList, Text.isBlank c = true) →
        ofLookup (Function.update lookup key (some value)) =
          ofLookup (Function.update lookup key none) := by
  refine ⟨fun settings ↦ ⟨writes_of_ofLookup, fun h ↦ h.1.accepted h.2⟩, ?_,
    fun key _ hblank ↦ ofLookup_update_blank lookup key hblank⟩
  rcases writes_or_fault lookup with ⟨settings, hwrites⟩ | ⟨defect, detail, hfault, hproblem⟩
  · rcases Nat.eq_zero_or_pos settings.attempts with hzero | hpositive
    · exact .inr (.inl ⟨settings, _, hwrites, hzero, hwrites.refused hzero, rfl⟩)
    · exact .inl ⟨settings, hwrites, hpositive, hwrites.accepted hpositive⟩
  · exact .inr (.inr ⟨not_writes_of_fault hfault hproblem, defect, detail, hfault, hproblem⟩)

/-- The greatest numbers in white space of several kinds, with signs and needless zeros. -/
def padded : String → Option String := fun key ↦
  if key = "FISO_LINK_ADDR" then some "https:// "
  else if key = "TASK_QUEUE" then some "\u3000\n"
  else if key = "TEMPORAL_HOST" then some " host "
  else if key = "START_TO_CLOSE_TIMEOUT_SECS" then some "\u00a0+000000000000000000000031536000"
  else if key = "MAX_ATTEMPTS" then some "\t4294967295\u2029"
  else if key = "WORKER_CONCURRENCY" then some "01024 "
  else none

def paddedSettings : Settings where
  linkAddress := "https:// "
  taskQueue := "order-processing"
  orchestrator := " host "
  orchestratorNamespace := "default"
  timeout := Span.ofSeconds 31536000
  attempts := 4294967295
  concurrency := 1024

theorem settings_follow_grammar_padded :
    ofLookup padded = .ok paddedSettings ∧ Writes padded paddedSettings ∧
      (∀ c ∈ "\u2003\r".toList, Text.isBlank c = true) ∧
      ofLookup (Function.update padded "MAX_ATTEMPTS" (some "\u2003\r")) =
        ofLookup (Function.update padded "MAX_ATTEMPTS" none) := by
  have hread : (ofLookup padded).toOption = some paddedSettings := by
    decide +kernel
  have hall : "\u2003\r".toList.all Text.isBlank = true := rfl
  have hblank := List.all_eq_true.mp hall
  obtain ⟨hgrammar, _, hupdate⟩ := settings_follow_grammar padded
  cases hsettings : ofLookup padded with
  | error defect =>
    rw [hsettings] at hread
    exact absurd hread (Option.some_ne_none paddedSettings).symm
  | ok settings =>
    rw [hsettings] at hread
    cases hread
    exact ⟨rfl, ((hgrammar _).mp hsettings).1, hblank, hupdate _ _ hblank⟩

end Courier.Settings
