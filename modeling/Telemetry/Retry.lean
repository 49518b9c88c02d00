import Telemetry.Action

/-!
# Trying again

A schedule says how long to wait before each attempt of an operation, and so how many attempts there are;
there is always one. The attempts go on while they fail with a cause that another attempt may get past.
The outcome is that of the last attempt, and each failed attempt that could be repeated leaves a line in
the log. A wait leaves one too, but that is for debugging, and the log here has warnings and errors only.
-/

namespace Telemetry

/-- How long to wait before each attempt, in milliseconds. -/
structure RetryPolicy where
  first : Nat
  later : List Nat
  deriving DecidableEq, Repr

namespace RetryPolicy

/-- The policy with the given waiting times; without any, a single attempt at once. -/
def ofDelays : List Nat → RetryPolicy
  | [] => ⟨0, []⟩
  | first :: later => ⟨first, later⟩

/-- The waiting times, one for each attempt. -/
def delays (policy : RetryPolicy) : List Nat :=
  policy.first :: policy.later

/-- How many attempts there are at most. -/
def attempts (policy : RetryPolicy) : Nat :=
  policy.delays.length

/-- Attempts without waiting; at least one. -/
def immediate (attempts : Nat) : RetryPolicy :=
  ofDelays (List.replicate attempts 0)

/-- Four attempts over nine seconds. -/
def standard : RetryPolicy := ⟨0, [1000, 3000, 5000]⟩

end RetryPolicy

/-- What the attempts of an operation have in common. -/
structure RetryTerms (World Cause : Type) where
  /-- The name of the operation in the log. -/
  label : String
  /-- Whether another attempt may get past a failure. -/
  isRetriable : Cause → Bool
  /-- The wording of a failure. -/
  message : Cause → String
  /-- The world after waiting for some milliseconds. -/
  wait : Nat → World → World

namespace RetryTerms

variable {World Cause Result : Type}

/-- The line about a failed attempt that is followed by another. -/
def failedLine (terms : RetryTerms World Cause) (number total : Nat) (cause : Cause) : LogLine :=
  .warning (terms.label ++ ": attempt " ++ toString number ++ "/" ++ toString total ++ " failed: " ++
    terms.message cause)

/-- The line about the last attempt, when that too failed. -/
def lastLine (terms : RetryTerms World Cause) (total : Nat) (cause : Cause) : LogLine :=
  .error (terms.label ++ ": giving up after " ++ toString total ++ " attempts: " ++
    terms.message cause)

/-- The attempts from the one with the given number on: the delay before it, and those before the later
ones. What is logged for debugging before a wait is left out. -/
def runFrom (terms : RetryTerms World Cause) (operation : Action World Cause Result)
    (number total delay : Nat) (later : List Nat) : Action World Cause Result :=
  fun world =>
    let outcome := operation (terms.wait delay world)
    match outcome.result with
    | .ok _ => outcome
    | .error cause =>
      if terms.isRetriable cause then
        match later with
        | [] => { outcome with log := outcome.log ++ [terms.lastLine total cause] }
        | next :: later =>
          let rest := runFrom terms operation (number + 1) total next later outcome.world
          { rest with log := outcome.log ++ terms.failedLine number total cause :: rest.log }
      else
        outcome
termination_by structural later

/-- Attempts an operation under a policy. -/
def run (terms : RetryTerms World Cause) (policy : RetryPolicy)
    (operation : Action World Cause Result) : Action World Cause Result :=
  terms.runFrom operation 1 policy.attempts policy.first policy.later

end RetryTerms

/-! ## Scripts -/

/-- Attempts whose outcomes are written down beforehand, and a clock. -/
structure ScriptedAttempts (Cause : Type) where
  /-- How the attempts to come fail; nothing stands for success. -/
  script : List (Option Cause)
  now : Nat := 0
  /-- When the attempts so far began. -/
  starts : List Nat := []

namespace ScriptedAttempts

variable {Cause : Type}

/-- The next attempt; it gives its number. When the script is used up, attempts succeed. -/
def next : Action (ScriptedAttempts Cause) Cause Nat := fun attempts =>
  let starts := attempts.starts ++ [attempts.now]
  let later : ScriptedAttempts Cause := ⟨attempts.script.tail, attempts.now, starts⟩
  match attempts.script.head?.join with
  | none => ⟨.ok starts.length, later, []⟩
  | some cause => ⟨.error cause, later, []⟩

/-- The clock after some time. -/
def wait (delay : Nat) (attempts : ScriptedAttempts Cause) : ScriptedAttempts Cause :=
  { attempts with now := attempts.now + delay }

end ScriptedAttempts

end Telemetry
