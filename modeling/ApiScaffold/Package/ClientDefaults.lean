import ApiScaffold.Json.Record

/-!
# Defaults of a generated client

The settings that a generated client starts with unless its user changes them.

* `ClientDefaults`: the settings.
* `ClientDefaults.ofJson?`, `ClientDefaults.toJson`: their form as a record.
-/

namespace ApiScaffold

open Json (Value)

/-- The settings of a client; times are in milliseconds. -/
structure ClientDefaults where
  /-- The longest time that a call may take. -/
  timeout : Nat := 5000
  /-- How often a call is tried again. -/
  retries : Nat := 1
  maxConcurrent : Nat := 100
  /-- How many requests a circuit sees before it may open. -/
  volume : Nat := 20
  /-- The share of failures beyond which a circuit opens. -/
  errorPercent : Nat := 90
  /-- How long a circuit stays open. -/
  sleepWindow : Nat := 5000
  deriving DecidableEq, Repr

namespace ClientDefaults

/-- The names of the settings. -/
def names : List String :=
  ["timeout_ms", "retries", "max_concurrent_requests", "request_volume_threshold",
    "error_percent_threshold", "sleep_window_ms"]

/-- The greatest count, which takes 32 bits. -/
def maxCount : Nat := 4294967295

/-- The greatest time and the greatest number of requests, which take 64 bits. -/
def maxLong : Nat := 18446744073709551615

/-- The settings that a value gives. -/
def ofJson? (longer : Bool) (v : Value) : Option ClientDefaults := do
  match ← Json.recordFields? names longer v with
  | [timeout, retries, maxConcurrent, volume, errorPercent, sleepWindow] =>
    let standard : ClientDefaults := {}
    return {
      timeout := ← Json.givenOr standard.timeout (Json.naturalUpTo? maxLong) timeout
      retries := ← Json.givenOr standard.retries (Json.naturalUpTo? maxCount) retries
      maxConcurrent :=
        ← Json.givenOr standard.maxConcurrent (Json.naturalUpTo? maxLong) maxConcurrent
      volume := ← Json.givenOr standard.volume (Json.naturalUpTo? maxCount) volume
      errorPercent := ← Json.givenOr standard.errorPercent (Json.naturalUpTo? maxCount) errorPercent
      sleepWindow := ← Json.givenOr standard.sleepWindow (Json.naturalUpTo? maxLong) sleepWindow }
  | _ => none

/-- The settings as a record. -/
def toJson (c : ClientDefaults) : Value :=
  .objectOf (names.zip ([c.timeout, c.retries, c.maxConcurrent, c.volume, c.errorPercent,
    c.sleepWindow].map .natural))

end ClientDefaults

end ApiScaffold
