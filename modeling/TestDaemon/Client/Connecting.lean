import TestDaemon.Client
import TestDaemon.Settings

/-! # Connecting

A client tries to connect until an attempt succeeds or fails otherwise than by a refusal. After a
refusal it looks at the clock: past the deadline it gives up, and else it pauses before the next
attempt. Readings of the clock count nanoseconds; their seconds fit 64 bits with a sign.
-/

namespace TestDaemon

/-- What an attempt to connect comes to. -/
inductive AttemptOutcome (σ : Type) where
  | connected (link : Link σ)
  | refused (text : String)
  | failed (text : String)

/-- An attempt and the reading of the clock after it. -/
structure Attempt (σ : Type) where
  outcome : AttemptOutcome σ
  time : Int

/-- What the attempts come to. `trying` stands for the wait for a further attempt, and `overflow` for a
deadline past the end of the clock. -/
inductive Connecting (σ : Type) where
  | client (client : Client σ)
  | failed (error : Error)
  | trying
  | overflow

namespace Error

def unreachable (address cause : String) : Error :=
  ⟨.io, "could not connect to " ++ address ++ ": " ++ cause⟩

def connectTimeout (address : String) (seconds : UInt64) (cause : String) : Error :=
  ⟨.connectTimeout, s!"could not connect to {address} within {seconds.toNat}s: {cause}"⟩

end Error

/-- The end of the clock, in nanoseconds. -/
def clockEnd : Int := 0x8000000000000000 * 1000000000

/-- The reading of the clock some seconds after another one. -/
def deadline? (start : Int) (seconds : UInt64) : Option Int :=
  let deadline := start + seconds.toNat * 1000000000
  if deadline < clockEnd then some deadline else none

namespace Client

variable {σ : Type}

/-- Go through the attempts. -/
def attemptUntil (address : String) (seconds : UInt64) (deadline : Int) :
    List (Attempt σ) → Connecting σ
  | [] => .trying
  | attempt :: attempts =>
    match attempt.outcome with
    | .connected link => .client (new link)
    | .failed text => .failed (.unreachable address text)
    | .refused text =>
      if deadline ≤ attempt.time then .failed (.connectTimeout address seconds text)
      else attemptUntil address seconds deadline attempts

/-- Connect as configured, where the clock reads `start` at first. -/
def connect (settings : ClientSettings) (start : Int) (attempts : List (Attempt σ)) : Connecting σ :=
  match settings.requirePort with
  | .error error => .failed error
  | .ok port =>
    match deadline? start settings.connectTimeoutSeconds with
    | none => .overflow
    | some deadline =>
      attemptUntil s!"{settings.host}:{port.toNat}" settings.connectTimeoutSeconds deadline attempts

end Client

end TestDaemon
