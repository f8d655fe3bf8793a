import Mathlib.Algebra.Order.Floor.Div
import Mathlib.Data.Nat.Find
import Mathlib.Tactic.Linarith
import TestDaemon.Client.Connecting

/-! # How often a client tries to connect

Nothing counts the attempts. They end because the clock moves on by at least one pause with each of them, so
that the deadline has passed at the latest when the pauses fill the timeout. The look at the clock comes
behind a refused attempt and before the pause: the last attempt may begin after the deadline.
-/

namespace TestDaemon

/-- The attempts that a client could make, one after another: what each comes to, and the readings of the
clock at its begin and its end. -/
structure Attempts (σ : Type) where
  outcome : Nat → AttemptOutcome σ
  begun : Nat → Int
  ended : Nat → Int

/-- The clock never goes back from its first reading, and a pause takes at least as long as it should. -/
structure Attempts.Paced {σ : Type} (attempts : Attempts σ) (start : Int) (pause : Nat) : Prop where
  begins : start ≤ attempts.begun 0
  lasts : ∀ n, attempts.begun n ≤ attempts.ended n
  pauses : ∀ n, attempts.ended n + pause ≤ attempts.begun (n + 1)

namespace Attempts

variable {σ : Type} (attempts : Attempts σ)

def nth (n : Nat) : Attempt σ := ⟨attempts.outcome n, attempts.ended n⟩

/-- The first attempts, so many of them. -/
def first (count : Nat) : List (Attempt σ) := (List.range count).map attempts.nth

theorem first_add_succ (count more : Nat) : ∃ rest,
    attempts.first (count + (more + 1)) = attempts.first count ++ attempts.nth count :: rest := by
  rw [first, List.range_add, List.range_succ_eq_map]
  simp [first]

theorem Paced.le_ended {attempts : Attempts σ} {start : Int} {pause : Nat}
    (paced : attempts.Paced start pause) (n : Nat) : start + n * pause ≤ attempts.ended n := by
  induction n with
  | zero => simpa using paced.begins.trans (paced.lasts 0)
  | succ n ih =>
    have next : attempts.ended n + pause ≤ attempts.ended (n + 1) := (paced.pauses n).trans (paced.lasts _)
    push_cast
    linarith

/-- The pauses alone take as long as any timeout. -/
theorem Paced.le_ended_ceilDiv {attempts : Attempts σ} {start : Int} {pause : Nat}
    (paced : attempts.Paced start pause) (positive : 0 < pause) (timeout : Nat) :
    start + timeout ≤ attempts.ended (timeout ⌈/⌉ pause) := by
  have enough : timeout ≤ (timeout ⌈/⌉ pause) * pause := by
    simpa [mul_comm] using le_smul_ceilDiv (b := timeout) positive
  have filled : (timeout : Int) ≤ (timeout ⌈/⌉ pause : Nat) * pause := by exact_mod_cast enough
  linarith [paced.le_ended (timeout ⌈/⌉ pause)]

end Attempts

/-- An attempt is followed by another one: it was refused, before the deadline. -/
def Attempt.Repeated {σ : Type} (deadline : Int) (attempt : Attempt σ) : Prop :=
  ∃ text, attempt.outcome = .refused text ∧ attempt.time < deadline

/-- What the last attempt makes of a client. -/
inductive Attempt.Decides {σ : Type} (address : String) (seconds : UInt64) (deadline : Int) :
    Attempt σ → Connecting σ → Prop
  | connected (link : Link σ) (time : Int) :
      Decides address seconds deadline ⟨.connected link, time⟩ (.client (.new link))
  | failed (text : String) (time : Int) :
      Decides address seconds deadline ⟨.failed text, time⟩ (.failed (.unreachable address text))
  | refused (text : String) (time : Int) (late : deadline ≤ time) :
      Decides address seconds deadline ⟨.refused text, time⟩
        (.failed (.connectTimeout address seconds text))

namespace Client

variable {σ : Type} {address : String} {seconds : UInt64} {deadline : Int} {attempt : Attempt σ}
  {prior rest : List (Attempt σ)} {result : Connecting σ}

theorem attemptUntil_of_repeated (repeats : ∀ attempt ∈ prior, attempt.Repeated deadline) :
    attemptUntil address seconds deadline (prior ++ rest) = attemptUntil address seconds deadline rest := by
  induction prior with
  | nil => rfl
  | cons attempt prior ih =>
    obtain ⟨⟨text, refused, early⟩, repeats⟩ := List.forall_mem_cons.mp repeats
    rw [List.cons_append, attemptUntil, refused]
    exact (if_neg (not_le.mpr early)).trans (ih repeats)

theorem attemptUntil_of_decides (decides : attempt.Decides address seconds deadline result) :
    attemptUntil address seconds deadline (attempt :: rest) = result := by
  cases decides with
  | connected | failed => rfl
  | refused text time late => exact if_pos late

theorem exists_decides (stops : ¬ attempt.Repeated deadline) :
    ∃ result, attempt.Decides address seconds deadline result := by
  rcases attempt with ⟨link | text | text, time⟩
  · exact ⟨_, .connected link time⟩
  · exact ⟨_, .refused text time (not_lt.mp fun early => stops ⟨text, rfl, early⟩)⟩
  · exact ⟨_, .failed text time⟩

end Client

namespace ClientSettings

def connectTimeoutNanos (settings : ClientSettings) : Nat :=
  settings.connectTimeoutSeconds.toNat * 1000000000

theorem retryIntervalNanos_pos {settings : ClientSettings} (valid : settings.validate = .ok ()) :
    0 < settings.retryIntervalNanos := by
  have set : settings.retryIntervalMillis ≠ 0 := by
    intro empty
    simp only [validate, empty, if_true] at valid
    split at valid <;> contradiction
  have positive : 0 < settings.retryIntervalMillis.toNat :=
    Nat.pos_of_ne_zero fun zero => set (UInt64.toNat_inj.mp zero)
  exact Nat.mul_pos positive (by decide)

end ClientSettings

/-- The attempts of a client up to one that ends them: what each count of attempts comes to, and why. -/
structure Client.Connects {σ : Type} (settings : ClientSettings) (port : UInt16) (start : Int)
    (attempts : Attempts σ) (last : Nat) (result : Connecting σ) : Prop where
  /-- There is another attempt after fewer ones, so there is at least one. -/
  goesOn : ∀ count ≤ last, Client.connect settings start (attempts.first count) = .trying
  repeated : ∀ n < last, (attempts.nth n).Repeated (start + settings.connectTimeoutNanos)
  decided : (attempts.nth last).Decides s!"{settings.host}:{port.toNat}" settings.connectTimeoutSeconds
    (start + settings.connectTimeoutNanos) result
  /-- There is none after the last one. -/
  ends : ∀ count > last, Client.connect settings start (attempts.first count) = result
  bounded : last + 1 ≤ settings.connectTimeoutNanos ⌈/⌉ settings.retryIntervalNanos + 1

theorem deadline?_eq {start : Int} {settings : ClientSettings}
    (representable : (deadline? start settings.connectTimeoutSeconds).isSome = true) :
    deadline? start settings.connectTimeoutSeconds = some (start + settings.connectTimeoutNanos) := by
  have same : start + (settings.connectTimeoutNanos : Int) =
      start + settings.connectTimeoutSeconds.toNat * 1000000000 := rfl
  rw [deadline?] at representable ⊢
  split at representable
  · next fits => rw [if_pos fits, same]
  · contradiction

namespace Client

variable {σ : Type} {settings : ClientSettings} {port : UInt16} {start : Int} {attempts : Attempts σ}

theorem connect_eq (configured : settings.port = some port)
    (representable : (deadline? start settings.connectTimeoutSeconds).isSome = true) (row : List (Attempt σ)) :
    connect settings start row =
      attemptUntil s!"{settings.host}:{port.toNat}" settings.connectTimeoutSeconds
        (start + settings.connectTimeoutNanos) row := by
  simp only [connect, ClientSettings.requirePort, configured, deadline?_eq representable]

/-- The first attempt that is not followed by another one decides. -/
theorem connects_of_decides (configured : settings.port = some port)
    (representable : (deadline? start settings.connectTimeoutSeconds).isSome = true)
    {last : Nat} {result : Connecting σ}
    (repeated : ∀ n < last, (attempts.nth n).Repeated (start + settings.connectTimeoutNanos))
    (decided : (attempts.nth last).Decides s!"{settings.host}:{port.toNat}" settings.connectTimeoutSeconds
      (start + settings.connectTimeoutNanos) result)
    (bounded : last + 1 ≤ settings.connectTimeoutNanos ⌈/⌉ settings.retryIntervalNanos + 1) :
    Connects settings port start attempts last result := by
  have repeats {count : Nat} (few : count ≤ last) :
      ∀ attempt ∈ attempts.first count, attempt.Repeated (start + settings.connectTimeoutNanos) := by
    intro attempt member
    obtain ⟨n, earlier, rfl⟩ := List.mem_map.mp member
    exact repeated n ((List.mem_range.mp earlier).trans_le few)
  refine ⟨fun count few => ?_, repeated, decided, fun count many => ?_, bounded⟩
  · rw [connect_eq configured representable, ← List.append_nil (attempts.first count)]
    exact attemptUntil_of_repeated (repeats few)
  · obtain ⟨more, rfl⟩ := Nat.exists_eq_add_of_lt many
    obtain ⟨rest, split⟩ := attempts.first_add_succ last more
    rw [connect_eq configured representable, Nat.add_assoc, split,
      attemptUntil_of_repeated (repeats le_rfl)]
    exact attemptUntil_of_decides decided

/-- Connecting comes to an end, whatever the attempts come to. -/
theorem connect_ends (valid : settings.validate = .ok ()) (configured : settings.port = some port)
    (representable : (deadline? start settings.connectTimeoutSeconds).isSome = true)
    (paced : attempts.Paced start settings.retryIntervalNanos) :
    ∃ last result, Connects settings port start attempts last result := by
  classical
  have stops : ¬ (attempts.nth (settings.connectTimeoutNanos ⌈/⌉ settings.retryIntervalNanos)).Repeated
      (start + settings.connectTimeoutNanos) := by
    rintro ⟨_, _, early⟩
    exact not_le.mpr early (paced.le_ended_ceilDiv (ClientSettings.retryIntervalNanos_pos valid) _)
  have ending : ∃ n, ¬ (attempts.nth n).Repeated (start + settings.connectTimeoutNanos) := ⟨_, stops⟩
  obtain ⟨result, decided⟩ := exists_decides (Nat.find_spec ending)
  exact ⟨Nat.find ending, result, connects_of_decides configured representable
    (fun n earlier => not_not.mp (Nat.find_min ending earlier)) decided
    (Nat.succ_le_succ (Nat.find_min' ending stops))⟩

/-- Nobody listens: with a timeout of one second and pauses of 400 milliseconds there are four attempts at most. -/
theorem connect_ends_refused :
    let settings : ClientSettings := { port := some 80, connectTimeoutSeconds := 1, retryIntervalMillis := 400 }
    let attempts : Attempts Bytes := ⟨fun _ => .refused "refused", (400000000 * ·), (400000000 * ·)⟩
    settings.validate = .ok () ∧ settings.port = some 80 ∧
      (deadline? 0 settings.connectTimeoutSeconds).isSome = true ∧
      attempts.Paced 0 settings.retryIntervalNanos ∧
      settings.connectTimeoutNanos ⌈/⌉ settings.retryIntervalNanos + 1 = 4 ∧
      ∃ last result, Connects settings 80 0 attempts last result := by
  intro settings attempts
  have valid : settings.validate = .ok () := by decide +kernel
  have representable : (deadline? 0 settings.connectTimeoutSeconds).isSome = true := by decide +kernel
  have interval : settings.retryIntervalNanos = 400000000 := by decide +kernel
  have paced : attempts.Paced 0 settings.retryIntervalNanos := by
    refine ⟨le_rfl, fun n => le_rfl, fun n => ?_⟩
    rw [interval]
    simp only [attempts]
    omega
  exact ⟨valid, rfl, representable, paced, by decide +kernel, connect_ends valid rfl representable paced⟩

end Client

end TestDaemon
