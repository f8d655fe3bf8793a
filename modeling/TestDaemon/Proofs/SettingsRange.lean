import TestDaemon.Proofs.ConnectAttempts
import TestDaemon.Proofs.Fallible
import TestDaemon.Settings.Decoder

/-! # The range of accepted settings

The integers of a document have 64 bits, one of which is their sign. A setting that is read from a document
fills at most one half of an unsigned word, so that a frame at the limit and its delimiter always have a length
that fits. The seconds of a client's clock have a sign, too: the largest timeout of a document leads past the
end of the clock as soon as its first second is over, and no check of the settings prevents this.
-/

namespace TestDaemon

/-! ## Numbers of a document -/

namespace Toml.Node

variable {node : Node} {expected : String}

theorem of_toNumber {limit number : Nat} (read : node.toNumber limit expected = .ok number) :
    number ≤ limit ∧ number < 2 ^ 63 := by
  unfold toNumber at read
  split at read
  · next span value =>
    split at read
    · next within =>
      obtain rfl := Except.ok.inj read
      have signed := value.toInt_lt
      omega
    · cases read
  · cases read

/-- A word that is read from a document has its highest bit free. -/
theorem toWord_lt {word : UInt64} (read : node.toWord expected = .ok word) : word.toNat < 2 ^ 63 := by
  obtain ⟨number, given, rfl⟩ := map_eq_ok_iff.mp read
  have signed := (of_toNumber given).2
  rw [UInt64.toNat_ofNat']
  omega

/-- What the reading of every field keeps holds of a record whose fields are read. -/
theorem keeps_of_readFields {α : Type} {names : List String} {set : α → String → Node → Except Misfit α}
    {kept : α → Prop} (keeps : ∀ record name node next, kept record → set record name node = .ok next → kept next)
    {start record : α} (begins : kept start) (read : node.readFields names set expected start = .ok record) :
    kept record := by
  unfold readFields at read
  split at read
  · refine keeps_of_foldlM kept ?_ begins (mapError_eq_ok_iff.mp read)
    intro before entry next holds stepped
    exact keeps before _ _ next holds (mapError_eq_ok_iff.mp stepped)
  · refine keeps_of_foldlM kept ?_ begins (mapError_eq_ok_iff.mp read)
    intro before entry next
    exact keeps before _ _ next
  · cases read
    exact begins
  · cases read

end Toml.Node

/-! ## Settings of a document -/

/-- The numbers of settings leave the highest bit of their words free. -/
structure Settings.FitsSigned (settings : Settings) : Prop where
  frames : settings.server.maxFrameBytes.toNat < 2 ^ 63
  timeout : settings.client.connectTimeoutSeconds.toNat < 2 ^ 63

theorem ServerSettings.set_fitsSigned {settings next : ServerSettings} {name : String} {node : Toml.Node}
    (fits : settings.maxFrameBytes.toNat < 2 ^ 63) (read : settings.set name node = .ok next) :
    next.maxFrameBytes.toNat < 2 ^ 63 := by
  unfold set at read
  split at read
  · obtain ⟨address, -, rfl⟩ := map_eq_ok_iff.mp read
    exact fits
  · obtain ⟨port, -, rfl⟩ := map_eq_ok_iff.mp read
    exact fits
  · obtain ⟨limit, given, rfl⟩ := map_eq_ok_iff.mp read
    exact Toml.Node.toWord_lt given
  · obtain ⟨threads, -, rfl⟩ := map_eq_ok_iff.mp read
    exact fits
  · cases read
    exact fits

theorem ClientSettings.set_fitsSigned {settings next : ClientSettings} {name : String} {node : Toml.Node}
    (fits : settings.connectTimeoutSeconds.toNat < 2 ^ 63) (read : settings.set name node = .ok next) :
    next.connectTimeoutSeconds.toNat < 2 ^ 63 := by
  unfold set at read
  split at read
  · obtain ⟨host, -, rfl⟩ := map_eq_ok_iff.mp read
    exact fits
  · obtain ⟨port, -, rfl⟩ := map_eq_ok_iff.mp read
    exact fits
  · obtain ⟨timeout, given, rfl⟩ := map_eq_ok_iff.mp read
    exact Toml.Node.toWord_lt given
  · obtain ⟨interval, -, rfl⟩ := map_eq_ok_iff.mp read
    exact fits
  · cases read
    exact fits

namespace Settings

variable {settings next : Settings}

theorem fitsSigned_default : FitsSigned {} := ⟨by decide, by decide⟩

theorem FitsSigned.set {name : String} {node : Toml.Node} (fits : settings.FitsSigned)
    (read : settings.set name node = .ok next) : next.FitsSigned := by
  unfold Settings.set at read
  split at read
  · obtain ⟨server, given, rfl⟩ := map_eq_ok_iff.mp read
    exact ⟨Toml.Node.keeps_of_readFields (fun _ _ _ _ => ServerSettings.set_fitsSigned)
      fitsSigned_default.frames given, fits.timeout⟩
  · obtain ⟨client, given, rfl⟩ := map_eq_ok_iff.mp read
    exact ⟨fits.frames, Toml.Node.keeps_of_readFields (fun _ _ _ _ => ClientSettings.set_fitsSigned)
      fitsSigned_default.timeout given⟩
  · cases read
    exact fits

theorem fitsSigned_of_parse {text : String} (accepted : parse text = .ok settings) :
    settings.FitsSigned := by
  unfold parse at accepted
  split at accepted
  · cases accepted
  · next entries _ =>
    split at accepted
    · cases accepted
    · next read =>
      obtain ⟨-, -, rfl⟩ := map_eq_ok_iff.mp accepted
      exact Toml.Node.keeps_of_readFields (fun _ _ _ _ => FitsSigned.set) fitsSigned_default read

end Settings

/-! ## Sums -/

namespace Client

variable {σ : Type} {settings : ClientSettings} {start : Int} {attempts : List (Attempt σ)}

theorem attemptUntil_ne_overflow {address : String} {seconds : UInt64} {deadline : Int} :
    attemptUntil address seconds deadline attempts ≠ .overflow := by
  induction attempts with
  | nil => simp [attemptUntil]
  | cons attempt attempts ih =>
    rw [attemptUntil]
    split
    · simp
    · simp
    · split
      · simp
      · exact ih

/-- Connecting gets as far as its deadline where there is a port, and this may be past the end of the clock. -/
theorem connect_eq_overflow_iff :
    connect settings start attempts = .overflow ↔
      settings.port.isSome = true ∧ clockEnd ≤ start + settings.connectTimeoutNanos := by
  cases configured : settings.port with
  | none => simp [connect, ClientSettings.requirePort, configured]
  | some port =>
    have same : start + (settings.connectTimeoutNanos : Int) =
        start + settings.connectTimeoutSeconds.toNat * 1000000000 := rfl
    rw [same]
    simp only [connect, ClientSettings.requirePort, configured, deadline?]
    by_cases fits : start + settings.connectTimeoutSeconds.toNat * 1000000000 < clockEnd
    · rw [if_pos fits]
      exact ⟨fun overflow => absurd overflow attemptUntil_ne_overflow,
        fun past => absurd past.2 (not_le.mpr fits)⟩
    · rw [if_neg fits]
      exact ⟨fun _ => ⟨rfl, not_lt.mp fits⟩, fun _ => rfl⟩

end Client

namespace Settings

/-- What comes of the sums that are taken of settings. -/
structure Sums (settings : Settings) : Prop where
  /-- A buffer waits up to the limit and the length of a delimiter: this is a word. -/
  waiting : settings.server.maxFrameBytes.toNat + Request.delimiter.length < UInt64.size
  /-- The deadline of a client that has a port is past the end of the clock if the timeout does not fit between
  the clock's reading and its end, and only then. -/
  overflows : ∀ {σ : Type} (start : Int) (attempts : List (Attempt σ)),
    Client.connect settings.client start attempts = .overflow ↔
      settings.client.port.isSome = true ∧ clockEnd ≤ start + settings.client.connectTimeoutNanos
  /-- In the first second of the clock every timeout fits. -/
  early : ∀ {σ : Type} (start : Int) (attempts : List (Attempt σ)), start < 1000000000 →
    Client.connect settings.client start attempts ≠ .overflow

/-- The sums that are taken of accepted settings: the one of bytes is always in range, the one of seconds only
as long as the timeout fits behind the reading of the clock. -/
theorem sums_of_parse {text : String} {settings : Settings} (accepted : parse text = .ok settings) :
    settings.Sums where
  waiting := by
    have fits := (fitsSigned_of_parse accepted).frames
    have length : Request.delimiter.length = 5 := rfl
    have size : UInt64.size = 2 * 2 ^ 63 := rfl
    omega
  overflows start attempts := Client.connect_eq_overflow_iff
  early start attempts first overflow := by
    have fits := (fitsSigned_of_parse accepted).timeout
    have nanos : settings.client.connectTimeoutNanos =
        settings.client.connectTimeoutSeconds.toNat * 1000000000 := rfl
    have past : (0x8000000000000000 * 1000000000 : Int) ≤ start + settings.client.connectTimeoutNanos :=
      (Client.connect_eq_overflow_iff.mp overflow).2
    omega

/-- The largest numbers of a document are accepted. -/
theorem sums_of_parse_largest :
    let text := "[server]\nmax_frame_bytes = 9223372036854775807\n" ++
      "[client]\nport = 1\nconnect_timeout_seconds = 9223372036854775807\n"
    let settings : Settings :=
      { server := { maxFrameBytes := 9223372036854775807 }
        client := { port := some 1, connectTimeoutSeconds := 9223372036854775807 } }
    parse text = .ok settings ∧ settings.Sums := by
  intro text settings
  have accepted : parse text = .ok settings := toOption_eq_some_iff.mp (by decide +kernel)
  exact ⟨accepted, sums_of_parse accepted⟩

/-- One second after its beginning the clock has no room for the largest timeout of a document. -/
theorem not_sums_inRange : ¬ ∀ (text : String) (settings : Settings) (start : Int),
    parse text = .ok settings → 0 ≤ start → start < clockEnd →
      settings.server.maxFrameBytes.toNat + Request.delimiter.length < UInt64.size ∧
        ∀ attempts : List (Attempt Bytes), Client.connect settings.client start attempts ≠ .overflow := by
  intro inRange
  have accepted : parse "[client]\nport = 1\nconnect_timeout_seconds = 9223372036854775807\n" =
      .ok { client := { port := some 1, connectTimeoutSeconds := 9223372036854775807 } } :=
    toOption_eq_some_iff.mp (by decide +kernel)
  have safe := (inRange _ _ 1000000000 accepted (by decide) (by decide)).2 []
  exact safe (Client.connect_eq_overflow_iff.mpr ⟨rfl, by decide +kernel⟩)

end Settings

end TestDaemon
