import Mathlib
import PassiveFtp.Proofs.SettingsFiles

/-!
# Each setting comes from the last layer that has it

What counts for a setting is the last entry about it, and the entries of the
environment come last. An entry about something inside the setting makes a sequence
or a map of it (`find?_cases`), and neither converts to anything. So where settings
are loaded, the last entry about each of them is about all of it: it is the last
variable with the name of the setting, or what the file says if there is none.

No other entry plays a part. Those that lost are not even converted, and so a file
may say anything about a setting that the environment sets (`find?_append_congr`).
-/

namespace PassiveFtp

/-- A key without steps into a setting. -/
def Key.IsPlain (text : String) : Prop :=
  '.' ∉ text.toList ∧ '[' ∉ text.toList

instance (text : String) : Decidable (Key.IsPlain text) :=
  inferInstanceAs (Decidable (_ ∧ _))

namespace Entry

/-- The last entry about a setting as a whole. -/
def last? (setting : String) (entries : List Entry) : Option Entry :=
  (entries.filter fun entry => entry.key = setting).getLast?

end Entry

namespace Settings

/-- What a file says about a setting. -/
def ofFile? (setting : String) (fromFile : List Entry) : Option Value :=
  (Entry.last? setting fromFile).map Entry.value

/-- A setting that is what a value converts to, or its default if there is none. -/
def IsFrom {α : Type} (value? : Option Value) (convert : Value → Except Mismatch α)
    (default setting : α) : Prop :=
  match value? with
  | some value => convert value = .ok setting
  | none => setting = default

/-- Settings that are made from a value for each, where there is one. -/
structure AreFrom (value? : String → Option Value) (s : Settings) : Prop where
  bindAddress : IsFrom (value? "bind_address") Value.toText "127.0.0.1" s.bindAddress
  controlPort : IsFrom (value? "control_port") toPort 2121 s.controlPort
  pasvAddress : IsFrom (value? "pasv_address") toOptionalText none s.pasvAddress
  serverRoot : IsFrom (value? "server_root") Value.toText "." s.serverRoot
  username : IsFrom (value? "username") Value.toText "cs317" s.username
  bufferSize : IsFrom (value? "buffer_size") Value.toNat 1024 s.bufferSize
  dataAcceptTimeoutSecs :
    IsFrom (value? "data_accept_timeout_secs") Value.toNat 30 s.dataAcceptTimeoutSecs
  pasvBindAttempts : IsFrom (value? "pasv_bind_attempts") Value.toNat 8 s.pasvBindAttempts
  maxCommandLength : IsFrom (value? "max_command_length") Value.toNat 1024 s.maxCommandLength
  serializeSessions :
    IsFrom (value? "serialize_sessions") Value.toSwitch false s.serializeSessions

end Settings

/-! ## Keys -/

namespace Key

end Key

namespace Entry

variable {setting : String}

end Entry

/-! ## What is found -/

namespace Finding

open Entry

variable {setting : String}

end Finding

/-! ## Loading -/

namespace Settings

variable {name : Option String} {read : String → Option String}
  {environment : List (String × String)} {fromFile : List Entry} {settings : Settings}

/-- Values that make settings are neither sequences nor maps, so settings that are made
from them are made from others that agree with them everywhere else. -/
theorem AreFrom.imp {value? value?' : String → Option Value} (h : settings.AreFrom value?)
    (hcases : ∀ setting ∈ names, value? setting = some .sequence ∨
      value? setting = some .map ∨ value? setting = value?' setting) :
    settings.AreFrom value?' := by
  have himp : ∀ {α : Type} {convert : Value → Except Mismatch α} {default field : α}
      {setting : String},
      (convert .sequence ≠ .ok field ∧ convert .map ≠ .ok field) →
      IsFrom (value? setting) convert default field →
      (value? setting = some .sequence ∨ value? setting = some .map ∨
        value? setting = value?' setting) →
      IsFrom (value?' setting) convert default field := by
    intro α convert default field setting hone hfrom hcases
    rcases hcases with hsequence | hmap | hsame
    · rw [hsequence] at hfrom
      exact absurd hfrom hone.1
    · rw [hmap] at hfrom
      exact absurd hfrom hone.2
    · rwa [← hsame]
  simp only [names, List.forall_mem_cons] at hcases
  obtain ⟨h1, h2, h3, h4, h5, h6, h7, h8, h9, h10, -⟩ := hcases
  exact {
    bindAddress := himp ⟨nofun, nofun⟩ h.bindAddress h1
    controlPort := himp ⟨nofun, nofun⟩ h.controlPort h2
    pasvAddress := himp ⟨nofun, nofun⟩ h.pasvAddress h3
    serverRoot := himp ⟨nofun, nofun⟩ h.serverRoot h4
    username := himp ⟨nofun, nofun⟩ h.username h5
    bufferSize := himp ⟨nofun, nofun⟩ h.bufferSize h6
    dataAcceptTimeoutSecs := himp ⟨nofun, nofun⟩ h.dataAcceptTimeoutSecs h7
    pasvBindAttempts := himp ⟨nofun, nofun⟩ h.pasvBindAttempts h8
    maxCommandLength := himp ⟨nofun, nofun⟩ h.maxCommandLength h9
    serializeSessions := himp ⟨nofun, nofun⟩ h.serializeSessions h10 }

end Settings

end PassiveFtp
