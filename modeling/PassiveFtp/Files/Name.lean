/-!
# Names of directory entries

A name is a string of bytes and need not be text. What it may not be is fixed
by the meaning of paths: empty, `.` and `..` already mean something, a slash
would end it, a zero byte would end the path, and the file system keeps at most
255 bytes. All of that is in the type, so a tree cannot hold an entry that no
path could name.
-/

namespace PassiveFtp

/-- The byte that separates the segments of a path. -/
def slash : UInt8 := 0x2F

/-- The segment that means the directory itself. -/
def dot : List UInt8 := [0x2E]

/-- The segment that means the directory above. -/
def dotDot : List UInt8 := [0x2E, 0x2E]

/-- The greatest length of a name in bytes. -/
def Name.maxLength : Nat := 255

/-- Whether a byte string can be the name of an entry. -/
def Name.Legal (bytes : List UInt8) : Prop :=
  bytes ≠ [] ∧ bytes ≠ dot ∧ bytes ≠ dotDot ∧ slash ∉ bytes ∧ 0 ∉ bytes
    ∧ bytes.length ≤ Name.maxLength

instance (bytes : List UInt8) : Decidable (Name.Legal bytes) := by
  unfold Name.Legal
  infer_instance

/-- The name of a directory entry. -/
structure Name where
  bytes : List UInt8
  legal : Name.Legal bytes
deriving DecidableEq

namespace Name

/-- The name with the given bytes, if there is one. -/
def ofBytes? (bytes : List UInt8) : Option Name :=
  if h : Legal bytes then some ⟨bytes, h⟩ else none

theorem ofBytes?_bytes (name : Name) : ofBytes? name.bytes = some name := by
  simp [ofBytes?, name.legal]

theorem bytes_of_ofBytes? {bytes : List UInt8} {name : Name} (h : ofBytes? bytes = some name) :
    name.bytes = bytes := by
  simp only [ofBytes?] at h
  split at h
  · cases h
    rfl
  · cases h

end Name

/-- A place in a tree: the names that lead to it from the top. -/
abbrev Location := List Name

end PassiveFtp
