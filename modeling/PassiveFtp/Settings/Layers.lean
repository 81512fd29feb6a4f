import PassiveFtp.Settings.Key
import PassiveFtp.Settings.Value
import PassiveFtp.Text.Lowercase

/-!
# Layers of settings

What a file says about a setting and what the environment says about it are
entries of one list, the environment's after those of the file. The value of a
setting is what its last entry says, and it is found by looking at the entries
of that setting alone: what is said about other settings cannot matter.
-/

namespace PassiveFtp

/-- A key with a value, and where it stands. -/
structure Entry where
  key : String
  value : Value
  origin : String
deriving DecidableEq, Repr

/-- The value of a setting, and where it was found. A map may have members from
several places and so it has none of its own. -/
structure Finding where
  value : Value
  origin : Option String
deriving DecidableEq, Repr

namespace Finding

/-- What an entry makes of a setting, given what was found before. -/
def settle (before : Option Finding) (reach : Reach) (entry : Entry) : Finding :=
  match reach with
  | .member => ⟨.map, none⟩
  | .element =>
    match before with
    | some ⟨.sequence, origin⟩ => ⟨.sequence, origin⟩
    | _ => ⟨.sequence, none⟩
  | .whole =>
    match entry.value with
    | .map => ⟨.map, none⟩
    | value => ⟨value, some entry.origin⟩

/-- What is found about a setting, after what was found before. -/
def after (name : String) (before : Option Finding) (entry : Entry) : Option Finding :=
  let key := Key.ofText entry.key
  if key.name = name then some (settle before key.reach entry) else before

/-- What entries say about a setting. -/
def find? (name : String) (entries : List Entry) : Option Finding :=
  entries.foldl (after name) none

end Finding

namespace Entry

/-- How the names of variables about settings start. -/
def variableStart : String := "solo_ftpd_"

/-- What messages call the environment. -/
def environmentOrigin : String := "the environment"

/-- The entry that a variable is, if its name says so; letter case does not
matter. -/
def ofVariable? (name value : String) : Option Entry :=
  let name := (Text.lowercase name).toList
  let start := variableStart.toList
  if start.isPrefixOf name then
    some ⟨String.ofList (name.drop start.length), .ofVariable value, environmentOrigin⟩
  else none

/-- The entries of the environment. -/
def ofVariables (environment : List (String × String)) : List Entry :=
  environment.filterMap fun (name, value) => ofVariable? name value

/-- The entries of a file. -/
def ofFile (file : String) (members : List (String × Value)) : List Entry :=
  members.map fun (key, value) => ⟨key, value, file⟩

end Entry

end PassiveFtp
