import PassiveFtp.Settings.Toml.Item

/-!
# Sections of a TOML text

A text is a row of sections, and its tables are gathered from them: a table
takes, in the order of the text, the entries of the section with its own path
and one more table for every section with a longer path. A section is opened
once, though a section may come before the one around it, and a section of an
array adds an element that ends where the next one begins.

Sections are used up as they are gathered. That matters for a table that turns
out to be a moment: it leaves the rest of its sections to whoever comes next.
-/

namespace PassiveFtp.Toml

/-- A section: the path in its header, whether it adds to an array, and its
entries as long as no table has taken them. -/
structure Section where
  path : List String
  isArray : Bool
  entries : Option Members

/-- The sections of a text in order. -/
abbrev Sections := Array Section

namespace Sections

/-- How many steps gathering can take: within each level of nesting, one for
every entry and two for every section. -/
def stepBound (sections : Sections) : Nat :=
  let entries := sections.foldl (fun n s => n + (s.entries.getD []).length) 0
  let depth := sections.foldl (fun n s => max n s.path.length) 0
  (entries + 2 * sections.size + 2) * (depth + 2)

/-- The first section at or after a position and before a limit for which a
condition holds. -/
def find? (sections : Sections) (position limit : Nat) (condition : Section → Bool) :
    Option Nat :=
  (List.range' position (limit - position)).find? fun i => sections[i]?.any condition

/-- The sections after the entries of one were taken. -/
def take (sections : Sections) (i : Nat) : Sections :=
  sections.modify i fun s => { s with entries := none }

end Sections

/-- Where a table gathers from: how deep it lies, a section that tells its path,
and the positions that are still to be looked at. -/
structure Scope where
  depth : Nat
  owner : Nat
  position : Nat
  limit : Nat

/-- What a table turns out to be: a moment, or the values of its keys. -/
inductive Gathered where
  | moment (value : Value)
  | members (values : List (String × Value))

/-- What a gathered table is as a value. -/
def Gathered.toValue : Gathered → Value
  | moment value => value
  | members _ => .map

namespace Sections

/-- Whether a section with entries not yet taken lies below the first `depth`
parts of a path. -/
def belongs (depth : Nat) (path : List String) (s : Section) : Bool :=
  s.entries.isSome && depth ≤ s.path.length && s.path.take depth == path.take depth

mutual

/-- Gathers a table in a scope, after the keys already `found`, latest first, and
the entries `next` that it has taken. -/
def table? : Nat → Sections → Scope → List (String × Value) → Members →
    Option (Gathered × Sections)
  | 0, _, _, _, _ => none
  | fuel + 1, sections, scope, found, (key, item) :: next =>
    if found.isEmpty && key = momentKey then
      item.markedValue?.map fun value => (.moment value, sections)
    else if found.any (·.1 == key) then none
    else
      match item.value? with
      | some value => table? fuel sections scope ((key, value) :: found) next
      | none => none
  | fuel + 1, sections, scope, found, [] =>
    let owner := (sections[scope.owner]?.map Section.path).getD []
    match sections.find? scope.position scope.limit (belongs scope.depth owner) with
    | none => some (.members found.reverse, sections)
    | some i =>
      match sections[i]? with
      | none => none
      | some s =>
        if i ≠ scope.owner && s.path == owner then none
        else
          let scope := { scope with
            owner := if s.path.length < owner.length then i else scope.owner }
          match s.path[scope.depth]? with
          | none =>
            if s.isArray then none
            else table? fuel (sections.take i) { scope with position := i } found
              (s.entries.getD [])
          | some key =>
            if (found.isEmpty && key = momentKey) || found.any (·.1 == key) then none
            else
              let inner :=
                if s.isArray && scope.depth + 1 = s.path.length then
                  (array? fuel sections scope.depth i scope.limit).map fun sections =>
                    (Value.sequence, sections)
                else
                  (table? fuel sections ⟨scope.depth + 1, i, 0, scope.limit⟩ [] []).map
                    fun (gathered, sections) => (gathered.toValue, sections)
              match inner with
              | none => none
              | some (value, sections) =>
                table? fuel sections { scope with position := i + 1 } ((key, value) :: found) []

/-- Gathers an array of tables whose next element begins with the section
`owner`. -/
def array? : Nat → Sections → Nat → Nat → Nat → Option Sections
  | 0, _, _, _, _ => none
  | fuel + 1, sections, depth, owner, limit =>
    match sections[owner]? with
    | none => none
    | some s =>
      let isNext (other : Section) : Bool := other.isArray && other.path == s.path
      let next := (sections.find? (owner + 1) limit isNext).getD limit
      match s.entries with
      | none => none
      | some entries =>
        match table? fuel (sections.take owner) ⟨depth + 1, owner, 0, next⟩ [] entries with
        | none => none
        | some (_, sections) =>
          if next = limit then some sections else array? fuel sections depth next limit

end

/-- The outermost keys and their values; a text that turns out to be a moment
has none. -/
def read? (sections : Sections) : Option (List (String × Value)) :=
  match table? sections.stepBound sections ⟨0, 0, 0, sections.size⟩ [] [] with
  | some (.members values, _) => some values
  | some (.moment _, _) => some []
  | none => none

end Sections

end PassiveFtp.Toml
