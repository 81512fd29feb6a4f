import PassiveFtp.Settings.Toml.Moment
import PassiveFtp.Settings.Value

/-!
# What a key of a TOML text is bound to

An item is read as it is written and only looked at more closely when its value
is asked for: that moments exist and that no key of a table is bound twice is
checked then. A table is left as soon as its first key is found to be the one
that marks a moment, and then nobody asks for the rest of it.
-/

namespace PassiveFtp.Toml

/-- What is written after an equals sign, or grows from dotted keys. -/
inductive Item where
  | plain (value : Value)
  | moment (text : List Char)
  | array (items : List Item)
  | table (isDotted : Bool) (members : List (String × Item))

/-- The members of a table, in the order of the text. A key may still be bound
twice. -/
abbrev Members := List (String × Item)

/-- The key that stands for a moment when it comes first in a table. -/
def momentKey : String := "$__toml_private_datetime"

namespace Members

/-- Binds a key. A dotted key goes into the first thing that its first part is
bound to, and that has to be a table made by dotted keys. -/
def bind? : List String → Item → Members → Option Members
  | [], _, _ => none
  | [key], item, members => some (members ++ [(key, item)])
  | key :: path, item, members =>
    let isOther (member : String × Item) : Bool := member.1 != key
    match members.dropWhile isOther with
    | [] => (bind? path item []).map fun inner => members ++ [(key, .table true inner)]
    | (_, .table true inner) :: rest =>
      (bind? path item inner).map fun inner =>
        members.takeWhile isOther ++ (key, .table true inner) :: rest
    | _ => none

end Members

namespace Item

/-- The value of a moment, if the text is one. -/
def momentValue? (text : List Char) : Option Value :=
  (Moment.parse? text).map fun moment => .text moment.print

/-- The value of a table whose first key marks a moment and is bound to this
item. -/
def markedValue? : Item → Option Value
  | plain (.text text) => momentValue? text.toList
  | _ => none

mutual

/-- The value of an item. -/
def value? : Item → Option Value
  | plain value => some value
  | moment text => momentValue? text
  | array items => if haveValues items then some .sequence else none
  | table _ members => tableValue? members

/-- The value of a table with these members. -/
def tableValue? : List (String × Item) → Option Value
  | [] => some .map
  | (key, item) :: rest =>
    if key = momentKey then item.markedValue?
    else if item.value?.isSome && haveFreshKeys [key] rest then some .map
    else none

/-- Whether all items have values. -/
def haveValues : List Item → Bool
  | [] => true
  | item :: rest => item.value?.isSome && haveValues rest

/-- Whether members have values, and keys that differ from each other and from
those before them. -/
def haveFreshKeys (before : List String) : List (String × Item) → Bool
  | [] => true
  | (key, item) :: rest =>
    !before.contains key && item.value?.isSome && haveFreshKeys (key :: before) rest

end

end Item

end PassiveFtp.Toml
