/-!
# Settings

Configuration as it is written in files: truth values, numbers, texts, lists
and tables of named entries. Records are read from tables by the names of their
fields, or from lists by their order.
-/

namespace TypedQuery

/-- A piece of configuration. -/
inductive Setting where
  | null
  | flag (b : Bool)
  | integer (i : Int)
  /-- A number that is not written as an integer. -/
  | fraction
  | text (s : String)
  | list (items : List Setting)
  | table (entries : List (String × Setting))

namespace Setting

/-- The entries for the fields of a record, each present or not. Unknown names
in a table are ignored; a list may be short but not long. -/
def entries? (fields : List String) : Setting → Option (List (Option Setting))
  | table entries => some (fields.map fun name => entries.lookup name)
  | list items =>
    if items.length ≤ fields.length then
      some (items.map some ++ List.replicate (fields.length - items.length) none)
    else none
  | _ => none

/-- The entries for the fields of a record, which a list must give in full. -/
def fullEntries? (fields : List String) : Setting → Option (List (Option Setting))
  | list items => if items.length = fields.length then some (items.map some) else none
  | setting => setting.entries? fields

/-- A truth value, with one for a missing entry. -/
def flag? (missing : Bool) : Option Setting → Option Bool
  | none => some missing
  | some (flag b) => some b
  | some _ => none

def text? : Option Setting → Option String
  | some (text s) => some s
  | _ => none

def optionalText? : Option Setting → Option (Option String)
  | none => some none
  | some null => some none
  | some (text s) => some (some s)
  | some _ => none

/-- An integer below a bound, with one for a missing entry. -/
def natural? (missing : Nat) (bound : Nat) : Option Setting → Option Nat
  | none => some missing
  | some (integer i) => if 0 ≤ i ∧ i < bound then some i.toNat else none
  | some _ => none

/-- An integer below a bound that may be null or missing. -/
def optionalNatural? (bound : Nat) : Option Setting → Option (Option Nat)
  | none => some none
  | some null => some none
  | some (integer i) => if 0 ≤ i ∧ i < bound then some (some i.toNat) else none
  | some _ => none

/-- One of several names: the name as a text, or as the only entry of a table,
whose value is null. -/
def variant? : Setting → Option String
  | text name => some name
  | table [(name, null)] => some name
  | _ => none

end Setting

end TypedQuery
