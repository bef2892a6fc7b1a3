/-!
# Structured values

The values that a configuration is read from and written to: texts, numbers, lists and records,
as in a JSON document.
-/

namespace Kasten.Config

/-- A number is whole and not negative, or else of no use here. -/
inductive Value where
  | null
  | bool (b : Bool)
  | number (n : Option Nat)
  | text (s : String)
  | list (vs : List Value)
  | record (fields : List (String × Value))
deriving Inhabited, Repr

namespace Value

def asBool? : Value → Option Bool
  | bool b => some b
  | _ => none

def asText? : Value → Option String
  | text s => some s
  | _ => none

def asTexts? : Value → Option (List String)
  | list vs => vs.mapM asText?
  | _ => none

/-- A number below a bound. -/
def asBelow? (bound : Nat) : Value → Option Nat
  | number (some n) => if n < bound then some n else none
  | _ => none

/-- The field's value if the field is there; a field that is there has to be readable. -/
def optional {α : Type} (read : Value → Option α) (default : α) : Option Value → Option α
  | none => some default
  | some v => read v

end Value

/-- Where the fields of a record are looked for: by name, or one after another in a list. -/
inductive Source where
  | named (fields : List (String × Value))
  | positional (vs : List Value)

namespace Source

def ofValue? : Value → Option Source
  | .record fields => some (.named fields)
  | .list vs => some (.positional vs)
  | _ => none

/-- The field with a name that stands at a position. -/
def field? : Source → String → Nat → Option Value
  | named fields, name, _ => fields.lookup name
  | positional vs, _, position => vs[position]?

/-- No list has more elements than there are fields. -/
def fits : Source → Nat → Bool
  | named _, _ => true
  | positional vs, count => vs.length ≤ count

end Source

end Kasten.Config
