import Scriptorium.Text.Quoted

/-! The result of a request: an object that the first exported type of a unit constructed, under
the name of that type. The object is looked at, changed or taken out as a value of one kind, and
only if it is of that kind. An object of a native unit is released when its instance is dropped. -/

namespace Scriptorium

/-- An object that a native unit built, and the symbol of its destructor, if there is one. The unit
stays mapped as long as the object is there. -/
structure NativeObject where
  address : UInt64
  destructor : Option Text
  deriving DecidableEq

inductive Payload
  | number (n : UInt64)
  | text (s : Text)
  | native (o : NativeObject)
  deriving DecidableEq

namespace Payload

/-- Both are numbers, or both are texts, or both are native objects. -/
def sameKind : Payload → Payload → Bool
  | number _, number _ | text _, text _ | native _, native _ => true
  | _, _ => false

/-- What is called when an object is dropped, and with which address. -/
def release? : Payload → Option (Text × UInt64)
  | native o => o.destructor.map (·, o.address)
  | _ => none

end Payload

structure Instance where
  typeName : Text
  object : Payload
  deriving DecidableEq

namespace Instance

def number? (i : Instance) : Option UInt64 :=
  match i.object with
  | .number n => some n
  | _ => none

def text? (i : Instance) : Option Text :=
  match i.object with
  | .text s => some s
  | _ => none

/-- Replaces the object by another of its kind. -/
def replace? (i : Instance) (p : Payload) : Option Instance :=
  if i.object.sameKind p then some { i with object := p } else none

def describe (i : Instance) : Text :=
  "Instance \x7b type_name: ".toList ++ Text.quoted i.typeName ++ ", .. \x7d".toList

end Instance

end Scriptorium
