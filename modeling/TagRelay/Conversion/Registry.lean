import TagRelay.Conversion.Converter
import TagRelay.Roster
import TagRelay.Text.Quoted

/-!
# Converter registry

Converters are registered under ids, and a device names the one it wants.
-/

namespace TagRelay

structure Registry where
  converters : Roster Converter := []

namespace Registry

/-- The id of a device that names no converter. -/
def defaultId : String := "default"

def register (r : Registry) (id : String) (converter : Converter) : Registry :=
  ⟨r.converters.enter id converter⟩

/-- The registry that knows the standard converter under both its ids. -/
def standard : Registry :=
  (({} : Registry).register defaultId .standard).register "opcda" .standard

def contains (r : Registry) (id : String) : Bool := (r.converters.find? id).isSome

def resolve (r : Registry) (id : Option String) : Except ConnectorError Converter :=
  let id := id.getD defaultId
  match r.converters.find? id with
  | some converter => .ok converter
  | none => .error (.unknownConverter id)

/-- The registered ids in the order of their characters. -/
def ids (r : Registry) : List String :=
  (r.converters.map Prod.fst).mergeSort fun a b => decide (a ≤ b)

/-- How the registry shows itself in diagnostics. -/
def description (r : Registry) : String :=
  "ConverterRegistry \x7b converters: " ++ Text.quotedList r.ids ++ " \x7d"

end Registry

end TagRelay
