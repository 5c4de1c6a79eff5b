import EnvInline.Mapping

/-!
# Layers

A layer is put over a mapping in one of two ways: either its empty values are left out, or names
are, by a list of those that are admitted and a list of those that are not.
-/

namespace EnvInline.Mapping

/-- The entries of a layer that are not empty, put over a mapping. -/
def overlay (m : Mapping) (layer : List (String × String)) : Mapping :=
  layer.foldl (fun m p => if p.2.isEmpty then m else m.insert p.1 p.2) m

/-- A name is admitted unless it is blocked, or there are admitted names without it. -/
def admits (allowed blocked : List String) (name : String) : Bool :=
  !blocked.contains name && (allowed.isEmpty || allowed.contains name)

/-- The entries of a layer whose names are admitted, put over a mapping. -/
def overlayAdmitted (m : Mapping) (layer : List (String × String)) (allowed blocked : List String) :
    Mapping :=
  layer.foldl (fun m p => if admits allowed blocked p.1 then m.insert p.1 p.2 else m) m

end EnvInline.Mapping
