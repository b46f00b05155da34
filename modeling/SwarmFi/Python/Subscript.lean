import SwarmFi.Python.Json

/-!
# Subscripts of JSON values

`value[key]` and `value[index]` on a value that nobody checked.
-/

namespace Python.Json

def notSubscriptable (value : Json) : Exception :=
  ⟨.typeError, "'" ++ value.typeName ++ "' object is not subscriptable"⟩

/-- `value[key]` for a string -/
def item (value : Json) (key : String) : Except Exception Json :=
  match value with
  | .obj fields =>
      match Dict.get? fields key with
      | some found => .ok found
      | none => .error ⟨.keyError, "'" ++ key ++ "'"⟩
  | .arr _ =>
      .error ⟨.typeError,
        "list indices must be integers or slices, not str"⟩
  | .str _ =>
      .error ⟨.typeError, "string indices must be integers, not 'str'"⟩
  | other => .error (notSubscriptable other)

/-- `value[index]` for a natural number -/
def itemAt (value : Json) (index : Nat) : Except Exception Json :=
  match value with
  | .arr items =>
      match items[index]? with
      | some found => .ok found
      | none => .error ⟨.other "IndexError", "list index out of range"⟩
  | .str text =>
      match text.toList[index]? with
      | some found => .ok (.str (String.ofList [found]))
      | none => .error ⟨.other "IndexError", "string index out of range"⟩
  | .obj _ => .error ⟨.keyError, toString index⟩
  | other => .error (notSubscriptable other)

end Python.Json
