import SwarmFi.Python.Json
import SwarmFi.Python.Mapping

/-!
# JSON values used as dicts

The dict operations of Python on a value that `json.loads` returned and that
nobody checked.  On a dict they do what the code means; on every other value
they raise as Python does.
-/

namespace Python

namespace Json

/-- `value.get(key)` -/
def get (value : Json) (key : String) : Except Exception Json :=
  match value with
  | .obj fields => .ok (Dict.getD fields key .null)
  | other =>
      .error ⟨.attributeError,
        "'" ++ other.typeName ++ "' object has no attribute 'get'"⟩

/-- `key in value` -/
def contains (value : Json) (key : String) : Except Exception Bool :=
  match value with
  | .obj fields => .ok (Dict.has fields key)
  | .arr items => .ok (items.any fun item => item.str? = some key)
  | .str text => .ok (isIn key text)
  | other =>
      .error ⟨.typeError,
        "argument of type '" ++ other.typeName ++ "' is not iterable"⟩

/-- `value[key] = item` -/
def setItem (value : Json) (key : String) (item : Json) :
    Except Exception Json :=
  match value with
  | .obj fields => .ok (.obj (Dict.set fields key item))
  | .arr _ =>
      .error ⟨.typeError,
        "list indices must be integers or slices, not str"⟩
  | other =>
      .error ⟨.typeError,
        "'" ++ other.typeName ++
          "' object does not support item assignment"⟩

/-- `del value[key]` -/
def delItem (value : Json) (key : String) : Except Exception Json :=
  match value with
  | .obj fields =>
      if Dict.has fields key then
        .ok (.obj (discard fields key))
      else
        .error ⟨.keyError, "'" ++ key ++ "'"⟩
  | .arr _ =>
      .error ⟨.typeError,
        "list indices must be integers or slices, not str"⟩
  | other =>
      .error ⟨.typeError,
        "'" ++ other.typeName ++ "' object does not support item deletion"⟩

/-- `list(value.keys())` -/
def keys (value : Json) : Except Exception (List String) :=
  match value with
  | .obj fields => .ok (fields.map Prod.fst)
  | other =>
      .error ⟨.attributeError,
        "'" ++ other.typeName ++ "' object has no attribute 'keys'"⟩

/-- `len(value)` -/
def length (value : Json) : Except Exception Nat :=
  match value with
  | .obj fields => .ok fields.length
  | .arr items => .ok items.length
  | .str text => .ok text.length
  | other =>
      .error ⟨.typeError,
        "object of type '" ++ other.typeName ++ "' has no len()"⟩

end Json

/-! ## Dicts of strings -/

theorem Dict.set_eq_assign (fields : Dict) (key : String) (value : Json) :
    fields.set key value = assign fields key value := by
  induction fields with
  | nil => rfl
  | cons field fields inductionHypothesis =>
      obtain ⟨name, old⟩ := field
      rw [Dict.set, assign, inductionHypothesis]

namespace Mapping

/-- A dict of strings as a JSON object. -/
def toFields (mapping : Mapping String String) : Dict :=
  mapping.items.map (Prod.map id Json.str)

def toJson (mapping : Mapping String String) : Json :=
  .obj mapping.toFields

variable (mapping : Mapping String String)

theorem get?_toFields (key : String) :
    Dict.get? mapping.toFields key = (mapping.get? key).map Json.str :=
  lookup_map Json.str mapping.items key

theorem toFields_set (key value : String) :
    (mapping.set key value).toFields =
      Dict.set mapping.toFields key (.str value) := by
  rw [Dict.set_eq_assign]
  exact map_assign Json.str mapping.items key value

theorem toFields_erase (key : String) :
    (mapping.erase key).toFields = discard mapping.toFields key :=
  map_discard Json.str mapping.items key

theorem keys_toFields : mapping.toFields.map Prod.fst = mapping.keys := by
  simp [toFields, keys, Function.comp_def]

theorem has_toFields (key : String) :
    Dict.has mapping.toFields key = mapping.contains key := by
  rw [Dict.has, get?_toFields, Option.isSome_map]
  rfl

theorem get_toJson (key : String) :
    mapping.toJson.get key =
      .ok (((mapping.get? key).map Json.str).getD .null) := by
  rw [toJson, Json.get, Dict.getD, get?_toFields]

theorem contains_toJson (key : String) :
    mapping.toJson.contains key = .ok (mapping.contains key) := by
  rw [toJson, Json.contains, has_toFields]

theorem setItem_toJson (key value : String) :
    mapping.toJson.setItem key (.str value) =
      .ok (mapping.set key value).toJson := by
  rw [toJson, Json.setItem, ← toFields_set]
  rfl

theorem delItem_toJson {key : String} (present : mapping.contains key) :
    mapping.toJson.delItem key = .ok (mapping.erase key).toJson := by
  rw [toJson, Json.delItem, has_toFields, if_pos present,
    ← toFields_erase]
  rfl

theorem delItem_toJson_absent
    {key : String} (absent : mapping.contains key = false) :
    mapping.toJson.delItem key = .error ⟨.keyError, "'" ++ key ++ "'"⟩ := by
  rw [toJson, Json.delItem, has_toFields, absent]
  rfl

theorem keys_toJson : mapping.toJson.keys = .ok mapping.keys := by
  rw [toJson, Json.keys, keys_toFields]

end Mapping

end Python
