import SwarmFi.Python.Number

/-!
# JSON values

The values `json.loads` returns.  A dict keeps its keys in insertion order,
and a key set twice keeps its first place and its last value.
-/

namespace Python

inductive Json where
  | null
  | bool (value : Bool)
  | int (value : Int)
  | float (value : PyFloat)
  | str (value : String)
  | arr (items : List Json)
  | obj (fields : List (String × Json))

/-- A Python dict with string keys. -/
abbrev Dict := List (String × Json)

namespace Dict

/-- `fields.get(key)`, `none` where the key is missing. -/
def get? (fields : Dict) (key : String) : Option Json :=
  fields.lookup key

/-- `fields.get(key, default)` -/
def getD (fields : Dict) (key : String) (default : Json) : Json :=
  (fields.get? key).getD default

/-- `fields[key] = value` -/
def set : Dict → String → Json → Dict
  | [], key, value => [(key, value)]
  | (name, old) :: rest, key, value =>
      if name = key then
        (name, value) :: rest
      else
        (name, old) :: set rest key value

/-- `key in fields` -/
def has (fields : Dict) (key : String) : Bool :=
  (fields.get? key).isSome

/-- One field, left out when its value is `None`. -/
def present {α : Type} (key : String) (toJson : α → Json) :
    Option α → Dict
  | none => []
  | some value => [(key, toJson value)]

theorem get?_set (fields : Dict) (key tested : String) (value : Json) :
    (fields.set key value).get? tested =
      if tested = key then some value else fields.get? tested := by
  induction fields with
  | nil =>
      by_cases same : tested = key
      · simp [set, get?, same]
      · simp [set, get?, List.lookup, same, beq_eq_false_iff_ne.mpr same]
  | cons field rest inductionHypothesis =>
      obtain ⟨name, old⟩ := field
      simp only [get?] at inductionHypothesis ⊢
      by_cases here : name = key
      · subst here
        by_cases same : tested = name
        · simp [set, same]
        · simp [set, List.lookup, same, beq_eq_false_iff_ne.mpr same]
      · by_cases same : tested = name
        · subst same
          simp [set, here]
        · simp [set, List.lookup, here, beq_eq_false_iff_ne.mpr same,
            inductionHypothesis]

theorem has_set (fields : Dict) (key tested : String) (value : Json) :
    (fields.set key value).has tested =
      (decide (tested = key) || fields.has tested) := by
  by_cases same : tested = key
  · simp [has, get?_set, same]
  · simp [has, get?_set, same]

end Dict

namespace Json

/-- The name of the Python type, as it stands in error texts. -/
def typeName : Json → String
  | .null => "NoneType"
  | .bool _ => "bool"
  | .int _ => "int"
  | .float _ => "float"
  | .str _ => "str"
  | .arr _ => "list"
  | .obj _ => "dict"

/-- `bool(value)` -/
def truthy : Json → Bool
  | .null => false
  | .bool value => value
  | .int value => decide (value ≠ 0)
  | .float value => decide (value ≠ .fin 0)
  | .str value => decide (value ≠ "")
  | .arr items => !items.isEmpty
  | .obj fields => !fields.isEmpty

/-- `first or second` -/
def orElse (first second : Json) : Json :=
  if first.truthy then first else second

/-- `value.get`: only a dict has it. -/
def asDict : Json → Except Exception Dict
  | .obj fields => .ok fields
  | other =>
      .error ⟨.attributeError,
        "'" ++ other.typeName ++ "' object has no attribute 'get'"⟩

/-- `float(value)` -/
def toFloat : Json → Except Exception PyFloat
  | .float value => .ok value
  | .int value =>
      match PyFloat.ofRat value with
      | .fin rounded => .ok (.fin rounded)
      | _ => .error ⟨.overflowError, "int too large to convert to float"⟩
  | .bool value => .ok (.fin (if value then 1 else 0))
  | .str text =>
      match parseFloat text with
      | some value => .ok value
      | none =>
          .error ⟨.valueError,
            "could not convert string to float: '" ++ text ++ "'"⟩
  | other =>
      .error ⟨.typeError,
        "float() argument must be a string or a real number, not '" ++
          other.typeName ++ "'"⟩

/-- `int(value)`: a float is cut towards zero. -/
def toInt : Json → Except Exception Int
  | .int value => .ok value
  | .bool value => .ok (if value then 1 else 0)
  | .float (.fin value) =>
      .ok (if value < 0 then -((-value).floor) else value.floor)
  | .float .nan =>
      .error ⟨.valueError, "cannot convert float NaN to integer"⟩
  | .float _ =>
      .error ⟨.overflowError, "cannot convert float infinity to integer"⟩
  | .str text =>
      match parseInt 10 text with
      | some value => .ok value
      | none =>
          .error ⟨.valueError,
            "invalid literal for int() with base 10: '" ++ text ++ "'"⟩
  | other =>
      .error ⟨.typeError,
        "int() argument must be a string, a bytes-like object or a real " ++
          "number, not '" ++ other.typeName ++ "'"⟩

/-- The text of a string. -/
def str? : Json → Option String
  | .str text => some text
  | _ => none

/-- The number a JSON number stands for, exactly. -/
def number? : Json → Option PyFloat
  | .int value => some (.ofInt value)
  | .float value => some value
  | _ => none

end Json

end Python
