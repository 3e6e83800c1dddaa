/-!
# JSON values

A decoded JSON document and the accessors that look into it. Every accessor
answers nothing on a value of another shape.
-/

namespace Kit.Json

/-- A number as a decoder keeps it: what fits an unsigned word, a negative
integer, or a float, whose bits stay uninterpreted. -/
inductive Number where
  | posInt (value : UInt64)
  | negInt (value : Int)
  | float (bits : UInt64)
deriving DecidableEq

/-- A decoded document. The fields of an object keep their order. -/
inductive Value where
  | null
  | bool (value : Bool)
  | number (value : Number)
  | string (value : String)
  | array (values : List Value)
  | object (fields : List (String × Value))

namespace Value

/-- The field of an object. -/
def get : Value → String → Option Value
  | object fields, name => (fields.find? (fun field => field.1 == name)).map Prod.snd
  | _, _ => none

/-- The number, where it is one that is not negative and has no fraction. -/
def asU64 : Value → Option UInt64
  | number (.posInt value) => some value
  | _ => none

/-- The truth value, where it is one. -/
def asBool : Value → Option Bool
  | bool value => some value
  | _ => none

/-- The text, where it is one. -/
def asStr : Value → Option String
  | string value => some value
  | _ => none

/-- The elements, where it is an array. -/
def asArray : Value → Option (List Value)
  | array values => some values
  | _ => none

/-- Whether the value is written as missing. -/
def isNull : Value → Bool
  | null => true
  | _ => false

/-- The unsigned word in a field. -/
def getU64 (value : Value) (name : String) : Option UInt64 := (value.get name).bind asU64

/-- The truth value in a field. -/
def getBool (value : Value) (name : String) : Option Bool := (value.get name).bind asBool

/-- An unsigned word. -/
def u64 (value : UInt64) : Value := number (.posInt value)

/-- A present value, or null. -/
def optional {α : Type} (toValue : α → Value) : Option α → Value
  | some value => toValue value
  | none => null

/-- A field of an object that names no field twice. -/
theorem get_of_mem {fields : List (String × Value)} (distinct : (fields.map Prod.fst).Nodup)
    {name : String} {value : Value} (listed : (name, value) ∈ fields) :
    (object fields).get name = some value := by
  induction fields with
  | nil => simp at listed
  | cons field fields inductionHypothesis =>
    obtain ⟨apart, distinct⟩ := List.nodup_cons.mp distinct
    simp only [get, List.find?_cons]
    rcases List.mem_cons.mp listed with rfl | later
    · simp
    · have other : field.1 ≠ name :=
        fun same => apart (same ▸ List.mem_map_of_mem later)
      rw [beq_eq_false_iff_ne.mpr other]
      exact inductionHypothesis distinct later

/-- An object without one of its fields. -/
def without (name : String) : Value → Value
  | object fields => object (fields.filter (fun field => field.1 != name))
  | other => other

/-- The other fields stay. -/
theorem get_without {value : Value} {name other : String} (apart : other ≠ name) :
    (value.without name).get other = value.get other := by
  cases value with
  | object fields =>
    simp only [without, get, List.find?_filter]
    congr 2
    funext field
    by_cases same : field.1 = other
    · simp [same, apart]
    · simp [same]
  | _ => rfl

/-- A counter that was written is read back. -/
@[simp] theorem asU64_u64 (value : UInt64) : (u64 value).asU64 = some value := rfl

/-- So is an optional one: what is missing is written as null, which is no number. -/
@[simp] theorem asU64_optional (value : Option UInt64) : (optional u64 value).asU64 = value := by
  cases value <;> rfl

/-- Only a missing value is written as null. -/
@[simp] theorem isNull_optional (value : Option UInt64) :
    (optional u64 value).isNull = value.isNone := by
  cases value <;> rfl

/-- An absent value has no fields. -/
theorem get_optional {α : Type} (toValue : α → Value) (absent : Option α) (name : String) :
    (optional toValue absent).get name = absent.bind (fun value => (toValue value).get name) := by
  cases absent <;> rfl

/-- A truth value that was written is read back. -/
@[simp] theorem asBool_bool (value : Bool) : (bool value).asBool = some value := rfl

end Value

end Kit.Json
