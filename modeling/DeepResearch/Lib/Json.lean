/-
JSON values as Python holds them: `json.loads` gives dictionaries, lists
and scalars, and a number is an `int` or a `float`.

The floats are a parameter. Nothing is assumed of their arithmetic, so
what is proved about a program that computes with them holds of IEEE
doubles.
-/
import Mathlib.Data.Int.Cast.Defs
import Mathlib.Algebra.Ring.Int.Defs

universe u

/-- The operations of Python's floats a program uses. -/
class PyFloat (F : Type u) extends
    Zero F, Add F, Div F, IntCast F, LT F where
  decidableLT : DecidableLT F

attribute [reducible, instance] PyFloat.decidableLT

instance PyFloat.int : PyFloat Int where
  decidableLT := inferInstance

inductive Json (F : Type u)
  | null
  | bool (b : Bool)
  | int (n : Int)
  | float (x : F)
  | str (text : String)
  | list (items : List (Json F))
  | dict (items : List (String × Json F))

namespace Json

variable {F : Type u}

/-- `isinstance(value, Mapping)`, with the items. -/
def mapping? : Json F → Option (List (String × Json F))
  | .dict items => some items
  | _ => none

/-- The value under a key of a dictionary. -/
def find? (items : List (String × Json F)) (key : String) :
    Option (Json F) :=
  (items.find? fun item => item.1 = key).map Prod.snd

/-- `payload.get(key)`; `None` where the key is missing. -/
def get (items : List (String × Json F)) (key : String) : Json F :=
  (find? items key).getD .null

/-- `key in payload`. -/
def contains (items : List (String × Json F)) (key : String) : Bool :=
  (find? items key).isSome

@[simp] theorem find?_nil (key : String) :
    find? ([] : List (String × Json F)) key = none := rfl

theorem find?_cons (name key : String) (value : Json F)
    (items : List (String × Json F)) :
    find? ((name, value) :: items) key
      = if name = key then some value else find? items key := by
  by_cases h : name = key
  · rw [if_pos h, find?, List.find?_cons_of_pos (by simpa using h)]
    rfl
  · rw [if_neg h, find?, List.find?_cons_of_neg (by simpa using h)]
    rfl

/-- `bool(value)`. -/
def truthy [Zero F] [DecidableEq F] : Json F → Bool
  | .null => false
  | .bool b => b
  | .int n => n != 0
  | .float x => x != 0
  | .str text => text != ""
  | .list items => !items.isEmpty
  | .dict items => !items.isEmpty

/-- `f(value) if value else None`. -/
def orNull {α : Type*} (f : α → Json F) (value : Option α) : Json F :=
  value.elim .null f

end Json
