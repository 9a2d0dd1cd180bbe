import DocPages.Decimal.Binary64
import DocPages.Text.Basic
/-!
# JSON values

A JSON document as read by a reader that keeps integers and floating point numbers apart: a
number with a fraction or an exponent is a binary64 value, any other number an integer of
unbounded size. An object is a list of fields in the order their keys first appeared, each key
once, holding the value it was given last.
-/

namespace DocPages

/-- A JSON value. -/
inductive Json where
  /-- `null`. -/
  | null
  /-- `true` or `false`. -/
  | bool (b : Bool)
  /-- A number written without fraction and exponent. -/
  | int (n : Int)
  /-- A number written with a fraction or an exponent, or `NaN`, `Infinity`, `-Infinity`. -/
  | float (x : Binary64)
  /-- A string. -/
  | str (s : Text)
  /-- An array. -/
  | arr (items : List Json)
  /-- An object: fields in first-appearance order, keys distinct. -/
  | obj (fields : List (Text × Json))
  deriving Inhabited

namespace Json

/-- Sets field `k` to `v`: in place when `k` is already a key, at the end otherwise. -/
def setField (fields : List (Text × Json)) (k : Text) (v : Json) : List (Text × Json) :=
  if fields.any (·.1 == k) then fields.map fun p => if p.1 == k then (k, v) else p
  else fields ++ [(k, v)]

/-- The value of field `k` of an object. -/
def get? (k : Text) : Json → Option Json
  | obj fields => (fields.find? (·.1 == k)).map (·.2)
  | _ => none

/-- Truth of a value: `null`, `false`, zero, the empty string, array and object are false. -/
def truthy : Json → Bool
  | null => false
  | bool b => b
  | int n => n != 0
  | float x => x.isNonzero
  | str s => !s.isEmpty
  | arr items => !items.isEmpty
  | obj fields => !fields.isEmpty

/-- The string a value holds, if it is a string. -/
def getStr? : Json → Option Text
  | str s => some s
  | _ => none

/-- The elements of an array. -/
def getArr? : Json → Option (List Json)
  | arr items => some items
  | _ => none

/-- The natural a value holds, if it is a non-negative integer. -/
def getNat? : Json → Option Nat
  | int n => if 0 ≤ n then some n.toNat else none
  | _ => none

/-- The truth value a value holds, if it is `true` or `false`. -/
def getBool? : Json → Option Bool
  | bool b => some b
  | _ => none

end Json

end DocPages
