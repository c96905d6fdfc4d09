import PlotLabels.Json.Number
/-!
# JSON values

A JSON document as a tree. An object holds its members sorted by key, byte by byte, with
each key once; adding a member under a key that is already there replaces its value. So the
members of an object are always listed in key order, whatever order they were written in.

* `Value`: the tree.
* `Value.insertField`: add or replace a member, keeping the keys sorted.
* `Value.field?`: the member under a key.
* `Value.ofFields`: the object of a list of members, later members winning.
* `Value.rekey`: every key of every object, at any depth and inside arrays, renamed by one
  function, other values left alone. The members of an object are renamed in key order and
  put into a new object one after another, so when two keys get the same new name, the member
  whose old key sorts last wins.
-/

namespace PlotLabels.Json

/-- A JSON value. -/
inductive Value where
  | null
  | bool (b : Bool)
  | number (n : Number)
  | string (s : String)
  | array (items : List Value)
  | object (fields : List (String × Value))

namespace Value

/-- The members with `(k, v)` added, or the value under `k` replaced; sorted members stay
sorted. -/
def insertField (k : String) (v : Value) : List (String × Value) → List (String × Value)
  | [] => [(k, v)]
  | (k', v') :: rest =>
    if k < k' then (k, v) :: (k', v') :: rest
    else if k = k' then (k, v) :: rest
    else (k', v') :: insertField k v rest

/-- The object of a list of members, each inserted in turn. -/
def ofFields (fs : List (String × Value)) : Value :=
  .object (fs.foldl (fun acc (k, v) => insertField k v acc) [])

/-- The member under `k`, if the value is an object that has one. -/
def field? : Value → String → Option Value
  | .object fs, k => fs.lookup k
  | _, _ => none

/-- A natural number as a JSON number. -/
def ofNat (n : Nat) : Value :=
  .number (.nat n.toUInt64)

/-- A list of strings as a JSON array. -/
def ofStrings (xs : List String) : Value :=
  .array (xs.map .string)

end Value

/-! ## Renaming keys -/

mutual

/-- The value with every object key renamed by `f`. -/
def Value.rekey (f : String → String) : Value → Value
  | .array items => .array (Value.rekeyItems f items)
  | .object fs => .object (Value.rekeyMembers f fs [])
  | v => v

/-- The items of an array, each renamed. -/
def Value.rekeyItems (f : String → String) : List Value → List Value
  | [] => []
  | v :: vs => v.rekey f :: Value.rekeyItems f vs

/-- The members of an object renamed and added, in order, to the sorted members `acc`. -/
def Value.rekeyMembers (f : String → String) :
    List (String × Value) → List (String × Value) → List (String × Value)
  | [], acc => acc
  | (k, v) :: rest, acc => Value.rekeyMembers f rest (Value.insertField (f k) (v.rekey f) acc)

end

end PlotLabels.Json
