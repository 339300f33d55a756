import Santamon.Events.Clock
import Mathlib.Data.List.Sort
import Mathlib.Data.String.Basic

namespace Santamon.Events

/-- A value of the flattened event map, as `json.Unmarshal` and `BuildActivation` leave it. -/
inductive Value where
  | null
  | bool (b : Bool)
  | num (n : Int)
  | str (s : String)
  | time (t : Time)
  | list (vs : List Value)
  | obj (fields : List (String × Value))
  deriving Repr, Inhabited

/-- A `map[string]any`. -/
abbrev EventMap := List (String × Value)

/-- `m[k]`, with `none` for a missing key. -/
def EventMap.field? (m : EventMap) (k : String) : Option Value := m.lookup k

/-- `m[k] = v`. -/
def EventMap.put (m : EventMap) (k : String) (v : Value) : EventMap :=
  (k, v) :: m.filter (fun kv => kv.1 != k)

@[simp] theorem EventMap.field?_put_self (m : EventMap) (k : String) (v : Value) :
    (m.put k v).field? k = some v := by
  simp [EventMap.put, EventMap.field?]

theorem EventMap.field?_put_ne (m : EventMap) {k k' : String} (v : Value) (h : k' ≠ k) :
    (m.put k v).field? k' = m.field? k' := by
  have hb : (k' == k) = false := beq_false_of_ne h
  simp only [EventMap.put, EventMap.field?, List.lookup_cons, hb]
  induction m with
  | nil => rfl
  | cons kv m ih =>
    obtain ⟨a, b⟩ := kv
    by_cases ha : a = k
    · subst ha; simp [List.filter_cons, ih, List.lookup_cons, hb]
    · simp [List.filter_cons, ha, List.lookup_cons, ih]

/-- `strings.TrimPrefix(s, prefix)`. -/
def trimPrefix (s pre : String) : String :=
  if pre.toList.isPrefixOf s.toList then ⟨s.toList.drop pre.toList.length⟩ else s

/-- The pieces of `strings.Split(s, ".")`, the current piece kept reversed in `acc`. -/
def splitDots : List Char → List Char → List String
  | [], acc => [⟨acc.reverse⟩]
  | c :: cs, acc => if c = '.' then ⟨acc.reverse⟩ :: splitDots cs [] else splitDots cs (c :: acc)

/-- `strconv`'s shortest `%v` text of `float64(n)`: decimal below `1e6`, else `d.ddde+XX`. -/
def formatG (n : Int) : String :=
  let ds := (toString n.natAbs).toList
  let sign := if n < 0 then "-" else ""
  if ds.length < 7 then toString n
  else
    let m := (ds.reverse.dropWhile (· = '0')).reverse
    let e := ds.length - 1
    sign ++ (m.take 1).asString ++ (if m.length > 1 then "." ++ (m.drop 1).asString else "") ++
      "e+" ++ pad 2 e

mutual
/-- `fmt.Sprintf("%v", v)`; map keys are printed in sorted order. -/
def Value.fmtV : Value → String
  | .null => "<nil>"
  | .bool b => if b then "true" else "false"
  | .num n => formatG n
  | .str s => s
  | .time t => t.toString
  | .list vs => "[" ++ " ".intercalate (fmtList vs) ++ "]"
  | .obj fs =>
    "map[" ++ " ".intercalate (((fmtFields fs).insertionSort (fun a b => !(b.1 < a.1))).map
      (fun kv => kv.1 ++ ":" ++ kv.2)) ++ "]"

def Value.fmtList : List Value → List String
  | [] => []
  | v :: vs => v.fmtV :: fmtList vs

def Value.fmtFields : List (String × Value) → List (String × String)
  | [] => []
  | (k, v) :: fs => (k, v.fmtV) :: fmtFields fs
end

/-- `toString` of `events`. -/
def Value.toString : Value → String
  | .str s => s
  | .time t => t.toString
  | .num n => ToString.toString n
  | v => v.fmtV

/-- The loop of `ExtractField`: `none` where the Go code returns `""` early or ends on `nil`. -/
def walk : Option Value → List String → Option Value
  | cur, [] => cur
  | some (.obj m), part :: parts => walk (m.lookup part) parts
  | _, _ :: _ => none

/-- `events.ExtractField(event, field)`. -/
def extractField (event : EventMap) (field : String) : String :=
  match walk (some (.obj event)) (splitDots field.toList []) with
  | none | some .null => ""
  | some v => v.toString

theorem extractField_eq_toString {m : EventMap} {field : String} {v : Value}
    (hw : walk (some (.obj m)) (splitDots field.toList []) = some v) (hv : v ≠ .null) :
    extractField m field = v.toString := by
  simp only [extractField, hw]

theorem extractField_of_field?_eq_none {m : EventMap} {field k : String} {ks : List String}
    (hs : splitDots field.toList [] = k :: ks) (hk : m.field? k = none) :
    extractField m field = "" := by
  simp only [extractField, hs, walk]
  rw [show m.lookup k = none from hk]
  cases ks <;> rfl

end Santamon.Events
