/-!
# Dynamic values

Parameters, variables, payloads and activity results are documents of this one
type. An object is an association list kept in ascending key order with each key
once: `Fields.insert` and `Fields.ofPairs` build such lists, and every operation of
this file preserves the order.
-/
namespace ActivityFlow

/-- A document. Whole numbers and floating point numbers are different values:
`1` and `1.0` are not equal. -/
inductive Json where
  | null
  | bool (value : Bool)
  | int (value : Int)
  | float (value : Float)
  | text (value : String)
  | array (items : List Json)
  | object (fields : List (String × Json))
deriving Inhabited

abbrev Fields := List (String × Json)

namespace Json

mutual

/-- Equality of documents is decided by comparing them in lockstep. -/
def decEq : (a b : Json) → Decidable (a = b)
  | .null, .null => isTrue rfl
  | .bool a, .bool b =>
    if h : a = b then isTrue (h ▸ rfl) else isFalse fun e => h (Json.bool.inj e)
  | .int a, .int b =>
    if h : a = b then isTrue (h ▸ rfl) else isFalse fun e => h (Json.int.inj e)
  | .float a, .float b =>
    if h : a = b then isTrue (h ▸ rfl) else isFalse fun e => h (Json.float.inj e)
  | .text a, .text b =>
    if h : a = b then isTrue (h ▸ rfl) else isFalse fun e => h (Json.text.inj e)
  | .array a, .array b =>
    match decEqItems a b with
    | isTrue h => isTrue (h ▸ rfl)
    | isFalse h => isFalse fun e => h (Json.array.inj e)
  | .object a, .object b =>
    match decEqFields a b with
    | isTrue h => isTrue (h ▸ rfl)
    | isFalse h => isFalse fun e => h (Json.object.inj e)
  | .null, .bool _ | .null, .int _ | .null, .float _ | .null, .text _ | .null, .array _
  | .null, .object _ | .bool _, .null | .bool _, .int _ | .bool _, .float _
  | .bool _, .text _ | .bool _, .array _ | .bool _, .object _ | .int _, .null
  | .int _, .bool _ | .int _, .float _ | .int _, .text _ | .int _, .array _
  | .int _, .object _ | .float _, .null | .float _, .bool _ | .float _, .int _
  | .float _, .text _ | .float _, .array _ | .float _, .object _ | .text _, .null
  | .text _, .bool _ | .text _, .int _ | .text _, .float _ | .text _, .array _
  | .text _, .object _ | .array _, .null | .array _, .bool _ | .array _, .int _
  | .array _, .float _ | .array _, .text _ | .array _, .object _ | .object _, .null
  | .object _, .bool _ | .object _, .int _ | .object _, .float _ | .object _, .text _
  | .object _, .array _ => isFalse nofun

/-- Equality of arrays, element by element. -/
def decEqItems : (a b : List Json) → Decidable (a = b)
  | [], [] => isTrue rfl
  | [], _ :: _ => isFalse nofun
  | _ :: _, [] => isFalse nofun
  | a :: as, b :: bs =>
    match decEq a b with
    | isFalse h => isFalse fun e => h (List.cons.inj e).1
    | isTrue h =>
      match decEqItems as bs with
      | isFalse t => isFalse fun e => t (List.cons.inj e).2
      | isTrue t => isTrue (h ▸ t ▸ rfl)

/-- Equality of objects, entry by entry. -/
def decEqFields : (a b : List (String × Json)) → Decidable (a = b)
  | [], [] => isTrue rfl
  | [], _ :: _ => isFalse nofun
  | _ :: _, [] => isFalse nofun
  | (k, a) :: as, (l, b) :: bs =>
    if hk : k = l then
      match decEq a b with
      | isFalse h => isFalse fun e => h (Prod.mk.inj (List.cons.inj e).1).2
      | isTrue h =>
        match decEqFields as bs with
        | isFalse t => isFalse fun e => t (List.cons.inj e).2
        | isTrue t => isTrue (hk ▸ h ▸ t ▸ rfl)
    else isFalse fun e => hk (Prod.mk.inj (List.cons.inj e).1).1

end

instance : DecidableEq Json := decEq

mutual

/-- Agreement of documents where floating point numbers are compared as numbers, so
that the two zeros agree. -/
def agrees : Json → Json → Bool
  | .null, .null => true
  | .bool a, .bool b => a == b
  | .int a, .int b => a == b
  | .float a, .float b => a == b
  | .text a, .text b => a == b
  | .array a, .array b => agreesItems a b
  | .object a, .object b => agreesFields a b
  | _, _ => false

/-- Agreement of arrays, element by element. -/
def agreesItems : List Json → List Json → Bool
  | [], [] => true
  | a :: as, b :: bs => agrees a b && agreesItems as bs
  | _, _ => false

/-- Agreement of objects, entry by entry. -/
def agreesFields : List (String × Json) → List (String × Json) → Bool
  | [], [] => true
  | (k, a) :: as, (l, b) :: bs => k == l && agrees a b && agreesFields as bs
  | _, _ => false

end

def text? : Json → Option String
  | .text s => some s
  | _ => none

/-- A value counts as set unless it is null, false, zero, the empty string or the
word `false`; arrays and objects are set even when empty. -/
def isTruthy : Json → Bool
  | .null => false
  | .bool b => b
  | .int n => n != 0
  | .float x => x != 0
  | .text s => !(s == "" || s == "false")
  | .array _ => true
  | .object _ => true

end Json

namespace Fields

def get? (fields : Fields) (key : String) : Option Json :=
  match fields with
  | [] => none
  | (k, v) :: rest => if k = key then some v else get? rest key

def contains (fields : Fields) (key : String) : Bool := (get? fields key).isSome

/-- Stores a value under a key: a present key is overwritten in place, a new one goes
in front of the first larger key. -/
def insert (fields : Fields) (key : String) (value : Json) : Fields :=
  match fields with
  | [] => [(key, value)]
  | (k, v) :: rest =>
    if k = key then (key, value) :: rest
    else if key < k then (key, value) :: (k, v) :: rest
    else (k, v) :: insert rest key value

def erase (fields : Fields) (key : String) : Fields := fields.filter fun e => e.1 != key

/-- Stores each pair in turn, so that of two pairs with one key the later wins. -/
def insertAll (fields : Fields) (pairs : List (String × Json)) : Fields :=
  pairs.foldl (fun acc e => insert acc e.1 e.2) fields

/-- The ordered object with the given pairs; of two pairs with one key the later wins. -/
def ofPairs (pairs : List (String × Json)) : Fields := insertAll [] pairs

@[simp] theorem get?_nil (key : String) : get? [] key = none := rfl

theorem get?_cons (k : String) (v : Json) (rest : Fields) (key : String) :
    get? ((k, v) :: rest) key = if k = key then some v else get? rest key := rfl

/-- What is stored under a key is read back. -/
@[simp] theorem get?_insert_self (fields : Fields) (key : String) (value : Json) :
    get? (insert fields key value) key = some value := by
  induction fields with
  | nil => simp [insert, get?]
  | cons e rest ih =>
    simp only [insert]
    split
    · simp [get?]
    · split
      · simp [get?]
      · next h _ => simp [get?, h, ih]

theorem get?_insert_of_ne (fields : Fields) {key other : String} (value : Json)
    (h : key ≠ other) : get? (insert fields key value) other = get? fields other := by
  induction fields with
  | nil => simp [insert, get?, h]
  | cons e rest ih =>
    simp only [insert]
    split
    · next hk => simp [get?, h, hk]
    · split
      · simp [get?, h]
      · simp [get?, ih]

end Fields

end ActivityFlow
