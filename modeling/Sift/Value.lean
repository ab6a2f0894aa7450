import Sift.Binary64.Shortest
import Sift.Number
import Sift.Text.Quoted
import Sift.Timestamp

/-!
# Run-time values and records

A record answers one question, what value it holds under a name, and compiled specifications learn
everything they know about models and filters through it. This module fixes the values that come
back and the three relations on them:

* `isDefault`: the value is the default of its class, which is how an untouched filter field looks;
* `sameAs`: the equality of compiled comparisons. Two absent values are the same, lists are
  compared element by element, numbers by value, and records by identity: two records with the
  same contents are different records;
* `compare?`: the order of two texts, two numbers or two timestamps, and no other pair.

The contents of a value need not agree with the declared type of the field it is read from.
-/

namespace Sift

/-! ## 1. Values and records -/

mutual

/-- The value of a field at run time. -/
inductive Value where
  | text (s : String)
  | number (n : Number)
  | timestamp (t : Timestamp)
  | enum (index : UInt32)
  | bool (b : Bool)
  | list (items : List Value)
  | record (r : Record)
  /-- The value of an optional field that is not set, and of a field that a record does not have. -/
  | absent

/-- A record object. `identity` tells it from every other record, whatever the two hold. A record
    that does not report defaults answers that its fields are not all default, whatever they are. -/
structure Record where
  identity : Nat
  reportsDefaults : Bool
  fields : List (String × Value)

end

instance : Inhabited Value := ⟨.absent⟩

instance : Inhabited Record := ⟨⟨0, true, []⟩⟩

namespace Record

/-- The value under a name in a list of named values: the first one, or absent. -/
def valueIn : List (String × Value) → String → Value
  | [], _ => .absent
  | (n, v) :: rest, name => if n = name then v else valueIn rest name

/-- The value a record holds under a name. -/
def get (r : Record) (name : String) : Value :=
  valueIn r.fields name

@[simp] theorem valueIn_nil (name : String) : valueIn [] name = .absent := rfl

@[simp] theorem valueIn_cons (n : String) (v : Value) (rest : List (String × Value))
    (name : String) :
    valueIn ((n, v) :: rest) name = if n = name then v else valueIn rest name := rfl

end Record

/-! ## 2. Defaults -/

mutual

/-- Whether a value is the default of its class. -/
def Value.isDefault : Value → Bool
  | .text s => s.isEmpty
  | .number n => n.isZero
  | .timestamp t => t.isBlank
  | .enum index => index == 0
  | .bool b => !b
  | .list items => items.isEmpty
  | .record r => r.allDefault
  | .absent => true

/-- Whether a record reports that all its fields hold defaults. -/
def Record.allDefault : Record → Bool
  | ⟨_, reportsDefaults, fields⟩ => reportsDefaults && Record.allDefaultIn fields

/-- Whether all of the named values are defaults. -/
def Record.allDefaultIn : List (String × Value) → Bool
  | [] => true
  | (_, v) :: rest => v.isDefault && Record.allDefaultIn rest

end

theorem Record.allDefaultIn_eq_all (fields : List (String × Value)) :
    Record.allDefaultIn fields = fields.all fun f => f.2.isDefault := by
  induction fields with
  | nil => rfl
  | cons f rest ih => simp [Record.allDefaultIn, ih]

namespace Value

/-! ## 3. Views -/

def isAbsent : Value → Bool
  | .absent => true
  | _ => false

def text? : Value → Option String
  | .text s => some s
  | _ => none

def number? : Value → Option Number
  | .number n => some n
  | _ => none

def timestamp? : Value → Option Timestamp
  | .timestamp t => some t
  | _ => none

def list? : Value → Option (List Value)
  | .list items => some items
  | _ => none

def record? : Value → Option Record
  | .record r => some r
  | _ => none

/-- The class of a value, by name. -/
def kind : Value → String
  | .text _ => "string"
  | .number _ => "number"
  | .timestamp _ => "timestamp"
  | .enum _ => "enum"
  | .bool _ => "bool"
  | .list _ => "list"
  | .record _ => "record"
  | .absent => "none"

/-! ## 4. Equality and order -/

mutual

/-- The equality of compiled comparisons. -/
def sameAs : Value → Value → Bool
  | .text a, .text b => a == b
  | .number a, .number b => a.compare? b == some .eq
  | .timestamp a, .timestamp b => a == b
  | .enum a, .enum b => a == b
  | .bool a, .bool b => a == b
  | .list a, .list b => allSame a b
  | .record a, .record b => a.identity == b.identity
  | .absent, .absent => true
  | _, _ => false

/-- Whether two lists have the same length and the same elements, place by place. -/
def allSame : List Value → List Value → Bool
  | [], [] => true
  | a :: as, b :: bs => a.sameAs b && allSame as bs
  | _, _ => false

end

/-- Equality of values as values: numbers of different representations differ, and all else is as
    in `sameAs`. Inside a list, numbers are compared as `sameAs` compares them. -/
def beq : Value → Value → Bool
  | .number a, .number b => a.beq b
  | a, b => a.sameAs b

/-- The order of two texts (by code point), two numbers or two timestamps. -/
def compare? : Value → Value → Option Ordering
  | .text a, .text b => some (compare a b)
  | .number a, .number b => a.compare? b
  | .timestamp a, .timestamp b => some (a.compare b)
  | _, _ => none

/-! ## 5. Inspection -/

def inspectNumber : Number → String
  | .signed n => "I64(" ++ toString n.toInt ++ ")"
  | .unsigned n => "U64(" ++ toString n.toNat ++ ")"
  | .float x => "F64(" ++ x.inspect ++ ")"

mutual

/-- The text of a value in an inspection. The contents of records are not shown. -/
def inspect : Value → String
  | .text s => "String(" ++ Text.quoted s ++ ")"
  | .number n => "Number(" ++ inspectNumber n ++ ")"
  | .timestamp t => "Timestamp(Timestamp(" ++ toString t.millis.toInt ++ "))"
  | .enum index => "Enum(" ++ toString index.toNat ++ ")"
  | .bool b => "Bool(" ++ (if b then "true" else "false") ++ ")"
  | .list items => "List([" ++ ", ".intercalate (inspectAll items) ++ "])"
  | .record _ => "Record(..)"
  | .absent => "None"

def inspectAll : List Value → List String
  | [] => []
  | v :: rest => v.inspect :: inspectAll rest

end

end Value

end Sift
