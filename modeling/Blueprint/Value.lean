import Blueprint.Number.Binary64

/-!
# Values

The data that deployment descriptions are made of: JSON values whose numbers are
whole or double-precision, and records, which map field names to values. A
record lists its fields in the order of their names, and every function that
adds a field keeps that order.
-/

namespace Blueprint

/-- A number: whole, from `-2 ^ 63` to `2 ^ 64 - 1`, or a finite double. -/
inductive Number
  | integer (value : Int)
  | double (value : Binary64)
  deriving DecidableEq

inductive Value
  | null
  | bool (value : Bool)
  | number (value : Number)
  | text (value : String)
  | list (items : List Value)
  | object (fields : List (String × Value))

/-- Fields with their values, in the order of the names. -/
abbrev Record := List (String × Value)

namespace Number

def toDouble : Number → Binary64
  | integer value => .ofInt value
  | double value => value

/-- The value as a signed 64-bit integer, for whole numbers only. -/
def toInt? : Number → Option Int
  | integer value => if value < twoTo 63 then some value else none
  | double _ => none

end Number

namespace Value

instance : Inhabited Value := ⟨.null⟩

mutual

def decEqValue : (a b : Value) → Decidable (a = b)
  | .null, .null => .isTrue rfl
  | .bool a, .bool b =>
      if h : a = b then .isTrue (h ▸ rfl) else .isFalse (fun e => h (Value.bool.inj e))
  | .number a, .number b =>
      if h : a = b then .isTrue (h ▸ rfl) else .isFalse (fun e => h (Value.number.inj e))
  | .text a, .text b =>
      if h : a = b then .isTrue (h ▸ rfl) else .isFalse (fun e => h (Value.text.inj e))
  | .list a, .list b =>
      match decEqItems a b with
      | .isTrue h => .isTrue (h ▸ rfl)
      | .isFalse h => .isFalse (fun e => h (Value.list.inj e))
  | .object a, .object b =>
      match decEqFields a b with
      | .isTrue h => .isTrue (h ▸ rfl)
      | .isFalse h => .isFalse (fun e => h (Value.object.inj e))
  | .null, .bool _ | .null, .number _ | .null, .text _ | .null, .list _ | .null, .object _
  | .bool _, .null | .bool _, .number _ | .bool _, .text _ | .bool _, .list _
  | .bool _, .object _ | .number _, .null | .number _, .bool _ | .number _, .text _
  | .number _, .list _ | .number _, .object _ | .text _, .null | .text _, .bool _
  | .text _, .number _ | .text _, .list _ | .text _, .object _ | .list _, .null
  | .list _, .bool _ | .list _, .number _ | .list _, .text _ | .list _, .object _
  | .object _, .null | .object _, .bool _ | .object _, .number _ | .object _, .text _
  | .object _, .list _ => .isFalse (fun e => nomatch e)

def decEqItems : (a b : List Value) → Decidable (a = b)
  | [], [] => .isTrue rfl
  | [], _ :: _ => .isFalse (fun e => nomatch e)
  | _ :: _, [] => .isFalse (fun e => nomatch e)
  | a :: as, b :: bs =>
      match decEqValue a b, decEqItems as bs with
      | .isTrue h, .isTrue t => .isTrue (h ▸ t ▸ rfl)
      | .isFalse h, _ => .isFalse (fun e => h (List.cons.inj e).1)
      | _, .isFalse t => .isFalse (fun e => t (List.cons.inj e).2)

def decEqFields : (a b : List (String × Value)) → Decidable (a = b)
  | [], [] => .isTrue rfl
  | [], _ :: _ => .isFalse (fun e => nomatch e)
  | _ :: _, [] => .isFalse (fun e => nomatch e)
  | (k, a) :: as, (l, b) :: bs =>
      if hk : k = l then
        match decEqValue a b, decEqFields as bs with
        | .isTrue h, .isTrue t => .isTrue (hk ▸ h ▸ t ▸ rfl)
        | .isFalse h, _ => .isFalse (fun e => h (Prod.mk.inj (List.cons.inj e).1).2)
        | _, .isFalse t => .isFalse (fun e => t (List.cons.inj e).2)
      else .isFalse (fun e => hk (Prod.mk.inj (List.cons.inj e).1).1)

end

instance : DecidableEq Value := decEqValue

def bool? : Value → Option Bool
  | .bool value => some value
  | _ => none

def number? : Value → Option Number
  | .number value => some value
  | _ => none

/-- The value as a signed 64-bit integer, for whole numbers only. -/
def int? : Value → Option Int
  | .number value => value.toInt?
  | _ => none

def text? : Value → Option String
  | .text value => some value
  | _ => none

def list? : Value → Option (List Value)
  | .list items => some items
  | _ => none

def object? : Value → Option Record
  | .object fields => some fields
  | _ => none

def ofInt (value : Int) : Value := .number (.integer value)

/-- A list of texts. -/
def texts (items : List String) : Value := .list (items.map .text)

/-- Whether nothing was entered: null or the empty text. -/
def isBlank : Value → Bool
  | .null => true
  | .text value => value.isEmpty
  | _ => false

end Value

namespace Record

/-- The value of a field. -/
def get? (r : Record) (field : String) : Option Value := r.lookup field

def has (r : Record) (field : String) : Bool := (r.get? field).isSome

/-- Sets a field, which keeps its place or is put where its name belongs. -/
def insert (field : String) (value : Value) : Record → Record
  | [] => [(field, value)]
  | (key, old) :: rest =>
      if field = key then (key, value) :: rest
      else if field < key then (field, value) :: (key, old) :: rest
      else (key, old) :: insert field value rest

/-- The record with every field of `fields` set. -/
def extend (r : Record) (fields : Record) : Record :=
  fields.foldl (fun merged (field, value) => insert field value merged) r

/-- The record with the given fields; the last of a repeated field counts. -/
def ofFields (fields : List (String × Value)) : Record := extend [] fields

/-- Changes the value of a field, if the record has it. -/
def modify (field : String) (f : Value → Value) : Record → Record
  | [] => []
  | (key, value) :: rest =>
      if field = key then (key, f value) :: rest else (key, value) :: modify field f rest

def text? (r : Record) (field : String) : Option String := (r.get? field).bind Value.text?

/-- The text of a field, and another one if it has none. -/
def textOr (r : Record) (field : String) (fallback : String) : String :=
  (r.text? field).getD fallback

/-- The text of a field, unless it is empty. -/
def filled? (r : Record) (field : String) : Option String :=
  (r.text? field).filter (!·.isEmpty)

/-- Whether a field is set to true. -/
def flag (r : Record) (field : String) : Bool :=
  ((r.get? field).bind Value.bool?).getD false

def int? (r : Record) (field : String) : Option Int := (r.get? field).bind Value.int?

def list? (r : Record) (field : String) : Option (List Value) :=
  (r.get? field).bind Value.list?

def object? (r : Record) (field : String) : Option Record :=
  (r.get? field).bind Value.object?

/-- The texts in the list that a field holds. -/
def texts (r : Record) (field : String) : List String :=
  ((r.list? field).getD []).filterMap Value.text?

/-- The records in the list that a field holds. -/
def records (r : Record) (field : String) : List Record :=
  ((r.list? field).getD []).filterMap Value.object?

/-- The name of a record. -/
def name? (r : Record) : Option String := r.text? "name"

/-- The name of a record, and the empty text if it has none. -/
def label (r : Record) : String := r.textOr "name" ""

/-- Whether a field is absent, null or the empty text. -/
def isUnset (r : Record) (field : String) : Bool :=
  match r.get? field with
  | none => true
  | some value => value.isBlank

/-- Whether a field is unset or an empty list. -/
def isMissing (r : Record) (field : String) : Bool :=
  r.isUnset field || (match r.list? field with
    | some [] => true
    | _ => false)

end Record

end Blueprint
