import Blueprint.Value

/-!
# Agreement of values

Values agree if they stand for the same data. Doubles are compared as numbers, so
that the two zeros agree; a whole number agrees with no double.
-/

namespace Blueprint

/-- Equality of finite doubles by value. -/
def Binary64.agrees (x y : Binary64) : Bool :=
  decide (x = y) || (x.magnitude == 0 && y.magnitude == 0)

def Number.agrees : Number → Number → Bool
  | .integer a, .integer b => decide (a = b)
  | .double a, .double b => a.agrees b
  | _, _ => false

theorem Number.agrees_self (n : Number) : n.agrees n = true := by
  cases n <;> simp [agrees, Binary64.agrees]

namespace Value

mutual

def agrees : Value → Value → Bool
  | .null, .null => true
  | .bool a, .bool b => a == b
  | .number a, .number b => a.agrees b
  | .text a, .text b => a == b
  | .list a, .list b => agreeItems a b
  | .object a, .object b => agreeFields a b
  | _, _ => false

def agreeItems : List Value → List Value → Bool
  | [], [] => true
  | a :: as, b :: bs => a.agrees b && agreeItems as bs
  | _, _ => false

def agreeFields : List (String × Value) → List (String × Value) → Bool
  | [], [] => true
  | (key, a) :: as, (name, b) :: bs => key == name && a.agrees b && agreeFields as bs
  | _, _ => false

end

mutual

theorem agrees_self : (v : Value) → v.agrees v = true
  | .null | .bool _ | .text _ => by simp [agrees]
  | .number n => by simp [agrees, Number.agrees_self]
  | .list items => by simp [agrees, agreeItems_self items]
  | .object fields => by simp [agrees, agreeFields_self fields]

theorem agreeItems_self : (items : List Value) → agreeItems items items = true
  | [] => by simp [agreeItems]
  | v :: rest => by simp [agreeItems, agrees_self v, agreeItems_self rest]

theorem agreeFields_self : (fields : List (String × Value)) → agreeFields fields fields = true
  | [] => by simp [agreeFields]
  | (_, v) :: rest => by simp [agreeFields, agrees_self v, agreeFields_self rest]

end

end Value

end Blueprint
