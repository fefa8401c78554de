/-
JSON values whose objects keep the order of their members. A number is an integer or a double, and
the two stay apart: `1` and `1.0` are different values.
-/
import CrudGraph.Decimal.Text
import CrudGraph.Table

namespace CrudGraph

/-- A JSON value. The members of an object are in the order in which they were written, and no name
comes twice. -/
inductive Json where
  | null
  | bool (value : Bool)
  | integer (value : Int)
  | double (value : Double)
  | string (value : String)
  | array (items : List Json)
  | object (members : List (String × Json))
deriving Inhabited

namespace Json

-- =============================================================== views

/-- The member of an object; no other value has members. -/
def member? (j : Json) (key : String) : Option Json :=
  match j with
  | .object members => Table.find? members key
  | _ => none

/-- The text of a string. -/
def text? : Json → Option String
  | .string value => some value
  | _ => none

/-- The members of an object. -/
def members? : Json → Option (Table Json)
  | .object members => some members
  | _ => none

/-- The items of an array. -/
def items? : Json → Option (List Json)
  | .array items => some items
  | _ => none

/-- Whether the value is `null`, which stands for an absent one throughout this library. -/
def isNull : Json → Bool
  | .null => true
  | _ => false

/-- The value as an unsigned number of 64 bits. -/
def unsigned64? : Json → Option UInt64
  | .integer value =>
    if Width.fitsUnsigned 64 value then some (UInt64.ofNat value.toNat) else none
  | _ => none

-- ============================================================ equality

mutual

/-- Equality of values. -/
def beq : Json → Json → Bool
  | .null, .null => true
  | .bool a, .bool b => a == b
  | .integer a, .integer b => a == b
  | .double a, .double b => a == b
  | .string a, .string b => a == b
  | .array as, .array bs => beqItems as bs
  | .object as, .object bs => beqMembers as bs
  | _, _ => false

/-- Equality of items, one by one. -/
def beqItems : List Json → List Json → Bool
  | [], [] => true
  | a :: as, b :: bs => beq a b && beqItems as bs
  | _, _ => false

/-- Equality of members, one by one and in order. -/
def beqMembers : List (String × Json) → List (String × Json) → Bool
  | [], [] => true
  | (k, a) :: as, (l, b) :: bs => k == l && beq a b && beqMembers as bs
  | _, _ => false

end

mutual

private theorem eq_of_beq : ∀ {a b : Json}, beq a b = true → a = b
  | a, b, h => by
    cases a <;> cases b <;> simp_all [beq]
    · exact eq_of_beqItems h
    · exact eq_of_beqMembers h

private theorem eq_of_beqItems : ∀ {as bs : List Json}, beqItems as bs = true → as = bs
  | [], bs, h => by cases bs <;> simp_all [beqItems]
  | a :: as, bs, h => by
    cases bs with
    | nil => simp [beqItems] at h
    | cons b bs =>
      simp only [beqItems, Bool.and_eq_true] at h
      rw [eq_of_beq h.1, eq_of_beqItems h.2]

private theorem eq_of_beqMembers :
    ∀ {as bs : List (String × Json)}, beqMembers as bs = true → as = bs
  | [], bs, h => by cases bs <;> simp_all [beqMembers]
  | (k, a) :: as, bs, h => by
    cases bs with
    | nil => simp [beqMembers] at h
    | cons entry bs =>
      obtain ⟨l, b⟩ := entry
      simp only [beqMembers, Bool.and_eq_true, beq_iff_eq] at h
      rw [h.1.1, eq_of_beq h.1.2, eq_of_beqMembers h.2]

end

mutual

private theorem beq_self : ∀ a : Json, beq a a = true
  | .null => rfl
  | .bool _ => by simp [beq]
  | .integer _ => by simp [beq]
  | .double _ => by simp [beq]
  | .string _ => by simp [beq]
  | .array items => by simpa [beq] using beqItems_self items
  | .object members => by simpa [beq] using beqMembers_self members

private theorem beqItems_self : ∀ as : List Json, beqItems as as = true
  | [] => rfl
  | a :: as => by simp [beqItems, beq_self a, beqItems_self as]

private theorem beqMembers_self : ∀ as : List (String × Json), beqMembers as as = true
  | [] => rfl
  | (_, a) :: as => by simp [beqMembers, beq_self a, beqMembers_self as]

end

instance : DecidableEq Json := fun a b =>
  if h : beq a b = true then isTrue (eq_of_beq h)
  else isFalse fun e => h (e ▸ beq_self a)

end Json

end CrudGraph
