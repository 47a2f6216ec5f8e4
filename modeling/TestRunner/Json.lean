import Mathlib.Data.List.Forall2

/-! JSON values and the accessors of a dynamically typed reader. None is an access that throws. -/
namespace TestRunner

/-- What is done with a `double`: it is made of an integer and cut to one. -/
class Doubles (F : Type) where
  zero : F
  ofInt : Int → F
  truncate : F → Int

/-- A number is an integer of 64 bits or a `double`; a string is its bytes. -/
inductive Json (F : Type) where
  | null
  | boolean (b : Bool)
  | integer (n : Int)
  | float (x : F)
  | string (bytes : List UInt8)
  | array (elements : List (Json F))
  | object (members : List (String × Json F))

namespace Json

variable {F : Type}

def isObject : Json F → Bool
  | .object _ => true
  | _ => false

/-- The member of an object. -/
def atKey (j : Json F) (key : String) : Option (Json F) :=
  match j with
  | .object members => members.lookup key
  | _ => none

/-- The elements that a loop over the indices below `size()` comes to. -/
def elements : Json F → Option (List (Json F))
  | .array elements => some elements
  | .null | .object [] => some []
  | _ => none

/- The conversions `get`. Only the types that are not those of the library take a boolean. -/
def getInt [Doubles F] : Json F → Option Int
  | .boolean b => some b.toNat
  | .integer n => some n
  | .float x => some (Doubles.truncate x)
  | _ => none

def getNumberUnsigned [Doubles F] : Json F → Option UInt64
  | .integer n => some (UInt64.ofInt n)
  | .float x => some (UInt64.ofInt (Doubles.truncate x))
  | _ => none

def getNumberFloat [Doubles F] : Json F → Option F
  | .integer n => some (Doubles.ofInt n)
  | .float x => some x
  | _ => none

def getString : Json F → Option (List UInt8)
  | .string bytes => some bytes
  | _ => none

/-- The member of an object, converted, or the default when there is none. -/
def value {A : Type} (get : Json F → Option A) (otherwise : A) (j : Json F) (key : String) :
    Option A :=
  if j.isObject then
    match j.atKey key with
    | some member => get member
    | none => some otherwise
  else none

def valueU64 [Doubles F] (j : Json F) (key : String) : Option UInt64 :=
  j.value (fun v => v.getInt.map UInt64.ofInt) 0 key

def valueU32 [Doubles F] (j : Json F) (key : String) : Option UInt32 :=
  j.value (fun v => v.getInt.map UInt32.ofInt) 0 key

def valueDouble [Doubles F] (j : Json F) (key : String) : Option F :=
  j.value getNumberFloat Doubles.zero key

def valueString (j : Json F) (key : String) : Option (List UInt8) := j.value getString [] key

theorem value_of_member {A : Type} {get : Json F → Option A} {otherwise : A} {j : Json F}
    {key : String} {a : A} (object : j.isObject = true)
    (member : ∀ v, j.atKey key = some v → get v = some a) (missing : j.atKey key = none → otherwise = a) :
    j.value get otherwise key = some a := by
  unfold value
  rw [if_pos object]
  cases found : j.atKey key with
  | none => rw [missing found]
  | some v => exact member v found

end Json

theorem bind_of_some {A B : Type} {o : Option A} {f : A → Option B} {a : A} {b : B}
    (first : o = some a) (rest : f a = some b) : (o >>= f) = some b := by
  rw [first]
  exact rest

/-- A list whose elements all convert does so with a result for each. -/
theorem mapM_forall₂ {A B : Type} {f : A → Option B} {P : A → B → Prop} {xs : List A}
    (each : ∀ x ∈ xs, ∃ y, f x = some y ∧ P x y) :
    ∃ ys, xs.mapM f = some ys ∧ List.Forall₂ P xs ys := by
  induction xs with
  | nil => exact ⟨[], rfl, .nil⟩
  | cons x xs ih =>
    obtain ⟨⟨y, first, related⟩, later⟩ := List.forall_mem_cons.mp each
    obtain ⟨ys, rest, all⟩ := ih later
    exact ⟨y :: ys, by simp [List.mapM_cons, first, rest], .cons related all⟩

end TestRunner
