import JsonShape.Number.Binary64

/-!
# JSON values

Objects keep their members in the order in which they were written.  A name
that is written twice keeps the place of its first occurrence and the value of
its last one, so the names of an object that was read are distinct.
-/

set_option autoImplicit false

namespace JsonShape

/-- A JSON value.  Integer literals and all other number literals stay apart. -/
inductive Json where
  | null
  | bool (value : Bool)
  | int (value : Int)
  | float (value : Binary64)
  | str (text : String)
  | arr (items : List Json)
  | obj (members : List (String × Json))
  deriving Repr, Inhabited

/-- Sets a member: a known name keeps its place, a new one goes to the end. -/
def insertMember {α : Type} (name : String) (value : α) : List (String × α) → List (String × α)
  | [] => [(name, value)]
  | (known, old) :: rest =>
    if known = name then (known, value) :: rest
    else (known, old) :: insertMember name value rest

theorem lookup_insertMember_self {α : Type} (name : String) (value : α)
    (members : List (String × α)) :
    (insertMember name value members).lookup name = some value := by
  induction members with
  | nil => simp [insertMember]
  | cons member rest ih =>
    obtain ⟨known, old⟩ := member
    by_cases hknown : known = name
    · simp [insertMember, hknown]
    · have hname : (name == known) = false := by simpa using Ne.symm hknown
      simp [insertMember, hknown, List.lookup_cons, hname, ih]

theorem lookup_insertMember_of_ne {α : Type} {name other : String} (hother : other ≠ name)
    (value : α) (members : List (String × α)) :
    (insertMember name value members).lookup other = members.lookup other := by
  have hne : (other == name) = false := by simpa using hother
  induction members with
  | nil => simp [insertMember, List.lookup_cons, hne]
  | cons member rest ih =>
    obtain ⟨known, old⟩ := member
    by_cases hknown : known = name
    · simp [insertMember, hknown, List.lookup_cons, hne]
    · simp [insertMember, hknown, List.lookup_cons, ih]

namespace Json

/-- The name of a value's type in messages. -/
def typeName : Json → String
  | null => "NoneType"
  | bool _ => "bool"
  | int _ => "int"
  | float _ => "float"
  | str _ => "str"
  | arr _ => "list"
  | obj _ => "dict"

mutual

/-- The number of containers on the longest way into a value. -/
def depth : Json → Nat
  | arr items => itemsDepth items + 1
  | obj members => membersDepth members + 1
  | _ => 0

def itemsDepth : List Json → Nat
  | [] => 0
  | item :: rest => max item.depth (itemsDepth rest)

def membersDepth : List (String × Json) → Nat
  | [] => 0
  | (_, value) :: rest => max value.depth (membersDepth rest)

end

end Json

end JsonShape
