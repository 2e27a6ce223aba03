import QueryAdvisor.Number.Binary64

/-!
# Trees

Parse trees and execution plans arrive in many shapes, so both are held as one
generic tree: null, booleans, numbers, texts, lists and objects. An object is
the list of its fields in the order in which they were written; a key is
looked up by searching that list.

Every accessor is total: it answers `none` when the tree has another shape or
the key is missing.
-/

namespace QueryAdvisor

/-- A number keeps apart what was written as an integer and what was not. -/
inductive Numeral where
  | integer (value : Int)
  | float (value : Binary64)
deriving DecidableEq, Repr

/-- A generic tree with ordered fields. -/
inductive Tree where
  | null
  | bool (value : Bool)
  | number (value : Numeral)
  | text (value : String)
  | list (items : List Tree)
  | object (fields : List (String × Tree))
deriving Inhabited, Repr

/-- The fields of an object, in order. -/
abbrev Fields := List (String × Tree)

namespace Fields

/-- The value of the first field with a key. -/
def get? : Fields → String → Option Tree
  | [], _ => none
  | (k, v) :: rest, key => if k = key then some v else get? rest key

/-- Sets a field: in place when the key is there, at the end when it is not. -/
def put : Fields → String → Tree → Fields
  | [], key, value => [(key, value)]
  | (k, v) :: rest, key, value =>
      if k = key then (k, value) :: rest else (k, v) :: put rest key value

def keys (fields : Fields) : List String :=
  fields.map Prod.fst

def values (fields : Fields) : List Tree :=
  fields.map Prod.snd

end Fields

namespace Tree

/-- A count as a tree. -/
def nat (n : Nat) : Tree := .number (.integer n)

def asObject? : Tree → Option Fields
  | .object fields => some fields
  | _ => none

def asList? : Tree → Option (List Tree)
  | .list items => some items
  | _ => none

def asText? : Tree → Option String
  | .text s => some s
  | _ => none

/-- The double that a number stands for. -/
def asFloat? : Tree → Option Binary64
  | .number (.integer n) => Binary64.ofInt n
  | .number (.float x) => some x
  | _ => none

/-- The value under a key of an object. -/
def field? (t : Tree) (key : String) : Option Tree :=
  t.asObject?.bind (·.get? key)

/-- A present value, or null. -/
def ofOption : Option Tree → Tree
  | none => .null
  | some t => t

end Tree

namespace Fields

/-- The value under a key, if it is an object. -/
def object? (fields : Fields) (key : String) : Option Fields :=
  (fields.get? key).bind Tree.asObject?

/-- The value under a key, if it is a list. -/
def list? (fields : Fields) (key : String) : Option (List Tree) :=
  (fields.get? key).bind Tree.asList?

/-- The value under a key, if it is a text. -/
def text? (fields : Fields) (key : String) : Option String :=
  (fields.get? key).bind Tree.asText?

end Fields

namespace Tree

/-- The value under a key of an object, if it is an object. -/
def object? (t : Tree) (key : String) : Option Fields :=
  (t.field? key).bind asObject?

/-- The value under a key of an object, if it is a list. -/
def list? (t : Tree) (key : String) : Option (List Tree) :=
  (t.field? key).bind asList?

/-- The value under a key of an object, if it is a text. -/
def text? (t : Tree) (key : String) : Option String :=
  (t.field? key).bind asText?

end Tree

end QueryAdvisor
