import DungeonCrawler.Common.Strings

/-!
JSON values, and their leaves under dotted paths.

A number or `null` is kept as the text that serializing it gives.
-/

namespace DungeonCrawler

inductive Json
  | object (members : List (Text × Json))
  | array (elements : List Json)
  | string (s : Text)
  | bool (b : Bool)
  | other (serialized : Text)

namespace Json

mutual

/-- The leaves in document order: the names and indices on the way to each, and its text. -/
def leaves : Json → List (List Text × Text)
  | .object members => membersLeaves members
  | .array elements => elementsLeaves 0 elements
  | .string s => [([], s)]
  | .bool b => [([], if b then "true".toList else "false".toList)]
  | .other serialized => [([], serialized)]

def membersLeaves : List (Text × Json) → List (List Text × Text)
  | [] => []
  | (key, value) :: members =>
    (leaves value).map (fun l => (key :: l.1, l.2)) ++ membersLeaves members

def elementsLeaves (i : ℕ) : List Json → List (List Text × Text)
  | [] => []
  | value :: elements =>
    (leaves value).map (fun l => (decimal i :: l.1, l.2)) ++ elementsLeaves (i + 1) elements

end

mutual

/-- No member of an object inside has the empty name. -/
def Named : Json → Prop
  | .object members => MembersNamed members
  | .array elements => ElementsNamed elements
  | .string _ => True
  | .bool _ => True
  | .other _ => True

def MembersNamed : List (Text × Json) → Prop
  | [] => True
  | (key, value) :: members => key ≠ [] ∧ Named value ∧ MembersNamed members

def ElementsNamed : List Json → Prop
  | [] => True
  | value :: elements => Named value ∧ ElementsNamed elements

end

end Json

/-- A document that parses to an object whose members, at any depth, have names. -/
structure Document where
  members : List (Text × Json)
  named : Json.MembersNamed members

/-- The path as it is written in a key. -/
def dotted (path : List Text) : Text := List.intercalate ['.'] path

/-- The texts of the leaves under a key, in document order. -/
def Document.texts (doc : Document) (key : Text) : List Text :=
  ((Json.membersLeaves doc.members).filter fun l => dotted l.1 = key).map Prod.snd

end DungeonCrawler
