/-!
# Logical paths

A logical path names a place in a document by the keys and positions that lead to it from the root,
such as `namespaces[0].classes[2].className`.
-/
namespace DependencyWiring.LogicalPath

/-- The path of the whole document. -/
def root : String := "$"

/-- The path of a value that stands nowhere in the document. -/
def unknown : String := "<unknown>"

/-- The path of the value of a key. The root is not written in front of its keys. -/
def key (parent name : String) : String :=
  if parent = root then name else parent ++ "." ++ name

/-- The path of an item of the sequence that a key holds. -/
def item (parent name : String) (index : Nat) : String :=
  key parent name ++ "[" ++ toString index ++ "]"

/-- An item ends with a bracket. -/
theorem item_ne_root (parent name : String) (index : Nat) : item parent name index ≠ root := by
  intro h
  have hchars : (key parent name ++ "[" ++ toString index).toList ++ [']'] = ['$'] := by
    rw [← show "]".toList = [']'] from rfl, ← String.toList_append]
    exact congrArg String.toList h
  have hlast := congrArg List.getLast? hchars
  rw [List.getLast?_concat] at hlast
  exact absurd hlast (by decide)

end DependencyWiring.LogicalPath
