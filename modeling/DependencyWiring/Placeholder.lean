/-!
# Placeholders

A value that a document does not give is replaced by a text in angle brackets. No identifier starts
with a bracket, so a placeholder never meets an authored name by chance.
-/
namespace DependencyWiring.Placeholder

/-- A text that starts with an angle bracket. -/
def isPlaceholder (s : String) : Bool :=
  match s.toList with
  | c :: _ => c = '<'
  | [] => false

/-- Stands for the value of a key that is absent or unusable. -/
def missing (key : String) : String :=
  "<missing." ++ key ++ ">"

/-- Stands for the name of a declaration that is not a mapping. -/
def invalid (kind : String) : String :=
  "<invalid." ++ kind ++ ">"

theorem isPlaceholder_invalid (kind : String) : isPlaceholder (invalid kind) = true := by
  simp [isPlaceholder, invalid]

end DependencyWiring.Placeholder
