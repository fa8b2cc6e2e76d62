import SchemaForm.Text.Split

/-!
# Paths

Paths of files as texts: their steps, their extension, and which of them are
accepted as absolute.
-/

namespace SchemaForm
namespace Path

/-- The steps of a path that lead somewhere; an empty step and a single point stay in place. -/
def steps (cs : List Char) : List (List Char) :=
  (Text.splitOn '/' cs).filter fun step => step != [] && step != ['.']

/-- Whether a path is absolute: the home directory, something in it, or a path from the root
without a step to a parent directory. -/
def isAbsolute (hasHome : Bool) (path : String) : Bool :=
  match path.toList with
  | ['~'] => hasHome
  | '~' :: '/' :: _ => hasHome
  | '/' :: rest => !(steps rest).contains ['.', '.']
  | _ => false

/-- The extension of a name: what follows its last point, unless the name starts there. -/
def extensionOfName? (name : List Char) : Option (List Char) :=
  match name.reverse.span (· != '.') with
  | (_, []) | (_, [_]) => none
  | (reversed, _ :: _ :: _) => some reversed.reverse

/-- The extension of the file that a path leads to. -/
def extension? (path : String) : Option (List Char) :=
  match (steps path.toList).getLast? with
  | some name => if name = ['.', '.'] then none else extensionOfName? name
  | none => none

end Path
end SchemaForm
