import SchemaForm.Path

/-!
# Absolute paths

A path is accepted as absolute when it starts from a known home, or from the root without a
component that leads to a parent directory.  A component that is a single point stays in
place, and the steps of a path leave it out like an empty one.  So such components are never
refused, wherever in the path they stand.

Main results:

- Theorem `isAbsolute_iff`: which texts are accepted as absolute paths.
- Theorem `isAbsolute_pointed`: a path from the root is accepted although it has a component that is
  a single point.
-/

namespace SchemaForm
namespace Path

/-- The steps to a parent directory are the components that have two points. -/
theorem parent_mem_steps {cs : List Char} :
    ['.', '.'] ∈ steps cs ↔ ['.', '.'] ∈ cs.splitOn '/' := by
  simp [steps, Text.splitOn_eq]

/-- A text is accepted as an absolute path exactly when the home directory is known and the text is
`~` or starts with `~/`, or when it starts with `/` and none of its components is `..`. -/
theorem isAbsolute_iff (hasHome : Bool) (path : String) :
    isAbsolute hasHome path = true ↔
      hasHome = true ∧ (path = "~" ∨ ['~', '/'] <+: path.toList) ∨
        ['/'] <+: path.toList ∧ ['.', '.'] ∉ path.toList.splitOn '/' := by
  have hhome : path = "~" ↔ path.toList = ['~'] := by
    rw [← String.toList_inj]
    rfl
  rw [hhome]
  unfold isAbsolute
  split
  · rename_i hpath
    simp [hpath]
  · rename_i hpath
    simp [hpath]
  · rename_i rest hpath
    simp [hpath, ← parent_mem_steps, steps, Text.splitOn]
  · rename_i hpath hinside hroot
    refine iff_of_false (by simp) ?_
    rintro (⟨-, hpath' | ⟨rest, hrest⟩⟩ | ⟨⟨rest, hrest⟩, -⟩)
    · exact hpath hpath'
    · exact hinside rest hrest.symm
    · exact hroot rest hrest.symm

/-- A component that is a single point does not keep a path from the root from being accepted. -/
theorem isAbsolute_pointed :
    isAbsolute true "/usr/./bin" = true ∧
      ¬ ("/usr/./bin" = "~" ∨ ['~', '/'] <+: "/usr/./bin".toList ∨
        ['/'] <+: "/usr/./bin".toList ∧ ['.'] ∉ "/usr/./bin".toList.splitOn '/' ∧
          ['.', '.'] ∉ "/usr/./bin".toList.splitOn '/') := by
  decide

end Path
end SchemaForm
