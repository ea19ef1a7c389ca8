/-!
# Fields of a text

Cutting a text at a separator: at every occurrence, or at the first one.
-/

namespace Cityscape.Text

/-- The fields between the separators; a text without a separator is its own only field. -/
def fields (sep : Char) : List Char → List (List Char)
  | [] => [[]]
  | c :: cs =>
    if c = sep then [] :: fields sep cs
    else match fields sep cs with
      | [] => [[c]]
      | first :: others => (c :: first) :: others

/-- What stands before the first separator, and, if there is one, what stands after it. -/
def cutFirst (sep : Char) : List Char → List Char × Option (List Char)
  | [] => ([], none)
  | c :: cs =>
    if c = sep then ([], some cs)
    else
      let (before, after) := cutFirst sep cs
      (c :: before, after)

end Cityscape.Text
