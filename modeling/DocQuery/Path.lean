/-!
Paths of fields. A path is written as its segments with points between them, and no segment is empty.
-/
namespace DocQuery.Path

/-- The parts of a text between points; there is one more than there are points. -/
def parts : List Char → List (List Char)
  | [] => [[]]
  | c :: rest =>
    if c = '.' then [] :: parts rest
    else match parts rest with
      | [] => [[c]]
      | part :: others => (c :: part) :: others

/-- The segments of a path; `none` if one of them is empty. -/
def segments? (path : String) : Option (List String) :=
  let parts := parts path.toList
  if parts.any List.isEmpty then none else some (parts.map String.ofList)

/-- Segments with points between them. -/
def join (segments : List String) : String :=
  String.ofList (List.intercalate ['.'] (segments.map String.toList))

def isDotted (text : String) : Bool := text.toList.contains '.'

end DocQuery.Path
