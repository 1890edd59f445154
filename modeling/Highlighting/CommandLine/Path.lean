namespace Highlighting.Path

def split : List Char → List (List Char)
  | [] => [[]]
  | c :: cs =>
    if c = '/' then [] :: split cs
    else
      match split cs with
      | part :: parts => (c :: part) :: parts
      | [] => [[c]]

/-- The last part that is more than a dot. Two dots are no name. -/
def fileName? (path : String) : Option (List Char) :=
  match ((split path.toList).filter fun p => p != [] && p != ['.']).getLast? with
  | some name => if name = ['.', '.'] then none else some name
  | none => none

def extension? (path : String) : Option String :=
  match fileName? path with
  | none => none
  | some name =>
    match name.reverse.dropWhile (· != '.') with
    | _ :: _ :: _ => some (String.ofList (name.reverse.takeWhile (· != '.')).reverse)
    | _ => none

end Highlighting.Path
