/-!
# Request targets

A target is a path, a star, a whole address or only a host. Its path ends before a question mark or
a number sign; a host alone has none, and an address without one has the root.
-/
namespace Gatehouse.Uri

def isPathEnd (c : Char) : Bool := c == '?' || c == '#'

def upToQuery (text : List Char) : List Char := text.takeWhile fun c => !isPathEnd c

/-- What follows the mark between scheme and host. -/
def afterScheme? : List Char → Option (List Char)
  | ':' :: '/' :: '/' :: rest => some rest
  | c :: rest => if c == '/' || isPathEnd c then none else afterScheme? rest
  | [] => none

def path (target : List Char) : List Char :=
  match target with
  | ['*'] => ['*']
  | '/' :: _ => upToQuery target
  | _ =>
    match afterScheme? target with
    | none => []
    | some rest =>
      match upToQuery (rest.dropWhile fun c => c != '/' && !isPathEnd c) with
      | [] => ['/']
      | found => found

end Gatehouse.Uri
