/-!
# Routes

A route is a way through the folders of a disk as it is written, with slashes between
its segments. Two routes may lead to one place: an empty segment and a point stay where
they are, and two points go back to the folder above. Messages keep a route as it was
written.

A snapshot is written beside the file that it replaces, on the route of its draft.
-/

namespace RequestGuard

/-- What stands between the slashes of a way through the folders. -/
abbrev Route : Type := List String

namespace Route

/-- The route that a text writes. -/
def ofString (s : String) : Route := s.splitOn "/"

def text (r : Route) : String := "/".intercalate r

/-- Whether a segment leads nowhere but requires a folder. -/
def stays (segment : String) : Bool := segment = "" || segment = "."

/-- Whether a segment leads to the folder above. -/
def goesUp (segment : String) : Bool := segment = ".."

/-- A route without the segments at its end that lead nowhere. -/
def trimmed (r : Route) : Route := (r.reverse.dropWhile stays).reverse

/-- A route as it is shown by itself, without the segments at both its ends that lead
nowhere. -/
def shown (r : Route) : Route := r.trimmed.dropWhile stays

/-- The route to the folder in which the last name of a route stands. -/
def folder (r : Route) : Route := trimmed r.trimmed.dropLast

/-- The routes to what is passed on a route, and the route itself. -/
def stations (r : Route) : List Route := (List.range r.length).map fun n => r.take (n + 1)

/-- Whether a null character stands in a route, which then leads nowhere. -/
def hasNull (r : Route) : Bool := r.any fun segment => segment.toList.contains '\x00'

/-- A name without its extension: what stands before the last point, unless nothing
does. -/
def stem (name : String) : List Char :=
  match name.toList.reverse.dropWhile (· ≠ '.') with
  | [] => name.toList
  | [_] => name.toList
  | _ :: rest => rest.reverse

/-- The last segment of a draft. The extension is taken off before `tmp` takes its
place. If it is at the very end and leaves two points, they are no name any more but
lead to the folder above, and stay. -/
def draftName (name : String) (atEnd : Bool) : String :=
  if stem name = ['.'] && atEnd then ".." else String.ofList (stem name ++ ".tmp".toList)

/-- The route of the draft of a file: its last name gets the extension `tmp`. A route
without a last name is its own draft. -/
def draft (r : Route) : Route :=
  match r.trimmed.getLast? with
  | none => r
  | some name =>
    if goesUp name then r else r.trimmed.dropLast ++ [draftName name (r.trimmed = r)]

end Route

end RequestGuard
