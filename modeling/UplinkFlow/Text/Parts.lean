/-!
# Parts of a text

`partsAt` divides a text at every mark; there is one part more than there are marks.
-/

set_option autoImplicit false

namespace UplinkFlow.Text

/-- The parts between marks. -/
def partsAt (mark : Char) : List Char → List (List Char)
  | [] => [[]]
  | c :: cs =>
    if c = mark then [] :: partsAt mark cs
    else
      match partsAt mark cs with
      | [] => [[c]]
      | part :: parts => (c :: part) :: parts

end UplinkFlow.Text
