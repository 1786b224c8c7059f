/-!
# Pieces

A text cut at every separator: one piece more than there are separators, any of which may be empty.
-/

namespace Courier

namespace Text

def pieces (isSeparator : Char → Bool) : List Char → List (List Char)
  | [] => [[]]
  | c :: rest =>
    match pieces isSeparator rest with
    | first :: others =>
      if isSeparator c then [] :: first :: others else (c :: first) :: others
    | [] => [[c]]

end Text

end Courier
