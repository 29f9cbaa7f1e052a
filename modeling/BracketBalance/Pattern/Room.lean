import BracketBalance.Text.Blank

namespace BracketBalance.Pattern

def skipRoom : Bool → List Char → List Char
  | _, [] => []
  | true, c :: text => skipRoom (c != '\n') text
  | false, c :: text =>
    if Blank.isBlank c then skipRoom false text
    else if c = '#' then skipRoom true text
    else c :: text

def skip (verbose : Bool) (text : List Char) : List Char :=
  if verbose then skipRoom false text else text

/-- The character that shows whether a dash before the text makes a range. In a verbose pattern it is
looked for behind blanks and one number sign, in a comment too. -/
def glance (verbose : Bool) (text : List Char) : Option Char :=
  if verbose then
    match text.dropWhile Blank.isBlank with
    | '#' :: comment => (comment.dropWhile Blank.isBlank).head?
    | text => text.head?
  else text.head?

end BracketBalance.Pattern
