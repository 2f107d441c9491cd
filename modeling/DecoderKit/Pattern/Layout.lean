import DecoderKit.Text.Blank

/-!
# Layout in patterns

A pattern may be spaced: then blanks between its items count nothing, and neither
does what follows a number sign up to the end of the line.
-/

namespace DecoderKit.Pattern

/-- Text without the blanks and comments at its start. The flag tells that a comment is open. -/
def skipLayout : Bool → Text → Text
  | _, [] => []
  | true, c :: rest => skipLayout (c != '\n') rest
  | false, c :: rest =>
    if Text.isBlank c then skipLayout false rest
    else if c = '#' then skipLayout true rest
    else c :: rest

/-- What comes next in a pattern, spaced or not. -/
def skip (spaced : Bool) (t : Text) : Text := if spaced then skipLayout false t else t

/--
The character that decides whether a hyphen in front of the text makes a range. In a
spaced pattern that is the next one that is not blank, behind a number sign if one comes
first; where blanks are all that is left, it is the first of them.
-/
def peek? (spaced : Bool) (t : Text) : Option Char :=
  if !spaced then t.head?
  else
    match Text.trimStart t with
    | [] => t.head?
    | '#' :: rest => (Text.trimStart rest ++ t).head?
    | c :: _ => some c

end DecoderKit.Pattern
