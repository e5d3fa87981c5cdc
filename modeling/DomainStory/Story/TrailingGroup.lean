import DomainStory.Text.Blank

/-!
# A group at the end of a line

A line may end in a group such as `{order}` or `"by phone"`. The group is the last text of the line
but for white space, and its content is neither empty nor does it hold the closing mark.
-/

namespace DomainStory

open Text

/-- Splits the group between two marks off the end of a line. Returns its content and the trimmed
text before it. The content reaches back as far as it can without holding the closing mark. -/
def trailingGroup (openMark closeMark : Char) (line : List Char) :
    Option (List Char × List Char) :=
  match line.reverse.dropWhile isBlank with
  | [] => none
  | c :: body =>
    if c = closeMark then
      -- the longest text before the closing mark that holds no other, and what precedes it
      let region := (body.takeWhile (· ≠ closeMark)).reverse
      let head := body.dropWhile (· ≠ closeMark)
      if openMark = closeMark then
        match head with
        | _ :: before => if region.isEmpty then none else some (region, trim before.reverse)
        | [] => none
      else
        match region.dropWhile (· ≠ openMark) with
        | _ :: content =>
          if content.isEmpty then none
          else some (content, trim (head.reverse ++ region.takeWhile (· ≠ openMark)))
        | [] => none
    else none

end DomainStory
