import DomainStory.Refusal
import DomainStory.Text.Blank
import DomainStory.Text.Natural

/-!
# Views

A view shows one domain of a story, or all of them merged. Views can be stepped through in a
cycle, and written and read as text.
-/

namespace DomainStory

/-- Which part of a story is shown. -/
inductive View where
  | all
  | domain (index : Nat)
deriving DecidableEq

instance : Inhabited View := ⟨.all⟩

namespace View

def isAll : View → Bool
  | all => true
  | domain _ => false

def index? : View → Option Nat
  | all => none
  | domain i => some i

/-- The view itself, or the view of everything once its domain does not exist. -/
def clamp (count : Nat) : View → View
  | all => all
  | domain i => if i < count then domain i else all

/-- The next view: everything, then each domain in turn, then everything again. With fewer than
two domains the view stays as it is. -/
def next (count : Nat) (view : View) : View :=
  if count < 2 then view
  else
    match view.clamp count with
    | all => domain 0
    | domain i => if i + 1 < count then domain (i + 1) else all

/-- The previous domain. From the first domain, and from everything, it goes on with the last one.
With fewer than two domains the view stays as it is. -/
def prev (count : Nat) (view : View) : View :=
  if count < 2 then view
  else
    match view.clamp count with
    | all | domain 0 => domain (count - 1)
    | domain (i + 1) => domain i

/-- The indices shown of `count` domains: from the first number to before the second. -/
def span (count : Nat) : View → Nat × Nat
  | all => (0, count)
  | domain i => if i < count then (i, i + 1) else (0, 0)

/-- What the view shows of a list, each item with its index. -/
def select {β : Type} (view : View) (items : List β) : List (β × Nat) :=
  let (start, stop) := view.span items.length
  (items.zipIdx.take stop).drop start

def text : View → String
  | all => "all"
  | domain i => Text.natural i

/-- An index as it may be selected: digits, possibly after a plus sign, below 2^64. -/
def readIndex? (cs : List Char) : Option Nat :=
  -- a single plus sign is allowed, a minus sign is not
  let digits := match cs with
    | '+' :: rest => rest
    | rest => rest
  (Text.natural? digits).filter fun n => n < Nat.pow 2 64

/-- Reads a view selector: `all` in any case or `-1` for everything, else the index of a domain. -/
def read? (raw : String) : Except Refusal View :=
  let cs := Text.trim raw.toList
  if cs.map Char.toLower = ['a', 'l', 'l'] || cs = ['-', '1'] then .ok all
  else
    match readIndex? cs with
    | some i => .ok (domain i)
    | none => .error (.invalidView raw)

end View

end DomainStory
