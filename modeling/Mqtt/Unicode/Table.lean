/-!
Tables of characters as text: words between blanks, each a code point or a range of code points in
hexadecimal, and after a `>` what the table says of it. The words of a table ascend and do not
overlap, so that a look-up can halve the table again and again.
-/

namespace Mqtt.Unicode
set_option autoImplicit false

/-- A range of code points and what is said of it. -/
structure Run (α : Type) where
  first : Nat
  last : Nat
  value : α
deriving Repr

abbrev Table (α : Type) := Array (Run α)

/-- The number that hexadecimal digits in lower case spell. -/
def hexNumber (cs : List Char) : Nat :=
  cs.foldl (fun n c => 16 * n + if c ≤ '9' then c.toNat - 48 else c.toNat - 87) 0

/-- The text before the first of a character, and the text after it. -/
def cut (c : Char) (cs : List Char) : List Char × List Char :=
  (cs.takeWhile (· ≠ c), (cs.dropWhile (· ≠ c)).drop 1)

def isBlank (c : Char) : Bool := c = ' ' || c = '\n'

/-- The words of a table's text. -/
def words (s : String) : List (List Char) :=
  (s.toList.splitBy fun a b => isBlank a = isBlank b).filter fun w => !w.any isBlank

/-- The run that a word stands for; `value?` reads what follows the range. -/
def Run.ofWord? {α : Type} (value? : List Char → Option α) (word : List Char) : Option (Run α) :=
  let (range, rest) := cut '>' word
  let (first, last) := cut '-' range
  (value? rest).map fun v => ⟨hexNumber first, hexNumber (if last.isEmpty then first else last), v⟩

namespace Table

variable {α : Type}

def ofText (value? : List Char → Option α) (s : String) : Table α :=
  ((words s).filterMap (Run.ofWord? value?)).toArray

/-- A table that says nothing of its characters but that they are in it. -/
def setOfText (s : String) : Table Unit := ofText (fun _ => some ()) s

/-- The run that a code point is in, among those from `low` to before `high`. -/
def search (t : Table α) (n low high : Nat) : Option (Run α) :=
  if low < high then
    let middle := (low + high) / 2
    match t[middle]? with
    | none => none
    | some r =>
      if n < r.first then search t n low middle
      else if r.last < n then search t n (middle + 1) high
      else some r
  else none
termination_by high - low
decreasing_by all_goals omega

/-- The run that a character is in. -/
def find? (t : Table α) (c : Char) : Option (Run α) := search t c.toNat 0 t.size

def contains (t : Table α) (c : Char) : Bool := (t.find? c).isSome

end Table

end Mqtt.Unicode
