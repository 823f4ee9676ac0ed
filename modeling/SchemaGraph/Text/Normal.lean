import SchemaGraph.Text.Case.Table

/-!
# How names are compared

Names are compared without the blanks at their ends, and without regard to case.

## Blank characters

Names are compared after their blank ends are cut off, and a text counts as missing when nothing
else is in it. Two classes are in use: the white space of Unicode, and the slightly larger class
of blanks, which also holds the four information separators. The zero-width space is in neither.
-/

namespace SchemaGraph.Text

def isWhiteSpace (c : Char) : Bool :=
  let n := c.toNat
  (0x09 ≤ n && n ≤ 0x0D) || n == 0x20 || n == 0x85 || n == 0xA0 || n == 0x1680 ||
    (0x2000 ≤ n && n ≤ 0x200A) || n == 0x2028 || n == 0x2029 || n == 0x202F || n == 0x205F ||
    n == 0x3000

def isBlank (c : Char) : Bool :=
  isWhiteSpace c || (0x1C ≤ c.toNat && c.toNat ≤ 0x1F)

/-- Cut the characters of a class off both ends. -/
def trimBy (drop : Char → Bool) (cs : List Char) : List Char :=
  ((cs.dropWhile drop).reverse.dropWhile drop).reverse

def trim (s : String) : String :=
  String.ofList (trimBy isBlank s.toList)

/-- Whether trimming leaves nothing. -/
def allBlank (s : String) : Bool :=
  s.toList.all isBlank

theorem dropWhile_eq_nil_iff {drop : Char → Bool} {cs : List Char} :
    cs.dropWhile drop = [] ↔ ∀ c ∈ cs, drop c = true := by
  induction cs with
  | nil => simp
  | cons c cs ih => by_cases h : drop c <;> simp [h, ih]

theorem trimBy_eq_nil_iff {drop : Char → Bool} {cs : List Char} :
    trimBy drop cs = [] ↔ ∀ c ∈ cs, drop c = true := by
  rw [← dropWhile_eq_nil_iff]
  simp only [trimBy, List.reverse_eq_nil_iff, dropWhile_eq_nil_iff, List.mem_reverse]
  constructor
  · intro h
    cases hd : cs.dropWhile drop with
    | nil => exact dropWhile_eq_nil_iff.mp hd
    | cons c rest =>
      have := List.head?_dropWhile_not drop cs
      simp_all
  · intro h
    simp [dropWhile_eq_nil_iff.mpr h]

/-- A text is blank exactly when trimming leaves nothing of it. -/
theorem allBlank_iff {s : String} : allBlank s = true ↔ trim s = "" := by
  rw [allBlank, trim, List.all_eq_true, ← trimBy_eq_nil_iff, String.ofList_eq_empty_iff]

end SchemaGraph.Text

/-!
## Lower case

Names are equal up to case when their lower-case forms are. The form is the full one: a capital
dotted I becomes two characters, and a capital sigma at the end of a word becomes the final
sigma. Lowering is not folding: a sharp s stays as it is.

The sigma rule looks both ways. A sigma is final when the nearest character before it that is not
skipped carries case and the nearest one after it does not.
-/

namespace SchemaGraph.Text

namespace Case

def isLetter (c : Char) : Bool := inRanges letterRanges c.toNat

def isSkipped (c : Char) : Bool := inRanges skippedRanges c.toNat

/-- Whether the nearest character that is not skipped carries case. -/
def nextIsLetter (cs : List Char) : Bool :=
  ((cs.dropWhile isSkipped).head?.map isLetter).getD false

def Run.covers (r : Run) (n : Nat) : Bool :=
  r.first ≤ n && n ≤ r.last && (n - r.first) % r.step == 0

/-- The lower case of a character on its own, itself when it has none. -/
def simple (c : Char) : Char :=
  match runs.find? (·.covers c.toNat) with
  | some r => Char.ofNat (c.toNat + r.shift).toNat
  | none => c

end Case

/-- The lower case of one character that stands between `before`, nearest first, and `after`. -/
def lowerChar (before : List Char) (c : Char) (after : List Char) : List Char :=
  if c.toNat < 0x80 then [if c.isUpper then Char.ofNat (c.toNat + 32) else c]
  else if c.toNat == 0x130 then ['i', Char.ofNat 0x307]
  else if c.toNat == 0x3A3 then
    [if Case.nextIsLetter before && !Case.nextIsLetter after then Char.ofNat 0x3C2
      else Char.ofNat 0x3C3]
  else [Case.simple c]

def lowerAfter (before : List Char) : List Char → List Char
  | [] => []
  | c :: rest => lowerChar before c rest ++ lowerAfter (c :: before) rest

def lower (s : String) : String :=
  String.ofList (lowerAfter [] s.toList)

end SchemaGraph.Text
