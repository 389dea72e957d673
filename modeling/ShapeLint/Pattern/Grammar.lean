import ShapeLint.Pattern.Matching

/-!
The written form of patterns: literals, `.`, `^`, `$`, character sets, groups, alternatives,
`* + ? {m} {m,n}`, and escapes. A text is cut into tokens one character at a time, and the tokens
are put together with a stack of open groups, so both passes end by the length of their input.
Flags, names and other kinds of groups, and further assertions, are not read.
-/
namespace ShapeLint.Pattern

inductive Token where
  | atom (pattern : Pattern)
  | anchor (pattern : Pattern)
  | quantifier (least : Nat) (most : Option Nat)
  | bar
  | opening
  | closing

/-- What a backslash makes of the next character. Letters and digits without a meaning of their
own are refused; every other character stands for itself. -/
def escaped? (c : Char) : Option CharClass :=
  match c with
  | 'd' => some .digit
  | 'D' => some (.except .digit)
  | 'w' => some .word
  | 'W' => some (.except .word)
  | 's' => some .blank
  | 'S' => some (.except .blank)
  | 'n' => some (.single '\n')
  | 't' => some (.single '\t')
  | 'r' => some (.single '\r')
  | 'f' => some (.single '\x0c')
  | 'v' => some (.single '\x0b')
  | 'a' => some (.single '\x07')
  | c => if c.isAlphanum then none else some (.single c)

/-- A set being read: its sign, the members already known, and what the last characters leave
open. -/
inductive SetPart where
  /-- Nothing is open. -/
  | closed
  /-- A member that a hyphen may turn into the start of a range. -/
  | member (first : CharClass)
  /-- A member and a hyphen. -/
  | range (first : CharClass)

inductive Mode where
  | plain
  /-- After a quantifier, where a question mark changes nothing. -/
  | quantified
  | backslash
  /-- After an opening brace; the characters since, last first. -/
  | braces (inside : List Char)
  | setOpened
  | set (negated : Bool) (classes : List CharClass) (part : SetPart)
  | setBackslash (negated : Bool) (classes : List CharClass) (part : SetPart)

def literal (c : Char) : Token := .atom (.char false [.single c])

/-- A character outside sets, braces and escapes. -/
def plainStep (c : Char) : List Token × Mode :=
  match c with
  | '\\' => ([], .backslash)
  | '[' => ([], .setOpened)
  | '{' => ([], .braces [])
  | '.' => ([.atom (.char true [.single '\n'])], .plain)
  | '^' => ([.anchor .start], .plain)
  | '$' => ([.anchor .finish], .plain)
  | '|' => ([.bar], .plain)
  | '(' => ([.opening], .plain)
  | ')' => ([.closing], .plain)
  | '*' => ([.quantifier 0 none], .quantified)
  | '+' => ([.quantifier 1 none], .quantified)
  | '?' => ([.quantifier 0 (some 1)], .quantified)
  | c => ([literal c], .plain)

def numeral? (cs : List Char) : Option Nat :=
  if cs.isEmpty then none else some (cs.foldl (fun n c => 10 * n + (c.toNat - 48)) 0)

/-- The bounds written between braces: `m`, `m,`, `,n` or `m,n`. `none` if they are out of order. -/
def bounds? (inside : List Char) : Option (Nat × Option Nat) :=
  let low := inside.takeWhile (· != ',')
  let least := (numeral? low).getD 0
  let most := if inside.contains ',' then numeral? (inside.dropWhile (· != ',') |>.drop 1)
    else numeral? low
  if most.any (· < least) then none else some (least, most)

/-- The class that a range ends at, if both ends are single characters in order. -/
def range? (first last : CharClass) : Option CharClass :=
  match first, last with
  | .between low low', .between high high' =>
    if low = low' ∧ high = high' ∧ low ≤ high then some (.between low high) else none
  | _, _ => none

/-- Takes up one more member of a set. -/
def setMember (negated : Bool) (classes : List CharClass) (part : SetPart) (next : CharClass) :
    Option Mode :=
  match part with
  | .closed => some (.set negated classes (.member next))
  | .member first => some (.set negated (classes ++ [first]) (.member next))
  | .range first => (range? first next).map fun r => .set negated (classes ++ [r]) .closed

/-- One character inside a set. A closing bracket that would leave the set empty stands for
itself. -/
def setStep (negated : Bool) (classes : List CharClass) (part : SetPart) (c : Char) :
    Option (List Token × Mode) :=
  let finished (classes : List CharClass) : Option (List Token × Mode) :=
    some ([.atom (.char negated classes)], .plain)
  let member : Option (List Token × Mode) :=
    (setMember negated classes part (.single c)).map fun mode => ([], mode)
  match part, c with
  | .closed, ']' => if classes.isEmpty then member else finished classes
  | .member first, ']' => finished (classes ++ [first])
  | .range first, ']' => finished (classes ++ [first, .single '-'])
  | .member first, '-' => some ([], .set negated classes (.range first))
  | part, '\\' => some ([], .setBackslash negated classes part)
  | _, _ => member

/-- Takes one character; `none` if no pattern goes on like this. -/
def scanStep (mode : Mode) (c : Char) : Option (List Token × Mode) :=
  match mode with
  | .plain => some (plainStep c)
  | .quantified => if c = '?' then some ([], .plain) else some (plainStep c)
  | .backslash => (escaped? c).map fun cls => ([.atom (.char false [cls])], .plain)
  | .braces inside =>
    if c.isDigit || (c == ',' && !inside.contains ',') then some ([], .braces (c :: inside))
    else if c = '}' && !inside.isEmpty then
      (bounds? inside.reverse).map fun (least, most) => ([.quantifier least most], .quantified)
    else
      let (tokens, mode) := plainStep c
      some (('{' :: inside.reverse).map literal ++ tokens, mode)
  | .setOpened => if c = '^' then some ([], .set true [] .closed) else setStep false [] .closed c
  | .set negated classes part => setStep negated classes part c
  | .setBackslash negated classes part => do
    let mode ← setMember negated classes part (← escaped? c)
    return ([], mode)

/-- The tokens still due at the end of the text. -/
def scanEnd : Mode → Option (List Token)
  | .plain | .quantified => some []
  | .braces inside => some (('{' :: inside.reverse).map literal)
  | _ => none

def scan : Mode → List Char → Option (List Token)
  | mode, [] => scanEnd mode
  | mode, c :: rest => do
    let (tokens, mode) ← scanStep mode c
    return tokens ++ (← scan mode rest)

/-- A group being read: the alternatives before the last bar, and the parts after it, last first.
Only an atom may be quantified. -/
structure Group where
  before : Option Pattern
  parts : List (Pattern × Bool)

def Group.opened : Group := ⟨none, []⟩

def Group.lastBranch (g : Group) : Pattern :=
  g.parts.foldl (fun after (part, _) => match after with
    | .empty => part
    | after => .sequence part after) .empty

def Group.pattern (g : Group) : Pattern :=
  match g.before with
  | some before => .either before g.lastBranch
  | none => g.lastBranch

def Group.push (g : Group) (part : Pattern) (quantifiable : Bool) : Group :=
  { g with parts := (part, quantifiable) :: g.parts }

/-- Adds a token to the innermost of the open groups. -/
def groupStep (groups : Group × List Group) (token : Token) : Option (Group × List Group) :=
  let (inner, outer) := groups
  match token with
  | .atom p => some (inner.push p true, outer)
  | .anchor p => some (inner.push p false, outer)
  | .bar => some (⟨some inner.pattern, []⟩, outer)
  | .opening => some (.opened, inner :: outer)
  | .closing =>
    match outer with
    | next :: outer => some (next.push inner.pattern true, outer)
    | [] => none
  | .quantifier least most =>
    match inner.parts with
    | (part, true) :: parts =>
      some ({ inner with parts := (.repeated part least most, false) :: parts }, outer)
    | _ => none

/-- Reads a pattern; `none` if the text is not one. -/
def ofText? (s : String) : Option Pattern := do
  let tokens ← scan .plain s.toList
  match ← tokens.foldlM groupStep (.opened, []) with
  | (group, []) => some group.pattern
  | _ => none

end ShapeLint.Pattern
