import ShapeLint.Text.Blank
import ShapeLint.Text.Digit
import ShapeLint.Text.Word

/-!
Text patterns, and whether one occurs in a text. A pattern laid onto a text is a way between the
places before, between and after its characters; a set of places is a natural number, whose bits
are the places. Only whether a pattern occurs is asked, so all beginnings are followed at once and
repetitions are neither greedy nor lazy.
-/
namespace ShapeLint

/-- A member of a character set. -/
inductive CharClass where
  | between (first last : Char)
  | digit
  | word
  | blank
  | except (excluded : CharClass)
  deriving Repr

namespace CharClass

def holds (c : Char) : CharClass → Bool
  | between first last => first ≤ c && c ≤ last
  | digit => Text.isDecimalDigit c
  | word => Text.isWord c
  | blank => Text.isBlank c
  | except excluded => !excluded.holds c

def single (c : Char) : CharClass := between c c

end CharClass

inductive Pattern where
  | empty
  /-- One character in one of the classes, or in none of them when negated. -/
  | char (negated : Bool) (classes : List CharClass)
  /-- The start of the text. -/
  | start
  /-- The end of the text, or the place before a line feed that ends it. -/
  | finish
  | sequence (first second : Pattern)
  | either (first second : Pattern)
  | repeated (body : Pattern) (least : Nat) (most : Option Nat)
  deriving Repr

/-- A set of places of a text: place `n` is in it if bit `n` is set. -/
abbrev Places := Nat

namespace Places

/-- The places in front of the characters that a test holds for. -/
def before (holds : Char → Bool) (text : List Char) : Places :=
  text.foldr (fun c places => 2 * places + (holds c).toNat) 0

/-- All `count + 1` places of a text of so many characters. -/
def all (count : Nat) : Places := Nat.pow 2 (count + 1) - 1

/-- The places of the first set that are not in the second. -/
def without (places others : Places) : Places := (places ||| others) ^^^ others

end Places

/-- A pattern laid onto a text. -/
inductive Route where
  | stay
  /-- From each of these places to the next one. -/
  | onwards (places : Places)
  /-- Stays, at these places only. -/
  | only (places : Places)
  | sequence (first second : Route)
  | either (first second : Route)
  | repeated (body : Route) (least : Nat) (most : Option Nat)

namespace Route

/-- So many steps, one after another. -/
def times (step : Places → Places) : Nat → Places → Places
  | 0, places => places
  | n + 1, places => if places = 0 then 0 else times step n (step places)

/-- The places reached so far and those reached by at most so many steps from the newest. -/
def spread (step : Places → Places) : Nat → Places → Places → Places
  | 0, reached, _ => reached
  | n + 1, reached, newest =>
    let newest := (step newest).without reached
    if newest = 0 then reached else spread step n (reached ||| newest) newest

/-- The places that a route leads to from any of the given ones. A text of `count` characters has
`count + 1` places: more required repetitions than that lead to the same places, and more further
ones to no new place. -/
def ends (count : Nat) : Route → Places → Places
  | stay, places => places
  | onwards fitting, places => (places &&& fitting) <<< 1
  | only admitted, places => places &&& admitted
  | sequence first second, places => ends count second (ends count first places)
  | either first second, places => ends count first places ||| ends count second places
  | repeated body least most, places =>
    let further := match most with
      | some most => min (most - least) (count + 1)
      | none => count + 1
    let places := times (ends count body) (min least (count + 1)) places
    spread (ends count body) further places places

end Route

namespace Pattern

/-- Lays a pattern onto a text. -/
def route (text : List Char) : Pattern → Route
  | empty => .stay
  | char negated classes =>
    .onwards (Places.before (fun c => classes.any (CharClass.holds c) != negated) text)
  | start => .only 1
  | finish =>
    let last := Nat.pow 2 text.length
    .only (if text.getLast? = some '\n' then last ||| Nat.pow 2 (text.length - 1) else last)
  | sequence first second => .sequence (first.route text) (second.route text)
  | either first second => .either (first.route text) (second.route text)
  | repeated body least most => .repeated (body.route text) least most

/-- Whether the pattern matches somewhere in the text. -/
def occursIn (p : Pattern) (s : String) : Bool :=
  let text := s.toList
  (p.route text).ends text.length (Places.all text.length) != 0

end Pattern

end ShapeLint
