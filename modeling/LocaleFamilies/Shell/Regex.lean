import LocaleFamilies.Shell.Pattern

/-! Regular expressions. Of all stretches of a text that an expression stands for, the one that begins
first is found, and of those the longest; the same goes for the groups in it, from left to right. -/
namespace LocaleFamilies.Shell

inductive Regex
  | empty
  | one (test : Char → Bool)
  | place (test : Option Char → Option Char → Bool)
  | group (number : Nat) (inner : Regex)
  | again (number : Nat)
  | both (first second : Regex)
  | either (first second : Regex)
  | many (inner : Regex)

namespace Regex

def groups : Regex → Nat
  | group number inner => max number inner.groups
  | many inner => inner.groups
  | both first second | either first second => max first.groups second.groups
  | _ => 0

def times (inner : Regex) : Nat → Option Nat → Regex
  | 0, none => .many inner
  | 0, some count => optional count
  | least + 1, most => .both inner (times inner least (most.map (· - 1)))
where
  optional : Nat → Regex
    | 0 => .empty
    | count + 1 => .either (.both inner (optional count)) .empty

abbrev Way := Nat × List (Nat × Nat × Nat)

/-- The ways through a text from a place on; longer ones of an inner part come first. -/
def ways (text : Array Char) : Nat → Regex → Way → List Way
  | 0, _, _ => []
  | fuel + 1, expression, (position, groups) =>
    match expression with
    | empty => [(position, groups)]
    | one test =>
      match text[position]? with
      | some c => if test c then [(position + 1, groups)] else []
      | none => []
    | .place test =>
      let before := if position == 0 then none else text[position - 1]?
      if test before text[position]? then [(position, groups)] else []
    | group number inner =>
      (ways text fuel inner (position, groups)).map fun (stop, groups) =>
        (stop, (number, position, stop) :: groups.filter (·.1 != number))
    | again number =>
      match groups.find? (·.1 == number) with
      | some (_, start, stop) =>
        let length := stop - start
        if (text.extract start stop).toList == (text.extract position (position + length)).toList then
          [(position + length, groups)] else []
      | none => []
    | both first second =>
      (ways text fuel first (position, groups)).flatMap (ways text fuel second)
    | either first second =>
      ways text fuel first (position, groups) ++ ways text fuel second (position, groups)
    | many (one test) =>
      let run := ((text.extract position text.size).toList.takeWhile test).length
      (List.range (run + 1)).reverse.map fun length => (position + length, groups)
    | many inner =>
      ((ways text fuel inner (position, groups)).filter (·.1 > position)).flatMap
        (ways text fuel (many inner)) ++ [(position, groups)]

structure Found where
  start : Nat
  stop : Nat
  groups : List (Nat × Nat × Nat)

def firstWay? (text : Array Char) (expression : Regex) : List Nat → Option Found
  | [] => none
  | start :: rest =>
    let longer (best : Option Way) (way : Way) : Option Way :=
      if best.any (·.1 ≥ way.1) then best else some way
    match (ways text (text.size * 4 + 1000) expression (start, [])).foldl longer none with
    | some (stop, groups) => some ⟨start, stop, groups⟩
    | none => firstWay? text expression rest

def search? (expression : Regex) (text : Octets) (offset : Nat) : Option Found :=
  firstWay? text.toArray expression ((List.range (text.length + 1)).drop offset)

def isFound (expression : Regex) (text : Octets) : Bool := (expression.search? text 0).isSome

/-- All places where an expression is found one after another, from some place on. After an empty one the
search goes on a character further, and an empty one right after another is left out. -/
def searchFrom (expression : Regex) (text : Octets) : Nat → Nat → Option Nat → List Found
  | 0, _, _ => []
  | fuel + 1, offset, before =>
    match expression.search? text offset with
    | none => []
    | some found =>
      if found.stop == found.start then
        let rest := searchFrom expression text fuel (found.stop + 1) none
        if before == some found.start then rest else found :: rest
      else found :: searchFrom expression text fuel found.stop (some found.stop)

def searchAll (expression : Regex) (text : Octets) : List Found :=
  expression.searchFrom text (text.length + 2) 0 none

def Found.group (found : Found) (text : Octets) (number : Nat) : Octets :=
  if number == 0 then (text.take found.stop).drop found.start
  else
    match found.groups.find? (·.1 == number) with
    | some (_, start, stop) => (text.take stop).drop start
    | none => []

end Regex

end LocaleFamilies.Shell
