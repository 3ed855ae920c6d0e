import Classpath.Regex.Basic

/-!
# Matching

Where an expression leads: from a set of positions of a text to the set of those at which
what it describes ends. Sets of positions are ascending lists, so an expression costs about
as many steps as it has parts times positions, however many ways it could match.

A repetition without upper limit is a closure: every round but the last reaches a position
that was not reached before, so there are no more rounds than positions.

Recursion on two lists at once is measured by their lengths together, a number, so that the
matcher can be evaluated in proofs.

## Main definitions

* `Regex.ends`: the positions an expression leads to.
* `Regex.occurs`: whether an expression describes some part of a text.
-/

namespace Classpath.Regex

/-! ### Sets of positions -/

/-- The positions in either of two ascending lists. -/
def merge : List Nat → List Nat → List Nat
  | [], bs => bs
  | as, [] => as
  | a :: as, b :: bs =>
    if a < b then a :: merge as (b :: bs)
    else if b < a then b :: merge (a :: as) bs
    else a :: merge as bs
termination_by as bs => as.length + bs.length

/-- The positions of the first of two ascending lists that are not in the second. -/
def minus : List Nat → List Nat → List Nat
  | [], _ => []
  | as, [] => as
  | a :: as, b :: bs =>
    if a < b then a :: minus as (b :: bs)
    else if b < a then minus (a :: as) bs
    else minus as bs
termination_by as bs => as.length + bs.length

/-- A step, so many times; once it changes nothing, it never will. -/
def exactly (step : List Nat → List Nat) : Nat → List Nat → List Nat
  | 0, at_ => at_
  | n + 1, at_ =>
    let next := step at_
    if next = at_ then at_ else exactly step n next

/-- What a step leads to in so many rounds: each goes on from the positions that the one
before it reached for the first time. -/
def grow (step : List Nat → List Nat) : Nat → (found frontier : List Nat) → List Nat
  | 0, found, _ => found
  | n + 1, found, frontier =>
    let fresh := minus (step frontier) found
    if fresh.isEmpty then found else grow step n (merge found fresh) fresh

/-! ### Expressions -/

/-- The positions where what an expression describes can end, when it begins at one of the
given ones. -/
def ends (text : Array Char) : Regex → List Nat → List Nat
  | empty, at_ => at_
  | chars s, at_ =>
    at_.filterMap fun i =>
      match text[i]? with
      | some c => if s.contains c.toNat then some (i + 1) else none
      | none => none
  | look l, at_ => at_.filter fun i => l.holds (before text i) text[i]?
  | seq first second, at_ => ends text second (ends text first at_)
  | alt left right, at_ => merge (ends text left at_) (ends text right at_)
  | iterate least most r, at_ =>
    let begun := exactly (ends text r) least at_
    let rounds := match most with
      | some m => m - least
      | none => text.size + 1
    grow (ends text r) rounds begun begun

/-- Whether an expression describes some part of a text. -/
def occurs (r : Regex) (text : String) : Bool :=
  let text := text.toList.toArray
  !(ends text r (List.range (text.size + 1))).isEmpty

end Classpath.Regex
