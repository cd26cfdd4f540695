import DocQuery.Regex.Basic
/-!
Matching by partial derivatives. What an expression has still to match after one character is a list
of expressions, any of which will do; a search keeps these lists for all the places where a match may
have begun, and drops what it has already.
-/
namespace DocQuery.Regex

/-- The expression describes the empty word between the two characters. -/
def nullable (before after : Option Char) : Regex → Bool
  | empty => true
  | chars _ => false
  | look condition => condition.holds before after
  | concat a b => a.nullable before after && b.nullable before after
  | either a b => a.nullable before after || b.nullable before after
  | repeated least _ body => least == 0 || body.nullable before after

/-- An expression after which another has to be matched. -/
def before (a b : Regex) : Regex :=
  match a with
  | empty => b
  | _ => concat a b

/-- What has to be matched after `c`. An iteration that is matched by no character can be taken any
number of times, so after it no further iteration is required. -/
def step (previous : Option Char) (c : Char) : Regex → List Regex
  | empty => []
  | chars set => if set.contains c then [empty] else []
  | look _ => []
  | concat a b =>
    (a.step previous c).map (·.before b) ++
      if a.nullable previous (some c) then b.step previous c else []
  | either a b => a.step previous c ++ b.step previous c
  | repeated least most body =>
    if most = some 0 then []
    else
      let least := if body.nullable previous (some c) then 0 else least - 1
      (body.step previous c).map (·.before (repeated least (most.map (· - 1)) body))

def distinct (states : List Regex) : List Regex :=
  (states.foldl (fun kept state => if kept.contains state then kept else state :: kept) []).reverse

/-- Some match ends in the text that is still to come, among those that have begun in these states
and those that begin later. -/
def search (r : Regex) (previous : Option Char) (states : List Regex) : List Char → Bool
  | [] => (r :: states).any (·.nullable previous none)
  | c :: rest =>
    (r :: states).any (·.nullable previous (some c)) ||
      search r (some c) (distinct ((r :: states).flatMap (·.step previous c))) rest

def matchesIn (r : Regex) (text : List Char) : Bool := search r none [] text

end DocQuery.Regex
