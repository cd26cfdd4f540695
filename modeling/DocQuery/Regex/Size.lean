import DocQuery.Regex.Basic
/-!
How much an expression grows when its repetitions are written out. Expressions beyond the limit are
refused.
-/
namespace DocQuery.Regex

/-- Some word of more than no characters may be described. -/
def consumes : Regex → Bool
  | empty | look _ => false
  | chars _ => true
  | concat a b | either a b => a.consumes || b.consumes
  | repeated _ most body => most != some 0 && body.consumes

def stateBytes : Nat := 32

def runBytes : Nat := 64

def setBytes (set : CharSet) : Nat :=
  match set with
  | .range first last => if first = last then stateBytes * first.utf8Size else stateBytes + runBytes
  | _ => stateBytes + if set.isAscii then 8 * set.runs else runBytes * set.runs

def bytes : Regex → Nat
  | empty | look _ => stateBytes
  | chars set => setBytes set
  | concat a b => a.bytes + b.bytes
  | either a b => a.bytes + b.bytes + stateBytes
  | repeated least most body =>
    let copies := match most with
      | some most => most
      | none => max least 1
    let copies := if body.consumes then copies else min copies 1
    copies * (body.bytes + if most = some least then 0 else stateBytes)

/-- The bytes that an expression may have. -/
def bytesLimit : Nat := 10 * 0x100000

end DocQuery.Regex
