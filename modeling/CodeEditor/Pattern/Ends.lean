import CodeEditor.Pattern.Place

/-! # Where a pattern can end

For a regular pattern the places where it can end are listed in the order in which they are tried,
each of them once: a second way to the same place leads to nothing new.
-/

namespace CodeEditor.Pattern

/-- Adds a place to those reached so far, the newest first, unless it is one of them. -/
def reach (reached : List Place) (p : Place) : List Place :=
  if reached.any (·.byte == p.byte) then reached else p :: reached

/-- The places in order, each once. -/
def distinct (places : List Place) : List Place := (places.foldl reach []).reverse

/-- The places after one, two and more characters of a set. -/
def run (s : CharSet) (before : List Char) (byte : Nat) : List Char → List Place
  | [] => []
  | c :: rest =>
    if s.contains c then
      ⟨c :: before, rest, byte + c.utf8Size⟩ :: run s (c :: before) (byte + c.utf8Size) rest
    else []

/-- The places after a repeated character of a set. -/
def runEnds (s : CharSet) (low : Nat) (high : Option Nat) (greedy : Bool) (p : Place) :
    List Place :=
  let all := p :: run s p.before p.byte p.after
  let allowed := (match high with | some n => all.take (n + 1) | none => all).drop low
  if greedy then allowed.reverse else allowed

def exactly (body : Place → List Place) : Nat → List Place → List Place
  | 0, places => places
  | n + 1, places => exactly body n (distinct (places.flatMap body))

/-- Adds the places after at most `n` more bodies to those reached, newest first. A place is known
by its offset and, if the number of bodies is bounded, by how many are left. -/
def further (body : Place → List Place) (greedy bounded : Bool) :
    Nat → Place → List (Nat × Place) → List (Nat × Place)
  | 0, p, reached =>
    if reached.any fun r => r.1 == 0 && r.2.byte == p.byte then reached else (0, p) :: reached
  | n + 1, p, reached =>
    let key := if bounded then n + 1 else 0
    if reached.any fun r => r.1 == key && r.2.byte == p.byte then reached
    else
      let more (reached : List (Nat × Place)) :=
        (body p).foldl (fun reached q =>
          if bounded || p.byte < q.byte then further body greedy bounded n q reached else reached)
          reached
      if greedy then (key, p) :: more reached else more ((key, p) :: reached)

/-- The places after one body or more. An empty body is not repeated. -/
def atLeastOne (body : Place → List Place) (greedy : Bool) (p : Place) : List Place :=
  let reached := (body p).foldl (fun reached q =>
    if q.byte = p.byte then
      if reached.any fun r => r.2.byte == p.byte then reached else (0, p) :: reached
    else further body greedy false (q.after.length + 1) q reached) []
  reached.reverse.map (·.2)

def repeatEnds (body : Place → List Place) (low : Nat) (high : Option Nat) (greedy : Bool)
    (p : Place) : List Place :=
  match high with
  | some high =>
    distinct <| (exactly body low [p]).flatMap fun q =>
      (further body greedy true (high - low) q []).reverse.map (·.2)
  | none =>
    match low with
    | 0 =>
      let more := atLeastOne body greedy p
      distinct (if greedy then more ++ [p] else p :: more)
    | low + 1 => distinct ((exactly body low [p]).flatMap (atLeastOne body greedy))

/-- The places where a regular pattern that starts at a place can end, the preferred one first. -/
def ends : Pattern → Place → List Place
  | empty, p => [p]
  | set s, p => (p.accept? s).toList
  | anchor a, p => if a.holds p then [p] else []
  | seq a b, p =>
    match a.ends p with
    | [] => []
    | [q] => b.ends q
    | places => distinct (places.flatMap b.ends)
  | alt a b, p =>
    match a.ends p with
    | [] => b.ends p
    | places => distinct (places ++ b.ends p)
  | group _ body, p => body.ends p
  | .repeat low high greedy (set s), p => runEnds s low high greedy p
  | .repeat low high greedy body, p => repeatEnds body.ends low high greedy p
  | atomic body, p => (body.ends p).take 1
  | look .., _ => []
  | backreference .., _ => []

end CodeEditor.Pattern
