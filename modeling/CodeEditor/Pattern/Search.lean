import CodeEditor.Pattern.Place

/-! # Searching with a limit

A pattern that looks around, refers back or is atomic is searched for by trying one way after the
other. A search gives up once it has abandoned as many ways as the limit allows.
-/

namespace CodeEditor.Pattern

/-- The texts that groups have matched, the latest first. -/
abbrev Captures := List (Nat × List Char)

/-- How a search ends, with the number of ways that may still be abandoned. -/
inductive Outcome where
  | found (stop : Place) (captures : Captures) (left : Nat)
  | failed (left : Nat)
  | gaveUp
  deriving DecidableEq, Repr, Inhabited

/-- What is to match after a pattern. -/
abbrev Next := Place → Captures → Nat → Outcome

/-- Searches from a place, and goes on with what is to match after it. -/
abbrev Searcher := Place → Captures → Nat → Next → Outcome

def abandon (left : Nat) : Outcome :=
  match left with
  | 0 => .gaveUp
  | left + 1 => .failed left

def Outcome.orElse (o : Outcome) (other : Nat → Outcome) : Outcome :=
  match o with
  | .failed left => other left
  | o => o

def times (body : Searcher) : Nat → Searcher
  | 0 => fun p captures left next => next p captures left
  | n + 1 => fun p captures left next =>
    body p captures left fun q captures left => times body n q captures left next

def upTo (body : Searcher) (greedy : Bool) : Nat → Searcher
  | 0 => fun p captures left next => next p captures left
  | n + 1 => fun p captures left next =>
    let more (left : Nat) := body p captures left fun q captures left =>
      upTo body greedy n q captures left next
    if greedy then (more left).orElse (next p captures)
    else (next p captures left).orElse more

/-- A body any number of times; one that takes no character is not repeated. The bound is never
reached when it is greater than the number of characters that follow. -/
def anyTimes (body : Searcher) (greedy : Bool) : Nat → Searcher
  | 0 => fun p captures left next => next p captures left
  | n + 1 => fun p captures left next =>
    let more (left : Nat) := body p captures left fun q captures left =>
      if p.byte < q.byte then anyTimes body greedy n q captures left next else abandon left
    if greedy then (more left).orElse (next p captures)
    else (next p captures left).orElse more

/-- Looks back for a body that ends here, from the place `width` characters back to the one
`width + more` characters back. -/
def lookBack (body : Searcher) (p : Place) (captures : Captures) (width : Nat) :
    Nat → Nat → Outcome
  | more, left =>
    match p.back? width with
    | none => .failed left
    | some start =>
      let here := body start captures left fun q captures left =>
        if q.byte = p.byte then .found q captures left else abandon left
      match more with
      | 0 => here
      | more + 1 => here.orElse fun left => lookBack body p captures (width + 1) more left

/-- Goes on from a look: `seen` is what the body led to. -/
def afterLook (negated : Bool) (seen : Outcome) (p : Place) (captures : Captures) (next : Next) :
    Outcome :=
  match seen with
  | .found _ inner left => if negated then abandon left else next p inner left
  | .failed left => if negated then next p captures left else abandon left
  | .gaveUp => .gaveUp

def search : Pattern → Searcher
  | empty => fun p captures left next => next p captures left
  | set s => fun p captures left next =>
    match p.accept? s with
    | some q => next q captures left
    | none => abandon left
  | anchor a => fun p captures left next =>
    if a.holds p then next p captures left else abandon left
  | seq a b => fun p captures left next =>
    a.search p captures left fun q captures left => b.search q captures left next
  | alt a b => fun p captures left next =>
    (a.search p captures left next).orElse fun left => b.search p captures left next
  | group index body => fun p captures left next =>
    body.search p captures left fun q captures left =>
      next q ((index, p.textTo q.byte) :: captures) left
  | .repeat low high greedy body => fun p captures left next =>
    times body.search low p captures left fun q captures left =>
      match high with
      | some high => upTo body.search greedy (high - low) q captures left next
      | none => anyTimes body.search greedy (q.after.length + 1) q captures left next
  | atomic body => fun p captures left next =>
    match body.search p captures left .found with
    | .found q captures left => next q captures left
    | o => o
  | look .ahead negated body => fun p captures left next =>
    afterLook negated (body.search p captures left .found) p captures next
  | look .behind negated body => fun p captures left next =>
    let (least, greatest) := body.widths
    let more := (greatest.getD p.before.length) - least
    afterLook negated (lookBack body.search p captures least more left) p captures next
  | backreference index ignoreCase => fun p captures left next =>
    match (captures.lookup index).bind (p.skip? ignoreCase) with
    | some q => next q captures left
    | none => abandon left

end CodeEditor.Pattern
