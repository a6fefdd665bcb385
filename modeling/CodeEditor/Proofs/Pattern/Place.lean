import CodeEditor.Pattern.Matches
import CodeEditor.Text.Boundary

/-! # Places that a search reaches

Whatever a pattern is and however it is searched for, the places that are reached lie between two
characters of the text. So a match starts and stops on boundaries.
-/

namespace CodeEditor.Pattern

/-! ## Places of a text -/

/-- The place lies in the text, at the offset that it says. -/
structure Place.LiesIn (text : List Char) (p : Place) : Prop where
  around : text = p.before.reverse ++ p.after
  byte : p.byte = Text.byteLength p.before.reverse

variable {text : List Char} {p q : Place}

theorem Place.LiesIn.isBoundary (h : p.LiesIn text) : Text.IsBoundary text p.byte :=
  ⟨p.before.reverse, p.after, h.around, h.byte.symm⟩

theorem liesIn_advance {before rest : List Char} {c : Char} {byte : Nat}
    (h : Place.LiesIn text ⟨before, c :: rest, byte⟩) :
    Place.LiesIn text ⟨c :: before, rest, byte + c.utf8Size⟩ := by
  obtain ⟨haround, hbyte⟩ := h
  simp only at haround hbyte
  constructor
  · simp only [haround, List.reverse_cons, List.append_assoc, List.singleton_append]
  · simp [hbyte]

theorem liesIn_accept? (h : p.LiesIn text) {s : CharSet} (hq : p.accept? s = some q) :
    q.LiesIn text := by
  obtain ⟨before, after, byte⟩ := p
  cases after with
  | nil => simp [Place.accept?] at hq
  | cons c rest =>
    simp only [Place.accept?] at hq
    split at hq
    · cases hq
      exact liesIn_advance h
    · cases hq

theorem liesIn_skip? (h : p.LiesIn text) {ignoreCase : Bool} {cs : List Char}
    (hq : p.skip? ignoreCase cs = some q) : q.LiesIn text := by
  induction cs generalizing p with
  | nil =>
    simp only [Place.skip?, Option.some.injEq] at hq
    rwa [← hq]
  | cons c cs ih =>
    simp only [Place.skip?, Option.bind_eq_bind, Option.bind_eq_some_iff] at hq
    obtain ⟨next, hnext, hq⟩ := hq
    exact ih (liesIn_accept? h hnext) hq

/-! ## Where regular patterns end -/

/-- All places lie in the text. -/
def AllIn (text : List Char) (places : List Place) : Prop := ∀ p ∈ places, p.LiesIn text

/-- Places in the text lead to places in the text. -/
def Keeps (text : List Char) (body : Place → List Place) : Prop :=
  ∀ p, p.LiesIn text → AllIn text (body p)

theorem allIn_singleton (h : p.LiesIn text) : AllIn text [p] := List.forall_mem_singleton.mpr h

theorem AllIn.append {a b : List Place} (ha : AllIn text a) (hb : AllIn text b) :
    AllIn text (a ++ b) := List.forall_mem_append.mpr ⟨ha, hb⟩

theorem AllIn.subset {a b : List Place} (h : AllIn text a) (hsub : ∀ p ∈ b, p ∈ a) : AllIn text b :=
  fun p hp => h p (hsub p hp)

theorem Keeps.flatMap {body : Place → List Place} (h : Keeps text body) {places : List Place}
    (hplaces : AllIn text places) : AllIn text (places.flatMap body) := by
  intro q hq
  obtain ⟨p, hp, hmem⟩ := List.mem_flatMap.mp hq
  exact h p (hplaces p hp) q hmem

theorem mem_distinct {places : List Place} (h : p ∈ distinct places) : p ∈ places := by
  have hfold : ∀ (places reached : List Place), p ∈ places.foldl reach reached →
      p ∈ places ∨ p ∈ reached := by
    intro places
    induction places with
    | nil => exact fun reached hp => Or.inr hp
    | cons first places ih =>
      intro reached hp
      rcases ih _ hp with hp | hp
      · exact Or.inl (List.mem_cons_of_mem _ hp)
      · unfold reach at hp
        split at hp
        · exact Or.inr hp
        · rcases List.mem_cons.mp hp with rfl | hp
          · exact Or.inl List.mem_cons_self
          · exact Or.inr hp
  rw [distinct, List.mem_reverse] at h
  simpa using hfold places [] h

theorem AllIn.distinct {places : List Place} (h : AllIn text places) : AllIn text (distinct places) :=
  h.subset fun _ => mem_distinct

theorem allIn_run (s : CharSet) {before after : List Char} {byte : Nat}
    (h : Place.LiesIn text ⟨before, after, byte⟩) : AllIn text (run s before byte after) := by
  induction after generalizing before byte with
  | nil => exact List.forall_mem_nil _
  | cons c rest ih =>
    unfold run
    split
    · have hnext := liesIn_advance h
      exact List.forall_mem_cons.mpr ⟨hnext, ih hnext⟩
    · exact List.forall_mem_nil _

theorem keeps_runEnds (s : CharSet) (low : Nat) (high : Option Nat) (greedy : Bool) :
    Keeps text (runEnds s low high greedy) := by
  intro p h
  have hall : AllIn text (p :: run s p.before p.byte p.after) :=
    List.forall_mem_cons.mpr ⟨h, allIn_run s h⟩
  refine hall.subset ?_
  intro q hq
  unfold runEnds at hq
  cases greedy <;> cases high
  all_goals
    simp only [Bool.false_eq_true, if_false, if_true, List.mem_reverse] at hq
    have := List.mem_of_mem_drop hq
  · exact this
  · exact List.mem_of_mem_take this
  · exact this
  · exact List.mem_of_mem_take this

theorem allIn_exactly {body : Place → List Place} (hbody : Keeps text body) (n : Nat)
    {places : List Place} (h : AllIn text places) : AllIn text (exactly body n places) := by
  induction n generalizing places with
  | zero => exact h
  | succ n ih => exact ih (hbody.flatMap h).distinct

/-- All places that have been reached lie in the text. -/
def ReachedIn (text : List Char) (reached : List (Nat × Place)) : Prop :=
  ∀ r ∈ reached, r.2.LiesIn text

theorem ReachedIn.cons {reached : List (Nat × Place)} (h : ReachedIn text reached) (key : Nat)
    (hp : p.LiesIn text) : ReachedIn text ((key, p) :: reached) :=
  List.forall_mem_cons.mpr ⟨hp, h⟩

theorem ReachedIn.allIn {reached : List (Nat × Place)} (h : ReachedIn text reached) :
    AllIn text (reached.reverse.map (·.2)) := by
  intro q hq
  obtain ⟨r, hr, rfl⟩ := List.mem_map.mp hq
  exact h r (List.mem_reverse.mp hr)

theorem reachedIn_foldl {add : List (Nat × Place) → Place → List (Nat × Place)} {places : List Place}
    (hplaces : AllIn text places)
    (hadd : ∀ q reached, q.LiesIn text → ReachedIn text reached → ReachedIn text (add reached q))
    {reached : List (Nat × Place)} (h : ReachedIn text reached) :
    ReachedIn text (places.foldl add reached) := by
  induction places generalizing reached with
  | nil => exact h
  | cons q places ih =>
    obtain ⟨hq, hplaces⟩ := List.forall_mem_cons.mp hplaces
    exact ih hplaces (hadd q reached hq h)

theorem reachedIn_further {body : Place → List Place} (hbody : Keeps text body)
    (greedy bounded : Bool) (n : Nat) (hp : p.LiesIn text) {reached : List (Nat × Place)}
    (h : ReachedIn text reached) : ReachedIn text (further body greedy bounded n p reached) := by
  induction n generalizing p reached with
  | zero =>
    unfold further
    split
    · exact h
    · exact h.cons 0 hp
  | succ n ih =>
    have hmore : ∀ reached, ReachedIn text reached →
        ReachedIn text ((body p).foldl (fun reached q =>
          if bounded || p.byte < q.byte then further body greedy bounded n q reached else reached)
          reached) := by
      intro reached h
      refine reachedIn_foldl (hbody p hp) ?_ h
      intro q reached hq h
      split
      · exact ih hq h
      · exact h
    unfold further
    simp only
    generalize (if bounded then n + 1 else 0) = key
    split
    · exact h
    · split
      · exact (hmore _ h).cons key hp
      · exact hmore _ (h.cons key hp)

theorem keeps_atLeastOne {body : Place → List Place} (hbody : Keeps text body) (greedy : Bool) :
    Keeps text (atLeastOne body greedy) := by
  intro p hp
  apply ReachedIn.allIn
  refine reachedIn_foldl (hbody p hp) ?_ (List.forall_mem_nil _)
  intro q reached hq h
  split
  · split
    · exact h
    · exact h.cons 0 hp
  · exact reachedIn_further hbody greedy false _ hq h

theorem keeps_repeatEnds {body : Place → List Place} (hbody : Keeps text body) (low : Nat)
    (high : Option Nat) (greedy : Bool) : Keeps text (repeatEnds body low high greedy) := by
  intro p hp
  have hlow := allIn_exactly hbody low (allIn_singleton hp)
  have hmore := keeps_atLeastOne hbody greedy
  unfold repeatEnds
  cases high with
  | some high =>
    refine AllIn.distinct (Keeps.flatMap ?_ hlow)
    intro q hq
    exact (reachedIn_further hbody greedy true _ hq (List.forall_mem_nil _)).allIn
  | none =>
    cases low with
    | zero =>
      apply AllIn.distinct
      split
      · exact (hmore p hp).append (allIn_singleton hp)
      · exact List.forall_mem_cons.mpr ⟨hp, hmore p hp⟩
    | succ low => exact (hmore.flatMap (allIn_exactly hbody low (allIn_singleton hp))).distinct

theorem keeps_ends (pattern : Pattern) : Keeps text pattern.ends := by
  induction pattern with
  | empty => exact fun p hp => allIn_singleton hp
  | set s =>
    intro p hp q hq
    exact liesIn_accept? hp (Option.mem_toList.mp hq)
  | anchor a =>
    intro p hp
    unfold ends
    split
    · exact allIn_singleton hp
    · exact List.forall_mem_nil _
  | seq a b iha ihb =>
    intro p hp
    have ha := iha p hp
    unfold ends
    split
    · exact List.forall_mem_nil _
    · next q hends =>
      rw [hends] at ha
      exact ihb q (ha q List.mem_cons_self)
    · exact (Keeps.flatMap ihb ha).distinct
  | alt a b iha ihb =>
    intro p hp
    have ha := iha p hp
    unfold ends
    split
    · exact ihb p hp
    · exact (ha.append (ihb p hp)).distinct
  | group index body ih => exact ih
  | «repeat» low high greedy body ih =>
    cases body with
    | set s => exact keeps_runEnds s low high greedy
    | _ => exact keeps_repeatEnds ih low high greedy
  | atomic body ih =>
    intro p hp
    exact (ih p hp).subset fun q => List.mem_of_mem_take
  | look direction negated body ih => exact fun p hp => List.forall_mem_nil _
  | backreference index ignoreCase => exact fun p hp => List.forall_mem_nil _

/-! ## Where searches stop -/

/-- If the search finds a match, it stops in the text. -/
def Outcome.StopsIn (text : List Char) (o : Outcome) : Prop :=
  ∀ stop captures left, o = .found stop captures left → stop.LiesIn text

/-- From places in the text on, what is to match after a pattern stops in the text. -/
def NextIn (text : List Char) (next : Next) : Prop :=
  ∀ p captures left, p.LiesIn text → (next p captures left).StopsIn text

/-- A search from a place in the text stops in the text if what is to match after it does. -/
def SearchesIn (text : List Char) (search : Searcher) : Prop :=
  ∀ next, NextIn text next → NextIn text fun p captures left => search p captures left next

theorem stopsIn_found (hp : p.LiesIn text) (captures : Captures) (left : Nat) :
    (Outcome.found p captures left).StopsIn text := by
  rintro stop _ _ hfound
  cases hfound
  exact hp

theorem stopsIn_failed (left : Nat) : (Outcome.failed left).StopsIn text := by
  rintro stop _ _ hfound
  cases hfound

theorem stopsIn_gaveUp : Outcome.gaveUp.StopsIn text := by
  rintro stop _ _ hfound
  cases hfound

theorem stopsIn_abandon (left : Nat) : (abandon left).StopsIn text := by
  cases left with
  | zero => exact stopsIn_gaveUp
  | succ left => exact stopsIn_failed left

theorem stopsIn_orElse {o : Outcome} {other : Nat → Outcome} (ho : o.StopsIn text)
    (hother : ∀ left, (other left).StopsIn text) : (o.orElse other).StopsIn text := by
  unfold Outcome.orElse
  split
  · exact hother _
  · exact ho

theorem nextIn_found : NextIn text .found := fun _ captures left hp => stopsIn_found hp captures left

theorem searchesIn_times {body : Searcher} (hbody : SearchesIn text body) (n : Nat) :
    SearchesIn text (times body n) := by
  induction n with
  | zero => exact fun next hnext => hnext
  | succ n ih =>
    intro next hnext
    exact hbody _ (ih next hnext)

theorem searchesIn_upTo {body : Searcher} (hbody : SearchesIn text body) (greedy : Bool) (n : Nat) :
    SearchesIn text (upTo body greedy n) := by
  induction n with
  | zero => exact fun next hnext => hnext
  | succ n ih =>
    intro next hnext p captures left hp
    have hmore := fun left => hbody _ (ih next hnext) p captures left hp
    have hstop := fun left => hnext p captures left hp
    unfold upTo
    simp only
    split
    · exact stopsIn_orElse (hmore left) hstop
    · exact stopsIn_orElse (hstop left) hmore

theorem searchesIn_anyTimes {body : Searcher} (hbody : SearchesIn text body) (greedy : Bool)
    (n : Nat) : SearchesIn text (anyTimes body greedy n) := by
  induction n with
  | zero => exact fun next hnext => hnext
  | succ n ih =>
    intro next hnext p captures left hp
    have hagain : NextIn text fun q captures left =>
        if p.byte < q.byte then anyTimes body greedy n q captures left next else abandon left := by
      intro q captures left hq
      simp only
      split
      · exact ih next hnext q captures left hq
      · exact stopsIn_abandon left
    have hmore := fun left => hbody _ hagain p captures left hp
    have hstop := fun left => hnext p captures left hp
    unfold anyTimes
    simp only
    split
    · exact stopsIn_orElse (hmore left) hstop
    · exact stopsIn_orElse (hstop left) hmore

theorem stopsIn_afterLook {next : Next} (hnext : NextIn text next) (hp : p.LiesIn text)
    (negated : Bool) (seen : Outcome) (captures : Captures) :
    (afterLook negated seen p captures next).StopsIn text := by
  cases seen with
  | found stop inner left =>
    cases negated with
    | false => exact hnext p inner left hp
    | true => exact stopsIn_abandon left
  | failed left =>
    cases negated with
    | false => exact stopsIn_abandon left
    | true => exact hnext p captures left hp
  | gaveUp => exact stopsIn_gaveUp

theorem searchesIn_search (pattern : Pattern) : SearchesIn text pattern.search := by
  induction pattern with
  | empty => exact fun next hnext => hnext
  | set s =>
    intro next hnext p captures left hp
    simp only [search]
    split
    · next q hq => exact hnext q captures left (liesIn_accept? hp hq)
    · exact stopsIn_abandon left
  | anchor a =>
    intro next hnext p captures left hp
    simp only [search]
    split
    · exact hnext p captures left hp
    · exact stopsIn_abandon left
  | seq a b iha ihb =>
    intro next hnext
    exact iha _ (ihb next hnext)
  | alt a b iha ihb =>
    intro next hnext p captures left hp
    exact stopsIn_orElse (iha next hnext p captures left hp)
      fun left => ihb next hnext p captures left hp
  | group index body ih =>
    intro next hnext p captures left hp
    refine ih _ ?_ p captures left hp
    intro q captures left hq
    exact hnext q _ left hq
  | «repeat» low high greedy body ih =>
    intro next hnext
    refine searchesIn_times ih low _ ?_
    intro q captures left hq
    cases high with
    | some high => exact searchesIn_upTo ih greedy (high - low) next hnext q captures left hq
    | none => exact searchesIn_anyTimes ih greedy (q.after.length + 1) next hnext q captures left hq
  | atomic body ih =>
    intro next hnext p captures left hp
    have hfirst := ih .found nextIn_found p captures left hp
    simp only [search]
    split
    · next q inner left hfound => exact hnext q inner left (hfirst q inner left hfound)
    · exact hfirst
  | look direction negated body ih =>
    intro next hnext p captures left hp
    cases direction with
    | ahead => exact stopsIn_afterLook hnext hp negated _ captures
    | behind => exact stopsIn_afterLook hnext hp negated _ captures
  | backreference index ignoreCase =>
    intro next hnext p captures left hp
    simp only [search]
    split
    · next q hq =>
      obtain ⟨remembered, -, hskip⟩ := Option.bind_eq_some_iff.mp hq
      exact hnext q captures left (liesIn_skip? hp hskip)
    · exact stopsIn_abandon left

/-! ## Matches -/

theorem stopsIn_matchAt (pattern : Pattern) (regular : Bool) (hp : p.LiesIn text) (left : Nat) :
    (pattern.matchAt regular p left).StopsIn text := by
  unfold matchAt
  split
  · have hends := keeps_ends pattern p hp
    split
    · next stop rest hstops =>
      rw [hstops] at hends
      exact stopsIn_found (hends stop List.mem_cons_self) [] left
    · exact stopsIn_failed left
  · exact searchesIn_search pattern .found nextIn_found p [] left hp

theorem isWhole_scan (pattern : Pattern) (regular : Bool) (resume left : Nat)
    {before after : List Char} {byte : Nat} (h : Place.LiesIn text ⟨before, after, byte⟩) :
    ∀ s ∈ pattern.scan regular resume left before byte after, Text.IsWhole text s := by
  induction after generalizing resume left before byte with
  | nil => exact List.forall_mem_nil _
  | cons c rest ih =>
    have hgoOn := fun resume left => ih resume left (liesIn_advance h)
    have hmatch := stopsIn_matchAt pattern regular h left
    unfold scan
    simp only
    split
    · exact hgoOn resume left
    · split
      · next stop captures left' hfound =>
        split
        · next hsome =>
          refine List.forall_mem_cons.mpr ⟨⟨h.isBoundary, ?_, hsome⟩, hgoOn _ _⟩
          exact (hmatch stop captures left' hfound).isBoundary
        · exact hgoOn _ _
      · exact hgoOn _ _
      · exact List.forall_mem_nil _

/-- The matches of a pattern are of whole characters, and of at least one. -/
theorem isWhole_matchesIn (pattern : Pattern) (text : List Char) :
    ∀ s ∈ pattern.matchesIn text, Text.IsWhole text s :=
  isWhole_scan pattern pattern.isRegular 0 searchLimit ⟨rfl, rfl⟩

end CodeEditor.Pattern
