import CodeEditor.Proofs.Pattern.Place
import CodeEditor.Proofs.Boundary

/-! # Repeated characters

Where a repeated set of characters can end, and which ends a character after it leaves. A repeated body
that takes one character of a set, wherever it begins, is a repeated set.
-/

namespace CodeEditor.Pattern

variable {s : CharSet} {p q : Place}

/-! ## One character -/

theorem accept?_eq_some_iff :
    p.accept? s = some q ↔
      ∃ c rest, p.after = c :: rest ∧ s.contains c ∧
        q = ⟨c :: p.before, rest, p.byte + c.utf8Size⟩ := by
  unfold Place.accept?
  cases p.after with
  | nil => simp
  | cons c rest =>
    simp only [Option.ite_none_right_eq_some, Option.some.injEq]
    constructor
    · rintro ⟨hc, rfl⟩
      exact ⟨c, rest, rfl, hc, rfl⟩
    · rintro ⟨_, _, hafter, hc, rfl⟩
      obtain ⟨rfl, rfl⟩ := List.cons.inj hafter
      exact ⟨hc, rfl⟩

theorem after_of_accept?_single {c : Char} (h : p.accept? (.single c) = some q) :
    p.after = c :: q.after := by
  obtain ⟨d, rest, hafter, hd, rfl⟩ := accept?_eq_some_iff.mp h
  simp [CharSet.contains] at hd
  simp [hafter, hd]

theorem byte_accept? (h : p.accept? s = some q) : p.byte < q.byte := by
  obtain ⟨c, rest, -, -, rfl⟩ := accept?_eq_some_iff.mp h
  simp [c.utf8Size_pos]

theorem length_after_accept? (h : p.accept? s = some q) : p.after.length = q.after.length + 1 := by
  obtain ⟨c, rest, hafter, -, rfl⟩ := accept?_eq_some_iff.mp h
  simp [hafter]

/-! ## Sequences -/

theorem ends_seq_of_accept? (h : p.accept? s = some q) (second : Pattern) :
    (seq (set s) second).ends p = second.ends q := by
  simp [ends, h]

theorem exists_of_ends_seq {second : Pattern} {stop : Place}
    (h : ((seq (set s) second).ends p).head? = some stop) :
    ∃ q, p.accept? s = some q ∧ (second.ends q).head? = some stop := by
  cases hp : p.accept? s with
  | none => simp [ends, hp] at h
  | some q => exact ⟨q, rfl, by simpa [ends, hp] using h⟩

theorem ends_seq_eq_singleton {first second : Pattern}
    (h : (first.ends p).flatMap second.ends = [q]) : (seq first second).ends p = [q] := by
  unfold ends
  split
  · next hends => simp [hends] at h
  · next r hends => simpa [hends] using h
  · rw [h]
    rfl

/-! ## Runs -/

/-- The places after any number of characters of a set, the farthest first. -/
def runs (s : CharSet) (p : Place) : List Place := runEnds s 0 none true p

theorem runs_of_accept?_none (h : p.accept? s = none) : runs s p = [p] := by
  unfold Place.accept? at h
  unfold runs runEnds
  cases hafter : p.after with
  | nil => simp [run]
  | cons c rest => simp_all [run]

theorem runs_of_accept? (h : p.accept? s = some q) : runs s p = runs s q ++ [p] := by
  obtain ⟨c, rest, hafter, hc, rfl⟩ := accept?_eq_some_iff.mp h
  simp [runs, runEnds, run, hafter, hc]

theorem runs_induction {motive : Place → Prop} (s : CharSet)
    (last : ∀ p, p.accept? s = none → motive p)
    (step : ∀ p q, p.accept? s = some q → motive q → motive p) (p : Place) : motive p := by
  induction hlength : p.after.length generalizing p with
  | zero =>
    apply last
    rw [Place.accept?, List.length_eq_zero_iff.mp hlength]
  | succ n ih =>
    cases haccept : p.accept? s with
    | none => exact last p haccept
    | some q =>
      apply step p q haccept
      apply ih
      have := length_after_accept? haccept
      omega

theorem head?_runs (s : CharSet) (p : Place) :
    ∃ stop, (runs s p).head? = some stop ∧
      stop.byte = p.byte + Text.byteLength (p.after.takeWhile s.contains) := by
  induction p using runs_induction s with
  | last p h =>
    refine ⟨p, by simp [runs_of_accept?_none h], ?_⟩
    unfold Place.accept? at h
    cases hafter : p.after with
    | nil => simp
    | cons c rest => simp_all
  | step p q h ih =>
    obtain ⟨stop, hstop, hbyte⟩ := ih
    refine ⟨stop, by simp [runs_of_accept? h, hstop], ?_⟩
    obtain ⟨c, rest, hafter, hc, rfl⟩ := accept?_eq_some_iff.mp h
    simp only at hbyte
    simp [hafter, hc, hbyte]
    omega

theorem flatMap_runs_closing {closing : CharSet} {before content rest : List Char} {byte : Nat}
    {d : Char} (inside : ∀ c ∈ content, s.contains c ∧ closing.contains c = false)
    (ended : s.contains d = false) (closes : closing.contains d) :
    (runs s ⟨before, content ++ d :: rest, byte⟩).flatMap (set closing).ends =
      [⟨d :: (content.reverse ++ before), rest, byte + Text.byteLength content + d.utf8Size⟩] := by
  -- The closing character stands nowhere in the content, so it can be taken behind all of it only.
  induction content generalizing before byte with
  | nil =>
    rw [runs_of_accept?_none (by simp [Place.accept?, ended])]
    simp [ends, Place.accept?, closes]
  | cons c content ih =>
    obtain ⟨⟨hc, hclosing⟩, inside⟩ := List.forall_mem_cons.mp inside
    rw [runs_of_accept? (q := ⟨c :: before, content ++ d :: rest, byte + c.utf8Size⟩)
      (by simp [Place.accept?, hc]), List.flatMap_append, ih inside]
    simp [ends, Place.accept?, hclosing]
    omega

/-! ## Repeated bodies -/

theorem byte_le_of_mem_runs : ∀ r ∈ runs s p, p.byte ≤ r.byte := by
  induction p using runs_induction s with
  | last p h =>
    rw [runs_of_accept?_none h]
    simp
  | step p q h ih =>
    have hlt := byte_accept? h
    rw [runs_of_accept? h]
    intro r hr
    rcases List.mem_append.mp hr with hr | hr
    · have := ih r hr
      omega
    · simp at hr
      simp [hr]

theorem distinct_of_pairwise {places : List Place}
    (h : places.Pairwise fun p q => p.byte ≠ q.byte) : distinct places = places := by
  have hfold : ∀ reached : List Place, (∀ p ∈ places, ∀ r ∈ reached, r.byte ≠ p.byte) →
      places.foldl reach reached = places.reverse ++ reached := by
    induction places with
    | nil => simp
    | cons p places ih =>
      intro reached fresh
      obtain ⟨hp, hplaces⟩ := List.pairwise_cons.mp h
      obtain ⟨hfresh, fresh⟩ := List.forall_mem_cons.mp fresh
      have hreach : reach reached p = p :: reached := by simpa [reach] using hfresh
      rw [List.foldl_cons, hreach, ih hplaces]
      · simp
      · intro q hq
        exact List.forall_mem_cons.mpr ⟨hp q hq, fresh q hq⟩
  rw [distinct, hfold [] (by simp)]
  simp

theorem distinct_runs (s : CharSet) (p : Place) : distinct (runs s p) = runs s p := by
  apply distinct_of_pairwise
  induction p using runs_induction s with
  | last p h => simp [runs_of_accept?_none h]
  | step p q h ih =>
    rw [runs_of_accept? h, List.pairwise_append]
    refine ⟨ih, by simp, ?_⟩
    intro r hr
    have := byte_le_of_mem_runs r hr
    have := byte_accept? h
    simp
    omega

/-- From here on, the body takes one character of the set, or does not match where the next character
is not in it. -/
def TakesOne (body : Place → List Place) (s : CharSet) (p : Place) : Prop :=
  ∀ r ∈ runs s p, body r = (r.accept? s).toList

theorem takesOne_last {body : Place → List Place} (h : p.accept? s = none) (hbody : body p = []) :
    TakesOne body s p := by
  unfold TakesOne
  simp [runs_of_accept?_none h, h, hbody]

theorem TakesOne.before {body : Place → List Place} (hq : TakesOne body s q)
    (h : p.accept? s = some q) (hbody : body p = [q]) : TakesOne body s p := by
  intro r hr
  rw [runs_of_accept? h] at hr
  rcases List.mem_append.mp hr with hr | hr
  · exact hq r hr
  · simp at hr
    simp [hr, h, hbody]

theorem TakesOne.next {body : Place → List Place} (h : TakesOne body s p)
    (hq : p.accept? s = some q) : TakesOne body s q := by
  intro r hr
  apply h
  rw [runs_of_accept? hq]
  exact List.mem_append_left _ hr

theorem TakesOne.here {body : Place → List Place} (h : TakesOne body s p) :
    body p = (p.accept? s).toList := by
  apply h
  cases hp : p.accept? s with
  | none => simp [runs_of_accept?_none hp]
  | some q => simp [runs_of_accept? hp]

theorem further_eq_runs {body : Place → List Place} (h : TakesOne body s p) {bound : Nat}
    (enough : p.after.length < bound) :
    further body true false bound p [] = (runs s p).reverse.map ((0, ·)) := by
  induction p using runs_induction s generalizing bound with
  | last p hp =>
    obtain ⟨bound, rfl⟩ := Nat.exists_eq_succ_of_ne_zero (Nat.ne_zero_of_lt enough)
    simp [further, h.here, hp, runs_of_accept?_none hp]
  | step p q hp ih =>
    obtain ⟨bound, rfl⟩ := Nat.exists_eq_succ_of_ne_zero (Nat.ne_zero_of_lt enough)
    have hlength := length_after_accept? hp
    have enough : q.after.length < bound := by omega
    have hrest := ih (h.next hp) enough
    simp [further, h.here, hp, byte_accept? hp, hrest, runs_of_accept? hp]

theorem atLeastOne_eq_runs {body : Place → List Place} (h : TakesOne body s p) :
    atLeastOne body true p ++ [p] = runs s p := by
  cases hp : p.accept? s with
  | none => simp [atLeastOne, h.here, hp, runs_of_accept?_none hp]
  | some q =>
    have hne : q.byte ≠ p.byte := (byte_accept? hp).ne'
    have hfurther := further_eq_runs (h.next hp) (Nat.lt_succ_self _)
    simp [atLeastOne, h.here, hp, hne, hfurther, runs_of_accept? hp, Function.comp_def]

theorem repeatEnds_eq_runs {body : Place → List Place} (h : TakesOne body s p) :
    repeatEnds body 0 none true p = runs s p := by
  simp [repeatEnds, atLeastOne_eq_runs h, distinct_runs]

end CodeEditor.Pattern
