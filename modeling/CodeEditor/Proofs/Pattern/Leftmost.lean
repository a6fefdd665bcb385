import CodeEditor.Proofs.Pattern.Place
import CodeEditor.Proofs.Boundary

/-! # The matches of a regular pattern

Each match starts at a place where the pattern matches and stops where the pattern ends first. None is
left out: a place where the pattern matches lies in a match that starts there or before.
-/

namespace CodeEditor.Pattern

variable {pattern : Pattern} {text : List Char} {p q stop : Place}

/-! ## Places of one text -/

theorem Place.LiesIn.eq_of_byte (hp : p.LiesIn text) (hq : q.LiesIn text) (h : p.byte = q.byte) :
    p = q := by
  obtain ⟨before, after, byte⟩ := p
  obtain ⟨before', after', byte'⟩ := q
  obtain ⟨haround, hbyte⟩ := hp
  obtain ⟨haround', hbyte'⟩ := hq
  simp only at haround hbyte haround' hbyte' h
  have hsplit := Text.splitAtByte_byteLength before.reverse after
  have hsplit' := Text.splitAtByte_byteLength before'.reverse after'
  rw [← haround, ← hbyte, h, haround', hbyte', hsplit'] at hsplit
  simp only [Prod.mk.injEq, List.reverse_inj] at hsplit
  rw [hsplit.1, hsplit.2, h]

theorem Place.LiesIn.byte_add_le {before rest : List Char} {c : Char} {byte : Nat}
    (h : Place.LiesIn text ⟨before, c :: rest, byte⟩) (hp : p.LiesIn text) (past : byte < p.byte) :
    byte + c.utf8Size ≤ p.byte := by
  obtain ⟨haround, hbyte⟩ := h
  simp only at haround hbyte
  subst haround hbyte
  exact Text.behind_le_of_isBoundary hp.isBoundary past

/-! ## Matches and places -/

theorem matchAt_regular (pattern : Pattern) (p : Place) (left : Nat) :
    pattern.matchAt true p left =
      match (pattern.ends p).head? with
      | some stop => .found stop [] left
      | none => .failed left := by
  unfold matchAt
  cases pattern.ends p <;> rfl

theorem exists_place_of_mem_scan {resume left : Nat} {before after : List Char} {byte : Nat}
    (h : Place.LiesIn text ⟨before, after, byte⟩) {s : Span}
    (hs : s ∈ pattern.scan true resume left before byte after) :
    ∃ p stop, p.LiesIn text ∧ (pattern.ends p).head? = some stop ∧ s = ⟨p.byte, stop.byte⟩ := by
  induction after generalizing resume left before byte with
  | nil => simp [scan] at hs
  | cons c rest ih =>
    have hnext := liesIn_advance h
    rw [scan, matchAt_regular] at hs
    split at hs
    · exact ih hnext hs
    · cases hends : (pattern.ends ⟨before, c :: rest, byte⟩).head? with
      | none =>
        simp only [hends] at hs
        exact ih hnext hs
      | some stop =>
        simp only [hends] at hs
        split at hs
        · rcases List.mem_cons.mp hs with rfl | hs
          · exact ⟨_, stop, h, hends, rfl⟩
          · exact ih hnext hs
        · exact ih hnext hs

theorem exists_scan_over {resume left : Nat} {before after : List Char} {byte : Nat}
    (h : Place.LiesIn text ⟨before, after, byte⟩) (hp : p.LiesIn text)
    (hends : (pattern.ends p).head? = some stop) (nonempty : p.byte < stop.byte)
    (ahead : byte ≤ p.byte) (free : resume ≤ p.byte) :
    ∃ s ∈ pattern.scan true resume left before byte after, s.start ≤ p.byte ∧ p.byte < s.stop := by
  induction after generalizing resume left before byte with
  | nil =>
    -- At the end of the text only the empty match is left.
    have hstop : stop.LiesIn text := keeps_ends pattern p hp stop (List.mem_of_mem_head? hends)
    have := hstop.isBoundary.le_byteLength
    obtain ⟨haround, hbyte⟩ := h
    simp only [List.append_nil] at haround hbyte
    rw [haround] at this
    omega
  | cons c rest ih =>
    have hnext := liesIn_advance h
    rcases Nat.eq_or_lt_of_le ahead with hhere | hlater
    · have : p = ⟨before, c :: rest, byte⟩ := hp.eq_of_byte h hhere.symm
      subst this
      refine ⟨⟨byte, stop.byte⟩, ?_, ahead, nonempty⟩
      rw [scan, matchAt_regular, if_neg (Nat.not_lt.mpr free), hends]
      simp only at nonempty
      simp [nonempty]
    · have ahead := h.byte_add_le hp hlater
      rw [scan, matchAt_regular]
      split
      · exact ih hnext ahead free
      · cases hfound : (pattern.ends ⟨before, c :: rest, byte⟩).head? with
        | none => exact ih hnext ahead free
        | some found =>
          simp only
          split
          · rcases Nat.lt_or_ge p.byte found.byte with hcovered | hbeyond
            · exact ⟨_, List.mem_cons_self, hlater.le, hcovered⟩
            · obtain ⟨s, hs, hover⟩ := ih hnext ahead hbeyond
              exact ⟨s, List.mem_cons_of_mem _ hs, hover⟩
          · exact ih hnext ahead free

theorem exists_place_of_mem_matchesIn (regular : pattern.isRegular) {s : Span}
    (hs : s ∈ pattern.matchesIn text) :
    ∃ p stop, p.LiesIn text ∧ (pattern.ends p).head? = some stop ∧ s = ⟨p.byte, stop.byte⟩ := by
  rw [matchesIn, regular] at hs
  exact exists_place_of_mem_scan ⟨rfl, rfl⟩ hs

/-- A place where the pattern matches lies in a match. -/
theorem exists_match_over (regular : pattern.isRegular) (hp : p.LiesIn text)
    (hends : (pattern.ends p).head? = some stop) (nonempty : p.byte < stop.byte) :
    ∃ s ∈ pattern.matchesIn text, s.start ≤ p.byte ∧ p.byte < s.stop := by
  rw [matchesIn, regular]
  exact exists_scan_over ⟨rfl, rfl⟩ hp hends nonempty (Nat.zero_le _) (Nat.zero_le _)

end CodeEditor.Pattern
