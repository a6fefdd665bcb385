import CodeEditor.Proofs.Occurrences
import CodeEditor.Proofs.Text.Utf8

/-! # Markers found by their bytes

In UTF-8 no byte inside a character starts one. So a search that goes from byte to byte finds a marker
at the same places as one that goes from character to character.
-/

namespace CodeEditor.Text.Utf8

variable {marker text : List Char} {sought bytes rest : List UInt8}

/-- The places of some bytes among others, leftmost first, each from the end of the one before.
`covered` bytes still belong to the last one. -/
def search (sought : List UInt8) (covered position : Nat) : List UInt8 → List Span
  | [] => []
  | b :: bs =>
    match covered with
    | covered + 1 => search sought covered (position + 1) bs
    | 0 =>
      if sought.isPrefixOf (b :: bs) then
        ⟨position, position + sought.length⟩ :: search sought (sought.length - 1) (position + 1) bs
      else search sought 0 (position + 1) bs

theorem search_covered (sought : List UInt8) (covered position : Nat) (bytes : List UInt8) :
    search sought covered position bytes =
      search sought 0 (position + covered) (bytes.drop covered) := by
  induction bytes generalizing covered position with
  | nil => simp [search]
  | cons b bs ih =>
    cases covered with
    | zero => rfl
    | succ covered =>
      rw [search, ih, List.drop_succ_cons]
      congr 1
      omega

theorem search_of_prefix (filled : sought ≠ []) (position : Nat) (rest : List UInt8) :
    search sought 0 position (sought ++ rest) =
      ⟨position, position + sought.length⟩ ::
        search sought 0 (position + sought.length) rest := by
  obtain ⟨b, bs, rfl⟩ := List.exists_cons_of_ne_nil filled
  have hprefix : (b :: bs).isPrefixOf (b :: (bs ++ rest)) = true := by
    rw [List.isPrefixOf_iff_prefix]
    exact List.prefix_append (b :: bs) rest
  rw [List.cons_append, search, if_pos hprefix, search_covered]
  simp only [List.length_cons, Nat.add_sub_cancel, List.drop_left]
  congr 2
  omega

theorem search_of_mismatch {b : UInt8} (h : ¬ sought <+: b :: rest) (position : Nat) :
    search sought 0 position (b :: rest) = search sought 0 (position + 1) rest := by
  rw [search, if_neg]
  rwa [List.isPrefixOf_iff_prefix]

/-! ## Bytes inside a character -/

theorem chars_of_leadOf_none {b : UInt8} (h : leadOf b = none) :
    chars none (b :: rest) = none :: chars none rest := by
  simp only [chars, h]

theorem leadOf_tailByte (n : Nat) : leadOf (tailByte n) = none := by
  have hbyte := toNat_tailByte n
  unfold leadOf
  rw [if_neg, if_pos]
  · rw [UInt8.lt_iff_toNat_lt, hbyte]
    simp
    omega
  · rw [UInt8.lt_iff_toNat_lt, hbyte]
    simp

theorem leadOf_of_mem_tail {c : Char} {b : UInt8} (h : b ∈ (String.utf8EncodeChar c).tail) :
    leadOf b = none := by
  have htail : ∃ n, b = tailByte n := by
    unfold String.utf8EncodeChar at h
    simp only at h
    split at h
    · cases h
    split at h
    · exact ⟨c.toNat, List.mem_singleton.mp h⟩
    split at h
    · simp only [List.tail_cons, List.mem_cons, List.not_mem_nil, or_false] at h
      rcases h with h | h
      · exact ⟨c.toNat / 64, h⟩
      · exact ⟨c.toNat, h⟩
    · simp only [List.tail_cons, List.mem_cons, List.not_mem_nil, or_false] at h
      rcases h with h | h | h
      · exact ⟨c.toNat / 4096, h⟩
      · exact ⟨c.toNat / 64, h⟩
      · exact ⟨c.toNat, h⟩
  obtain ⟨n, rfl⟩ := htail
  exact leadOf_tailByte n

theorem not_prefix_of_leadOf_none {b : UInt8} (filled : marker ≠ []) (h : leadOf b = none) :
    ¬ encode marker <+: b :: rest := by
  rintro ⟨more, hmore⟩
  obtain ⟨m, ms, rfl⟩ := List.exists_cons_of_ne_nil filled
  have hread := congrArg (chars none) hmore
  rw [chars_encode_append, chars_of_leadOf_none h] at hread
  simp at hread

theorem search_of_inside (filled : marker ≠ []) (inside : ∀ b ∈ bytes, leadOf b = none)
    (position : Nat) (rest : List UInt8) :
    search (encode marker) 0 position (bytes ++ rest) =
      search (encode marker) 0 (position + bytes.length) rest := by
  induction bytes generalizing position with
  | nil => rfl
  | cons b bs ih =>
    obtain ⟨hb, hbs⟩ := List.forall_mem_cons.mp inside
    rw [List.cons_append, search_of_mismatch (not_prefix_of_leadOf_none filled hb), ih hbs,
      List.length_cons]
    congr 1
    omega

/-! ## From character to character -/

theorem length_encode (text : List Char) : (encode text).length = byteLength text := by
  unfold encode
  induction text with
  | nil => rfl
  | cons c cs ih =>
    rw [List.flatMap_cons, List.length_append, ih, String.length_utf8EncodeChar, byteLength_cons]

theorem encode_append (a b : List Char) : encode (a ++ b) = encode a ++ encode b :=
  List.flatMap_append

theorem prefix_of_prefix_encode (h : encode marker <+: encode text) : marker <+: text := by
  obtain ⟨more, hmore⟩ := h
  have hread := congrArg (chars none) hmore
  rw [chars_encode_append, chars_encode] at hread
  obtain ⟨front, back, rfl, hfront, -⟩ := List.map_eq_append_iff.mp hread.symm
  obtain rfl := (List.map_injective_iff.mpr (Option.some_injective Char)) hfront
  exact List.prefix_append front back

theorem search_of_absent {c : Char} {rest : List Char} (filled : marker ≠ [])
    (h : ¬ marker <+: c :: rest) (position : Nat) :
    search (encode marker) 0 position (encode (c :: rest)) =
      search (encode marker) 0 (position + c.utf8Size) (encode rest) := by
  have hlead : encode (c :: rest) = String.utf8EncodeChar c ++ encode rest := List.flatMap_cons
  have hnone : ¬ encode marker <+: encode (c :: rest) := fun hprefix =>
    h (prefix_of_prefix_encode hprefix)
  have hlength := String.length_utf8EncodeChar c
  have hinside := @leadOf_of_mem_tail c
  rw [hlead] at hnone ⊢
  -- The first byte of the character starts no match, and the others are inside it.
  cases hbytes : String.utf8EncodeChar c with
  | nil =>
    have := c.utf8Size_pos
    rw [hbytes, List.length_nil] at hlength
    omega
  | cons b bs =>
    rw [hbytes] at hnone hlength hinside
    rw [List.cons_append] at hnone ⊢
    have hskip := search_of_inside filled (fun b (hb : b ∈ bs) => hinside hb) (position + 1)
      (encode rest)
    rw [search_of_mismatch hnone, hskip, ← hlength, List.length_cons]
    congr 1
    omega

end CodeEditor.Text.Utf8

namespace CodeEditor.Occurrences

open Text.Utf8

variable {marker text found : List Char}

theorem spells_sensitive : Spells .sensitive marker found ↔ found = marker := by
  have hsame : (fun c m : Char => CaseMode.sensitive.same c m = true) = Eq := by
    funext c m
    exact propext beq_iff_eq
  unfold Spells
  rw [hsame, List.forall₂_eq_eq_eq]

theorem search_encode (filled : marker ≠ []) (text : List Char) (position : Nat) :
    search (encode marker) 0 position (encode text) = scan .sensitive marker 0 position text := by
  obtain ⟨ts, hts⟩ : ∃ ts, Taken .sensitive marker text ts := exists_taken filled text
  induction hts generalizing position with
  | done => rfl
  | @skip c rest ts absent later ih =>
    have hnone : ¬ marker <+: c :: rest := by
      rintro ⟨after, hafter⟩
      exact absent ⟨marker, after, hafter.symm, spells_sensitive.mpr rfl⟩
    rw [search_of_absent filled hnone, scan_of_absent absent, ih]
  | @take found rest ts spells later ih =>
    obtain rfl := spells_sensitive.mp spells
    have hbytes : encode found ≠ [] := by
      intro hnil
      have hlength := length_encode found
      rw [hnil, List.length_nil] at hlength
      exact filled ((Text.byteLength_eq_zero found).mp hlength.symm)
    rw [encode_append, search_of_prefix hbytes, scan_of_spells filled spells, length_encode, ih]

end CodeEditor.Occurrences
