import CodeEditor.Proofs.Json.Reader

/-! # Documents on one line

What is written without any blanks is read back too.
-/

namespace CodeEditor.Json

theorem ends_compactItems (items : List Json) {rest : List Char} (ends : Token.Ends rest) :
    Token.Ends (compactItems items ++ rest) := by
  cases items with
  | nil => simpa [compactItems] using ends
  | cons item items =>
    rw [compactItems]
    exact Token.ends_cons rfl _

theorem ends_compactMembers (members : List (Literal × Json)) {rest : List Char}
    (ends : Token.Ends rest) : Token.Ends (compactMembers members ++ rest) := by
  cases members with
  | nil => simpa [compactMembers] using ends
  | cons m members =>
    rw [compactMembers]
    exact Token.ends_cons rfl _

mutual

theorem read?_compact (v : Json) (h : v.Legible) (done : List Token) {rest : List Char}
    (ends : Token.Ends rest) :
    Token.read? .between done (v.compact ++ rest) =
      Token.read? .between (v.tokens.reverse ++ done) rest := by
  match v, h with
  | .null, _ => exact Token.read?_word (List.cons_ne_nil _ _) Token.isWordChar_nullText rfl ends
  | .bool value, _ =>
    exact Token.read?_word (Token.boolText_ne_nil value) (Token.isWordChar_boolText value)
      (Token.ofWord?_boolText value) ends
  | .number value, .number h => exact Token.read?_number h ends
  | .text value, _ => exact Token.read?_literalText value
  | .list [], _ => rfl
  | .list (item :: items), .list h =>
    obtain ⟨hitem, hitems⟩ := List.forall_mem_cons.mp h
    have hclose : Token.Ends (']' :: rest) := Token.ends_cons rfl rest
    have hrest := ends_compactItems items hclose
    simp only [compact, List.cons_append, List.append_assoc, List.nil_append]
    rw [Token.read?_mark rfl, read?_compact item hitem _ hrest, read?_compactItems items hitems _ hclose,
      Token.read?_mark rfl]
    simp [tokens]
  | .record [], _ => rfl
  | .record ((name, value) :: members), .record h =>
    obtain ⟨hvalue, hmembers⟩ := List.forall_mem_cons.mp h
    -- A value is followed by a comma or by the end of the list or record, so a number ends there.
    have hclose : Token.Ends ('\x7d' :: rest) := Token.ends_cons rfl rest
    have hrest := ends_compactMembers members hclose
    simp only [compact, List.cons_append, List.append_assoc, List.nil_append]
    rw [Token.read?_mark rfl, Token.read?_literalText, Token.read?_mark rfl,
      read?_compact value hvalue _ hrest, read?_compactMembers members hmembers _ hclose,
      Token.read?_mark rfl]
    simp [tokens]

theorem read?_compactItems (items : List Json) (h : ∀ item ∈ items, item.Legible)
    (done : List Token) {rest : List Char} (ends : Token.Ends rest) :
    Token.read? .between done (compactItems items ++ rest) =
      Token.read? .between ((itemTokens items).reverse ++ done) rest := by
  match items with
  | [] => rfl
  | item :: items =>
    obtain ⟨hitem, hitems⟩ := List.forall_mem_cons.mp h
    have hrest := ends_compactItems items ends
    simp only [compactItems, List.cons_append, List.append_assoc]
    rw [Token.read?_mark rfl, read?_compact item hitem _ hrest, read?_compactItems items hitems _ ends]
    simp [itemTokens]

theorem read?_compactMembers (members : List (Literal × Json)) (h : ∀ m ∈ members, m.2.Legible)
    (done : List Token) {rest : List Char} (ends : Token.Ends rest) :
    Token.read? .between done (compactMembers members ++ rest) =
      Token.read? .between ((memberTokens members).reverse ++ done) rest := by
  match members with
  | [] => rfl
  | (name, value) :: members =>
    obtain ⟨hvalue, hmembers⟩ := List.forall_mem_cons.mp h
    have hrest := ends_compactMembers members ends
    simp only [compactMembers, List.cons_append, List.append_assoc]
    rw [Token.read?_mark rfl, Token.read?_literalText, Token.read?_mark rfl,
      read?_compact value hvalue _ hrest, read?_compactMembers members hmembers _ ends]
    simp [memberTokens]

end

theorem parse?_compact {v : Json} (h : v.Legible) : parse? v.compact = some v := by
  have hread := read?_compact v h [] Token.ends_nil
  rw [List.append_nil] at hread
  exact parse?_of_tokens hread

end CodeEditor.Json
