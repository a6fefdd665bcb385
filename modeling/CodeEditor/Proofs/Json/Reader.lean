import CodeEditor.Json.Reader
import CodeEditor.Proofs.Json.Token

/-! # Documents read back

A document whose numerals can be read is read back from its text, in lines and with its members in
order. A document that has been read is such a one.
-/

namespace CodeEditor.Json

/-- All numerals in it can be read. -/
inductive Legible : Json → Prop where
  | null : Legible .null
  | bool (value : Bool) : Legible (.bool value)
  | number {value : Number.Numeral} (h : value.WellFormed) : Legible (.number value)
  | text (value : Literal) : Legible (.text value)
  | list {items : List Json} (h : ∀ item ∈ items, item.Legible) : Legible (.list items)
  | record {members : List (Literal × Json)} (h : ∀ m ∈ members, m.2.Legible) :
    Legible (.record members)

/-! ## The tokens of a document -/

mutual

def tokens : Json → List Token
  | .list [] => [.mark '[', .mark ']']
  | .list (item :: items) => .mark '[' :: (item.tokens ++ itemTokens items ++ [.mark ']'])
  | .record [] => [.mark '\x7b', .mark '\x7d']
  | .record ((name, value) :: members) =>
    .mark '\x7b' :: .scalar (.text name) :: .mark ':' ::
      (value.tokens ++ memberTokens members ++ [.mark '\x7d'])
  | scalar => [.scalar scalar]

/-- The tokens of more items of a list. -/
def itemTokens : List Json → List Token
  | [] => []
  | item :: items => .mark ',' :: (item.tokens ++ itemTokens items)

/-- The tokens of more members of a record. -/
def memberTokens : List (Literal × Json) → List Token
  | [] => []
  | (name, value) :: members =>
    .mark ',' :: .scalar (.text name) :: .mark ':' :: (value.tokens ++ memberTokens members)

end

/-! ## Reading the tokens -/

theorem ends_prettyItems (level : Nat) (items : List Json) {rest : List Char}
    (ends : Token.Ends rest) : Token.Ends (prettyItems level items ++ rest) := by
  cases items with
  | nil =>
    rw [prettyItems]
    exact ends
  | cons item items =>
    rw [prettyItems]
    exact Token.ends_cons rfl _

theorem ends_prettyMembers (level : Nat) (members : List (Literal × Json)) {rest : List Char}
    (ends : Token.Ends rest) : Token.Ends (prettyMembers level members ++ rest) := by
  cases members with
  | nil =>
    rw [prettyMembers]
    exact ends
  | cons m members =>
    rw [prettyMembers]
    exact Token.ends_cons rfl _

mutual

theorem read?_pretty (v : Json) (h : v.Legible) (level : Nat) (done : List Token)
    {rest : List Char} (ends : Token.Ends rest) :
    Token.read? .between done (v.pretty level ++ rest) =
      Token.read? .between (v.tokens.reverse ++ done) rest := by
  match v, h with
  | .null, _ => exact Token.read?_word (List.cons_ne_nil _ _) Token.isWordChar_nullText rfl ends
  | .bool value, _ =>
    exact Token.read?_word (Token.boolText_ne_nil value) (Token.isWordChar_boolText value)
      (Token.ofWord?_boolText value) ends
  | .number value, .number h => exact Token.read?_number h ends
  | .text value, _ => exact Token.read?_literalText value
  | .list [], _ => rfl
  | .list (item :: items), .list h =>
    obtain ⟨hitem, hitems⟩ := List.forall_mem_cons.mp h
    have hclose : Token.Ends (newLine level ++ ']' :: rest) := Token.ends_newLine level
    have hrest := ends_prettyItems (level + 1) items hclose
    simp only [pretty, List.cons_append, List.append_assoc, List.nil_append]
    rw [Token.read?_mark rfl, Token.read?_newLine, read?_pretty item hitem _ _ hrest,
      read?_prettyItems items hitems _ _ hclose, Token.read?_newLine,
      Token.read?_mark rfl]
    simp [tokens]
  | .record [], _ => rfl
  | .record ((name, value) :: members), .record h =>
    obtain ⟨hvalue, hmembers⟩ := List.forall_mem_cons.mp h
    have hclose : Token.Ends (newLine level ++ '\x7d' :: rest) := Token.ends_newLine level
    have hrest := ends_prettyMembers (level + 1) members hclose
    simp only [pretty, List.cons_append, List.append_assoc, List.nil_append]
    rw [Token.read?_mark rfl, Token.read?_newLine, Token.read?_literalText, Token.read?_mark rfl,
      Token.read?_blank, read?_pretty value hvalue _ _ hrest,
      read?_prettyMembers members hmembers _ _ hclose, Token.read?_newLine,
      Token.read?_mark rfl]
    simp [tokens]

theorem read?_prettyItems (items : List Json) (h : ∀ item ∈ items, item.Legible) (level : Nat)
    (done : List Token) {rest : List Char} (ends : Token.Ends rest) :
    Token.read? .between done (prettyItems level items ++ rest) =
      Token.read? .between ((itemTokens items).reverse ++ done) rest := by
  match items with
  | [] => rfl
  | item :: items =>
    obtain ⟨hitem, hitems⟩ := List.forall_mem_cons.mp h
    have hrest := ends_prettyItems level items ends
    simp only [prettyItems, List.cons_append, List.append_assoc]
    rw [Token.read?_mark rfl, Token.read?_newLine, read?_pretty item hitem _ _ hrest,
      read?_prettyItems items hitems _ _ ends]
    simp [itemTokens]

theorem read?_prettyMembers (members : List (Literal × Json)) (h : ∀ m ∈ members, m.2.Legible)
    (level : Nat) (done : List Token) {rest : List Char} (ends : Token.Ends rest) :
    Token.read? .between done (prettyMembers level members ++ rest) =
      Token.read? .between ((memberTokens members).reverse ++ done) rest := by
  match members with
  | [] => rfl
  | (name, value) :: members =>
    obtain ⟨hvalue, hmembers⟩ := List.forall_mem_cons.mp h
    have hrest := ends_prettyMembers level members ends
    simp only [prettyMembers, List.cons_append, List.append_assoc]
    rw [Token.read?_mark rfl, Token.read?_newLine, Token.read?_literalText, Token.read?_mark rfl,
      Token.read?_blank, read?_pretty value hvalue _ _ hrest,
      read?_prettyMembers members hmembers _ _ ends]
    simp [memberTokens]

end

/-! ## Building from the tokens -/

/-- Goes on with what a token leads to. -/
def resume (next? : Option (Expecting × List Frame)) (rest : List Token) : Option Json :=
  match next? with
  | some (expecting, frames) => build expecting frames rest
  | none => none

theorem build_cons (expecting : Expecting) (frames : List Frame) (token : Token)
    (rest : List Token) :
    build expecting frames (token :: rest) = resume (take expecting frames token) rest := by
  rw [build]
  rfl

theorem build_itemOrEnd (v : Json) (frames : List Frame) (rest : List Token) :
    build .itemOrEnd frames (v.tokens ++ rest) = build .value frames (v.tokens ++ rest) := by
  -- No value starts with the token that ends a list.
  match v with
  | .null => rfl
  | .bool _ => rfl
  | .number _ => rfl
  | .text _ => rfl
  | .list [] => rfl
  | .list (_ :: _) => rfl
  | .record [] => rfl
  | .record (_ :: _) => rfl

mutual

theorem build_tokens (v : Json) (frames : List Frame) (rest : List Token) :
    build .value frames (v.tokens ++ rest) = resume (place v frames) rest := by
  match v with
  | .null => rfl
  | .bool _ => rfl
  | .number _ => rfl
  | .text _ => rfl
  | .list [] => rfl
  | .list (item :: items) =>
    simp only [tokens, List.cons_append, List.append_assoc, List.nil_append]
    rw [build_cons]
    show build .itemOrEnd (.list [] :: frames) _ = _
    rw [build_itemOrEnd, build_tokens item]
    show build .commaOrEnd (.list [item] :: frames) _ = _
    rw [build_itemTokens items]
    rfl
  | .record [] => rfl
  | .record ((name, value) :: members) =>
    simp only [tokens, List.cons_append, List.append_assoc, List.nil_append]
    rw [build_cons]
    show build .value (.member [] name :: frames) _ = _
    rw [build_tokens value]
    show build .commaOrEnd (.record [(name, value)] :: frames) _ = _
    rw [build_memberTokens members]
    rfl

theorem build_itemTokens (items before : List Json) (frames : List Frame) (rest : List Token) :
    build .commaOrEnd (.list before :: frames) (itemTokens items ++ .mark ']' :: rest) =
      resume (place (.list (before.reverse ++ items)) frames) rest := by
  match items with
  | [] =>
    rw [List.append_nil]
    rfl
  | item :: items =>
    simp only [itemTokens, List.cons_append, List.append_assoc]
    rw [build_cons]
    show build .value (.list before :: frames) _ = _
    rw [build_tokens item]
    show build .commaOrEnd (.list (item :: before) :: frames) _ = _
    have h := build_itemTokens items (item :: before) frames rest
    rw [List.reverse_cons, List.append_assoc] at h
    exact h

theorem build_memberTokens (members before : List (Literal × Json)) (frames : List Frame)
    (rest : List Token) :
    build .commaOrEnd (.record before :: frames)
        (memberTokens members ++ .mark '\x7d' :: rest) =
      resume (place (.record (before.reverse ++ members)) frames) rest := by
  match members with
  | [] =>
    rw [List.append_nil]
    rfl
  | (name, value) :: members =>
    simp only [memberTokens, List.cons_append, List.append_assoc]
    rw [build_cons]
    show build .value (.member before name :: frames) _ = _
    rw [build_tokens value]
    show build .commaOrEnd (.record ((name, value) :: before) :: frames) _ = _
    have h := build_memberTokens members ((name, value) :: before) frames rest
    rw [List.reverse_cons, List.append_assoc] at h
    exact h

end

theorem parse?_of_tokens {text : List Char} {v : Json}
    (h : Token.read? .between [] text = Token.read? .between (v.tokens.reverse ++ []) []) :
    parse? text = some v := by
  have htokens : Token.ofText? text = some v.tokens := by
    unfold Token.ofText?
    rw [h, List.append_nil, Token.read?, List.reverse_reverse]
  have hbuild := build_tokens v [] []
  rw [List.append_nil] at hbuild
  unfold parse?
  rw [htokens]
  exact hbuild

/-- A document is read back as it was written. -/
theorem parse?_pretty {v : Json} (h : v.Legible) (level : Nat) :
    parse? (v.pretty level) = some v := by
  have hread := read?_pretty v h level [] Token.ends_nil
  rw [List.append_nil] at hread
  exact parse?_of_tokens hread

/-! ## What has been read -/

def Token.IsLegible : Token → Prop
  | .mark _ => True
  | .scalar value => value.Legible

namespace Token

theorem legible_ofWord? {word : List Char} {v : Json} (h : ofWord? word = some v) : v.Legible := by
  unfold ofWord? at h
  split at h
  · cases h
    exact .null
  split at h
  · cases h
    exact .bool true
  split at h
  · cases h
    exact .bool false
  · obtain ⟨n, hread, rfl⟩ := Option.map_eq_some_iff.mp h
    exact .number (Number.Numeral.wellFormed_of_read? hread)

variable {done done' tokens : List Token} {mode mode' : Mode} {c : Char}

theorem legible_start? (h : ∀ token ∈ done, token.IsLegible)
    (started : start? c done = some (mode', done')) : ∀ token ∈ done', token.IsLegible := by
  unfold start? at started
  split at started
  · cases started
    exact h
  split at started
  · cases started
    exact List.forall_mem_cons.mpr ⟨trivial, h⟩
  split at started
  · cases started
    exact h
  split at started
  · cases started
    exact h
  · cases started

theorem legible_step? (h : ∀ token ∈ done, token.IsLegible)
    (stepped : step? mode done c = some (mode', done')) : ∀ token ∈ done', token.IsLegible := by
  cases mode with
  | between => exact legible_start? h stepped
  | inWord word =>
    simp only [step?] at stepped
    split at stepped
    · cases stepped
      exact h
    · obtain ⟨v, hword, hstart⟩ := Option.bind_eq_some_iff.mp stepped
      have hv : IsLegible (.scalar v) := legible_ofWord? hword
      exact legible_start? (List.forall_mem_cons.mpr ⟨hv, h⟩) hstart
  | inText t =>
    simp only [step?] at stepped
    split at stepped
    · cases stepped
      exact List.forall_mem_cons.mpr ⟨Legible.text _, h⟩
    split at stepped
    · cases stepped
      exact h
    split at stepped
    · cases stepped
    · cases stepped
      exact h
  | escape t =>
    simp only [step?] at stepped
    split at stepped
    · cases stepped
      exact h
    · obtain ⟨_, -, hnamed⟩ := Option.map_eq_some_iff.mp stepped
      cases hnamed
      exact h
  | unit t code lacking =>
    obtain ⟨value, -, hvalue⟩ := Option.bind_eq_some_iff.mp stepped
    split at hvalue <;> cases hvalue <;> exact h

theorem legible_read? {text : List Char} (h : ∀ token ∈ done, token.IsLegible)
    (read : read? mode done text = some tokens) : ∀ token ∈ tokens, token.IsLegible := by
  induction text generalizing mode done with
  | nil =>
    unfold read? at read
    split at read
    · cases read
      exact fun token hmem => h token (List.mem_reverse.mp hmem)
    · obtain ⟨v, hword, rfl⟩ := Option.map_eq_some_iff.mp read
      have hv : IsLegible (.scalar v) := legible_ofWord? hword
      intro token hmem
      exact List.forall_mem_cons.mpr ⟨hv, h⟩ token (List.mem_reverse.mp hmem)
    · cases read
  | cons c cs ih =>
    unfold read? at read
    split at read
    · next hstep => exact ih (legible_step? h hstep) read
    · cases read

end Token

def Frame.IsLegible : Frame → Prop
  | .list items => ∀ item ∈ items, item.Legible
  | .record members => ∀ m ∈ members, m.2.Legible
  | .member members _ => ∀ m ∈ members, m.2.Legible

/-- What is still open, and the document if it is complete. -/
structure Begun (expecting : Expecting) (frames : List Frame) : Prop where
  frames : ∀ frame ∈ frames, frame.IsLegible
  document : ∀ v, expecting = .nothing v → v.Legible

variable {expecting expecting' : Expecting} {frames frames' : List Frame} {token : Token} {v : Json}

theorem begun_place (h : ∀ frame ∈ frames, frame.IsLegible) (value : v.Legible)
    (placed : place v frames = some (expecting', frames')) : Begun expecting' frames' := by
  unfold place at placed
  split at placed
  · cases placed
    refine ⟨List.forall_mem_nil _, ?_⟩
    rintro _ ⟨⟩
    exact value
  · cases placed
    obtain ⟨hframe, hframes⟩ := List.forall_mem_cons.mp h
    exact ⟨List.forall_mem_cons.mpr ⟨List.forall_mem_cons.mpr ⟨value, hframe⟩, hframes⟩, nofun⟩
  · cases placed
    obtain ⟨hframe, hframes⟩ := List.forall_mem_cons.mp h
    exact ⟨List.forall_mem_cons.mpr ⟨List.forall_mem_cons.mpr ⟨value, hframe⟩, hframes⟩, nofun⟩
  · cases placed

theorem begun_beginValue (h : ∀ frame ∈ frames, frame.IsLegible) (legible : token.IsLegible)
    (begun : beginValue token frames = some (expecting', frames')) : Begun expecting' frames' := by
  unfold beginValue at begun
  split at begun
  · exact begun_place h legible begun
  split at begun
  · cases begun
    exact ⟨List.forall_mem_cons.mpr ⟨List.forall_mem_nil _, h⟩, nofun⟩
  split at begun
  · cases begun
    exact ⟨List.forall_mem_cons.mpr ⟨List.forall_mem_nil _, h⟩, nofun⟩
  · cases begun

theorem begun_endFrame {c : Char} (h : ∀ frame ∈ frames, frame.IsLegible)
    (ended : endFrame c frames = some (expecting', frames')) : Begun expecting' frames' := by
  unfold endFrame at ended
  split at ended
  · obtain ⟨hframe, hframes⟩ := List.forall_mem_cons.mp h
    split at ended
    · refine begun_place hframes (.list ?_) ended
      exact fun item hitem => hframe item (List.mem_reverse.mp hitem)
    · cases ended
  · obtain ⟨hframe, hframes⟩ := List.forall_mem_cons.mp h
    split at ended
    · refine begun_place hframes (.record ?_) ended
      exact fun m hm => hframe m (List.mem_reverse.mp hm)
    · cases ended
  · cases ended

theorem begun_beginMember (h : ∀ frame ∈ frames, frame.IsLegible)
    (begun : beginMember token frames = some (expecting', frames')) : Begun expecting' frames' := by
  unfold beginMember at begun
  split at begun
  · cases begun
    obtain ⟨hframe, hframes⟩ := List.forall_mem_cons.mp h
    exact ⟨List.forall_mem_cons.mpr ⟨hframe, hframes⟩, nofun⟩
  · cases begun

theorem begun_take (h : ∀ frame ∈ frames, frame.IsLegible) (legible : token.IsLegible)
    (taken : take expecting frames token = some (expecting', frames')) :
    Begun expecting' frames' := by
  unfold take at taken
  split at taken
  · exact begun_beginValue h legible taken
  · split at taken
    · exact begun_endFrame h taken
    · exact begun_beginValue h legible taken
  · exact begun_beginValue h legible taken
  · exact begun_endFrame h taken
  · exact begun_beginMember h taken
  · exact begun_beginMember h taken
  · cases taken
    exact ⟨h, nofun⟩
  · split at taken
    · cases taken
      exact ⟨h, nofun⟩
    · cases taken
      exact ⟨h, nofun⟩
    · cases taken
  · exact begun_endFrame h taken
  · cases taken

theorem legible_build {tokens : List Token} (h : Begun expecting frames)
    (legible : ∀ token ∈ tokens, token.IsLegible) (built : build expecting frames tokens = some v) :
    v.Legible := by
  induction tokens generalizing expecting frames with
  | nil =>
    unfold build at built
    split at built
    · cases built
      exact h.document v rfl
    · cases built
  | cons token rest ih =>
    obtain ⟨hhere, hlater⟩ := List.forall_mem_cons.mp legible
    unfold build at built
    split at built
    · next htake => exact ih (begun_take h.frames hhere htake) hlater built
    · cases built

theorem legible_of_parse? {text : List Char} (h : parse? text = some v) : v.Legible := by
  obtain ⟨tokens, htokens, hbuild⟩ := Option.bind_eq_some_iff.mp h
  have hstart : Begun .value [] := ⟨List.forall_mem_nil _, nofun⟩
  exact legible_build hstart (Token.legible_read? (List.forall_mem_nil _) htokens) hbuild

end CodeEditor.Json
