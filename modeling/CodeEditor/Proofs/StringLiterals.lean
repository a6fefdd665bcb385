import CodeEditor.Builtin
import CodeEditor.Proofs.Layers
import CodeEditor.Proofs.Pattern.Leftmost
import CodeEditor.Proofs.Pattern.Repetition

/-! # String literals

With the built-in grammar a string literal has the color of strings, whatever stands in it. Only the
rule for comments comes after that for strings, so two slashes in the literal begin a comment.
-/

namespace CodeEditor.Builtin

open Pattern

/-! ## The last two rules -/

def stringRule : Rule := ⟨"Strings", "\"(?:[^\"\\\\\\n]|\\\\.)*\""⟩

def commentRule : Rule := ⟨"Comments", "//[^\\n]*"⟩

theorem rules_ppl : ppl.rules = ppl.rules.take 10 ++ [stringRule, commentRule] := rfl

/-- What stands for itself in a string literal. -/
def literalChar : CharSet :=
  .complement (.union (.union (.single '"') (.single '\\')) (.single '\n'))

def notLineFeed : CharSet := .complement (.single '\n')

def literalBody : Pattern :=
  .alt (.set literalChar) (.seq (.set (.single '\\')) (.set notLineFeed))

def stringPattern : Pattern :=
  .seq (.set (.single '"')) (.seq (.repeat 0 none true literalBody) (.set (.single '"')))

def commentPattern : Pattern :=
  .seq (.set (.single '/')) (.seq (.set (.single '/')) (.repeat 0 none true (.set notLineFeed)))

theorem pattern?_stringRule : stringRule.pattern? = some ("Strings", stringPattern) := by
  decide +kernel

theorem pattern?_commentRule : commentRule.pattern? = some ("Comments", commentPattern) := by
  decide +kernel

theorem isRegular_stringPattern : stringPattern.isRegular := by decide

theorem isRegular_commentPattern : commentPattern.isRegular := by decide

/-! ## Where a string ends -/

theorem contains_literalChar {c : Char} (h : c ≠ '"' ∧ c ≠ '\\' ∧ c ≠ '\n') :
    literalChar.contains c ∧ (CharSet.single '"').contains c = false := by
  simp [literalChar, CharSet.contains, h]

theorem ends_literalBody {p : Place} (h : p.accept? (.single '\\') = none) :
    literalBody.ends p = (p.accept? literalChar).toList := by
  unfold literalBody
  cases hp : p.accept? literalChar <;> simp [ends, hp, h]
  rfl

theorem takesOne_literalBody {content rest before : List Char} {byte : Nat}
    (plain : ∀ c ∈ content, c ≠ '"' ∧ c ≠ '\\' ∧ c ≠ '\n') :
    TakesOne literalBody.ends literalChar ⟨before, content ++ '"' :: rest, byte⟩ := by
  induction content generalizing before byte with
  | nil =>
    have hquote : literalChar.contains '"' = false := by decide
    have hstop : Place.accept? ⟨before, '"' :: rest, byte⟩ literalChar = none := by
      simp [Place.accept?, hquote]
    have hescape : Place.accept? ⟨before, '"' :: rest, byte⟩ (.single '\\') = none := by
      simp [Place.accept?, CharSet.contains]
    apply takesOne_last hstop
    rw [ends_literalBody hescape, hstop]
    rfl
  | cons c content ih =>
    obtain ⟨hc, plain⟩ := List.forall_mem_cons.mp plain
    have hnext : Place.accept? ⟨before, c :: (content ++ '"' :: rest), byte⟩ literalChar =
        some ⟨c :: before, content ++ '"' :: rest, byte + c.utf8Size⟩ := by
      simp [Place.accept?, contains_literalChar hc]
    have hescape :
        Place.accept? ⟨before, c :: (content ++ '"' :: rest), byte⟩ (.single '\\') = none := by
      simp [Place.accept?, CharSet.contains, hc]
    apply (ih plain).before hnext
    rw [ends_literalBody hescape, hnext]
    rfl

theorem ends_stringPattern {content rest before : List Char} {byte : Nat}
    (plain : ∀ c ∈ content, c ≠ '"' ∧ c ≠ '\\' ∧ c ≠ '\n') :
    stringPattern.ends ⟨before, '"' :: (content ++ '"' :: rest), byte⟩ =
      [⟨'"' :: (content.reverse ++ '"' :: before), rest, byte + Text.byteLength content + 2⟩] := by
  have hopen : Place.accept? ⟨before, '"' :: (content ++ '"' :: rest), byte⟩ (.single '"') =
      some ⟨'"' :: before, content ++ '"' :: rest, byte + 1⟩ := by
    simp [Place.accept?, CharSet.contains]
    rfl
  have hclosing : (runs literalChar ⟨'"' :: before, content ++ '"' :: rest, byte + 1⟩).flatMap
      (set (.single '"')).ends =
      [⟨'"' :: (content.reverse ++ '"' :: before), rest,
        byte + 1 + Text.byteLength content + '"'.utf8Size⟩] :=
    flatMap_runs_closing (fun c hc => contains_literalChar (plain c hc)) (by decide) (by decide)
  have hsize : byte + 1 + Text.byteLength content + '"'.utf8Size =
      byte + Text.byteLength content + 2 := by
    have : '"'.utf8Size = 1 := by decide
    omega
  rw [stringPattern, ends_seq_of_accept? hopen]
  apply ends_seq_eq_singleton
  rw [← hsize, ← hclosing]
  congr 1
  exact repeatEnds_eq_runs (takesOne_literalBody plain)

theorem quote_of_ends_stringPattern {p stop : Place}
    (h : (stringPattern.ends p).head? = some stop) : ∃ rest, p.after = '"' :: rest := by
  obtain ⟨q, hq, -⟩ := exists_of_ends_seq h
  exact ⟨q.after, after_of_accept?_single hq⟩

/-! ## Where a comment ends -/

theorem accept?_slash (before rest : List Char) (byte : Nat) :
    Place.accept? ⟨before, '/' :: rest, byte⟩ (.single '/') =
      some ⟨'/' :: before, rest, byte + 1⟩ := by
  simp [Place.accept?, CharSet.contains]
  rfl

theorem ends_commentPattern (before rest : List Char) (byte : Nat) :
    ∃ stop, (commentPattern.ends ⟨before, '/' :: '/' :: rest, byte⟩).head? = some stop ∧
      stop.byte = byte + 2 + Text.byteLength (rest.takeWhile (· != '\n')) := by
  have hends : commentPattern.ends ⟨before, '/' :: '/' :: rest, byte⟩ =
      runs notLineFeed ⟨'/' :: '/' :: before, rest, byte + 2⟩ := by
    rw [commentPattern, ends_seq_of_accept? (accept?_slash _ _ _),
      ends_seq_of_accept? (accept?_slash _ _ _)]
    rfl
  rw [hends]
  exact head?_runs notLineFeed ⟨'/' :: '/' :: before, rest, byte + 2⟩

theorem slashes_of_ends_commentPattern {p stop : Place}
    (h : (commentPattern.ends p).head? = some stop) : ∃ rest, p.after = '/' :: '/' :: rest := by
  obtain ⟨q, hq, hends⟩ := exists_of_ends_seq h
  obtain ⟨r, hr, -⟩ := exists_of_ends_seq hends
  refine ⟨r.after, ?_⟩
  rw [after_of_accept?_single hq, after_of_accept?_single hr]

/-! ## The bytes of a literal -/

def literal (content : List Char) : List Char := '"' :: (content ++ ['"'])

/-- Two slashes stand in the literal, at this byte or before. -/
def Commented (content : List Char) (byte : Nat) : Prop :=
  ∃ front back, literal content = front ++ '/' :: '/' :: back ∧ Text.byteLength front ≤ byte

/-- The pattern has a match over the byte. -/
def Reaches (pattern : Pattern) (text : List Char) (byte : Nat) : Prop :=
  ∃ s ∈ pattern.matchesIn text, s.start ≤ byte ∧ byte < s.stop

theorem byteLength_literal (content : List Char) :
    Text.byteLength (literal content) = Text.byteLength content + 2 := by
  have : '"'.utf8Size = 1 := by decide
  simp [literal]
  omega

section Literal

variable {before content after : List Char} {byte : Nat}

theorem byteLength_le_of_not_mem {p : Place} {d : Char} {rest : List Char}
    (hp : p.LiesIn (before ++ after)) (hafter : p.after = d :: rest) (absent : d ∉ before) :
    Text.byteLength before ≤ p.byte := by
  by_contra hlt
  have hsplit : [] ++ before ++ after = p.before.reverse ++ d :: rest := by
    rw [← hafter, ← hp.around]
    rfl
  have hfirst : Text.byteLength p.before.reverse < Text.byteLength ([] ++ before) := by
    rw [← hp.byte]
    simp
    omega
  obtain ⟨x, y, hx, -⟩ := Text.exists_split_inside hsplit (by simp) hfirst
  exact absent (by simp [hx])

theorem string_reaches (unquoted : '"' ∉ before)
    (plain : ∀ c ∈ content, c ≠ '"' ∧ c ≠ '\\' ∧ c ≠ '\n')
    (inside : byte < Text.byteLength (literal content)) :
    Reaches stringPattern (before ++ literal content ++ after) (Text.byteLength before + byte) := by
  have hends : stringPattern.ends
      ⟨before.reverse, '"' :: (content ++ '"' :: after), Text.byteLength before⟩ = _ :=
    ends_stringPattern plain
  have hlies : Place.LiesIn (before ++ literal content ++ after)
      ⟨before.reverse, '"' :: (content ++ '"' :: after), Text.byteLength before⟩ := by
    constructor <;> simp [literal]
  obtain ⟨s, hs, hstart, hstop⟩ :=
    exists_match_over isRegular_stringPattern hlies (by rw [hends]; rfl) (by simp; omega)
  obtain ⟨p, stop, hp, hpends, rfl⟩ := exists_place_of_mem_matchesIn isRegular_stringPattern hs
  -- The match begins at a quotation mark, so it does not begin before the literal.
  obtain ⟨rest, hrest⟩ := quote_of_ends_stringPattern hpends
  have hge : Text.byteLength before ≤ p.byte := by
    rw [List.append_assoc] at hp
    exact byteLength_le_of_not_mem hp hrest unquoted
  obtain rfl := hp.eq_of_byte hlies (le_antisymm hstart hge)
  rw [hends] at hpends
  cases hpends
  rw [byteLength_literal] at inside
  exact ⟨_, hs, by simp, by simp; omega⟩

theorem byteLength_le_of_ends_commentPattern {p stop : Place} {inside : List Char}
    (hp : p.LiesIn (before ++ inside ++ after)) (hends : (commentPattern.ends p).head? = some stop)
    (begun : Text.byteLength before ≤ stop.byte) (oneLine : '\n' ∉ inside) :
    Text.byteLength (before ++ inside) ≤ stop.byte := by
  obtain ⟨ahead, behind, byte⟩ := p
  obtain ⟨rest, rfl⟩ := slashes_of_ends_commentPattern hends
  obtain ⟨_, hends', hstop⟩ := ends_commentPattern ahead rest byte
  rw [hends'] at hends
  cases hends
  obtain ⟨haround, hbyte⟩ := hp
  simp only at haround hbyte
  generalize hline : rest.takeWhile (· != '\n') = line at hstop
  have hcomment : stop.byte = Text.byteLength (ahead.reverse ++ '/' :: '/' :: line) := by
    have : '/'.utf8Size = 1 := by decide
    simp [hstop, hbyte]
    omega
  have htext : before ++ inside ++ after =
      ahead.reverse ++ '/' :: '/' :: line ++ rest.dropWhile (· != '\n') := by
    rw [haround, ← hline]
    simp
  by_contra hlt
  cases hbehind : rest.dropWhile (· != '\n') with
  | nil =>
    have := congrArg Text.byteLength htext
    rw [hbehind] at this
    simp at this hcomment hlt
    omega
  | cons d behind =>
    have hd : d = '\n' := by
      have := List.head?_dropWhile_not (· != '\n') rest
      simpa [hbehind] using this
    rw [hbehind] at htext
    rw [hcomment] at begun hlt
    obtain ⟨x, y, hinside, -⟩ := Text.exists_split_inside htext begun (Nat.lt_of_not_le hlt)
    exact oneLine (by simp [hinside, hd])

theorem comment_reaches_iff (unslashed : '/' ∉ before) (oneLine : '\n' ∉ content)
    (inside : byte < Text.byteLength (literal content)) :
    Reaches commentPattern (before ++ literal content ++ after) (Text.byteLength before + byte) ↔
      Commented content byte := by
  constructor
  · rintro ⟨s, hs, hstart, hstop⟩
    obtain ⟨p, stop, hp, hpends, rfl⟩ := exists_place_of_mem_matchesIn isRegular_commentPattern hs
    obtain ⟨rest, hrest⟩ := slashes_of_ends_commentPattern hpends
    have hge : Text.byteLength before ≤ p.byte := by
      have hp := hp
      rw [List.append_assoc] at hp
      exact byteLength_le_of_not_mem hp hrest unslashed
    have hsplit := hp.around
    rw [hrest] at hsplit
    rw [hp.byte] at hge hstart
    obtain ⟨front, tail, hliteral, hfront, htail⟩ := Text.exists_split_inside hsplit hge
      (by simp only [Text.byteLength_append] at hstart ⊢; omega)
    simp only [hfront, Text.byteLength_append] at hstart
    cases tail with
    | nil =>
      -- The last character of the literal is no slash.
      have := congrArg List.getLast? hliteral
      simp [literal, List.getLast?_cons] at this
    | cons d back =>
      obtain ⟨rfl, -⟩ := List.cons.inj htail
      exact ⟨front, back, hliteral, by omega⟩
  · rintro ⟨front, back, hliteral, hfront⟩
    have hlies : Place.LiesIn (before ++ literal content ++ after)
        ⟨(before ++ front).reverse, '/' :: '/' :: (back ++ after),
          Text.byteLength (before ++ front)⟩ := by
      constructor <;> simp [hliteral]
    obtain ⟨stop, hends, hbyte⟩ := ends_commentPattern (before ++ front).reverse (back ++ after)
      (Text.byteLength (before ++ front))
    obtain ⟨s, hs, hstart, hstop⟩ :=
      exists_match_over isRegular_commentPattern hlies hends (by simp only; omega)
    obtain ⟨p, _, hp, hpends, rfl⟩ := exists_place_of_mem_matchesIn isRegular_commentPattern hs
    have hfeed : '\n' ∉ literal content := by simpa [literal] using oneLine
    simp only [Text.byteLength_append] at hstart hstop
    have hend := byteLength_le_of_ends_commentPattern hp hpends (by omega) hfeed
    rw [Text.byteLength_append] at hend
    exact ⟨_, hs, by simp only; omega, by simp only; omega⟩

end Literal

/-! ## The color of a literal -/

section Paint

variable {colors : ColorMap} {text : List Char} {r : Rule} {scope : String} {pattern : Pattern}
  {byte : Nat}

theorem layer?_eq (h : r.pattern? = some (scope, pattern)) :
    r.layer? colors text = (colors.find? scope).map fun color => (color, pattern.matchesIn text) := by
  unfold Rule.pattern? at h
  unfold Rule.layer?
  split at h
  · cases h
  · next hplaceholder =>
    rw [if_neg hplaceholder]
    cases hcompile : r.compile with
    | error e => simp [hcompile, Except.toOption] at h
    | ok p =>
      simp only [hcompile, Except.toOption, Option.map_some, Option.some.injEq, Prod.mk.injEq] at h
      obtain ⟨rfl, rfl⟩ := h
      rfl

theorem paint?_of_reaches (h : r.pattern? = some (scope, pattern))
    (reaches : Reaches pattern text byte) : r.paint? colors text byte = colors.find? scope := by
  have hany : (pattern.matchesIn text).any fun s => s.start ≤ byte && byte < s.stop := by
    simpa [Reaches] using reaches
  unfold Rule.paint?
  rw [layer?_eq h]
  cases colors.find? scope <;> simp [hany]

theorem paint?_of_not_reaches (h : r.pattern? = some (scope, pattern))
    (apart : ¬ Reaches pattern text byte) : r.paint? colors text byte = none := by
  have hany : ((pattern.matchesIn text).any fun s => s.start ≤ byte && byte < s.stop) = false := by
    simpa [Reaches] using apart
  unfold Rule.paint?
  rw [layer?_eq h]
  cases colors.find? scope <;> simp [hany]

theorem paint?_ppl {color : Color} (h : stringRule.paint? colors text byte = some color) :
    ppl.paint? colors text byte = some ((commentRule.paint? colors text byte).getD color) := by
  unfold Grammar.paint?
  rw [rules_ppl, List.filterMap_append]
  cases hcomment : commentRule.paint? colors text byte <;> simp [h, hcomment]

end Paint

/-- Over strings only comments are laid, so a byte of a literal has one color or the other. -/
theorem foreground_once_literal {t : StyledText} (sound : t.Sound) {before content after : List Char}
    (htext : t.text = before ++ literal content ++ after) (unquoted : '"' ∉ before)
    (inside : ∀ c ∈ content, c ≠ '"' ∧ c ≠ '\\' ∧ c ≠ '\n') {colors : ColorMap} {color : Color}
    (mapped : colors.find? "Strings" = some color) (base : Attributes) {byte : Nat}
    (hbyte : byte < Text.byteLength (literal content)) :
    (Highlight.once t ppl colors base).1.foregroundAt? (Text.byteLength before + byte) =
      some ((commentRule.paint? colors t.text (Text.byteLength before + byte)).getD color) := by
  have hin : Text.byteLength before + byte < t.byteLength := by
    rw [StyledText.byteLength, htext]
    simp
    omega
  have hstring : stringRule.paint? colors t.text (Text.byteLength before + byte) = some color := by
    rw [htext, paint?_of_reaches pattern?_stringRule (string_reaches unquoted inside hbyte), mapped]
  obtain ⟨look, hlook, halike⟩ := Highlight.bytes_once sound ppl colors base hin
  rw [StyledText.foregroundAt?, hlook, Option.map_some, halike.foreground, paint?_ppl hstring]
  rfl

/-- Each byte of a string literal has the color of strings, up to two slashes in it; from there on it
has that of comments, if comments have one. -/
theorem literal_has_string_color {before content after : List Char} (unquoted : '"' ∉ before)
    (unslashed : '/' ∉ before) (inside : ∀ c ∈ content, c ≠ '"' ∧ c ≠ '\\' ∧ c ≠ '\n')
    {colors : ColorMap} {color : Color} (mapped : colors.find? "Strings" = some color)
    (text : List Char) (a : Attributes) (operations : List StyledText.Operation)
    (htext : ((StyledText.plain text a).applyAll operations).text =
      before ++ literal content ++ after)
    (calls : List Highlighter.Call) (base : Attributes) :
    let t := (StyledText.plain text a).applyAll operations
    let shown := ((Highlighter.after calls).highlight t ppl colors base).2.1
    ∀ byte < Text.byteLength (literal content),
      (¬ Commented content byte →
        shown.foregroundAt? (Text.byteLength before + byte) = some color) ∧
      (Commented content byte →
        shown.foregroundAt? (Text.byteLength before + byte) =
          some ((colors.find? "Comments").getD color)) := by
  intro t shown byte hbyte
  have sound : t.Sound := StyledText.sound_applyAll (StyledText.sound_plain text a) operations
  have hshown : shown = (Highlight.once t ppl colors base).1 :=
    congrArg Prod.fst (Highlighter.highlight_after calls t ppl colors base)
  have hcolor := foreground_once_literal sound htext unquoted inside mapped base hbyte
  have hcomment : Reaches commentPattern (before ++ literal content ++ after)
      (Text.byteLength before + byte) ↔ Commented content byte :=
    comment_reaches_iff unslashed (fun h => (inside _ h).2.2 rfl) hbyte
  rw [htext] at hcolor
  rw [hshown, hcolor]
  constructor
  · intro apart
    rw [paint?_of_not_reaches pattern?_commentRule (mt hcomment.mp apart)]
    rfl
  · intro commented
    rw [paint?_of_reaches pattern?_commentRule (hcomment.mpr commented)]

theorem literal_has_string_color_keyword :
    let colors := ColorMap.ofTheme dark
    let t := StyledText.plain "x:=\"IF 1\";".toList .standard
    colors.find? "Strings" = some (.rgb 0xCE 0x91 0x78) ∧
      ∀ byte < 6, ((Highlighter.after []).highlight t ppl colors .standard).2.1.foregroundAt? (3 + byte) =
        some (.rgb 0xCE 0x91 0x78) := by
  intro colors t
  have mapped : colors.find? "Strings" = some (.rgb 0xCE 0x91 0x78) := by decide +kernel
  refine ⟨mapped, fun byte hbyte => ?_⟩
  have hcolor := @literal_has_string_color "x:=".toList "IF 1".toList [';'] (by decide) (by decide)
    (by simp) colors _ mapped t.text .standard [] (by decide) [] .standard byte hbyte
  apply hcolor.1
  rintro ⟨front, back, hliteral, -⟩
  have hslash : '/' ∈ literal "IF 1".toList := by
    rw [hliteral]
    simp
  exact absurd hslash (by decide)

/-- Two slashes in a literal begin a comment. -/
theorem slashes_in_literal_lose_color :
    let colors := ColorMap.ofTheme dark
    let t := StyledText.plain (literal ['/', '/']) .standard
    colors.find? "Strings" = some (.rgb 0xCE 0x91 0x78) ∧
      (Highlighter.new.highlight t ppl colors .standard).2.1.foregroundAt? 1 =
        some (.rgb 0x6A 0x99 0x55) := by
  intro colors t
  have mapped : colors.find? "Strings" = some (.rgb 0xCE 0x91 0x78) := by decide +kernel
  have hcomments : colors.find? "Comments" = some (.rgb 0x6A 0x99 0x55) := by decide +kernel
  have commented : Commented ['/', '/'] 1 := ⟨['"'], ['"'], rfl, by decide⟩
  have hreaches : Reaches commentPattern t.text 1 := by
    have hiff := @comment_reaches_iff [] ['/', '/'] [] 1 (by simp) (by decide) (by decide)
    exact hiff.mpr commented
  have hpaint : commentRule.paint? colors t.text 1 = some (.rgb 0x6A 0x99 0x55) := by
    rw [paint?_of_reaches pattern?_commentRule hreaches, hcomments]
  have hcolor := @foreground_once_literal t (StyledText.sound_plain _ _) [] ['/', '/'] [] rfl (by simp)
    (by simp) colors _ mapped .standard 1 (by decide)
  refine ⟨mapped, hcolor.trans ?_⟩
  rw [Text.byteLength_nil, Nat.zero_add, hpaint]
  rfl

end CodeEditor.Builtin
