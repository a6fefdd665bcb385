import CodeEditor.Proofs.ColorMap
import CodeEditor.Proofs.Json.Fields
import CodeEditor.Proofs.Text.Parts
import CodeEditor.Theme.Document

/-! # Scopes from a document to a pass

A scope has the color of the first entry of the document that lists it with a color that can be read. A map
for a grammar has this color for each scope that may be asked for, so a pass never skips a pattern.
-/

namespace CodeEditor.Theme

variable {scope : String} {color : Color}

/-! ## What a document says -/

/-- The strings in which an entry lists its scopes: a single one or a list. -/
def scopeStrings (entry : Json) : List String :=
  match entry.member? "scope" 0 with
  | some (.text value) => value.toList
  | some (.list items) => items.filterMap Json.text?
  | _ => []

/-- The foreground of an entry as written. -/
def writtenForeground? (entry : Json) : Option String :=
  ((entry.member? "settings" 1).bind (·.member? "foreground" 0)).bind Json.text?

def colorEntries (document : Json) : List Json :=
  match document.member? "tokenColors" 2 with
  | some (.list items) => items
  | _ => []

/-- The scope is one of the parts between commas, apart from blanks around it. -/
def Lists (entry : Json) (scope : String) : Prop :=
  scope ≠ "" ∧ ∃ s ∈ scopeStrings entry, ∃ parts, Text.IsSplit ',' s.toList parts ∧
    ∃ part ∈ parts, Text.IsTrimmed part scope.toList

/-- The entry lists the scope, and its foreground reads as this color. -/
structure Gives (entry : Json) (scope : String) (color : Color) : Prop where
  lists : Lists entry scope
  reads : ∃ written, writtenForeground? entry = some written ∧ Color.ofHex? written = some color

/-- Of the entries that give the scope a color the first one gives it this one. -/
def FirstGives (entries : List Json) (scope : String) (color : Color) : Prop :=
  ∃ before entry after, entries = before ++ entry :: after ∧ Gives entry scope color ∧
    ∀ e ∈ before, ∀ other, ¬ Gives e scope other

/-! ## What is read of it -/

theorem mem_scopesOf (strings : List String) : scope ∈ scopesOf strings ↔
    scope ≠ "" ∧ ∃ s ∈ strings, ∃ parts, Text.IsSplit ',' s.toList parts ∧
      ∃ part ∈ parts, Text.IsTrimmed part scope.toList := by
  have htrimmed : ∀ part, Text.trimmed (String.ofList part) = scope ↔
      Text.IsTrimmed part scope.toList := by
    intro part
    rw [Text.trimmed, String.toList_ofList, Text.isTrimmed_iff, ← String.toList_inj,
      String.toList_ofList]
  simp only [scopesOf, List.mem_filter, List.mem_map, List.mem_flatMap, Text.splitString,
    Text.isSplit_iff, decide_eq_true_eq, ← htrimmed]
  constructor
  · rintro ⟨⟨_, ⟨s, hs, part, hpart, rfl⟩, hscope⟩, filled⟩
    exact ⟨filled, s, hs, _, rfl, part, hpart, hscope⟩
  · rintro ⟨filled, s, hs, _, rfl, part, hpart, hscope⟩
    exact ⟨⟨_, ⟨s, hs, part, hpart, rfl⟩, hscope⟩, filled⟩

/-- An entry as far as it is read. -/
def described (entry : Json) : Entry := ⟨scopesOf (scopeStrings entry), writtenForeground? entry⟩

theorem readScopes?_eq {entry : Json} {value : Option Json} {scopes : List String}
    (h : (value.map Entry.readScopes?).getD (some []) = some scopes)
    (hvalue : entry.member? "scope" 0 = value) : scopesOf (scopeStrings entry) = scopes := by
  unfold scopeStrings
  rw [hvalue]
  cases value with
  | none =>
    cases h
    rfl
  | some value =>
    rw [Option.map_some, Option.getD_some] at h
    unfold Entry.readScopes? at h
    split at h
    · cases h
      rfl
    · obtain ⟨s, rfl, rfl⟩ := Option.map_eq_some_iff.mp h
      rfl
    · obtain ⟨strings, hstrings, rfl⟩ := Option.map_eq_some_iff.mp h
      simp only
      rw [Json.filterMap_of_mapM hstrings]
    · cases h

theorem readForeground?_eq {settings : Json} {foreground : Option String}
    (h : Entry.readForeground? settings = some foreground) :
    (settings.member? "foreground" 0).bind Json.text? = foreground := by
  obtain ⟨values, hvalues, h⟩ := Option.bind_eq_some_iff.mp h
  rw [Json.member?_of_fields? hvalues 0 rfl rfl]
  obtain ⟨value, rfl⟩ := List.length_eq_one_iff.mp (Json.length_fields? hvalues)
  cases value with
  | none =>
    cases h
    rfl
  | some value => exact Json.text?_of_textOrNull? h

theorem read?_eq {entry : Json} {e : Entry} (h : Entry.read? entry = some e) :
    described entry = e := by
  obtain ⟨values, hvalues, h⟩ := Option.bind_eq_some_iff.mp h
  split at h
  · next scope settings =>
    obtain ⟨scopes, hscopes, h⟩ := Option.bind_eq_some_iff.mp h
    obtain ⟨foreground, hforeground, h⟩ := Option.bind_eq_some_iff.mp h
    cases h
    unfold described
    congr 1
    · refine readScopes?_eq hscopes ?_
      rw [Json.member?_of_fields? hvalues 0 rfl rfl]
      rfl
    · unfold writtenForeground?
      rw [Json.member?_of_fields? hvalues 1 rfl rfl]
      cases settings with
      | none =>
        cases hforeground
        rfl
      | some settings => exact readForeground?_eq hforeground
  · cases h

theorem gives_iff (entry : Json) : Gives entry scope color ↔
    ∃ t, (described entry).tokenColor? = some t ∧ scope ∈ t.scopes ∧ t.foreground = color := by
  have hlists : Lists entry scope ↔ scope ∈ (described entry).scopes := (mem_scopesOf _).symm
  unfold Entry.tokenColor?
  constructor
  · rintro ⟨lists, written, hwritten, hcolor⟩
    rw [hlists] at lists
    refine ⟨⟨(described entry).scopes, color⟩, ?_, lists, rfl⟩
    rw [if_neg (by simpa using List.ne_nil_of_mem lists)]
    simp [described, hwritten, hcolor]
  · rintro ⟨t, ht, hscope, rfl⟩
    split at ht
    · cases ht
    · obtain ⟨written, hwritten, ht⟩ := Option.bind_eq_some_iff.mp ht
      obtain ⟨color, hcolor, ht⟩ := Option.bind_eq_some_iff.mp ht
      cases ht
      exact ⟨hlists.mpr hscope, written, hwritten, hcolor⟩

theorem tokenColors_ofJson? {document : Json} {fallback : String} {theme : Theme}
    (h : ofJson? document fallback = some theme) :
    theme.tokenColors =
      (colorEntries document).filterMap fun entry => (described entry).tokenColor? := by
  obtain ⟨values, hvalues, h⟩ := Option.bind_eq_some_iff.mp h
  split at h
  · next name colors tokenColors weight =>
    obtain ⟨_, _, h⟩ := Option.bind_eq_some_iff.mp h
    obtain ⟨_, _, h⟩ := Option.bind_eq_some_iff.mp h
    obtain ⟨entries, hentries, h⟩ := Option.bind_eq_some_iff.mp h
    obtain ⟨_, _, h⟩ := Option.bind_eq_some_iff.mp h
    cases h
    unfold colorEntries
    rw [Json.member?_of_fields? hvalues 2 rfl rfl]
    cases tokenColors with
    | none =>
      cases hentries
      rfl
    | some tokenColors =>
      simp only [List.getElem?_cons_succ, List.getElem?_cons_zero, Option.join_some]
      rw [optional?, Option.map_some, Option.getD_some] at hentries
      unfold Json.listOf? at hentries
      split at hentries
      · next items =>
        rw [Json.map_eq_of_mapM hentries fun _ _ => read?_eq, List.filterMap_map]
        rfl
      · cases hentries
  · cases h

theorem tokenColor?_eq_some {theme : Theme} {entries : List Json}
    (h : theme.tokenColors = entries.filterMap fun entry => (described entry).tokenColor?) :
    theme.tokenColor? scope = some color ↔ FirstGives entries scope color := by
  have hgives : ∀ entry, ((described entry).tokenColor?.any (·.scopes.contains scope)) = true ↔
      ∃ other, Gives entry scope other := by
    intro entry
    simp only [gives_iff, Option.any_eq_true, List.contains_iff_mem]
    constructor
    · rintro ⟨t, ht, hscope⟩
      exact ⟨t.foreground, t, ht, hscope, rfl⟩
    · rintro ⟨-, t, ht, hscope, -⟩
      exact ⟨t, ht, hscope⟩
  have hfirst : ∀ entry, (entries.find? fun e => (described e).tokenColor?.any
      (·.scopes.contains scope)) = some entry ↔ (∃ other, Gives entry scope other) ∧
        ∃ before after, entries = before ++ entry :: after ∧
          ∀ e ∈ before, ∀ other, ¬ Gives e scope other := by
    intro entry
    simp only [List.find?_eq_some_iff_append, hgives, Bool.not_eq_true', ← Bool.not_eq_true,
      not_exists]
  rw [tokenColor?, h, List.find?_filterMap]
  constructor
  · intro hcolor
    obtain ⟨t, ht, rfl⟩ := Option.map_eq_some_iff.mp hcolor
    obtain ⟨entry, hentry, ht⟩ := Option.bind_eq_some_iff.mp ht
    obtain ⟨⟨other, hother⟩, before, after, hentries, hbefore⟩ := (hfirst entry).mp hentry
    obtain ⟨t', ht', hscope, -⟩ := (gives_iff entry).mp hother
    obtain rfl : t = t' := Option.some.inj (ht.symm.trans ht')
    exact ⟨before, entry, after, hentries, (gives_iff entry).mpr ⟨t, ht, hscope, rfl⟩, hbefore⟩
  · rintro ⟨before, entry, after, hentries, hentry, hbefore⟩
    rw [(hfirst entry).mpr ⟨⟨color, hentry⟩, before, after, hentries, hbefore⟩]
    obtain ⟨t, ht, -, rfl⟩ := (gives_iff entry).mp hentry
    rw [Option.bind_some, ht, Option.map_some]

end CodeEditor.Theme

namespace CodeEditor.ColorMap

/-! ## From the document to a pass -/

/-- The scopes that may be asked for when a text is highlighted by the grammar. -/
def MayBeAsked (g : Grammar) (scope : String) : Prop :=
  scope ∈ knownScopes ∨ ∃ r ∈ g.rules, r.scope = scope

/-- What becomes of a document in which a theme is written. -/
structure Follows [Engine] (document : Json) (theme : Theme) (g : Grammar) : Prop where
  token : ∀ scope color, theme.tokenColor? scope = some color ↔
    Theme.FirstGives (Theme.colorEntries document) scope color
  /-- Without an entry that counts a scope has the color of the editor. -/
  asked : ∀ scope, MayBeAsked g scope →
    (ofGrammar theme g).find? scope = some ((theme.tokenColor? scope).getD theme.foreground)
  unasked : ∀ scope, ¬ MayBeAsked g scope → (ofGrammar theme g).find? scope = none
  known : ∀ scope ∈ knownScopes, (ofGrammar theme g).find? scope = (ofTheme theme).find? scope
  /-- Whatever the highlighter was asked for before, no pattern is skipped. -/
  unskipped : ∀ calls t base,
    ((Highlighter.after calls).highlight t g (ofGrammar theme g) base).2.2.skipped = 0

theorem scopes_follow_document [Engine] {source : List Char} {fallback : String} {theme : Theme}
    (reads : Theme.parse? source fallback = some theme) (g : Grammar) :
    ∃ document, Json.parse? source = some document ∧ Follows document theme g := by
  obtain ⟨document, hdocument, htheme⟩ := Option.bind_eq_some_iff.mp reads
  have hasked : ∀ scope, scope ∈ knownScopes ++ g.scopes ↔ MayBeAsked g scope := by
    intro scope
    rw [List.mem_append, Grammar.mem_scopes]
    rfl
  refine ⟨document, hdocument, ?_⟩
  exact
    { token := fun scope color => Theme.tokenColor?_eq_some (Theme.tokenColors_ofJson? htheme)
      asked := by
        intro scope h
        rw [ofGrammar, find?_ofScopes, if_pos ((hasked scope).mpr h)]
        rfl
      unasked := by
        intro scope h
        rw [ofGrammar, find?_ofScopes, if_neg (mt (hasked scope).mp h)]
      known := by
        intro scope h
        rw [ofGrammar, ofTheme, find?_ofScopes, find?_ofScopes, if_pos h,
          if_pos (List.mem_append_left _ h)]
      unskipped := by
        intro calls t base
        rw [Highlighter.highlight_after]
        show List.countP Option.isNone _ = 0
        rw [Highlight.skipped_compile, List.countP_eq_zero]
        intro r hr
        rw [Rule.isUnmapped, Dictionary.contains, find?_ofGrammar theme hr]
        simp }

theorem scopes_follow_document_with_three_entries :
    let source := ("\x7b\"tokenColors\": [[\"Keywords\", [\"red\"]], [\"Own, Keywords\", " ++
      "[\"#112233\"]], [\"Keywords\", [\"#445566\"]]]\x7d").toList
    let theme : Theme := ⟨"Dusk", .empty,
      [⟨["Own", "Keywords"], .rgb 0x11 0x22 0x33⟩, ⟨["Keywords"], .rgb 0x44 0x55 0x66⟩], .regular⟩
    let g : Grammar := ⟨"Digits", "", [⟨"Own", "[0-9]+"⟩]⟩
    Theme.parse? source "Dusk" = some theme ∧
      ∃ document, Json.parse? source = some document ∧ Follows document theme g := by
  intro source theme g
  have hreads : Theme.parse? source "Dusk" = some theme := by decide +kernel
  exact ⟨hreads, scopes_follow_document hreads g⟩

end CodeEditor.ColorMap
