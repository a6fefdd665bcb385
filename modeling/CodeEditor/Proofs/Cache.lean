import CodeEditor.Highlight
import CodeEditor.Pattern.Engine

/-! # Patterns that are kept

Nothing shows whether the patterns of a grammar were compiled for a pass or kept from an earlier one.
It does not matter either whether a grammar is known by itself or by a fingerprint, as long as no two of
those that are used have the same one.
-/

namespace CodeEditor

open Highlight

/-! ## Calls and answers -/

inductive Highlighter.Call where
  | highlight (t : StyledText) (g : Grammar) (colors : ColorMap) (base : Attributes)
  | invalidate

namespace Highlighter

def Call.grammar? : Call → Option Grammar
  | .highlight _ g _ _ => some g
  | .invalidate => none

variable [Engine]

/-- The text and the report of a pass, and what is known after the call of the grammar whose patterns are
kept. -/
structure Answer (κ : Type) where
  pass : Option (StyledText × Report)
  kept : Option κ

/-- The answer when nothing is kept from one call to the next. -/
def Call.fresh {κ : Type} (key : Grammar → κ) : Call → Answer κ
  | .highlight t g colors base => ⟨some (once t g colors base), some (key g)⟩
  | .invalidate => ⟨none, none⟩

def call (h : Highlighter) : Call → Highlighter × Answer Grammar
  | .highlight t g colors base =>
    let (h, shown) := h.highlight t g colors base
    (h, ⟨some shown, h.grammar?⟩)
  | .invalidate => (h.invalidate, ⟨none, h.invalidate.grammar?⟩)

def answers (h : Highlighter) : List Call → List (Answer Grammar)
  | [] => []
  | c :: calls => (h.call c).2 :: answers (h.call c).1 calls

theorem patternsFor_of_kept {h : Highlighter}
    (kept : ∀ g compiled, h.compiled = some (g, compiled) → compiled = compile g) (g : Grammar) :
    h.patternsFor g = compile g := by
  unfold patternsFor
  split
  · next g' compiled hkept =>
    split
    · next hsame => rw [kept g' compiled hkept, hsame]
    · rfl
  · rfl

/-- A highlighter that has been asked for all this. -/
def after (calls : List Call) : Highlighter := calls.foldl (fun h c => (h.call c).1) new

theorem kept_after (calls : List Call) :
    ∀ g compiled, (after calls).compiled = some (g, compiled) → compiled = compile g := by
  have hfold : ∀ h : Highlighter, (∀ g compiled, h.compiled = some (g, compiled) → compiled = compile g) →
      ∀ g compiled, (calls.foldl (fun h c => (h.call c).1) h).compiled = some (g, compiled) →
        compiled = compile g := by
    induction calls with
    | nil => exact fun h hkept => hkept
    | cons c calls ih =>
      intro h hkept
      apply ih
      cases c with
      | highlight t g colors base =>
        intro _ compiled hsome
        cases hsome
        exact patternsFor_of_kept hkept g
      | invalidate =>
        intro _ _ hsome
        cases hsome
  exact hfold new (by rintro _ _ ⟨⟩)

theorem highlight_after (calls : List Call) (t : StyledText) (g : Grammar) (colors : ColorMap)
    (base : Attributes) : ((after calls).highlight t g colors base).2 = once t g colors base := by
  simp only [highlight, patternsFor_of_kept (kept_after calls) g]
  rfl

end Highlighter

/-! ## A cache by fingerprints -/

/-- Patterns that are kept under the fingerprint of their grammar. -/
structure Cache [Engine] (κ : Type) where
  compiled : Option (κ × Compiled)

namespace Cache

open Highlighter (Call Answer)

variable [Engine] {κ : Type} [DecidableEq κ] (key : Grammar → κ)

def patternsFor (c : Cache κ) (g : Grammar) : Compiled :=
  match c.compiled with
  | some (k, compiled) => if k = key g then compiled else compile g
  | none => compile g

def call (c : Cache κ) : Call → Cache κ × Answer κ
  | .highlight t g colors base =>
    let compiled := c.patternsFor key g
    (⟨some (key g, compiled)⟩, ⟨some (Highlight.pass compiled t colors base), some (key g)⟩)
  | .invalidate => (⟨none⟩, ⟨none, none⟩)

def answers (c : Cache κ) : List Call → List (Answer κ)
  | [] => []
  | request :: calls => (c.call key request).2 :: answers (c.call key request).1 calls

/-- What is kept are the patterns of one of some grammars, under its fingerprint. -/
def Holds (known : List Grammar) (c : Cache κ) : Prop :=
  ∀ k compiled, c.compiled = some (k, compiled) → ∃ g ∈ known, k = key g ∧ compiled = compile g

/-- The fingerprints tell some grammars apart. -/
def Distinct (known : List Grammar) : Prop :=
  ∀ g ∈ known, ∀ g' ∈ known, key g = key g' → g = g'

variable {key} {known : List Grammar} {c : Cache κ}

theorem patternsFor_eq (distinct : Distinct key known) (holds : c.Holds key known) {g : Grammar}
    (hg : g ∈ known) : c.patternsFor key g = compile g := by
  unfold patternsFor
  split
  · next k compiled hkept =>
    split
    · next hsame =>
      obtain ⟨g', hg', hkey, hcompiled⟩ := holds k compiled hkept
      have : g' = g := distinct g' hg' g hg (hkey.symm.trans hsame)
      rw [hcompiled, this]
    · rfl
  · rfl

theorem call_spec (distinct : Distinct key known) (holds : c.Holds key known) (request : Call)
    (hknown : ∀ g, request.grammar? = some g → g ∈ known) :
    (c.call key request).2 = request.fresh key ∧ (c.call key request).1.Holds key known := by
  cases request with
  | highlight t g colors base =>
    have hg : g ∈ known := hknown g rfl
    have hpatterns := patternsFor_eq distinct holds hg
    unfold call
    simp only [hpatterns]
    refine ⟨rfl, ?_⟩
    rintro k compiled hkept
    cases hkept
    exact ⟨g, hg, rfl, rfl⟩
  | invalidate =>
    refine ⟨rfl, ?_⟩
    rintro k compiled hkept
    cases hkept

theorem answers_eq (distinct : Distinct key known) (holds : c.Holds key known) (calls : List Call)
    (hknown : ∀ g ∈ calls.filterMap Call.grammar?, g ∈ known) :
    c.answers key calls = calls.map (Call.fresh key) := by
  induction calls generalizing c with
  | nil => rfl
  | cons request calls ih =>
    have hfirst : ∀ g, request.grammar? = some g → g ∈ known := by
      intro g hg
      exact hknown g (List.mem_filterMap.mpr ⟨request, List.mem_cons_self, hg⟩)
    have hrest : ∀ g ∈ calls.filterMap Call.grammar?, g ∈ known := by
      intro g hg
      obtain ⟨later, hlater, hgrammar⟩ := List.mem_filterMap.mp hg
      exact hknown g (List.mem_filterMap.mpr ⟨later, List.mem_cons_of_mem _ hlater, hgrammar⟩)
    obtain ⟨hanswer, hholds⟩ := call_spec distinct holds request hfirst
    simp only [answers, List.map_cons]
    rw [hanswer, ih hholds hrest]

end Cache

/-! ## Both are fresh -/

namespace Highlighter

variable [Engine]

/-- A highlighter is a cache that knows grammars by themselves. -/
theorem answers_eq_cache (h : Highlighter) (calls : List Call) :
    h.answers calls = Cache.answers (fun g => g) ⟨h.compiled⟩ calls := by
  induction calls generalizing h with
  | nil => rfl
  | cons request calls ih =>
    cases request with
    | highlight t g colors base =>
      have hpatterns : h.patternsFor g = Cache.patternsFor (fun g => g) ⟨h.compiled⟩ g := by
        unfold patternsFor Cache.patternsFor
        rcases h.compiled with _ | ⟨kept, compiled⟩ <;> rfl
      simp only [answers, Cache.answers, ih, call, Cache.call, highlight, grammar?, hpatterns]
      rfl
    | invalidate =>
      simp only [answers, Cache.answers, ih, call, Cache.call]
      rfl

/-- Each pass of a highlighter leaves the text and the report of a single pass, and the patterns of its
grammar are kept after it; so it is with any fingerprints that tell the grammars apart. -/
theorem kept_patterns_are_not_seen (identity : Grammar → UInt64) (calls : List Call)
    (distinct : Cache.Distinct identity (calls.filterMap Call.grammar?)) :
    new.answers calls = calls.map (Call.fresh fun g => g) ∧
      Cache.answers identity ⟨none⟩ calls = calls.map (Call.fresh identity) := by
  have hself : Cache.Distinct (fun g : Grammar => g) (calls.filterMap Call.grammar?) := by
    intro g _ g' _ hsame
    exact hsame
  constructor
  · rw [answers_eq_cache]
    refine Cache.answers_eq hself ?_ calls fun g hg => hg
    rintro k compiled hkept
    cases hkept
  · refine Cache.answers_eq distinct ?_ calls fun g hg => hg
    rintro k compiled hkept
    cases hkept

end Highlighter

namespace Highlighter

theorem kept_patterns_are_not_seen_in_turn :
    let t := StyledText.plain ['a', '≠', '1'] .standard
    let digits : Grammar := ⟨"Digits", "", [⟨"Numbers", "[0-9]+"⟩]⟩
    let plain : Grammar := ⟨"Digits", "", []⟩
    let identity (g : Grammar) : UInt64 := .ofNat g.rules.length
    let colors : ColorMap := Dictionary.empty.insert "Numbers" (.rgb 255 0 0)
    let calls : List Call :=
      [.highlight t digits colors .standard, .highlight t plain colors .standard, .invalidate,
        .highlight t digits colors .standard, .highlight t digits .empty .standard]
    Cache.Distinct identity (calls.filterMap Call.grammar?) ∧
      new.answers calls = calls.map (Call.fresh fun g => g) ∧
        Cache.answers identity ⟨none⟩ calls = calls.map (Call.fresh identity) := by
  intro t digits plain identity colors calls
  have hdistinct : Cache.Distinct identity (calls.filterMap Call.grammar?) := by
    have hapart : identity digits ≠ identity plain := by decide
    have htwo : ∀ g ∈ calls.filterMap Call.grammar?, g = digits ∨ g = plain := by
      simp [calls, Call.grammar?]
    intro g hg g' hg' hsame
    rcases htwo g hg with rfl | rfl <;> rcases htwo g' hg' with rfl | rfl
    · rfl
    · exact absurd hsame hapart
    · exact absurd hsame.symm hapart
    · rfl
  exact ⟨hdistinct, kept_patterns_are_not_seen identity calls hdistinct⟩

end Highlighter

end CodeEditor
