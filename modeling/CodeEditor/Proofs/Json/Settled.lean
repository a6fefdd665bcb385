import CodeEditor.Json.Settled
import CodeEditor.Proofs.Dictionary
import CodeEditor.Proofs.Json.Fields
import CodeEditor.Proofs.Json.Reader
import CodeEditor.Proofs.Number.Settled

/-! # Settled documents

What has been settled can be written, read and settled again, and its texts and truth values are then
what they were.
-/

namespace CodeEditor.Json

/-- The text and truth value of a document, if it is one. -/
def plain (v : Json) : Option String × Option Bool :=
  (v.text?, match v with
    | .bool value => some value
    | _ => none)

/-- What stays when it is settled: nested no deeper than this, each string with a text. -/
inductive Settled : Nat → Json → Prop where
  | null (depth : Nat) : Settled depth .null
  | bool (depth : Nat) (value : Bool) : Settled depth (.bool value)
  | number (depth : Nat) {value : Number.Numeral} (h : value.Stays) : Settled depth (.number value)
  | text (depth : Nat) (value : String) : Settled depth (.text (some value))
  | list {depth : Nat} {items : List Json} (h : ∀ item ∈ items, Settled depth item) :
    Settled (depth + 1) (.list items)
  | record {depth : Nat} {entries : List (String × Json)} (h : ∀ e ∈ entries, Settled depth e.2) :
    Settled (depth + 1) (.record (entries.map named))

theorem Settled.legible {depth : Nat} {v : Json} (h : v.Settled depth) : v.Legible := by
  induction h with
  | null => exact .null
  | bool _ value => exact .bool value
  | number _ h => exact .number h.wellFormed
  | text _ value => exact .text (some value)
  | list _ ih => exact .list ih
  | record _ ih =>
    refine .record fun m hm => ?_
    obtain ⟨e, he, rfl⟩ := List.mem_map.mp hm
    exact ih e he

/-! ## All or none of a list -/

variable {α β : Type} {f : α → Option β}

theorem exists_of_mem_mapM {items : List α} {values : List β} (h : items.mapM f = some values)
    {value : β} (hvalue : value ∈ values) : ∃ item ∈ items, f item = some value := by
  have hall := forall₂_of_mapM h
  clear h
  induction hall with
  | nil => exact absurd hvalue List.not_mem_nil
  | cons hfirst _ ih =>
    rcases List.mem_cons.mp hvalue with rfl | hvalue
    · exact ⟨_, List.mem_cons_self, hfirst⟩
    · obtain ⟨item, hitem, hf⟩ := ih hvalue
      exact ⟨item, List.mem_cons_of_mem _ hitem, hf⟩

theorem exists_mapM {items : List α} (h : ∀ item ∈ items, ∃ value, f item = some value) :
    ∃ values, items.mapM f = some values ∧
      List.Forall₂ (fun item value => f item = some value) items values := by
  induction items with
  | nil => exact ⟨[], rfl, .nil⟩
  | cons item items ih =>
    obtain ⟨⟨first, hfirst⟩, hitems⟩ := List.forall_mem_cons.mp h
    obtain ⟨later, hlater, hall⟩ := ih hitems
    refine ⟨first :: later, ?_, .cons hfirst hall⟩
    rw [List.mapM_cons, hfirst, hlater]
    rfl

/-! ## Settling -/

/-- A member with its value settled. -/
def settledMember? (depth : Nat) (m : Literal × Json) : Option (String × Json) := do
  return (← m.1, ← settled? depth m.2)

theorem settled?_record (depth : Nat) (members : List (Literal × Json)) :
    settled? (depth + 1) (.record members) =
      (members.mapM (settledMember? depth)).map fun entries =>
        .record ((Dictionary.ofList entries).entries.map named) := by
  rw [settled?]
  cases h : members.mapM (settledMember? depth) <;> exact congrArg (Option.bind · _) h

theorem settledMember?_eq_some {depth : Nat} {m : Literal × Json} {e : String × Json} :
    settledMember? depth m = some e ↔ m.1 = some e.1 ∧ settled? depth m.2 = some e.2 := by
  obtain ⟨name, value⟩ := m
  obtain ⟨name', value'⟩ := e
  unfold settledMember?
  cases name <;> cases settled? depth value <;> simp

theorem settled_of_settled? {depth : Nat} {v w : Json} (h : v.Legible)
    (settled : settled? depth v = some w) : w.Settled depth := by
  match depth, v with
  | depth, .null =>
    rw [settled?] at settled
    cases settled
    exact .null depth
  | depth, .bool value =>
    rw [settled?] at settled
    cases settled
    exact .bool depth value
  | depth, .number value =>
    rw [settled?] at settled
    obtain ⟨value', hvalue, rfl⟩ := Option.map_eq_some_iff.mp settled
    cases h with
    | number h => exact .number depth (Number.Numeral.stays_of_settled? h hvalue)
  | depth, .text value =>
    rw [settled?] at settled
    obtain ⟨s, -, rfl⟩ := Option.map_eq_some_iff.mp settled
    exact .text depth s
  | 0, .list _ => cases settled
  | 0, .record _ => cases settled
  | depth + 1, .list items =>
    rw [settled?] at settled
    obtain ⟨values, hvalues, rfl⟩ := Option.map_eq_some_iff.mp settled
    cases h with
    | list h =>
      refine .list fun value hvalue => ?_
      obtain ⟨item, hitem, hsettled⟩ := exists_of_mem_mapM hvalues hvalue
      exact settled_of_settled? (h item hitem) hsettled
  | depth + 1, .record members =>
    rw [settled?_record] at settled
    obtain ⟨entries, hentries, rfl⟩ := Option.map_eq_some_iff.mp settled
    cases h with
    | record h =>
      refine .record fun e he => ?_
      obtain ⟨m, hm, hsettled⟩ := exists_of_mem_mapM hentries (Dictionary.mem_of_mem_ofList he)
      exact settled_of_settled? (h m hm) (settledMember?_eq_some.mp hsettled).2

theorem exists_settledMembers {depth : Nat} {entries : List (String × Json)}
    (h : ∀ e ∈ entries, ∃ w, settled? depth e.2 = some w) :
    ∃ entries', (entries.map named).mapM (settledMember? depth) = some entries' ∧
      List.Forall₂ (fun e e' => e'.1 = e.1 ∧ settled? depth e.2 = some e'.2) entries entries' := by
  have hmembers : ∀ e ∈ entries, ∃ e', settledMember? depth (named e) = some e' := by
    intro e he
    obtain ⟨w, hw⟩ := h e he
    exact ⟨(e.1, w), settledMember?_eq_some.mpr ⟨rfl, hw⟩⟩
  obtain ⟨entries', hentries, hall⟩ := exists_mapM hmembers
  refine ⟨entries', by rw [List.mapM_map]; exact hentries, hall.imp fun e e' hsettled => ?_⟩
  obtain ⟨hname, hvalue⟩ := settledMember?_eq_some.mp hsettled
  exact ⟨(Option.some.inj hname).symm, hvalue⟩

theorem Settled.exists_settled? {depth : Nat} {v : Json} (h : v.Settled depth) :
    ∃ w, settled? depth v = some w := by
  induction h with
  | null => exact ⟨_, settled?.eq_1 _⟩
  | bool _ value => exact ⟨_, settled?.eq_2 _ value⟩
  | number depth h =>
    obtain ⟨m, hm, -⟩ := h.exists_settled?
    exact ⟨.number m, by rw [settled?, hm]; rfl⟩
  | text _ value => exact ⟨_, settled?.eq_4 _ (some value)⟩
  | list _ ih =>
    obtain ⟨values, hvalues, -⟩ := exists_mapM ih
    exact ⟨.list values, by rw [settled?, hvalues]; rfl⟩
  | record _ ih =>
    obtain ⟨values, hvalues, -⟩ := exists_settledMembers ih
    exact ⟨_, by rw [settled?_record, hvalues]; rfl⟩

theorem plain_of_settled? {depth : Nat} {v w : Json} (settled : settled? depth v = some w) :
    w.plain = v.plain := by
  match depth, v with
  | _, .null =>
    rw [settled?] at settled
    cases settled
    rfl
  | _, .bool _ =>
    rw [settled?] at settled
    cases settled
    rfl
  | _, .number _ =>
    rw [settled?] at settled
    obtain ⟨_, -, rfl⟩ := Option.map_eq_some_iff.mp settled
    rfl
  | _, .text _ =>
    rw [settled?] at settled
    obtain ⟨_, rfl, rfl⟩ := Option.map_eq_some_iff.mp settled
    rfl
  | 0, .list _ => cases settled
  | 0, .record _ => cases settled
  | depth + 1, .list items =>
    rw [settled?] at settled
    obtain ⟨_, -, rfl⟩ := Option.map_eq_some_iff.mp settled
    rfl
  | depth + 1, .record members =>
    rw [settled?_record] at settled
    obtain ⟨_, -, rfl⟩ := Option.map_eq_some_iff.mp settled
    rfl

end CodeEditor.Json
