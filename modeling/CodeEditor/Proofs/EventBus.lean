import CodeEditor.Event
import Mathlib.Data.List.Nodup

/-! # Who hears what

A listener hears the events that are told while it listens, each of them once and in their order.
-/

namespace CodeEditor.EventBus

variable {b : EventBus} {listener : Subscription}

/-- What a listener has been told, first one first. -/
def heard (b : EventBus) (listener : Subscription) : List Event :=
  (b.told.reverse.filter (·.1 == listener)).map (·.2)

def publishAll (b : EventBus) (events : List Event) : EventBus := events.foldl publish b

/-- No number has been given to two listeners, and the next one to none. -/
structure Sound (b : EventBus) : Prop where
  distinct : b.listeners.Nodup
  listening : ∀ l ∈ b.listeners, l.number < b.next
  told : ∀ t ∈ b.told, t.1.number < b.next

theorem sound_new : new.Sound := by
  refine ⟨List.nodup_nil, ?_, ?_⟩
  · intro l hl
    cases hl
  · intro t ht
    cases ht

theorem next_not_mem (h : b.Sound) : (⟨b.next⟩ : Subscription) ∉ b.listeners := by
  intro hmem
  exact Nat.lt_irrefl _ (h.listening _ hmem)

/-! ## Publishing -/

theorem sound_publish (h : b.Sound) (e : Event) : (b.publish e).Sound := by
  refine ⟨h.distinct, h.listening, ?_⟩
  intro t ht
  unfold publish at ht
  rw [List.mem_append, List.mem_map] at ht
  rcases ht with ⟨l, hl, rfl⟩ | hold
  · exact h.listening l (List.mem_reverse.mp hl)
  · exact h.told t hold

theorem heard_publish (h : b.Sound) (e : Event) :
    (b.publish e).heard listener = b.heard listener ++ if listener ∈ b.listeners then [e] else [] := by
  have hnew : (b.listeners.map (·, e)).filter (·.1 == listener) =
      (b.listeners.filter (· == listener)).map (·, e) := List.filter_map
  have hself : b.listeners.filter (· == listener) =
      if listener ∈ b.listeners then [listener] else [] := by
    rw [List.filter_beq, h.distinct.count]
    split <;> rfl
  unfold heard publish
  rw [List.reverse_append, ← List.map_reverse, List.reverse_reverse, List.filter_append,
    List.map_append, hnew, hself]
  split <;> rfl

theorem sound_publishAll (h : b.Sound) (events : List Event) : (b.publishAll events).Sound := by
  induction events generalizing b with
  | nil => exact h
  | cons e events ih => exact ih (sound_publish h e)

theorem listeners_publishAll (b : EventBus) (events : List Event) :
    (b.publishAll events).listeners = b.listeners := by
  induction events generalizing b with
  | nil => rfl
  | cons e events ih => exact ih (b.publish e)

theorem heard_publishAll (h : b.Sound) (listens : listener ∈ b.listeners) (events : List Event) :
    (b.publishAll events).heard listener = b.heard listener ++ events := by
  induction events generalizing b with
  | nil => exact (List.append_nil _).symm
  | cons e events ih =>
    have hfirst : (b.publish e).heard listener = b.heard listener ++ [e] := by
      rw [heard_publish h, if_pos listens]
    show ((b.publish e).publishAll events).heard listener = _
    rw [ih (sound_publish h e) listens, hfirst, List.append_assoc]
    rfl

/-! ## Coming and going -/

theorem sound_subscribe (h : b.Sound) : b.subscribe.1.Sound := by
  have hnext : ∀ {n : Nat}, n < b.next → n < b.next + 1 := fun hn => Nat.lt_succ_of_lt hn
  refine ⟨?_, ?_, fun t ht => hnext (h.told t ht)⟩
  · refine List.nodup_append.mpr ⟨h.distinct, List.nodup_singleton _, ?_⟩
    rintro l hl _ hnew rfl
    rw [List.mem_singleton] at hnew
    exact next_not_mem h (hnew ▸ hl)
  · intro l hl
    unfold subscribe at hl
    rw [List.mem_append, List.mem_singleton] at hl
    rcases hl with hold | rfl
    · exact hnext (h.listening l hold)
    · exact Nat.lt_succ_self b.next

theorem sound_unsubscribe (h : b.Sound) (l : Subscription) : (b.unsubscribe l).1.Sound := by
  refine ⟨h.distinct.filter _, ?_, h.told⟩
  intro l' hl'
  exact h.listening l' (List.mem_of_mem_filter hl')

theorem mem_subscribe (b : EventBus) : b.subscribe.2 ∈ b.subscribe.1.listeners :=
  List.mem_append_right _ (List.mem_singleton_self _)

theorem heard_subscribe (h : b.Sound) : b.subscribe.1.heard b.subscribe.2 = [] := by
  unfold heard
  rw [List.map_eq_nil_iff, List.filter_eq_nil_iff]
  intro t ht hsame
  have hold := h.told t (List.mem_reverse.mp ht)
  rw [beq_iff_eq.mp hsame] at hold
  exact Nat.lt_irrefl _ hold

theorem mem_unsubscribe (listens : listener ∈ b.listeners) {l : Subscription} (other : listener ≠ l) :
    listener ∈ (b.unsubscribe l).1.listeners := by
  refine List.mem_filter.mpr ⟨listens, ?_⟩
  simpa using other

end CodeEditor.EventBus
