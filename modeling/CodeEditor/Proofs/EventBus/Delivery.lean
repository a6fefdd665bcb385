import CodeEditor.Proofs.EventBus
import Mathlib.Data.List.Induction

/-! # Delivery of events

Whatever is asked of a bus, and in whatever order: a listener hears all that is told between its coming
and its going, and nothing else. Who listens is said by the requests alone.
-/

namespace CodeEditor.EventBus

/-! ## Requests -/

inductive Request where
  | subscribe
  | unsubscribe (listener : Subscription)
  | publish (e : Event)
  deriving DecidableEq

def Request.event? : Request → Option Event
  | .publish e => some e
  | _ => none

def serve (b : EventBus) : Request → EventBus
  | .subscribe => b.subscribe.1
  | .unsubscribe listener => (b.unsubscribe listener).1
  | .publish e => b.publish e

def serveAll (b : EventBus) (requests : List Request) : EventBus := requests.foldl serve b

/-- The bus after all that has been asked of it. -/
def after (requests : List Request) : EventBus := new.serveAll requests

/-- The numbers given to those who come, first one first. -/
def handedOut (b : EventBus) : List Request → List Subscription
  | [] => []
  | .subscribe :: requests => b.subscribe.2 :: b.subscribe.1.handedOut requests
  | .unsubscribe listener :: requests => (b.unsubscribe listener).1.handedOut requests
  | .publish e :: requests => (b.publish e).handedOut requests

/-- All that has been told, first one first. -/
def calls (b : EventBus) : List (Subscription × Event) := b.told.reverse

/-- This listener has come, and has not been sent away since. -/
def Listens (requests : List Request) (listener : Subscription) : Prop :=
  ∃ before since, requests = before ++ .subscribe :: since ∧
    listener = (after before).subscribe.2 ∧ .unsubscribe listener ∉ since

/-- What is told before a listener is sent away. -/
def toldUntilGone (listener : Subscription) (requests : List Request) : List Event :=
  (requests.takeWhile (· ≠ .unsubscribe listener)).filterMap Request.event?

variable {b : EventBus} {listener : Subscription} {requests : List Request}

theorem serveAll_append (b : EventBus) (before since : List Request) :
    b.serveAll (before ++ since) = (b.serveAll before).serveAll since :=
  List.foldl_append

theorem after_concat (requests : List Request) (r : Request) :
    after (requests ++ [r]) = (after requests).serve r :=
  serveAll_append new requests [r]

/-! ## One request -/

theorem sound_serve (h : b.Sound) (r : Request) : (b.serve r).Sound := by
  cases r with
  | subscribe => exact sound_subscribe h
  | unsubscribe l => exact sound_unsubscribe h l
  | publish e => exact sound_publish h e

theorem next_serve (b : EventBus) (r : Request) :
    (b.serve r).next = b.next + [r].count .subscribe := by
  cases r <;> rfl

theorem mem_listeners_serve (r : Request) :
    listener ∈ (b.serve r).listeners ↔
      (listener ∈ b.listeners ∧ r ≠ .unsubscribe listener) ∨
        (r = .subscribe ∧ listener = b.subscribe.2) := by
  cases r with
  | subscribe => simp [serve, subscribe]
  | unsubscribe l =>
    have hother : Request.unsubscribe l ≠ .unsubscribe listener ↔ listener ≠ l := by
      rw [ne_eq, Request.unsubscribe.injEq, eq_comm]
    simp only [serve, unsubscribe, List.mem_filter, hother, bne_iff_ne, reduceCtorEq, false_and,
      or_false]
  | publish e => simp [serve, publish]

theorem heard_serve (h : b.Sound) (r : Request) :
    (b.serve r).heard listener =
      b.heard listener ++ if listener ∈ b.listeners then r.event?.toList else [] := by
  cases r with
  | subscribe => simp [serve, Request.event?, heard, subscribe]
  | unsubscribe l => simp [serve, Request.event?, heard, unsubscribe]
  | publish e => exact heard_publish h e

/-! ## All requests -/

theorem sound_serveAll (h : b.Sound) (requests : List Request) : (b.serveAll requests).Sound := by
  induction requests generalizing b with
  | nil => exact h
  | cons r requests ih => exact ih (sound_serve h r)

theorem sound_after (requests : List Request) : (after requests).Sound :=
  sound_serveAll sound_new requests

theorem next_serveAll (b : EventBus) (requests : List Request) :
    (b.serveAll requests).next = b.next + requests.count .subscribe := by
  induction requests generalizing b with
  | nil => rfl
  | cons r requests ih =>
    have hcount : (r :: requests).count .subscribe =
        [r].count .subscribe + requests.count .subscribe := by
      rw [← List.singleton_append, List.count_append]
    show ((b.serve r).serveAll requests).next = _
    rw [ih, next_serve, hcount, Nat.add_assoc]

theorem next_after (requests : List Request) : (after requests).next = requests.count .subscribe :=
  (next_serveAll new requests).trans (Nat.zero_add _)

theorem handedOut_eq (b : EventBus) (requests : List Request) :
    b.handedOut requests =
      (List.range' b.next (requests.count .subscribe)).map Subscription.mk := by
  induction requests generalizing b with
  | nil => rfl
  | cons r requests ih =>
    cases r with
    | subscribe =>
      rw [handedOut, ih, List.count_cons_self, List.range'_succ]
      rfl
    | unsubscribe l =>
      rw [handedOut, ih, List.count_cons_of_ne (by simp)]
      rfl
    | publish e =>
      rw [handedOut, ih, List.count_cons_of_ne (by simp)]
      rfl

theorem nodup_handedOut (b : EventBus) (requests : List Request) :
    (b.handedOut requests).Nodup := by
  rw [handedOut_eq]
  refine List.Nodup.map ?_ List.nodup_range'
  intro m n hmn
  exact congrArg Subscription.number hmn

theorem listeners_sublist (b : EventBus) (requests : List Request) :
    (b.serveAll requests).listeners.Sublist (b.listeners ++ b.handedOut requests) := by
  induction requests generalizing b with
  | nil =>
    rw [handedOut, List.append_nil]
    exact List.Sublist.refl _
  | cons r requests ih =>
    cases r with
    | subscribe =>
      have h := ih b.subscribe.1
      rw [subscribe, List.append_assoc] at h
      exact h
    | unsubscribe l =>
      have hkept : (b.unsubscribe l).1.listeners.Sublist b.listeners := List.filter_sublist
      exact (ih (b.unsubscribe l).1).trans (hkept.append_right _)
    | publish e => exact ih (b.publish e)

/-! ## Who listens -/

theorem listens_concat (r : Request) :
    Listens (requests ++ [r]) listener ↔
      (Listens requests listener ∧ r ≠ .unsubscribe listener) ∨
        (r = .subscribe ∧ listener = (after requests).subscribe.2) := by
  constructor
  · rintro ⟨before, since, hsplit, hcame, hstays⟩
    rcases List.eq_nil_or_concat since with rfl | ⟨since, last, rfl⟩
    · obtain ⟨rfl, hlast⟩ := List.append_inj' hsplit rfl
      exact .inr ⟨List.singleton_inj.mp hlast, hcame⟩
    · rw [List.concat_eq_append] at hsplit hstays
      have hsplit : requests ++ [r] = (before ++ .subscribe :: since) ++ [last] := by
        rw [hsplit, List.append_assoc, List.cons_append]
      obtain ⟨hrequests, hlast⟩ := List.append_inj' hsplit rfl
      obtain rfl : r = last := List.singleton_inj.mp hlast
      rw [List.mem_append, not_or, List.mem_singleton] at hstays
      exact .inl ⟨⟨before, since, hrequests, hcame, hstays.1⟩, Ne.symm hstays.2⟩
  · rintro (⟨⟨before, since, rfl, hcame, hstays⟩, hlast⟩ | ⟨rfl, hcame⟩)
    · refine ⟨before, since ++ [r], ?_, hcame, ?_⟩
      · rw [List.append_assoc, List.cons_append]
      · rw [List.mem_append, not_or, List.mem_singleton]
        exact ⟨hstays, Ne.symm hlast⟩
    · exact ⟨requests, [], rfl, hcame, List.not_mem_nil⟩

theorem mem_listeners_after (requests : List Request) :
    listener ∈ (after requests).listeners ↔ Listens requests listener := by
  induction requests using List.reverseRecOn with
  | nil =>
    refine ⟨fun h => (List.not_mem_nil h).elim, ?_⟩
    rintro ⟨before, since, hsplit, -, -⟩
    simp at hsplit
  | append_singleton requests r ih =>
    rw [after_concat, mem_listeners_serve, listens_concat, ih]

/-! ## What is heard -/

theorem toldUntilGone_cons (r : Request) :
    toldUntilGone listener (r :: requests) =
      if r = .unsubscribe listener then []
      else r.event?.toList ++ toldUntilGone listener requests := by
  unfold toldUntilGone
  by_cases hgoes : r = .unsubscribe listener
  · simp [hgoes]
  · rw [List.takeWhile_cons_of_pos (by simpa using hgoes), if_neg hgoes]
    cases r <;> rfl

/-- Who is there hears all until it goes, and who has gone hears no more. -/
theorem heard_serveAll (h : b.Sound) (known : listener.number < b.next) (requests : List Request) :
    (b.serveAll requests).heard listener =
      b.heard listener ++ if listener ∈ b.listeners then toldUntilGone listener requests else [] := by
  induction requests generalizing b with
  | nil =>
    have hnothing : toldUntilGone listener [] = [] := rfl
    rw [hnothing, ite_self, List.append_nil]
    rfl
  | cons r requests ih =>
    have hknown : listener.number < (b.serve r).next := by
      rw [next_serve]
      omega
    -- A number is given out once only, so who has gone does not come again.
    have hnew : listener ≠ b.subscribe.2 := by
      rintro rfl
      exact Nat.lt_irrefl _ known
    have hstays : listener ∈ (b.serve r).listeners ↔
        listener ∈ b.listeners ∧ r ≠ .unsubscribe listener := by
      rw [mem_listeners_serve]
      simp [hnew]
    show ((b.serve r).serveAll requests).heard listener = _
    rw [ih (sound_serve h r) hknown, heard_serve h, toldUntilGone_cons]
    by_cases hlistens : listener ∈ b.listeners
    · by_cases hgoes : r = .unsubscribe listener
      · have hgone : listener ∉ (b.serve r).listeners := fun hmem => (hstays.mp hmem).2 hgoes
        rw [if_neg hgone, if_pos hgoes, hgoes]
        simp [Request.event?]
      · simp [hstays, hgoes, hlistens]
    · simp [hstays, hlistens]

theorem unsubscribe_eq_erase (h : b.Sound) (l : Subscription) :
    (b.unsubscribe l).1.listeners = b.listeners.erase l :=
  (h.distinct.erase_eq_filter l).symm

/-! ## Delivery -/

/-- What becomes of requests to a bus that has served others before. -/
structure Delivery (before since : List Request) (e : Event) (listener : Subscription) : Prop where
  distinct : (new.handedOut before).Nodup
  /-- The next number is how many have come, so for fewer than `2 ^ 64` of them it has 64 bits. -/
  counted : (after before).next = before.count .subscribe
  /-- Whoever comes next hears what is told from then on until it is sent away. -/
  heard : (after (before ++ .subscribe :: since)).heard (after before).subscribe.2 =
    toldUntilGone (after before).subscribe.2 since
  present : listener ∈ (after before).listeners ↔ Listens before listener
  ordered : (after before).listeners.Sublist (new.handedOut before)
  /-- An event is told to those who are there, one after the other. -/
  called : ((after before).publish e).calls =
    (after before).calls ++ (after before).listeners.map (·, e)
  answered : ((after before).unsubscribe listener).2 = true ↔ Listens before listener
  /-- Nobody else is taken off. -/
  gone : ((after before).unsubscribe listener).1.listeners = (after before).listeners.erase listener

theorem events_are_delivered (before since : List Request) (e : Event) (listener : Subscription) :
    Delivery before since e listener where
  distinct := nodup_handedOut new before
  counted := next_after before
  heard := by
    have hsound := sound_after before
    have hsubscribed := sound_subscribe hsound
    have hthere := mem_subscribe (after before)
    have hsplit : after (before ++ .subscribe :: since) = (after before).subscribe.1.serveAll since :=
      serveAll_append new before (.subscribe :: since)
    rw [hsplit, heard_serveAll hsubscribed (hsubscribed.listening _ hthere), if_pos hthere,
      heard_subscribe hsound, List.nil_append]
  present := mem_listeners_after before
  ordered := listeners_sublist new before
  called := by
    simp [calls, publish]
  answered := by
    rw [← mem_listeners_after]
    exact List.contains_iff_mem
  gone := unsubscribe_eq_erase (sound_after before) listener

example :
    (after [.subscribe, .subscribe, .publish (.textChanged 1), .unsubscribe ⟨0⟩,
      .publish (.scrollChanged 4)]).calls =
        [(⟨0⟩, .textChanged 1), (⟨1⟩, .textChanged 1), (⟨1⟩, .scrollChanged 4)] := by decide

end CodeEditor.EventBus
