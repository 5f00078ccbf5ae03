import FleetBridge.Bridge.Basic
import Mathlib.Data.List.Nodup

/-!
What one reader gets. A stream is fed if what its reader took and what still waits for it are, in
order, the messages on its pattern since it was opened.
-/
namespace FleetBridge

/-- A number above all that were given is a new one. -/
theorem nodup_map_concat {α : Type} {f : α → Nat} {xs : List α} {x : α} (h : (xs.map f).Nodup)
    (hlt : ∀ y ∈ xs, f y < f x) : ((xs ++ [x]).map f).Nodup := by
  rw [List.map_append, List.map_singleton, List.nodup_append]
  refine ⟨h, List.nodup_singleton _, ?_⟩
  intro i hi j hj he
  obtain ⟨y, hy, rfl⟩ := List.mem_map.mp hi
  rw [List.mem_singleton.mp hj] at he
  exact Nat.ne_of_lt (hlt y hy) he

/-- The messages that a pattern accepts among those from a place in the journal on. -/
def Broker.publishedSince (since : Nat) (pattern : String) (b : Broker) : List Message :=
  (b.journal.drop since).filter fun m => Subject.accepts pattern m.subject

namespace Bridge

/-- A delivery shows on the broker and in the queue of woken tasks. -/
theorem deliver_eq (m : Message) (b : Bridge) :
    ∃ q, b.deliver m = { b with broker := b.broker.deliver m, queue := q } := by
  have hfold (ids : List StreamId) (b : Bridge) :
      ∃ q, ids.foldl (fun b i => b.wake (.arrival i)) b = { b with queue := q } := by
    induction ids generalizing b with
    | nil => exact ⟨b.queue, rfl⟩
    | cons i ids ih =>
      obtain ⟨q, hq⟩ := ih (b.wake (.arrival i))
      exact ⟨q, hq⟩
  exact hfold _ _

theorem deliver_broker (m : Message) (b : Bridge) : (b.deliver m).broker = b.broker.deliver m := by
  obtain ⟨q, hq⟩ := deliver_eq m b
  rw [hq]

end Bridge

namespace Subscription

@[simp] theorem push_id (m : Message) (s : Subscription) : (s.push m).id = s.id := by
  unfold push
  split <;> rfl

@[simp] theorem push_pattern (m : Message) (s : Subscription) : (s.push m).pattern = s.pattern := by
  unfold push
  split <;> rfl

@[simp] theorem push_phase (m : Message) (s : Subscription) : (s.push m).phase = s.phase := by
  unfold push
  split <;> rfl

/-- A live subscription takes a message exactly if its pattern accepts the subject. -/
theorem push_waiting {m : Message} {s : Subscription} (h : s.phase = .live) :
    (s.push m).waiting =
      s.waiting ++ [m].filter fun m => Subject.accepts s.pattern m.subject := by
  by_cases ha : Subject.accepts s.pattern m.subject = true
  · simp [push, takes, h, ha]
  · simp [push, takes, h, ha]

end Subscription

namespace Broker

variable {b b' : Broker} {i j : StreamId} {m : Message} {s : Subscription} {pattern : String}

/-! Finding a subscription after each operation. -/

theorem find?_deliver (h : b.find? i = some s) (hs : s.phase ≠ .dropped) :
    (b.deliver m).find? i = some (s.push m) := by
  unfold find? at h ⊢
  rw [List.find?_eq_some_iff_append] at h
  obtain ⟨hi, before, later, hsplit, hbefore⟩ := h
  rw [deliver, hsplit, List.find?_map, List.filter_append, List.filter_cons,
    if_pos (decide_eq_true hs), List.find?_append]
  -- Whoever stands before it has another number, whether cleared away or not.
  have hnone : ((before.filter fun s => s.phase ≠ .dropped).find?
      ((fun s => decide (s.id = i)) ∘ (Subscription.push m))) = none := by
    rw [List.find?_eq_none]
    intro x hx
    have hne := hbefore x (List.mem_filter.mp hx).1
    simpa using hne
  rw [hnone, Option.none_or, List.find?_cons_of_pos, Option.map_some]
  simpa using hi

theorem find?_subscribe (h : b.find? i = some s) :
    (b.subscribe pattern).2.find? i = some s := by
  unfold find? at h ⊢
  rw [subscribe, List.find?_append, h, Option.some_or]

theorem find?_subscribe_self (h : ∀ s ∈ b.subscriptions, s.id < b.nextStream) :
    (b.subscribe pattern).2.find? b.nextStream = some ⟨b.nextStream, pattern, .live, []⟩ := by
  have hnone : b.subscriptions.find? (fun s => s.id = b.nextStream) = none := by
    rw [List.find?_eq_none]
    intro s hs
    have hlt := h s hs
    simpa using Nat.ne_of_lt hlt
  rw [find?, subscribe, List.find?_append, hnone, Option.none_or]
  simp

theorem find?_update_self {f : Subscription → Subscription} (hf : ∀ s, (f s).id = s.id)
    (h : b.find? i = some s) : (b.update i f).find? i = some (f s) := by
  have hi : s.id = i := by simpa using List.find?_some h
  have hid : ((fun s => decide (s.id = i)) ∘ fun s => if s.id = i then f s else s) =
      fun s => decide (s.id = i) := by
    funext x
    by_cases hx : x.id = i
    · simp [hx, hf]
    · simp [hx]
  unfold find? at h ⊢
  rw [update, List.find?_map, hid, h, Option.map_some, if_pos hi]

theorem find?_update_of_ne {f : Subscription → Subscription} (hf : ∀ s, (f s).id = s.id)
    (hj : j ≠ i) : (b.update i f).find? j = b.find? j := by
  unfold find?
  rw [update, List.find?_map]
  have hid : ((fun s => decide (s.id = j)) ∘ fun s => if s.id = i then f s else s) =
      fun s => decide (s.id = j) := by
    funext x
    by_cases hx : x.id = i
    · simp [hx, hf, Ne.symm hj]
    · simp [hx]
  rw [hid]
  cases hfind : b.subscriptions.find? fun s => decide (s.id = j) with
  | none => rfl
  | some s =>
    have hs : s.id = j := by simpa using List.find?_some hfind
    rw [Option.map_some, if_neg (hs ▸ hj)]

theorem mem_update {f : Subscription → Subscription} :
    s ∈ (b.update i f).subscriptions ↔
      (∃ s' ∈ b.subscriptions, s'.id = i ∧ f s' = s) ∨ s ∈ b.subscriptions ∧ s.id ≠ i := by
  rw [update, List.mem_map]
  constructor
  · rintro ⟨s', hs', rfl⟩
    by_cases hi : s'.id = i
    · exact .inl ⟨s', hs', hi, (if_pos hi).symm⟩
    · rw [if_neg hi]
      exact .inr ⟨hs', hi⟩
  · rintro (⟨s', hs', hi, rfl⟩ | ⟨hs, hi⟩)
    · exact ⟨s', hs', if_pos hi⟩
    · exact ⟨s, hs, if_neg hi⟩

theorem ids_update {f : Subscription → Subscription} (hf : ∀ s, (f s).id = s.id) :
    (b.update i f).subscriptions.map Subscription.id = b.subscriptions.map Subscription.id := by
  rw [update, List.map_map]
  refine List.map_congr_left fun s _ => ?_
  by_cases hi : s.id = i
  · simp [hi, hf]
  · simp [hi]

theorem waiting_of_find? (h : b.find? i = some s) : b.waiting i = s.waiting := by
  rw [waiting, h]
  rfl

/-! Reading. -/

theorem read?_eq_none_iff : b.read? i = none ↔ b.waiting i = [] := by
  unfold read?
  split
  next h => simp [h]
  next m r h => simp [h]

/-- What a reader takes is the first message that waits, and the others go on waiting. -/
theorem read?_eq_some (h : b.read? i = some (m, b')) :
    ∃ s rest, b.find? i = some s ∧ s.waiting = m :: rest ∧
      b' = b.update i fun s => { s with waiting := rest } := by
  unfold read? at h
  split at h
  next => cases h
  next m' rest hw =>
    cases h
    unfold waiting at hw
    cases hs : b.find? i with
    | none =>
      rw [hs] at hw
      cases hw
    | some s =>
      rw [hs] at hw
      exact ⟨s, rest, rfl, hw, rfl⟩

/-- A reader that is there was given what was published for it, part of which it has read. -/
structure Feeds (i : StreamId) (pattern : String) (since : Nat) (taken : List Message)
    (b : Broker) : Prop where
  found : ∃ s, b.find? i = some s ∧ s.pattern = pattern ∧ s.phase = .live
  since_le : since ≤ b.journal.length
  exact : taken ++ b.waiting i = b.publishedSince since pattern

namespace Feeds

variable {since : Nat} {taken : List Message}

theorem subscribed (h : ∀ s ∈ b.subscriptions, s.id < b.nextStream) (pattern : String) :
    Feeds b.nextStream pattern b.journal.length [] (b.subscribe pattern).2 := by
  have hfind : (b.subscribe pattern).2.find? b.nextStream =
      some ⟨b.nextStream, pattern, .live, []⟩ := find?_subscribe_self h
  refine ⟨⟨_, hfind, rfl, rfl⟩, Nat.le_refl _, ?_⟩
  have hdrop : b.journal.drop b.journal.length = [] := List.drop_length
  rw [waiting_of_find? hfind, publishedSince]
  change [] ++ [] = (b.journal.drop b.journal.length).filter _
  rw [hdrop]
  rfl

/-- Only what was published and what is found under its number matters to a reader. -/
theorem congr (h : Feeds i pattern since taken b) (hj : b'.journal = b.journal)
    (hf : b'.find? i = b.find? i) : Feeds i pattern since taken b' where
  found := hf ▸ h.found
  since_le := hj ▸ h.since_le
  exact := by
    have hexact := h.exact
    unfold waiting publishedSince at hexact ⊢
    rw [hf, hj]
    exact hexact

theorem other_subscribed (h : Feeds i pattern since taken b) (pattern' : String) :
    Feeds i pattern since taken (b.subscribe pattern').2 := by
  obtain ⟨s, hs, -⟩ := h.found
  exact h.congr rfl ((find?_subscribe hs).trans hs.symm)

theorem other_updated (h : Feeds i pattern since taken b) {f : Subscription → Subscription}
    (hf : ∀ s, (f s).id = s.id) (hj : i ≠ j) : Feeds i pattern since taken (b.update j f) :=
  h.congr rfl (find?_update_of_ne hf hj)

theorem delivered (h : Feeds i pattern since taken b) (m : Message) :
    Feeds i pattern since taken (b.deliver m) := by
  obtain ⟨s, hs, hpattern, hphase⟩ := h.found
  have hlive : s.phase ≠ .dropped := by
    rw [hphase]
    exact nofun
  have hs' := find?_deliver (m := m) hs hlive
  refine ⟨⟨_, hs', ?_, ?_⟩, ?_, ?_⟩
  · rw [Subscription.push_pattern, hpattern]
  · rw [Subscription.push_phase, hphase]
  · have hle := h.since_le
    rw [deliver, List.length_append]
    omega
  · have hexact := h.exact
    rw [waiting_of_find? hs] at hexact
    rw [waiting_of_find? hs', Subscription.push_waiting hphase, ← List.append_assoc, hexact,
      publishedSince, publishedSince, hpattern, deliver, List.drop_append_of_le_length h.since_le,
      List.filter_append]

theorem read (h : Feeds i pattern since taken b) (hr : b.read? i = some (m, b')) :
    Feeds i pattern since (taken ++ [m]) b' := by
  obtain ⟨s, rest, hs, hw, rfl⟩ := read?_eq_some hr
  obtain ⟨s', hs', hpattern, hphase⟩ := h.found
  obtain rfl : s = s' := Option.some.inj (hs.symm.trans hs')
  have hfind := find?_update_self (f := fun s => { s with waiting := rest }) (fun _ => rfl) hs
  refine ⟨⟨_, hfind, hpattern, hphase⟩, h.since_le, ?_⟩
  have hexact := h.exact
  rw [waiting_of_find? hs, hw] at hexact
  rw [waiting_of_find? hfind, List.append_assoc, List.singleton_append]
  exact hexact

theorem other_read (h : Feeds i pattern since taken b) (hj : i ≠ j)
    (hr : b.read? j = some (m, b')) : Feeds i pattern since taken b' := by
  obtain ⟨s, rest, -, -, rfl⟩ := read?_eq_some hr
  exact h.other_updated (fun _ => rfl) hj

end Feeds
end Broker
end FleetBridge
