import FleetBridge.Bridge.Requests
import FleetBridge.Proofs.Bus.Feed
import Mathlib.Data.List.Nodup

/-!
Everything that can be done on the buses of one broker, with a ledger of what the readers did. Each
reader gets exactly what was published for it, in order, whatever the others do.
-/
namespace FleetBridge

namespace Bus

/-- A reader that is there, and how long the journal was when it subscribed. -/
structure Reader where
  stream : StreamId
  pattern : String
  since : Nat
  deriving DecidableEq, Repr

/-- What the readers did: who is there, who left, and each message that one of them took. -/
structure Ledger where
  held : List Reader
  left : List StreamId
  taken : List (StreamId × Message)

namespace Ledger

def empty : Ledger := ⟨[], [], []⟩

/-- A reader subscribes on a broker. -/
def opened (pattern : String) (b : Broker) (g : Ledger) : Ledger :=
  { g with held := g.held ++ [⟨b.nextStream, pattern, b.journal.length⟩] }

def took (i : StreamId) (m : Message) (g : Ledger) : Ledger :=
  { g with taken := g.taken ++ [(i, m)] }

def leaves (i : StreamId) (g : Ledger) : Ledger :=
  { g with
    held := g.held.filter fun r => r.stream ≠ i
    left := if g.held.any fun r => r.stream = i then g.left ++ [i] else g.left }

/-- What the reader of a stream took so far. -/
def takenFrom (i : StreamId) (g : Ledger) : List Message :=
  (g.taken.filter fun t => t.1 = i).map Prod.snd

/-- The readers whose pattern accepts a subject, in the order in which they subscribed. -/
def audience (subject : String) (g : Ledger) : List StreamId :=
  (g.held.filter fun r => Subject.accepts r.pattern subject).map Reader.stream

end Ledger

/-- What is done on the buses of a broker, and by the responders that are on the broker itself. A
request is asked and, later, its answer collected. -/
inductive Operation where
  | connect
  | setConnected (l : Link) (up : Bool)
  | subscribe (l : Link) (pattern : String)
  | publish (l : Link) (subject : String) (p : Payload)
  | ask (l : Link) (subject : String) (p : Payload) (timeout : Duration)
  | collect (e : Exchange)
  | read (i : StreamId)
  | leave (i : StreamId)
  | attend (pattern : String)
  | answer (m : Message)

namespace Operation

/-- The ledger and the bridge after an operation. -/
def perform (g : Ledger) (b : Bridge) : Operation → Ledger × Bridge
  | connect => (g, b.connect.2)
  | setConnected l up => (g, b.setConnected l up)
  | subscribe l pattern =>
    match b.subscribe l pattern with
    | (.ok _, b') => (g.opened pattern b.broker, b')
    | (.error _, b') => (g, b')
  | publish l subject p => (g, (b.publish l subject p).2)
  | ask l subject p timeout =>
    let asking := g.opened b.broker.inbox.1 b.broker
    match b.ask l subject p timeout with
    | (.ok _, b') => (asking, b')
    | (.error (.noResponders _), b') => (asking.leaves b.broker.nextStream, b')
    | (.error _, b') => (g, b')
  | collect e =>
    match b.read? e.inbox with
    | some (m, _) => ((g.took e.inbox m).leaves e.inbox, (b.collect e).2)
    | none => (g.leaves e.inbox, (b.collect e).2)
  | read i =>
    match b.read? i with
    | some (m, b') => (g.took i m, b')
    | none => (g, b)
  | leave i => (g.leaves i, b.leave i)
  | attend pattern => (g.opened pattern b.broker, (b.attend pattern).2)
  | answer m => (g, b.deliver m)

/-- The messages that it publishes. A request goes out on any subject, concrete or not. -/
def sends (b : Bridge) : Operation → List Message
  | publish l subject p =>
    if b.isConnected l && Subject.isConcrete subject then [⟨subject, none, p⟩] else []
  | ask l subject p _ =>
    if b.isConnected l then [⟨subject, some b.broker.inbox.1, p⟩] else []
  | answer m => [m]
  | _ => []

/-- Whether it is answered with a fault. -/
def Fails (b : Bridge) : Operation → Prop
  | subscribe l pattern => ∃ f, (b.subscribe l pattern).1 = .error f
  | publish l subject p => ∃ f, (b.publish l subject p).1 = .error f
  | ask l subject p timeout => ∃ f, (b.ask l subject p timeout).1 = .error f
  | _ => False

/-- The bus is down, or the subject is no place to publish on. -/
def Unfit (b : Bridge) : Operation → Prop
  | subscribe l _ => b.isConnected l = false
  | publish l subject _ => b.isConnected l = false ∨ Subject.isConcrete subject = false
  | ask l _ _ _ => b.isConnected l = false
  | _ => False

end Operation

/-- The ledger and the bridge after a number of operations. -/
def run (ops : List Operation) (g : Ledger) (b : Bridge) : Ledger × Bridge :=
  ops.foldl (fun x o => o.perform x.1 x.2) (g, b)

namespace Ledger

/-- The ledger goes with the broker's table of subscriptions. -/
structure Matches (g : Ledger) (b : Broker) : Prop where
  nodup : (b.subscriptions.map Subscription.id).Nodup
  id_lt : ∀ s ∈ b.subscriptions, s.id < b.nextStream
  taken_lt : ∀ t ∈ g.taken, t.1 < b.nextStream
  left_lt : ∀ i ∈ g.left, i < b.nextStream
  live_eq : (b.subscriptions.filter fun s => s.phase = .live).map (fun s => (s.id, s.pattern)) =
    g.held.map fun r => (r.stream, r.pattern)
  not_live : ∀ s ∈ b.subscriptions, s.phase ≠ .live → s.phase = .dropped ∧ s.waiting = []
  feeds : ∀ r ∈ g.held, b.Feeds r.stream r.pattern r.since (g.takenFrom r.stream)
  apart : ∀ r ∈ g.held, r.stream ∉ g.left

theorem matches_empty : empty.Matches .empty where
  nodup := List.nodup_nil
  id_lt := nofun
  taken_lt := nofun
  left_lt := nofun
  live_eq := rfl
  not_live := nofun
  feeds := nofun
  apart := nofun

namespace Matches

variable {g : Ledger} {b b' : Broker} {i : StreamId} {m : Message}

/-- Each reader has a live subscription, and each live subscription has a reader. -/
theorem mem_live_iff (h : g.Matches b) {i : StreamId} :
    (∃ s ∈ b.subscriptions, s.phase = .live ∧ s.id = i) ↔ ∃ r ∈ g.held, r.stream = i := by
  have hids : (b.subscriptions.filter fun s => s.phase = .live).map Subscription.id =
      g.held.map Reader.stream := by
    have hfst := congrArg (List.map Prod.fst) h.live_eq
    rwa [List.map_map, List.map_map] at hfst
  have hmem : i ∈ (b.subscriptions.filter fun s => s.phase = .live).map Subscription.id ↔
      i ∈ g.held.map Reader.stream := by rw [hids]
  simpa [and_assoc] using hmem

theorem held_lt (h : g.Matches b) {r : Reader} (hr : r ∈ g.held) : r.stream < b.nextStream := by
  obtain ⟨s, hs, -, hid⟩ := h.mem_live_iff.mpr ⟨r, hr, rfl⟩
  exact hid ▸ h.id_lt s hs

theorem inbox (h : g.Matches b) : g.Matches b.inbox.2 :=
  { h with feeds := fun r hr => (h.feeds r hr).congr rfl rfl }

theorem opened (h : g.Matches b) (pattern : String) :
    (g.opened pattern b).Matches (b.subscribe pattern).2 where
  nodup := nodup_map_concat h.nodup h.id_lt
  id_lt s hs := by
    rcases List.mem_append.mp hs with hs | hs
    · exact Nat.lt_succ_of_lt (h.id_lt s hs)
    · rw [List.mem_singleton.mp hs]
      exact Nat.lt_succ_self _
  taken_lt t ht := Nat.lt_succ_of_lt (h.taken_lt t ht)
  left_lt i hi := Nat.lt_succ_of_lt (h.left_lt i hi)
  live_eq := by
    change ((b.subscriptions ++ [_]).filter _).map _ = (g.held ++ [_]).map _
    rw [List.filter_append, List.map_append, List.map_append, h.live_eq]
    rfl
  not_live s hs hne := by
    rcases List.mem_append.mp hs with hs | hs
    · exact h.not_live s hs hne
    · rw [List.mem_singleton.mp hs] at hne
      exact absurd rfl hne
  feeds r hr := by
    rcases List.mem_append.mp hr with hr | hr
    · exact (h.feeds r hr).other_subscribed pattern
    · -- The number is new, so nothing was taken under it.
      have hnone : g.takenFrom b.nextStream = [] := by
        have hfilter : g.taken.filter (fun t => t.1 = b.nextStream) = [] := by
          refine List.filter_eq_nil_iff.mpr fun t ht => ?_
          simpa using Nat.ne_of_lt (h.taken_lt t ht)
        rw [takenFrom, hfilter]
        rfl
      rw [List.mem_singleton.mp hr]
      change Broker.Feeds b.nextStream pattern b.journal.length (g.takenFrom b.nextStream) _
      rw [hnone]
      exact .subscribed h.id_lt pattern
  apart r hr hleft := by
    rcases List.mem_append.mp hr with hr | hr
    · exact h.apart r hr hleft
    · rw [List.mem_singleton.mp hr] at hleft
      exact Nat.lt_irrefl _ (h.left_lt _ hleft)

theorem delivered (h : g.Matches b) (m : Message) : g.Matches (b.deliver m) where
  nodup := by
    have hids : (b.deliver m).subscriptions.map Subscription.id =
        (b.subscriptions.filter fun s => s.phase ≠ .dropped).map Subscription.id := by
      rw [Broker.deliver, List.map_map]
      exact List.map_congr_left fun s _ => Subscription.push_id m s
    rw [hids]
    exact h.nodup.sublist (List.filter_sublist.map _)
  id_lt s hs := by
    obtain ⟨s', hs', rfl⟩ := List.mem_map.mp hs
    rw [Subscription.push_id]
    exact h.id_lt s' (List.mem_filter.mp hs').1
  taken_lt := h.taken_lt
  left_lt := h.left_lt
  live_eq := by
    -- A delivery clears away the dropped ones only.
    rw [← h.live_eq, Broker.deliver, List.filter_map, List.map_map, List.filter_filter]
    have hlive : (fun s : Subscription => decide (s.phase ≠ .dropped) &&
        ((fun s : Subscription => decide (s.phase = .live)) ∘ Subscription.push m) s) =
        fun s => decide (s.phase = .live) := by
      funext s
      cases hs : s.phase <;> simp [hs]
    simp only [Bool.and_comm] at hlive ⊢
    rw [hlive]
    exact List.map_congr_left fun s _ => by simp
  not_live s hs hne := by
    obtain ⟨s', hs', rfl⟩ := List.mem_map.mp hs
    obtain ⟨hmem, hphase⟩ := List.mem_filter.mp hs'
    rw [Subscription.push_phase] at hne
    exact absurd (h.not_live s' hmem hne).1 (of_decide_eq_true hphase)
  feeds r hr := (h.feeds r hr).delivered m
  apart := h.apart

theorem takenFrom_took_self (g : Ledger) (i : StreamId) (m : Message) :
    (g.took i m).takenFrom i = g.takenFrom i ++ [m] := by
  simp [took, takenFrom]

theorem takenFrom_took_of_ne {j : StreamId} (hj : j ≠ i) (g : Ledger) (m : Message) :
    (g.took i m).takenFrom j = g.takenFrom j := by
  simp [took, takenFrom, Ne.symm hj]

/-- The live subscriptions are the same after a change that spares their numbers, patterns and
phases. -/
theorem live_update (h : g.Matches b) {f : Subscription → Subscription}
    (hf : ∀ s, (f s).id = s.id ∧ (f s).pattern = s.pattern ∧ (f s).phase = s.phase) :
    ((b.update i f).subscriptions.filter fun s => s.phase = .live).map
      (fun s => (s.id, s.pattern)) = g.held.map fun r => (r.stream, r.pattern) := by
  rw [← h.live_eq, Broker.update, List.filter_map, List.map_map]
  have hphase : (fun s : Subscription => decide (s.phase = .live)) ∘
      (fun s => if s.id = i then f s else s) = fun s => decide (s.phase = .live) := by
    funext s
    by_cases hi : s.id = i <;> simp [hi, hf]
  rw [hphase]
  refine List.map_congr_left fun s _ => ?_
  by_cases hi : s.id = i <;> simp [hi, hf]

theorem read (h : g.Matches b) (hr : b.read? i = some (m, b')) : (g.took i m).Matches b' := by
  obtain ⟨s, rest, hs, hw, rfl⟩ := Broker.read?_eq_some hr
  have hmem : s ∈ b.subscriptions := List.mem_of_find?_eq_some hs
  have hid : s.id = i := by simpa using List.find?_some hs
  -- Only live subscriptions have something waiting.
  have hlive : s.phase = .live := by
    by_contra hne
    rw [(h.not_live s hmem hne).2] at hw
    cases hw
  refine ⟨?_, ?_, ?_, h.left_lt, h.live_update fun _ => ⟨rfl, rfl, rfl⟩, ?_, ?_, h.apart⟩
  · have hids : (b.update i fun s => { s with waiting := rest }).subscriptions.map
        Subscription.id = b.subscriptions.map Subscription.id := Broker.ids_update fun _ => rfl
    rw [hids]
    exact h.nodup
  · intro s' hs'
    rcases Broker.mem_update.mp hs' with ⟨s'', hs'', -, rfl⟩ | ⟨hs'', -⟩
    · exact h.id_lt s'' hs''
    · exact h.id_lt s' hs''
  · intro t ht
    rcases List.mem_append.mp ht with ht | ht
    · exact h.taken_lt t ht
    · rw [List.mem_singleton.mp ht]
      exact hid ▸ h.id_lt s hmem
  · intro s' hs' hne
    rcases Broker.mem_update.mp hs' with ⟨s'', hs'', hid', rfl⟩ | ⟨hs'', -⟩
    · obtain rfl : s'' = s := List.inj_on_of_nodup_map h.nodup hs'' hmem (hid'.trans hid.symm)
      exact absurd hlive hne
    · exact h.not_live s' hs'' hne
  · intro r hr'
    by_cases hi : r.stream = i
    · have hfeeds := h.feeds r hr'
      rw [hi] at hfeeds ⊢
      rw [takenFrom_took_self]
      exact hfeeds.read hr
    · rw [takenFrom_took_of_ne hi]
      exact (h.feeds r hr').other_read hi hr

theorem dropped (h : g.Matches b) (i : StreamId) : (g.leaves i).Matches (b.drop i) where
  nodup := by
    have hids : (b.drop i).subscriptions.map Subscription.id =
        b.subscriptions.map Subscription.id := Broker.ids_update fun _ => rfl
    rw [hids]
    exact h.nodup
  id_lt s hs := by
    rcases Broker.mem_update.mp hs with ⟨s', hs', -, rfl⟩ | ⟨hs', -⟩
    · exact h.id_lt s' hs'
    · exact h.id_lt s hs'
  taken_lt := h.taken_lt
  left_lt j hj := by
    simp only [leaves] at hj
    split at hj
    next hany =>
      obtain ⟨r, hr, hi⟩ := List.any_eq_true.mp hany
      rcases List.mem_append.mp hj with hj | hj
      · exact h.left_lt j hj
      · rw [List.mem_singleton.mp hj, ← of_decide_eq_true hi]
        exact h.held_lt hr
    next => exact h.left_lt j hj
  live_eq := by
    have hheld : (g.held.filter fun r => r.stream ≠ i).map (fun r => (r.stream, r.pattern)) =
        (g.held.map fun r => (r.stream, r.pattern)).filter fun x => x.1 ≠ i := by
      rw [List.filter_map]
      rfl
    change _ = (g.held.filter fun r => r.stream ≠ i).map _
    rw [hheld, ← h.live_eq, List.filter_map, List.filter_filter, Broker.drop, Broker.update,
      List.filter_map, List.map_map]
    have hphase : (fun s : Subscription => decide (s.phase = .live)) ∘
        (fun s => if s.id = i then { s with phase := .dropped, waiting := [] } else s) =
        fun s => ((fun x : StreamId × String => decide (x.1 ≠ i)) ∘ fun s => (s.id, s.pattern)) s
          && decide (s.phase = .live) := by
      funext s
      by_cases hi : s.id = i <;> simp [hi]
    rw [hphase]
    refine List.map_congr_left fun s _ => ?_
    by_cases hi : s.id = i <;> simp [hi]
  not_live s hs hne := by
    rcases Broker.mem_update.mp hs with ⟨s', hs', -, rfl⟩ | ⟨hs', -⟩
    · exact ⟨rfl, rfl⟩
    · exact h.not_live s hs' hne
  feeds r hr := by
    obtain ⟨hmem, hne⟩ := List.mem_filter.mp hr
    exact (h.feeds r hmem).other_updated (fun _ => rfl) (of_decide_eq_true hne)
  apart r hr hleft := by
    obtain ⟨hmem, hne⟩ := List.mem_filter.mp hr
    simp only [leaves] at hleft
    split at hleft
    next =>
      rcases List.mem_append.mp hleft with hleft | hleft
      · exact h.apart r hmem hleft
      · exact of_decide_eq_true hne (List.mem_singleton.mp hleft)
    next => exact h.apart r hmem hleft

end Matches
end Ledger

/-! The operations on the bridge. -/

variable {g : Ledger} {b : Bridge}

theorem amend_broker (l : Link) (f : Connection → Connection) (b : Bridge) :
    (b.amend l f).broker = b.broker := by
  cases l <;> rfl

theorem subscribe_eq (l : Link) (pattern : String) (b : Bridge) :
    (∃ f, b.subscribe l pattern = (.error f, b)) ∨
      b.isConnected l ∧ ∃ i b', b.subscribe l pattern = (.ok i, b') ∧
        b'.broker = (b.broker.subscribe pattern).2 := by
  unfold Bridge.subscribe
  split
  next => exact .inl ⟨_, rfl⟩
  next c hc =>
    split
    · exact .inl ⟨_, rfl⟩
    · split
      · exact .inl ⟨_, rfl⟩
      next hup =>
        refine .inr ⟨?_, _, _, rfl, amend_broker _ _ _⟩
        rw [Bridge.isConnected, hc]
        simpa using hup

theorem publish_eq (l : Link) (subject : String) (p : Payload) (b : Bridge) :
    (∃ f, b.publish l subject p = (.error f, b) ∧
        (b.isConnected l && Subject.isConcrete subject) = false) ∨
      b.isConnected l ∧ Subject.isConcrete subject ∧
        b.publish l subject p = (.ok (), b.deliver ⟨subject, none, p⟩) := by
  unfold Bridge.publish
  split
  next h =>
    rw [Bool.and_eq_true] at h
    exact .inr ⟨h.1, h.2, rfl⟩
  next h => exact .inl ⟨_, rfl, Bool.eq_false_iff.mpr h⟩

/-- The broker with a request's inbox open and the request delivered. -/
def asked (subject : String) (p : Payload) (b : Broker) : Broker :=
  (b.inbox.2.subscribe b.inbox.1).2.deliver ⟨subject, some b.inbox.1, p⟩

/-- A request is refused, or it goes out; where nobody receives it, its inbox is left at once. -/
theorem ask_eq (l : Link) (subject : String) (p : Payload) (timeout : Duration) (b : Bridge) :
    (∃ f, b.ask l subject p timeout = (.error f, b) ∧ (∀ s, f ≠ .noResponders s) ∧
        b.isConnected l = false) ∨
      b.isConnected l ∧
        ((∃ e b', b.ask l subject p timeout = (.ok e, b') ∧
            b'.broker = asked subject p b.broker) ∨
          ∃ b', b.ask l subject p timeout = (.error (.noResponders subject), b') ∧
            b'.broker = (asked subject p b.broker).drop b.broker.nextStream) := by
  have hbroker : ((({ b with broker := b.broker.inbox.2 } : Bridge).attend
      b.broker.inbox.1).2.deliver ⟨subject, some b.broker.inbox.1, p⟩).broker =
      asked subject p b.broker := Bridge.deliver_broker _ _
  unfold Bridge.ask
  split
  next hdead => exact .inl ⟨_, rfl, nofun, by rw [hdead]; rfl⟩
  next =>
    split
    next hdown => exact .inl ⟨_, rfl, nofun, by simpa using hdown⟩
    next hup =>
      refine .inr ⟨by simpa using hup, ?_⟩
      simp only
      split
      · exact .inr ⟨_, rfl, congrArg (Broker.drop b.broker.nextStream) hbroker⟩
      · exact .inl ⟨_, _, rfl, hbroker⟩

/-- A request that is refused leaves no trace. -/
theorem perform_ask {l : Link} {subject : String} {p : Payload} {timeout : Duration} {f : BusFault}
    (h : b.ask l subject p timeout = (.error f, b)) (hf : ∀ s, f ≠ .noResponders s) (g : Ledger) :
    (Operation.ask l subject p timeout).perform g b = (g, b) := by
  cases f with
  | noResponders s => exact absurd rfl (hf s)
  | _ => simp only [Operation.perform, h]

/-! The journal. -/

theorem journal_ask (l : Link) (subject : String) (p : Payload) (timeout : Duration) (b : Bridge) :
    (b.ask l subject p timeout).2.broker.journal =
      b.broker.journal ++ (Operation.ask l subject p timeout).sends b := by
  rcases ask_eq l subject p timeout b with ⟨f, heq, -, hdown⟩ |
    ⟨hup, ⟨e, b', heq, hb'⟩ | ⟨b', heq, hb'⟩⟩
  · simp [heq, Operation.sends, hdown]
  · rw [heq, Operation.sends, if_pos hup, hb']
    rfl
  · rw [heq, Operation.sends, if_pos hup, hb']
    rfl

theorem journal_read {i : StreamId} {m : Message} {b' : Bridge} (h : b.read? i = some (m, b')) :
    b'.broker.journal = b.broker.journal := by
  unfold Bridge.read? at h
  obtain ⟨⟨m', k⟩, hk, heq⟩ := Option.map_eq_some_iff.mp h
  cases heq
  unfold Broker.read? at hk
  split at hk
  · cases hk
  · cases hk
    rfl

theorem journal_collect (e : Exchange) (b : Bridge) :
    (b.collect e).2.broker.journal = b.broker.journal := by
  unfold Bridge.collect
  split
  next m b' h =>
    have hread := journal_read h
    exact hread
  next => rfl

/-- What an operation adds to the journal is what it publishes. -/
theorem Operation.journal_perform (o : Operation) (g : Ledger) (b : Bridge) :
    (o.perform g b).2.broker.journal = b.broker.journal ++ o.sends b := by
  cases o with
  | publish l subject p =>
    rcases publish_eq l subject p b with ⟨f, heq, hunfit⟩ | ⟨hup, hconcrete, heq⟩
    · simp [perform, sends, heq, hunfit]
    · simp [perform, sends, heq, hup, hconcrete, Bridge.deliver_broker, Broker.deliver]
  | ask l subject p timeout =>
    have hjournal := journal_ask l subject p timeout b
    rw [← hjournal, perform]
    split
    next h => rw [h]
    next h => rw [h]
    next h => rw [h]
  | answer m => exact congrArg Broker.journal (Bridge.deliver_broker m b)
  | connect => exact (List.append_nil _).symm
  | setConnected l up =>
    exact (congrArg Broker.journal (amend_broker l _ b)).trans (List.append_nil _).symm
  | subscribe l pattern =>
    rcases subscribe_eq l pattern b with ⟨f, heq⟩ | ⟨-, i, b', heq, hb'⟩
    · simp [perform, sends, heq]
    · simp [perform, sends, heq, hb', Broker.subscribe]
  | collect e =>
    refine .trans ?_ ((journal_collect e b).trans (List.append_nil _).symm)
    rw [perform]
    split <;> rfl
  | read i =>
    refine .trans ?_ (List.append_nil _).symm
    rw [perform]
    split
    next m b' h => exact journal_read h
    next => rfl
  | leave i => exact (List.append_nil _).symm
  | attend pattern => exact (List.append_nil _).symm

namespace Ledger.Matches

theorem asked (h : g.Matches b.broker) (subject : String) (p : Payload) :
    (g.opened b.broker.inbox.1 b.broker).Matches (Bus.asked subject p b.broker) :=
  (h.inbox.opened b.broker.inbox.1).delivered _

theorem performed (h : g.Matches b.broker) (o : Operation) :
    (o.perform g b).1.Matches (o.perform g b).2.broker := by
  cases o with
  | connect => exact h
  | setConnected l up =>
    change g.Matches (b.amend l _).broker
    rw [amend_broker]
    exact h
  | subscribe l pattern =>
    rcases subscribe_eq l pattern b with ⟨f, heq⟩ | ⟨-, i, b', heq, hb'⟩
    · simpa only [Operation.perform, heq] using h
    · simpa only [Operation.perform, heq, hb'] using h.opened pattern
  | publish l subject p =>
    rcases publish_eq l subject p b with ⟨f, heq, -⟩ | ⟨-, -, heq⟩
    · simpa only [Operation.perform, heq] using h
    · simpa only [Operation.perform, heq, Bridge.deliver_broker] using h.delivered _
  | ask l subject p timeout =>
    rcases ask_eq l subject p timeout b with ⟨f, heq, hf, -⟩ |
      ⟨-, ⟨e, b', heq, hb'⟩ | ⟨b', heq, hb'⟩⟩
    · rw [perform_ask heq hf]
      exact h
    · simpa only [Operation.perform, heq, hb'] using h.asked subject p
    · simpa only [Operation.perform, heq, hb'] using (h.asked subject p).dropped _
  | collect e =>
    cases hr : b.broker.read? e.inbox with
    | none =>
      simp only [Operation.perform, Bridge.collect, Bridge.read?, hr, Option.map_none]
      exact h.dropped e.inbox
    | some x =>
      simp only [Operation.perform, Bridge.collect, Bridge.read?, hr, Option.map_some]
      exact (h.read hr).dropped e.inbox
  | read i =>
    cases hr : b.broker.read? i with
    | none => simpa only [Operation.perform, Bridge.read?, hr, Option.map_none] using h
    | some x => simpa only [Operation.perform, Bridge.read?, hr, Option.map_some] using h.read hr
  | leave i => exact h.dropped i
  | attend pattern => exact h.opened pattern
  | answer m =>
    change g.Matches (b.deliver m).broker
    rw [Bridge.deliver_broker]
    exact h.delivered m

theorem run (h : g.Matches b.broker) (ops : List Operation) :
    (Bus.run ops g b).1.Matches (Bus.run ops g b).2.broker := by
  induction ops generalizing g b with
  | nil => exact h
  | cons o ops ih => exact ih (h.performed o)

end Ledger.Matches

/-- What the ledger says about deliveries. Each reader that is there took, and has waiting, what was
published for it since it subscribed; a message reaches the readers whose pattern accepts it, and
nothing is left of those who left. -/
structure Ledger.Accounts (g : Ledger) (b : Bridge) : Prop where
  exact : ∀ r ∈ g.held, g.takenFrom r.stream ++ b.broker.waiting r.stream =
    b.broker.publishedSince r.since r.pattern
  /-- The journal grows by what is published and by nothing else. -/
  journal : ∀ o : Operation,
    (o.perform g b).2.broker.journal = b.broker.journal ++ o.sends b
  receivers : ∀ m, b.broker.receivers m = g.audience m.subject
  count : ∀ pattern, b.broker.count pattern = g.held.countP fun r => r.pattern = pattern
  gone : ∀ i ∈ g.left, b.broker.read? i = none ∧ (∀ m, i ∉ b.broker.receivers m) ∧
    (∀ r ∈ g.held, r.stream ≠ i) ∧ (∀ m, ∀ s ∈ (b.broker.deliver m).subscriptions, s.id ≠ i) ∧
    ∀ o : Operation, o.sends b ≠ [] → ∀ s ∈ (o.perform g b).2.broker.subscriptions, s.id ≠ i

namespace Ledger.Matches

section Table
variable {b : Broker} {i : StreamId}

/-- Whoever is not cleared away is live. -/
theorem filter_live (h : g.Matches b) :
    (b.subscriptions.filter fun s => s.phase ≠ .dropped) =
      b.subscriptions.filter fun s => s.phase = .live := by
  refine List.filter_congr fun s hs => ?_
  by_cases hphase : s.phase = .live
  · simp [hphase]
  · simp [(h.not_live s hs hphase).1]

theorem receivers_eq (h : g.Matches b) (m : Message) : b.receivers m = g.audience m.subject := by
  have heq := congrArg (List.filter fun x : StreamId × String =>
    Subject.accepts x.2 m.subject) h.live_eq
  rw [List.filter_map, List.filter_map] at heq
  have hfst := congrArg (List.map Prod.fst) heq
  rw [List.map_map, List.map_map, ← h.filter_live, List.filter_filter] at hfst
  simp only [Bool.and_comm] at hfst
  exact hfst

theorem count_eq (h : g.Matches b) (pattern : String) :
    b.count pattern = g.held.countP fun r => r.pattern = pattern := by
  have heq := congrArg (List.countP fun x : StreamId × String => decide (x.2 = pattern)) h.live_eq
  rw [List.countP_map, List.countP_map, ← h.filter_live, List.countP_filter] at heq
  exact heq

theorem ne_of_left (h : g.Matches b) (hi : i ∈ g.left) {r : Reader} (hr : r ∈ g.held) :
    r.stream ≠ i := fun he => h.apart r hr (he ▸ hi)

/-- No live subscription has the number of a reader who left. -/
theorem id_ne_of_left (h : g.Matches b) (hi : i ∈ g.left) {s : Subscription}
    (hs : s ∈ b.subscriptions) (hphase : s.phase = .live) : s.id ≠ i := by
  intro hid
  obtain ⟨r, hr, he⟩ := h.mem_live_iff.mp ⟨s, hs, hphase, hid⟩
  exact h.ne_of_left hi hr he

theorem read?_of_left (h : g.Matches b) (hi : i ∈ g.left) : b.read? i = none := by
  rw [Broker.read?_eq_none_iff, Broker.waiting]
  cases hs : b.find? i with
  | none => rfl
  | some s =>
    have hmem : s ∈ b.subscriptions := List.mem_of_find?_eq_some hs
    have hid : s.id = i := by simpa using List.find?_some hs
    exact (h.not_live s hmem fun hphase => h.id_ne_of_left hi hmem hphase hid).2

/-- A message reaches nobody who left. -/
theorem not_mem_receivers (h : g.Matches b) (hi : i ∈ g.left) (m : Message) :
    i ∉ b.receivers m := by
  intro hm
  rw [h.receivers_eq] at hm
  obtain ⟨r, hr, he⟩ := List.mem_map.mp hm
  exact h.ne_of_left hi (List.mem_filter.mp hr).1 he

/-- A delivery clears away whoever left. -/
theorem id_ne_of_deliver (h : g.Matches b) (hi : i ∈ g.left) (m : Message) {s : Subscription}
    (hs : s ∈ (b.deliver m).subscriptions) : s.id ≠ i := by
  obtain ⟨s', hs', rfl⟩ := List.mem_map.mp hs
  rw [h.filter_live] at hs'
  obtain ⟨hmem, hphase⟩ := List.mem_filter.mp hs'
  rw [Subscription.push_id]
  exact h.id_ne_of_left hi hmem (of_decide_eq_true hphase)

theorem id_ne_of_asked (h : g.Matches b) (hi : i ∈ g.left) (subject : String) (p : Payload)
    {s : Subscription} (hs : s ∈ (Bus.asked subject p b).subscriptions) : s.id ≠ i :=
  (h.inbox.opened b.inbox.1).id_ne_of_deliver hi _ hs

end Table

/-- So does every operation that publishes something. -/
theorem id_ne_of_sends {i : StreamId} (h : g.Matches b.broker) (hi : i ∈ g.left) {o : Operation}
    (hsends : o.sends b ≠ []) {s : Subscription}
    (hs : s ∈ (o.perform g b).2.broker.subscriptions) : s.id ≠ i := by
  cases o with
  | publish l subject p =>
    rcases publish_eq l subject p b with ⟨f, -, hunfit⟩ | ⟨-, -, heq⟩
    · simp [Operation.sends, hunfit] at hsends
    · rw [Operation.perform, heq, Bridge.deliver_broker] at hs
      exact h.id_ne_of_deliver hi _ hs
  | ask l subject p timeout =>
    rcases ask_eq l subject p timeout b with ⟨f, -, -, hdown⟩ |
      ⟨-, ⟨e, b', heq, hb'⟩ | ⟨b', heq, hb'⟩⟩
    · simp [Operation.sends, hdown] at hsends
    · simp only [Operation.perform, heq, hb'] at hs
      exact h.id_ne_of_asked hi subject p hs
    · simp only [Operation.perform, heq, hb'] at hs
      rcases Broker.mem_update.mp hs with ⟨s', hs', -, rfl⟩ | ⟨hs', -⟩
      · have hne := h.id_ne_of_asked hi subject p hs'
        exact hne
      · exact h.id_ne_of_asked hi subject p hs'
  | answer m =>
    rw [Operation.perform, Bridge.deliver_broker] at hs
    exact h.id_ne_of_deliver hi m hs
  | _ => exact absurd rfl hsends

theorem accounts (h : g.Matches b.broker) : g.Accounts b where
  exact r hr := (h.feeds r hr).exact
  journal o := o.journal_perform g b
  receivers := h.receivers_eq
  count := h.count_eq
  gone _ hi := ⟨h.read?_of_left hi, h.not_mem_receivers hi, fun _ hr => h.ne_of_left hi hr,
    fun m _ hs => h.id_ne_of_deliver hi m hs, fun _ hsends _ hs => h.id_ne_of_sends hi hsends hs⟩

end Ledger.Matches

/-- Whoever is refused because the bus is down or the subject is no place to publish on changes
nothing. -/
theorem Operation.perform_of_unfit {o : Operation} (h : o.Unfit b) (g : Ledger) :
    o.Fails b ∧ o.perform g b = (g, b) := by
  cases o with
  | subscribe l pattern =>
    rcases subscribe_eq l pattern b with ⟨f, heq⟩ | ⟨hup, -⟩
    · exact ⟨⟨f, congrArg Prod.fst heq⟩, by simp only [perform, heq]⟩
    · exact nomatch hup.symm.trans h
  | publish l subject p =>
    rcases publish_eq l subject p b with ⟨f, heq, -⟩ | ⟨hup, hconcrete, -⟩
    · exact ⟨⟨f, congrArg Prod.fst heq⟩, by simp only [perform, heq]⟩
    · rcases h with h | h
      · exact nomatch hup.symm.trans h
      · exact nomatch hconcrete.symm.trans h
  | ask l subject p timeout =>
    rcases ask_eq l subject p timeout b with ⟨f, heq, hf, -⟩ | ⟨hup, -⟩
    · exact ⟨⟨f, congrArg Prod.fst heq⟩, perform_ask heq hf g⟩
    · exact nomatch hup.symm.trans h
  | _ => exact h.elim

/-- Whatever is done on the buses of a broker, each reader gets what was published for it. -/
theorem delivers_exactly (ops : List Operation) (b : Bridge) :
    let (g, b') := run ops .empty { b with broker := .empty }
    g.Accounts b' ∧
      ∀ o : Operation, o.Unfit b' → o.Fails b' ∧ o.perform g b' = (g, b') := by
  have hmatches := Ledger.matches_empty.run (b := { b with broker := .empty }) ops
  exact ⟨hmatches.accounts, fun o ho => o.perform_of_unfit ho _⟩

end Bus
end FleetBridge
