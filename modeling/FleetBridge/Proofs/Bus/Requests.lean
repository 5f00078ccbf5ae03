import FleetBridge.Proofs.Bridge.History
import FleetBridge.Proofs.Bridge.Turns
import FleetBridge.Proofs.Bus.Delivery
import FleetBridge.Proofs.Subject

/-!
Requests side by side. Each has an inbox of its own, and what it comes to is decided by what is
published there and by nothing else.
-/
namespace FleetBridge

namespace Broker

/-- The name of the inbox that is given out under a number. -/
def inboxName (k : Nat) : String := "_INBOX." ++ toString k

theorem tokens_inboxName (k : Nat) :
    Subject.tokens (inboxName k) = ["_INBOX".toList, Nat.toDigits 10 k] := by
  have hname : inboxName k = "_INBOX" ++ "." ++ toString k := rfl
  have hdigits : (toString k).toList = Nat.toDigits 10 k := by simp [Nat.toString_eq_repr]
  have hsingle : Subject.tokens (toString k) = [Nat.toDigits 10 k] := by
    rw [Subject.tokens, hdigits]
    refine List.splitOnP_eq_singleton fun c hc => ?_
    have hdigit := Nat.isDigit_of_mem_toDigits (by decide) (by decide) hc
    refine Bool.eq_false_iff.mpr fun hdot => ?_
    rw [beq_iff_eq.mp hdot] at hdigit
    cases hdigit
  rw [hname, Subject.tokens_append_dot, hsingle]
  rfl

theorem inboxName_injective : Function.Injective inboxName := by
  intro j k h
  have htokens := congrArg Subject.tokens h
  rw [tokens_inboxName, tokens_inboxName] at htokens
  have hdigits : Nat.toDigits 10 j = Nat.toDigits 10 k := by simpa using htokens
  have hvalue := congrArg (Nat.ofDigitChars 10 · 0) hdigits
  simpa [Nat.ofDigitChars_toDigits] using hvalue

theorem isConcrete_inboxName (k : Nat) : Subject.isConcrete (inboxName k) = true := by
  have hdigit : ∀ c ∈ Nat.toDigits 10 k, c.isDigit = true := fun c hc =>
    Nat.isDigit_of_mem_toDigits (by decide) (by decide) hc
  have hother (c : Char) (hc : c.isDigit = false) : Nat.toDigits 10 k ≠ [c] := by
    intro he
    rw [hdigit c (he ▸ List.mem_singleton_self c)] at hc
    cases hc
  have hconcrete : Subject.isConcreteToken (Nat.toDigits 10 k) = true := by
    have hstar : Nat.toDigits 10 k ≠ Subject.star := hother '*' (by decide)
    have hrest : Nat.toDigits 10 k ≠ Subject.rest := hother '>' (by decide)
    simp [Subject.isConcreteToken, hstar, hrest, Nat.toDigits_ne_nil]
  rw [Subject.isConcrete, tokens_inboxName, List.all_cons, List.all_cons, hconcrete]
  decide

/-- Only what is published under the very name comes into an inbox. -/
theorem publishedSince_inboxName (since k : Nat) (b : Broker) :
    b.publishedSince since (inboxName k) =
      (b.journal.drop since).filter fun m => m.subject = inboxName k := by
  refine List.filter_congr fun m _ => ?_
  rw [Bool.eq_iff_iff, Subject.accepts_concrete (isConcrete_inboxName k), decide_eq_true_iff]

/-- The message with which a request goes out. -/
def question (subject : String) (p : Payload) (b : Broker) : Message :=
  ⟨subject, some (inboxName b.nextInbox), p⟩

/-- Whether a message on a subject would reach somebody. -/
def Reaches (subject : String) (b : Broker) : Prop :=
  ∃ s ∈ b.subscriptions, s.phase ≠ .dropped ∧ Subject.accepts s.pattern subject = true

/-- A request reaches those who were there before, unless it is about its own inbox. -/
theorem receivers_question {subject : String} {b : Broker}
    (hself : subject ≠ inboxName b.nextInbox) (p : Payload) :
    (b.inbox.2.subscribe b.inbox.1).2.receivers (b.question subject p) ≠ [] ↔
      b.Reaches subject := by
  have hinbox : Subject.accepts (inboxName b.nextInbox) subject = false := by
    refine Bool.eq_false_iff.mpr fun h => ?_
    exact hself ((Subject.accepts_concrete (isConcrete_inboxName _)).mp h)
  have hnew : Subscription.takes ⟨b.nextStream, inboxName b.nextInbox, .live, []⟩
      (b.question subject p) = false := by
    simp [Subscription.takes, question, hinbox]
  have hold : (b.subscriptions ++ [Subscription.mk b.nextStream (inboxName b.nextInbox) .live []]).filter
      (fun s => s.takes (b.question subject p)) =
      b.subscriptions.filter fun s => s.takes (b.question subject p) := by
    rw [List.filter_append, List.filter_cons_of_neg (by simp [hnew]), List.filter_nil,
      List.append_nil]
  change List.map Subscription.id (List.filter (fun s => s.takes (b.question subject p))
    (b.subscriptions ++ [Subscription.mk b.nextStream (inboxName b.nextInbox) .live []])) ≠ [] ↔ _
  rw [hold]
  simp [Reaches, Subscription.takes, question]

end Broker

namespace Request

variable {q : Request} {b : Bridge}

/-- The bridge after a request went out under the next inbox. -/
def sent (q : Request) (b : Bridge) : Bridge :=
  (({ b with broker := b.broker.inbox.2 } : Bridge).attend b.broker.inbox.1).2.deliver
    (b.broker.question q.subject q.payload)

theorem sent_broker (q : Request) (b : Bridge) :
    (q.sent b).broker = Bus.asked q.subject q.payload b.broker := Bridge.deliver_broker _ _

theorem sent_now (q : Request) (b : Bridge) : (q.sent b).now = b.now := by
  obtain ⟨woken, hdeliver⟩ := Bridge.deliver_eq (b.broker.question q.subject q.payload)
    (({ b with broker := b.broker.inbox.2 } : Bridge).attend b.broker.inbox.1).2
  rw [sent, hdeliver]
  rfl

/-- A request on a link that is up fails at once, and leaves its inbox, if nobody receives it. -/
theorem send_eq (hup : b.isConnected q.link = true) :
    q.send b =
      if (b.broker.inbox.2.subscribe b.broker.inbox.1).2.receivers
          (b.broker.question q.subject q.payload) = []
      then (.error (.noResponders q.subject), (q.sent b).leave b.broker.nextStream)
      else (.ok ⟨q.subject, b.broker.nextStream, b.after q.timeout⟩, q.sent b) := by
  have hdead : q.link ≠ .dead := by
    intro h
    rw [Bridge.isConnected, h] at hup
    cases hup
  have hafter : b.after q.timeout = (q.sent b).after q.timeout := by
    rw [Bridge.after, Bridge.after, sent_now]
  rw [hafter]
  unfold send Bridge.ask
  rw [if_neg hdead, if_neg (by simpa using hup)]
  change (if List.isEmpty _ = true then _ else _) = _
  simp only [List.isEmpty_iff]
  rfl

/-- A request that is under way was sent on a link that is up, and its inbox is fed from then on. -/
theorem send_eq_ok {e : Exchange} {b' : Bridge} (hbounded : b.broker.Bounded)
    (h : q.send b = (.ok e, b')) :
    b.isConnected q.link = true ∧ e = ⟨q.subject, b.broker.nextStream, b.after q.timeout⟩ ∧
      b'.broker.Feeds e.inbox (Broker.inboxName b.broker.nextInbox) b.broker.journal.length [] := by
  have hup : b.isConnected q.link = true := by
    rcases Bus.ask_eq q.link q.subject q.payload q.timeout b with ⟨f, heq, -⟩ | ⟨hup, -⟩
    · cases heq.symm.trans h
    · exact hup
  rw [send_eq hup] at h
  split at h
  · cases h
  · cases h
    have hfed := (Broker.Feeds.subscribed (b := b.broker.inbox.2) hbounded
      (Broker.inboxName b.broker.nextInbox)).delivered (b.broker.question q.subject q.payload)
    refine ⟨hup, rfl, ?_⟩
    rw [sent_broker]
    exact hfed

end Request

/-- What a request comes to that was sent when the journal had a certain length: the first message on
its inbox answers it, and without one it timed out. -/
def Broker.reply (since k : Nat) (subject : String) (b : Broker) : Except BusFault Payload :=
  match (b.journal.drop since).find? fun m => m.subject = inboxName k with
  | some m => .ok m.payload
  | none => .error (.timedOut subject)

namespace Bridge

/-! What the turns of a history show of requests. -/

namespace Step

/-- The request that is to be sent in a turn. -/
def asks? (t : Step) : Option Request := (t.before.program? t.task).bind Program.asks?

/-- The request that is sent in a turn on a link that is up. -/
def request? (t : Step) : Option Request :=
  t.asks?.filter fun q => t.before.isConnected q.link

/-- The number of the inbox under which a request goes out. -/
def inbox? (t : Step) : Option Nat := t.request?.map fun _ => t.before.broker.nextInbox

/-- The request that is under way from this turn on. -/
def opened? (t : Step) : Option Exchange := t.asks?.bind fun q => (q.send t.before).1.toOption

/-- The request that is no more under way after this turn. -/
def ended? (t : Step) : Option Exchange := do
  let p ← t.before.program? t.task
  let p' ← t.after.program? t.task
  p.exchanges.find? fun e => e ∉ p'.exchanges

/-- The answer that a request gets in a turn. -/
def answer? (t : Step) : Option (Except BusFault Payload) :=
  (t.before.program? t.task).bind (Program.answer? t.chance t.before)

end Step

/-- Requests are sent and end as the tasks say; messages come in, time passes, and whatever else may
happen, except that nobody touches the inbox of a request under way. -/
structure Beside (b b' : Bridge) : Prop where
  kept : ∀ j p, b.program? j = some p → b'.program? j = some p
  begun : ∀ j p, b.program? j = none → b'.program? j = some p → p.exchanges = []
  owned : b.Owned → b'.Owned
  streams : b.broker.nextStream ≤ b'.broker.nextStream
  inboxes : b.broker.nextInbox ≤ b'.broker.nextInbox
  spares : ∀ j p, b.program? j = some p → ∀ e ∈ p.exchanges, b.broker.Spares e.inbox b'.broker

/-- No request is under way. -/
def Unasked (b : Bridge) : Prop := ∀ j p, b.program? j = some p → p.exchanges = []

variable {ts : List Step} {b b' b₁ : Bridge} {i : TaskId} {n : Nat} {p p' : Program}
  {started : List Program}

/-- What the turns so far tell of the requests. -/
structure Asked (ts : List Step) (b : Bridge) : Prop where
  owned : b.Owned
  inboxes : (ts.filterMap Step.inbox?).Nodup
  inbox_lt : ∀ k ∈ ts.filterMap Step.inbox?, k < b.broker.nextInbox
  underway : ∀ j p, b.program? j = some p → ∀ e ∈ p.exchanges, ∃ t ∈ ts, t.task = j ∧
    t.opened? = some e ∧
    b.broker.Feeds e.inbox (Broker.inboxName t.before.broker.nextInbox)
      t.before.broker.journal.length []
  opened : (ts.filterMap Step.opened?).Nodup
  opened_lt : ∀ e ∈ ts.filterMap Step.opened?, e.inbox < b.broker.nextStream
  ended : (ts.filterMap Step.ended?).Nodup
  gone : ∀ e ∈ ts.filterMap Step.ended?, e ∈ ts.filterMap Step.opened? ∧
    ∀ j p, b.program? j = some p → e ∉ p.exchanges

namespace Asked

theorem start (howned : b.Owned) (hnone : b.Unasked) : Asked [] b where
  owned := howned
  inboxes := .nil
  inbox_lt := nofun
  underway j p hp e he := by
    rw [hnone j p hp] at he
    cases he
  opened := .nil
  opened_lt := nofun
  ended := .nil
  gone := nofun

theorem beside (h : Asked ts b) (hb : Beside b b') : Asked ts b' where
  owned := hb.owned h.owned
  inboxes := h.inboxes
  inbox_lt k hk := Nat.lt_of_lt_of_le (h.inbox_lt k hk) hb.inboxes
  underway j p hp e he := by
    cases hold : b.program? j with
    | none =>
      rw [hb.begun j p hold hp] at he
      cases he
    | some q =>
      obtain rfl : q = p := Option.some.inj ((hb.kept j q hold).symm.trans hp)
      obtain ⟨t, ht, htask, hopened, hfeeds⟩ := h.underway j q hold e he
      exact ⟨t, ht, htask, hopened, (hb.spares j q hold e he).feeds _ _ _ hfeeds⟩
  opened := h.opened
  opened_lt e he := Nat.lt_of_lt_of_le (h.opened_lt e he) hb.streams
  ended := h.ended
  gone e he := by
    refine ⟨(h.gone e he).1, fun j p hp hmem => ?_⟩
    cases hold : b.program? j with
    | none =>
      rw [hb.begun j p hold hp] at hmem
      cases hmem
    | some q =>
      obtain rfl : q = p := Option.some.inj ((hb.kept j q hold).symm.trans hp)
      exact (h.gone e he).2 j q hold hmem

/-! One turn. -/

section Turned
variable (htook : Took n i b b₁ b' p p' started) (hp : b.program? i = some p)
include htook hp

omit htook in
theorem step_asks? : Step.asks? ⟨i, n, b, b'⟩ = p.asks? := by
  change (b.program? i).bind Program.asks? = _
  rw [hp]
  rfl

omit htook in
theorem step_answer? : Step.answer? ⟨i, n, b, b'⟩ = p.answer? n b := by
  change (b.program? i).bind (Program.answer? n b) = _
  rw [hp]
  rfl

theorem step_ended? :
    Step.ended? ⟨i, n, b, b'⟩ = p.exchanges.find? fun e => e ∉ p'.exchanges := by
  change ((b.program? i).bind fun p => (b'.program? i).bind fun p' =>
    p.exchanges.find? fun e => e ∉ p'.exchanges) = _
  rw [hp, htook.placed.self]
  rfl

omit hp in
/-- A request that is to be sent is sent. -/
theorem send_snd {q : Request} (hq : p.asks? = some q) : (q.send b).2 = b₁ := by
  rcases htook.acts.talks with htalks | hmute
  · cases htalks with
    | sent hasks hsend _ _ =>
      cases hasks.symm.trans hq
      exact congrArg Prod.snd hsend
    | refused hasks hsend _ _ =>
      cases hasks.symm.trans hq
      exact congrArg Prod.snd hsend
    | ended hasks _ _ _ _ _ => cases hasks.symm.trans hq
    | silent hasks _ _ _ _ => cases hasks.symm.trans hq
  · cases hmute.asks.symm.trans hq

theorem step_opened? {e : Exchange} (he : Step.opened? ⟨i, n, b, b'⟩ = some e) :
    ∃ q, p.asks? = some q ∧ q.send b = (.ok e, b₁) := by
  unfold Step.opened? at he
  rw [step_asks? hp] at he
  obtain ⟨q, hq, hok⟩ := Option.bind_eq_some_iff.mp he
  refine ⟨q, hq, Prod.ext ?_ (send_snd htook hq)⟩
  change (q.send b).1.toOption = some e at hok
  cases hsend : (q.send b).1 with
  | error f =>
    rw [hsend] at hok
    cases hok
  | ok e' =>
    rw [hsend] at hok
    cases hok
    rfl

omit htook in
theorem step_request? {q : Request} (hq : Step.request? ⟨i, n, b, b'⟩ = some q) :
    p.asks? = some q ∧ b.isConnected q.link = true := by
  rw [Step.request?, Option.filter_eq_some_iff, step_asks? hp] at hq
  exact hq

/-- The broker after a request that was sent on a link that is up. -/
theorem broker_of_request? {q : Request} (hq : Step.request? ⟨i, n, b, b'⟩ = some q) :
    b'.broker = Bus.asked q.subject q.payload b.broker ∨
      b'.broker = (Bus.asked q.subject q.payload b.broker).drop b.broker.nextStream := by
  obtain ⟨hasks, hup⟩ := step_request? hp hq
  have hsend := send_snd htook hasks
  rw [htook.broker, ← hsend, Request.send_eq hup]
  split
  · exact .inr (congrArg (Broker.drop b.broker.nextStream) (q.sent_broker b))
  · exact .inl (q.sent_broker b)

theorem step_inbox? {k : Nat} (hk : Step.inbox? ⟨i, n, b, b'⟩ = some k) :
    k = b.broker.nextInbox ∧ k < b'.broker.nextInbox := by
  obtain ⟨q, hq, rfl⟩ := Option.map_eq_some_iff.mp hk
  refine ⟨rfl, ?_⟩
  rcases broker_of_request? htook hp hq with hbroker | hbroker
  · rw [hbroker]
    exact Nat.lt_succ_self _
  · rw [hbroker]
    exact Nat.lt_succ_self _

/-- What is under way after a turn was under way before it, and its inbox was let alone, or it was
sent in this turn. -/
theorem mem_exchanges (ho : b.Owned) {e : Exchange} (he : e ∈ p'.exchanges) :
    (e ∈ p.exchanges ∧ b.broker.Spares e.inbox b'.broker) ∨
      Step.opened? ⟨i, n, b, b'⟩ = some e := by
  have hheld : p.exchanges ≠ [] → p.held = p.exchanges.map Exchange.inbox := by
    intro hne
    cases p <;> first | rfl | exact absurd rfl hne
  have hlt : ∀ x ∈ p.exchanges, x.inbox < b.broker.nextStream := by
    intro x hx
    have hx' : x.inbox ∈ p.held := by
      rw [hheld (List.ne_nil_of_mem hx)]
      exact List.mem_map_of_mem hx
    exact ho.held_lt i p hp _ hx'
  rw [htook.broker]
  rcases htook.acts.talks with htalks | hmute
  · cases htalks with
    | @sent q e' hasks hsend hes _ =>
      rw [hes] at he
      rcases List.mem_append.mp he with he | he
      · have hsteady : Steady [] b b₁ := by
          rcases ask_cases [] q.link q.subject q.payload q.timeout b with
            ⟨f, b₂, hask, hsteady⟩ | ⟨x, b₂, hask, hsteady, -⟩
          · cases hask.symm.trans hsend
          · cases hask.symm.trans hsend
            exact hsteady
        exact .inl ⟨he, hsteady.tends.spares _ (hlt e he) List.not_mem_nil⟩
      · refine .inr ?_
        rw [Step.opened?, step_asks? hp, hasks, List.mem_singleton.mp he]
        change (q.send b).1.toOption = some e'
        rw [hsend]
        rfl
    | @refused q f hasks hsend hes _ =>
      rw [hes] at he
      have hsteady : Steady [] b b₁ := by
        rcases ask_cases [] q.link q.subject q.payload q.timeout b with
          ⟨f', b₂, hask, hsteady⟩ | ⟨x, b₂, hask, -⟩
        · cases hask.symm.trans hsend
          exact hsteady
        · cases hask.symm.trans hsend
      exact .inl ⟨he, hsteady.tends.spares _ (hlt e he) List.not_mem_nil⟩
    | @ended x _ hx _ hcollect hes _ =>
      rw [hes] at he
      obtain ⟨he, hne⟩ := List.mem_filter.mp he
      have hsteady : Steady [x.inbox] b b₁ := by
        have hread := Steady.collect (List.mem_singleton_self x.inbox) b
        rw [hcollect] at hread
        exact hread
      -- A task has no two requests under way with one inbox.
      have hnodup : (p.exchanges.map Exchange.inbox).Nodup := by
        rw [← hheld (List.ne_nil_of_mem hx)]
        exact ho.nodup i p hp
      have hother : e.inbox ≠ x.inbox := fun heq =>
        (of_decide_eq_true hne) (List.inj_on_of_nodup_map hnodup he hx heq)
      exact .inl ⟨he, hsteady.tends.spares _ (hlt e he) (by simpa using hother)⟩
    | silent _ _ hes _ _ =>
      rw [hes] at he
      cases he
  · rw [hmute.after] at he
    cases he

end Turned

/-- At most one thing, and a new one, is added. -/
theorem nodup_append_toList {α : Type} {xs : List α} {o : Option α} (h : xs.Nodup)
    (hnew : ∀ x, o = some x → x ∉ xs) : (xs ++ o.toList).Nodup := by
  cases o with
  | none => simpa using h
  | some x =>
    rw [Option.toList_some, List.nodup_append]
    refine ⟨h, List.nodup_singleton x, fun y hy z hz he => ?_⟩
    rw [List.mem_singleton.mp hz] at he
    exact hnew x rfl (he ▸ hy)

theorem mem_append_toList {α : Type} {xs : List α} {o : Option α} {x : α}
    (h : x ∈ xs ++ o.toList) : x ∈ xs ∨ o = some x := by
  rcases List.mem_append.mp h with h | h
  · exact .inl h
  · exact .inr (Option.mem_toList.mp h)

theorem inbox_eq (hp : b.program? i = some p) (htook : Took n i b b₁ b' p p' started) (ho : b.Owned)
    {e : Exchange} (he : Step.opened? ⟨i, n, b, b'⟩ = some e) :
    e.inbox = b.broker.nextStream ∧ b.broker.nextStream < b'.broker.nextStream ∧
      b'.broker.Feeds e.inbox (Broker.inboxName b.broker.nextInbox) b.broker.journal.length [] := by
  obtain ⟨q, hq, hsend⟩ := step_opened? htook hp he
  obtain ⟨-, rfl, hfeeds⟩ := Request.send_eq_ok ho.bounded hsend
  rw [htook.broker]
  refine ⟨rfl, ?_, hfeeds⟩
  rcases ask_cases [] q.link q.subject q.payload q.timeout b with
    ⟨f, b₂, hask, -⟩ | ⟨x, b₂, hask, -, -, hlt⟩
  · cases hask.symm.trans hsend
  · cases hask.symm.trans hsend
    exact hlt

/-- Who has a request under way after a turn had it before, or sends it now. -/
theorem underway_cases (htook : Took n i b b₁ b' p p' started) (hp : b.program? i = some p)
    (ho : b.Owned) {j : TaskId} {q : Program} (hq : b'.program? j = some q) {e : Exchange}
    (he : e ∈ q.exchanges) :
    (∃ q', b.program? j = some q' ∧ e ∈ q'.exchanges ∧ b.broker.Spares e.inbox b'.broker) ∨
      j = i ∧ Step.opened? ⟨i, n, b, b'⟩ = some e := by
  have hmoved := htook.moved ho hp
  rcases hmoved.cases ho hq with ⟨rfl, rfl⟩ | ⟨hne, -, hold⟩ | ⟨k, -, hk⟩
  · rcases mem_exchanges htook hp ho he with ⟨hmem, hspares⟩ | hopened
    · exact .inl ⟨p, hp, hmem, hspares⟩
    · exact .inr ⟨rfl, hopened⟩
  · have hheld : e.inbox ∈ q.held := by
      cases q <;> first | exact List.mem_map_of_mem he | cases he
    exact .inl ⟨q, hold, he, hmoved.spares ho hold hne hheld⟩
  · rw [(htook.acts.goes.begins q (List.mem_of_getElem? hk)).exchanges] at he
    cases he

theorem turn (h : Asked ts b) (ht : b.turn? n i = some b') : Asked (ts ++ [⟨i, n, b, b'⟩]) b' := by
  obtain ⟨p, p', started, b₁, hp, htook⟩ := turn?_took ht
  have hmoved := htook.moved h.owned hp
  have hinbox {k : Nat} (hk : Step.inbox? ⟨i, n, b, b'⟩ = some k) := step_inbox? htook hp hk
  have hopened {e : Exchange} (he : Step.opened? ⟨i, n, b, b'⟩ = some e) :=
    inbox_eq hp htook h.owned he
  have hended {e : Exchange} (he : Step.ended? ⟨i, n, b, b'⟩ = some e) :
      e ∈ p.exchanges ∧ e ∉ p'.exchanges := by
    rw [step_ended? htook hp] at he
    exact ⟨List.mem_of_find?_eq_some he, by simpa using List.find?_some he⟩
  have hwas {e : Exchange} (he : e ∈ p.exchanges) : e ∈ ts.filterMap Step.opened? := by
    obtain ⟨t, ht, -, ho, -⟩ := h.underway i p hp e he
    exact List.mem_filterMap.mpr ⟨t, ht, ho⟩
  refine {
    owned := hmoved.owned h.owned
    inboxes := ?inboxes
    inbox_lt := ?inbox_lt
    underway := ?underway
    opened := ?opened
    opened_lt := ?opened_lt
    ended := ?ended
    gone := ?gone }
  case inboxes =>
    rw [Turn.filterMap_concat]
    refine nodup_append_toList h.inboxes fun k hk hold => ?_
    exact Nat.ne_of_lt (h.inbox_lt k hold) (hinbox hk).1
  case inbox_lt =>
    rw [Turn.filterMap_concat]
    intro k hk
    rcases mem_append_toList hk with hk | hk
    · exact Nat.lt_of_lt_of_le (h.inbox_lt k hk) hmoved.tends.inboxes
    · exact (hinbox hk).2
  case underway =>
    intro j q hq e he
    rcases underway_cases htook hp h.owned hq he with ⟨q', hq', he', hspares⟩ | ⟨rfl, hopen⟩
    · obtain ⟨t, ht, htask, hopen, hfeeds⟩ := h.underway j q' hq' e he'
      exact ⟨t, List.mem_append_left _ ht, htask, hopen, hspares.feeds _ _ _ hfeeds⟩
    · exact ⟨_, List.mem_append_right _ (List.mem_singleton_self _), rfl, hopen, (hopened hopen).2.2⟩
  case opened =>
    rw [Turn.filterMap_concat]
    refine nodup_append_toList h.opened fun e he hold => ?_
    exact Nat.ne_of_lt (h.opened_lt e hold) (hopened he).1
  case opened_lt =>
    rw [Turn.filterMap_concat]
    intro e he
    rcases mem_append_toList he with he | he
    · exact Nat.lt_of_lt_of_le (h.opened_lt e he) hmoved.tends.streams
    · rw [(hopened he).1]
      exact (hopened he).2.1
  case ended =>
    rw [Turn.filterMap_concat]
    refine nodup_append_toList h.ended fun e he hold => ?_
    exact (h.gone e hold).2 i p hp (hended he).1
  case gone =>
    rw [Turn.filterMap_concat, Turn.filterMap_concat]
    intro e he
    rcases mem_append_toList he with hold | hnow
    · refine ⟨List.mem_append_left _ (h.gone e hold).1, fun j q hq hmem => ?_⟩
      rcases underway_cases htook hp h.owned hq hmem with ⟨q', hq', he', -⟩ | ⟨rfl, hopen⟩
      · exact (h.gone e hold).2 j q' hq' he'
      · exact Nat.ne_of_lt (h.opened_lt e (h.gone e hold).1) (hopened hopen).1
    · obtain ⟨hbefore, hafter⟩ := hended hnow
      refine ⟨List.mem_append_left _ (hwas hbefore), fun j q hq hmem => ?_⟩
      rcases hmoved.cases h.owned hq with ⟨-, rfl⟩ | ⟨hne, -, hother⟩ | ⟨k, -, hk⟩
      · exact hafter hmem
      · have hheld {q : Program} (hq : e ∈ q.exchanges) : e.inbox ∈ q.held := by
          cases q <;> first | exact List.mem_map_of_mem hq | cases hq
        exact h.owned.apart j q i p hother hp hne _ (hheld hmem) (hheld hbefore)
      · rw [(htook.acts.goes.begins q (List.mem_of_getElem? hk)).exchanges] at hmem
        cases hmem

end Asked

theorem asked_of_history {b₀ : Bridge} (howned : b₀.Owned) (hnone : b₀.Unasked)
    (h : History (fun _ => True) Beside b₀ ts b) : Asked ts b := by
  induction h with
  | start => exact .start howned hnone
  | between _ hb ih => exact ih.beside hb
  | turn n _ _ ht ih => exact ih.turn ht

/-! What comes of a request. -/

section Replied
variable {s : StreamId} {since k : Nat}

/-- The first message that waits in the inbox of a request is its reply. -/
theorem reply_eq (h : b.broker.Feeds s (Broker.inboxName k) since []) (subject : String) :
    b.broker.reply since k subject = match b.broker.waiting s with
      | m :: _ => .ok m.payload
      | [] => .error (.timedOut subject) := by
  have hexact := h.exact
  rw [List.nil_append, Broker.publishedSince_inboxName] at hexact
  rw [Broker.reply, ← List.head?_filter, ← hexact]
  cases b.broker.waiting s <;> rfl

theorem collect_fst {e : Exchange} (h : b.broker.Feeds e.inbox (Broker.inboxName k) since []) :
    (b.collect e).1 = b.broker.reply since k e.subject := by
  rw [reply_eq h, collect, read?, Broker.read?]
  cases b.broker.waiting e.inbox <;> rfl

/-- A request goes on waiting as long as there is no reply and its deadline has not passed. -/
theorem isSettled_eq_false_iff {e : Exchange}
    (h : b.broker.Feeds e.inbox (Broker.inboxName k) since []) :
    b.isSettled e = false ↔
      b.now < e.deadline ∧ b.broker.reply since k e.subject = .error (.timedOut e.subject) := by
  rw [reply_eq h, isSettled]
  cases b.broker.waiting e.inbox <;> simp

end Replied

/-- A turn after which a request is no more under way gives it what its inbox holds. -/
theorem answer_of_ended (htook : Took n i b b₁ b' p p' started) (hp : b.program? i = some p)
    {e : Exchange} (he : Step.ended? ⟨i, n, b, b'⟩ = some e) :
    e ∈ p.exchanges ∧ b.isSettled e = true ∧
      Step.answer? ⟨i, n, b, b'⟩ = some (b.collect e).1 := by
  rw [Asked.step_ended? htook hp] at he
  have hbefore := List.mem_of_find?_eq_some he
  have hafter : e ∉ p'.exchanges := by simpa using List.find?_some he
  rw [Asked.step_answer? hp]
  rcases htook.acts.talks with htalks | hmute
  · cases htalks with
    | sent _ _ hes _ =>
      rw [hes] at hafter
      exact absurd (List.mem_append_left _ hbefore) hafter
    | refused _ _ hes _ =>
      rw [hes] at hafter
      exact absurd hbefore hafter
    | @ended x _ hx hsettled _ hes hanswer =>
      have hself : e = x := by
        by_contra hne
        rw [hes] at hafter
        exact hafter (List.mem_filter.mpr ⟨hbefore, by simpa using hne⟩)
      rw [hself]
      exact ⟨hx, hsettled, hanswer⟩
    | silent _ hes _ _ _ =>
      rw [hes] at hbefore
      cases hbefore
  · rw [hmute.before] at hbefore
    cases hbefore

/-- A request that is sent on a link that is up either fails at once for want of readers, or is
under way from then on. -/
theorem answer_of_request (htook : Took n i b b₁ b' p p' started) (hp : b.program? i = some p)
    {q : Request} (hq : Step.request? ⟨i, n, b, b'⟩ = some q)
    (hself : q.subject ≠ Broker.inboxName b.broker.nextInbox) :
    (¬ b.broker.Reaches q.subject ∧
      Step.answer? ⟨i, n, b, b'⟩ = some (.error (.noResponders q.subject)) ∧
      Step.opened? ⟨i, n, b, b'⟩ = none) ∨
    (b.broker.Reaches q.subject ∧ Step.answer? ⟨i, n, b, b'⟩ = none ∧
      Step.opened? ⟨i, n, b, b'⟩ =
        some ⟨q.subject, b.broker.nextStream, b.after q.timeout⟩) := by
  obtain ⟨hasks, hup⟩ := Asked.step_request? hp hq
  have hreaches := Broker.receivers_question hself q.payload
  have hsend := Request.send_eq hup
  rw [Asked.step_answer? hp, Step.opened?, Asked.step_asks? hp, hasks]
  change (_ ∧ _ ∧ (q.send b).1.toOption = _) ∨ (_ ∧ _ ∧ (q.send b).1.toOption = _)
  rcases htook.acts.talks with htalks | hmute
  · cases htalks with
    | @sent q' e hasks' hsend' _ hanswer =>
      cases hasks'.symm.trans hasks
      rw [hsend] at hsend'
      split at hsend'
      · cases hsend'
      next hsome =>
        cases hsend'
        refine .inr ⟨hreaches.mp hsome, hanswer, ?_⟩
        rw [hsend, if_neg hsome]
        rfl
    | @refused q' f hasks' hsend' _ hanswer =>
      cases hasks'.symm.trans hasks
      rw [hsend] at hsend'
      split at hsend'
      next hnone =>
        cases hsend'
        refine .inl ⟨fun h => hreaches.mpr h hnone, hanswer, ?_⟩
        rw [hsend, if_pos hnone]
        rfl
      · cases hsend'
    | ended hasks' => cases hasks'.symm.trans hasks
    | silent hasks' => cases hasks'.symm.trans hasks
  · cases hmute.asks.symm.trans hasks

/-- An answer is given where a request is refused and where one ends. -/
theorem answer_cases (htook : Took n i b b₁ b' p p' started) (hp : b.program? i = some p)
    {a : Except BusFault Payload} (ha : Step.answer? ⟨i, n, b, b'⟩ = some a) :
    (∃ q f, Step.asks? ⟨i, n, b, b'⟩ = some q ∧ a = .error f) ∨
      ∃ e, Step.ended? ⟨i, n, b, b'⟩ = some e := by
  rw [Asked.step_answer? hp] at ha
  rw [Asked.step_asks? hp, Asked.step_ended? htook hp]
  rcases htook.acts.talks with htalks | hmute
  · cases htalks with
    | sent _ _ _ hanswer => cases hanswer.symm.trans ha
    | @refused q f hasks _ _ hanswer =>
      cases hanswer.symm.trans ha
      exact .inl ⟨q, f, hasks, rfl⟩
    | @ended x _ hx _ _ hes _ =>
      refine .inr (Option.isSome_iff_exists.mp (List.find?_isSome.mpr ⟨x, hx, ?_⟩))
      simp [hes]
    | silent _ _ _ hanswer _ => cases hanswer.symm.trans ha
  · cases hmute.answer.symm.trans ha

/-- What requests come to, side by side. A request is known by what was opened when it was sent. -/
structure Answered (ts : List Step) (b : Bridge) : Prop where
  /-- No two requests go out under one inbox. -/
  inboxes : ((ts.filterMap Step.inbox?).map Broker.inboxName).Nodup
  sent : ∀ t ∈ ts, ∀ q, t.request? = some q → t.after.broker.journal =
    t.before.broker.journal ++ [t.before.broker.question q.subject q.payload]
  /-- A request fails at once for want of readers exactly if there are none. -/
  refused : ∀ t ∈ ts, ∀ q, t.request? = some q →
    q.subject ≠ Broker.inboxName t.before.broker.nextInbox →
    (t.answer? = some (.error (.noResponders q.subject)) ↔ ¬ t.before.broker.Reaches q.subject)
  opened : ∀ t ∈ ts, ∀ q, t.request? = some q →
    q.subject ≠ Broker.inboxName t.before.broker.nextInbox → t.before.broker.Reaches q.subject →
    t.answer? = none ∧
      t.opened? = some ⟨q.subject, t.before.broker.nextStream, t.before.after q.timeout⟩
  distinct : (ts.filterMap Step.opened?).Nodup
  once : (ts.filterMap Step.ended?).Nodup
  /-- A request that was under way ends with the first message on its own inbox, or times out if
  there was none. The time is up in the turn that finds the deadline passed and the inbox empty, so
  a reply that comes after the deadline but before that turn is still returned. -/
  ended : ∀ ts₁ t, ts₁ ++ [t] <+: ts → ∀ e, t.ended? = some e →
    ∃ t₀ ∈ ts₁, t₀.task = t.task ∧ t₀.opened? = some e ∧
      t.answer? = some (t.before.broker.reply t₀.before.broker.journal.length
        t₀.before.broker.nextInbox e.subject) ∧
      (t.answer? = some (.error (.timedOut e.subject)) → e.deadline ≤ t.before.now)
  answers : ∀ t ∈ ts, ∀ a, t.answer? = some a →
    (∃ q f, t.asks? = some q ∧ a = .error f) ∨ ∃ e, t.ended? = some e
  /-- Whoever asks with a task of its own gets the answer in the same turn. -/
  returned : ∀ t ∈ ts, ∀ r, t.before.program? t.task = some (.request r) → ∀ a,
    t.answer? = some a ↔ t.after.program? t.task = some (.finished (.answered a))
  /-- Nobody waits longer than for the first message or the deadline. -/
  waiting : ∀ j r e, b.program? j = some (.request r) → r.phase = .waiting e →
    ∃ t ∈ ts, t.task = j ∧ t.opened? = some e ∧ ∀ n, b.turn? n j = none ↔
      b.now < e.deadline ∧ b.broker.reply t.before.broker.journal.length
        t.before.broker.nextInbox e.subject = .error (.timedOut e.subject)

/-- A task that asks ends with the answer. -/
theorem answer?_iff_finished (h : b.turn? n i = some b') {r : Request}
    (hr : b.program? i = some (.request r)) (a : Except BusFault Payload) :
    Step.answer? ⟨i, n, b, b'⟩ = some a ↔
      b'.program? i = some (.finished (.answered a)) := by
  rw [Asked.step_answer? hr, Program.answer?]
  rw [turn?, hr] at h
  simp only [Program.turn] at h
  cases hturn : r.turn b with
  | wait =>
    rw [hturn] at h
    cases h
  | next r' b₁ =>
    rw [hturn] at h
    cases h
    rw [(placed_become i _ b₁).self]
    simp
  | done a' b₁ =>
    rw [hturn] at h
    cases h
    rw [(placed_finish i _ b₁).self]
    simp

theorem turn?_eq_none_iff {r : Request} {e : Exchange} (hr : b.program? i = some (.request r))
    (hphase : r.phase = .waiting e) (n : Nat) : b.turn? n i = none ↔ b.isSettled e = false := by
  rw [turn?, hr]
  simp only [Program.turn, Request.turn, hphase]
  cases b.isSettled e <;> simp [Turn.map]

theorem beside_deliver (m : Message) (b : Bridge) : Beside b (b.deliver m) := by
  have hsteady := Steady.deliver [] m b
  exact {
    kept := fun j p hp => (program?_congr hsteady.tasks j).trans hp
    begun := fun j p hnone hp => by
      rw [program?_congr hsteady.tasks, hnone] at hp
      cases hp
    owned := fun ho => ho.of_steady hsteady
    streams := hsteady.tends.streams
    inboxes := hsteady.tends.inboxes
    spares := fun _ _ _ e _ => by
      rw [deliver_broker]
      exact .deliver e.inbox m b.broker }

theorem beside_now (now : Instant) (b : Bridge) : Beside b { b with now := now } where
  kept _ _ hp := hp
  begun _ _ hnone hp := nomatch hnone.symm.trans hp
  owned ho := ho.of_steady (.wait [] now b)
  streams := Nat.le_refl _
  inboxes := Nat.le_refl _
  spares _ _ _ e _ := .refl e.inbox b.broker

/-- A responder for all subjects of a unit, two requests to the unit and one to nobody. -/
def threeAsking : Bridge :=
  let b := ((start [] (.start 0 0) 0).attend "u1.*").2
  let b := (b.spawn (.responder ⟨0, .nothing, .echo⟩)).2
  let ask (subject : String) : Program :=
    .request ⟨.working 0, subject, Payload.ofText subject, 1000, .asking⟩
  let b := (b.spawn (ask "u1.check_status")).2
  let b := (b.spawn (ask "u1.door")).2
  (b.spawn (ask "u2.check_status")).2

theorem owned_threeAsking : threeAsking.Owned := by
  have hempty : Owned ((start [] (.start 0 0) 0).attend "u1.*").2 :=
    .of_tasks_nil rfl ((Broker.Tends.subscribe [] "u1.*" .empty).bounded nofun)
  have hresponder := hempty.spawn (q := .responder ⟨0, .nothing, .echo⟩) (by decide) (by decide)
    fun _ _ hp => nomatch hp
  exact ((hresponder.spawn_of_held_nil rfl).spawn_of_held_nil rfl).spawn_of_held_nil rfl

theorem Unasked.spawn (h : b.Unasked) (hp : p.exchanges = []) : (b.spawn p).2.Unasked := by
  intro j q hq
  by_cases hj : j = b.nextTask
  · rw [hj, program?_spawn_self] at hq
    cases hq
    exact hp
  · rw [program?_spawn_of_ne hj] at hq
    exact h j q hq

theorem unasked_threeAsking : threeAsking.Unasked := by
  have hempty : Unasked ((start [] (.start 0 0) 0).attend "u1.*").2 := by
    intro j p hp
    rw [program?, show ((start [] (.start 0 0) 0).attend "u1.*").2.tasks = [] from rfl] at hp
    cases hp
  exact (((hempty.spawn rfl).spawn rfl).spawn rfl).spawn rfl

end Bridge
end FleetBridge
