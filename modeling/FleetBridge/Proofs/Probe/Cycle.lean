import FleetBridge.Proofs.Bridge.Course
import FleetBridge.Proofs.Bridge.Frame
import FleetBridge.Proofs.Probe.Settlement

/-!
The course of a probe cycle: which probes end in which turn and with what, and that every
registration of the snapshot is waiting to be probed, being probed, or among the results.
-/
namespace FleetBridge

open Probe

/-- The end of a probe: what came back, and whether the link was up when that was seen. -/
structure Sighting where
  entry : Roster.Entry
  answer : Except BusFault Payload
  linkUp : Bool

namespace Sighting

/-- Whether the probe timed out or met with nobody. -/
def isSilence (o : Sighting) : Bool :=
  match o.answer with
  | .error (.timedOut _) => true
  | .error (.noResponders _) => true
  | _ => false

/-- Whether the probe speaks against the unit. -/
def condemns (o : Sighting) : Bool := o.isSilence && o.linkUp

def outcome (o : Sighting) : Outcome :=
  match o.answer with
  | .ok _ => .healthy
  | .error f => if o.condemns then .unresponsive else .failed f

def result (o : Sighting) : Result := (o.entry, o.outcome)

theorem outcome_eq_unresponsive_iff (o : Sighting) :
    o.outcome = .unresponsive ↔ o.condemns = true := by
  obtain ⟨e, answer, up⟩ := o
  cases answer with
  | ok p => simp [outcome, condemns, isSilence]
  | error f =>
    simp only [outcome]
    split
    next h => simp [h]
    next h => simp [h]

end Sighting

namespace Cycle

theorem outcome_eq (l : Link) (b : Bridge) (e : Roster.Entry) (answer : Except BusFault Payload) :
    outcome l b answer = Sighting.outcome ⟨e, answer, b.isConnected l⟩ := by
  cases answer with
  | ok p => rfl
  | error f =>
    have hs : Sighting.isSilence ⟨e, .error f, b.isConnected l⟩ = f.isNoReply := by
      cases f <;> rfl
    simp only [outcome, Sighting.outcome, Sighting.condemns, hs]

/-- The probe that ends in a turn, if one does. -/
def sighting? (n : Nat) (c : Cycle) (b : Bridge) : Option Sighting :=
  match c.phase with
  | .probing pending underway _ =>
    match c.admitted pending underway.length with
    | e :: _ =>
      match c.ask e b with
      | (.ok _, _) => none
      | (.error f, b) => some ⟨e, .error f, b.isConnected c.link⟩
    | [] => (pick? n underway b).map fun u =>
      ⟨u.1, (b.collect u.2).1, (b.collect u.2).2.isConnected c.link⟩
  | _ => none

/-- The probes that ended in the turns of a course, in their order. -/
def sightings (ts : List (Turn.Taken Cycle)) : List Sighting :=
  ts.filterMap fun t => t.state.sighting? t.chance t.bridge

/-- A snapshot while it is being probed: each entry is pending, underway or among the results. -/
structure Probing (snapshot : List Roster.Entry) (seen : List Sighting)
    (pending : List Roster.Entry) (underway : List (Roster.Entry × Exchange))
    (results : List Result) (b : Bridge) : Prop where
  perm : (pending ++ underway.map Prod.fst ++ results.map Prod.fst).Perm snapshot
  results_eq : results = seen.map Sighting.result
  nodup_inboxes : (underway.map fun u => u.2.inbox).Nodup
  inbox_lt : ∀ u ∈ underway, u.2.inbox < b.broker.nextStream

/-! One turn. -/

variable {n : Nat} {l : Link} {st : ProbeSettings} {b b' : Bridge} {c c' : Cycle}

/-- A cycle starts with the roster's entries, if its link is up. -/
theorem turn_start (h : (start l st).turn n b = .next c' b') :
    b.isConnected l = true ∧ c' = ⟨l, st, .probing b.roster.entries [] []⟩ ∧ b' = b := by
  change (if b.isConnected l = true then Turn.next _ b else Turn.done Report.skip b) = _ at h
  by_cases hup : b.isConnected l = true
  · rw [if_pos hup] at h
    cases h
    exact ⟨hup, rfl, rfl⟩
  · rw [if_neg hup] at h
    cases h

/-- The report that follows from results. -/
def reportOf (b : Bridge) (results : List Result) : Report :=
  (Settlement.of b.roster b.meters results).report results.length

theorem turn_settle (n : Nat) (l : Link) (st : ProbeSettings) (results : List Result)
    (b : Bridge) :
    turn n ⟨l, st, .probing [] [] results⟩ b =
      .next ⟨l, st, .writing (reportOf b results) (reportOf b results).statuses⟩
        { b with
          roster := (Settlement.of b.roster b.meters results).roster
          meters := (Settlement.of b.roster b.meters results).meters } :=
  rfl

theorem ask_inbox {c : Cycle} {e : Roster.Entry} {x : Exchange}
    (h : c.ask e b = (.ok x, b')) :
    x.inbox = b.broker.nextStream ∧ x.inbox < b'.broker.nextStream := by
  unfold ask Bridge.ask at h
  split at h
  · cases h
  · split at h
    · cases h
    · simp only at h
      split at h
      · cases h
      · cases h
        have hle := (Bridge.quiet_deliver ⟨Subject.probe e.unit.unitId, some b.broker.inbox.1,
          Payload.ofText e.unit.unitId⟩
          ({ b with broker := b.broker.inbox.2 }.attend b.broker.inbox.1).2).streams
        exact ⟨rfl, hle⟩

theorem pick?_mem {underway : List (Roster.Entry × Exchange)} {u : Roster.Entry × Exchange}
    (h : pick? n underway b = some u) : u ∈ underway :=
  (List.mem_filter.mp (List.mem_of_getElem? h)).1

/-- What a turn does while probes are pending or underway: a probe is sent, a probe fails to be
sent, or a probe that is underway ends. -/
theorem turn_probing {pending : List Roster.Entry} {underway : List (Roster.Entry × Exchange)}
    {results : List Result} (hopen : ¬ (pending = [] ∧ underway = []))
    (h : turn n ⟨l, st, .probing pending underway results⟩ b = .next c' b') :
    Bridge.Quiet b b' ∧
    ((∃ e rest x, pending = e :: rest ∧ x.inbox = b.broker.nextStream ∧
        x.inbox < b'.broker.nextStream ∧
        sighting? n ⟨l, st, .probing pending underway results⟩ b = none ∧
        c' = ⟨l, st, .probing rest (underway ++ [(e, x)]) results⟩) ∨
      (∃ e rest o, pending = e :: rest ∧ o.entry = e ∧
        sighting? n ⟨l, st, .probing pending underway results⟩ b = some o ∧
        c' = ⟨l, st, .probing rest underway (results ++ [o.result])⟩) ∨
      ∃ u ∈ underway, ∃ o, o.entry = u.1 ∧
        sighting? n ⟨l, st, .probing pending underway results⟩ b = some o ∧
        c' = ⟨l, st, .probing pending (underway.filter fun v => v.2 ≠ u.2)
          (results ++ [o.result])⟩) := by
  have hpending : ∀ {e rest},
      admitted ⟨l, st, .probing pending underway results⟩ pending underway.length = e :: rest →
        pending = e :: rest := by
    intro e rest ha
    unfold admitted at ha
    split at ha
    · exact ha
    · cases ha
  unfold turn at h
  simp only [sighting?]
  -- With something left to probe only the third branch can have been taken.
  split at h
  next hp => cases hp
  next hp =>
    cases hp
    exact absurd ⟨rfl, rfl⟩ hopen
  next hp =>
    cases hp
    cases ha : admitted ⟨l, st, .probing pending underway results⟩ pending underway.length with
    | cons e rest =>
      have hquiet : Bridge.Quiet b (ask ⟨l, st, .probing pending underway results⟩ e b).2 :=
        Bridge.quiet_ask l _ _ st.timeout b
      simp only [ha] at h ⊢
      generalize hask : ask ⟨l, st, .probing pending underway results⟩ e b = asked at h hquiet ⊢
      obtain ⟨answer, b₁⟩ := asked
      cases answer with
      | ok x =>
        cases h
        obtain ⟨hx, hlt⟩ := ask_inbox hask
        exact ⟨hquiet, .inl ⟨e, rest, x, hpending ha, hx, hlt, rfl, rfl⟩⟩
      | error f =>
        cases h
        refine ⟨hquiet, .inr (.inl ⟨e, rest, _, hpending ha, ?_, rfl, ?_⟩)⟩
        · rfl
        · rw [outcome_eq l _ e]
          rfl
    | nil =>
      simp only [ha] at h ⊢
      cases hpick : pick? n underway b with
      | none =>
        simp only [hpick] at h
        cases h
      | some u =>
        simp only [hpick, Option.map_some] at h ⊢
        cases h
        refine ⟨Bridge.quiet_collect u.2 b, .inr (.inr ⟨u, pick?_mem hpick, _, ?_, rfl, ?_⟩)⟩
        · rfl
        · rw [outcome_eq l _ u.1]
          rfl
  next hp => cases hp
  next hp => cases hp
  next hp => cases hp

theorem turn_open {pending : List Roster.Entry} {underway : List (Roster.Entry × Exchange)}
    {results : List Result} (hopen : ¬ (pending = [] ∧ underway = []))
    (h : turn n ⟨l, st, .probing pending underway results⟩ b = .next c' b') :
    Bridge.Quiet b b' ∧ ∃ pending' underway' results',
      c' = ⟨l, st, .probing pending' underway' results'⟩ := by
  obtain ⟨hquiet, hcases⟩ := turn_probing hopen h
  refine ⟨hquiet, ?_⟩
  rcases hcases with ⟨e, rest, x, -, -, -, -, hc⟩ | ⟨e, rest, o, -, -, -, hc⟩ |
    ⟨u, -, o, -, -, hc⟩ <;> exact ⟨_, _, _, hc⟩

/-- The report that a cycle has drawn up. -/
def report? (c : Cycle) : Option Report :=
  match c.phase with
  | .writing r _ => some r
  | .counting r => some r
  | _ => none

/-- What a turn does: it settles the results, writes a status, or shows neither on the roster nor in
the log. -/
theorem turn_next (h : c.turn n b = .next c' b') :
    (Bridge.Quiet b b' ∧ c'.report? = c.report?) ∨
      (∃ results, c.phase = .probing [] [] results ∧
        c' = { c with phase := .writing (reportOf b results) (reportOf b results).statuses } ∧
        b' = { b with
          roster := (Settlement.of b.roster b.meters results).roster
          meters := (Settlement.of b.roster b.meters results).meters }) ∨
      ∃ r event status rest, c.phase = .writing r ((event, status) :: rest) ∧
        c' = { c with phase := .writing r rest } ∧
        b' = { b with statuses := b.statuses.write event status } := by
  obtain ⟨l, st, phase⟩ := c
  cases phase with
  | starting =>
    obtain ⟨-, rfl, rfl⟩ := turn_start h
    exact .inl ⟨.refl b', rfl⟩
  | probing pending underway results =>
    by_cases hopen : pending = [] ∧ underway = []
    · obtain ⟨rfl, rfl⟩ := hopen
      cases h
      exact .inr (.inl ⟨results, rfl, rfl, rfl⟩)
    · obtain ⟨hquiet, pending', underway', results', rfl⟩ := turn_open hopen h
      exact .inl ⟨hquiet, rfl⟩
  | writing r rest =>
    cases rest with
    | nil =>
      cases h
      exact .inl ⟨.refl b, rfl⟩
    | cons w rest =>
      cases h
      exact .inr (.inr ⟨r, w.1, w.2, rest, rfl, rfl, rfl⟩)
  | counting r => cases h

/-- A cycle ends when it has counted, or at once if its link is down. -/
theorem turn_done {r : Report} (h : c.turn n b = .done r b') :
    Bridge.Quiet b b' ∧ (c.phase = .counting r ∨ c.phase = .starting ∧ r = .skip) := by
  unfold turn at h
  split at h
  next hp =>
    dsimp only at h
    split at h
    · cases h
    · cases h
      exact ⟨.refl b, .inr ⟨hp, rfl⟩⟩
  next => cases h
  next =>
    split at h
    next e rest _ =>
      dsimp only at h
      generalize c.ask e b = asked at h
      obtain ⟨answer, b₁⟩ := asked
      cases answer <;> cases h
    next => dsimp only at h; split at h <;> cases h
  next => cases h
  next => cases h
  next hp =>
    cases h
    exact ⟨(Bridge.quiet_metered _ b).trans (Bridge.quiet_meterRoster _), .inl hp⟩

/-- No turn but the settlement touches the roster. -/
theorem roster_eq_turn (n : Nat) (hc : ∀ results, c.phase ≠ .probing [] [] results) (b : Bridge) :
    (c.turn n b).All fun b' => b'.roster = b.roster := by
  cases h : c.turn n b with
  | wait => trivial
  | next c' b' =>
    rcases turn_next h with ⟨hquiet, -⟩ | ⟨results, hp, -, -⟩ | ⟨r, event, status, rest, -, -, rfl⟩
    · exact hquiet.roster
    · exact absurd hp (hc results)
    · rfl
  | done r b' => exact (turn_done h).1.roster

/-- A turn of a cycle changes the roster by removals at most. -/
theorem amid_turn (n : Nat) (c : Cycle) (b : Bridge) : (c.turn n b).All (Bridge.Amid b) := by
  cases h : c.turn n b with
  | wait => trivial
  | next c' b' =>
    rcases turn_next h with ⟨hquiet, -⟩ | ⟨results, -, -, rfl⟩ |
      ⟨r, event, status, rest, -, -, rfl⟩
    · exact hquiet.amid
    · exact ⟨Settlement.changes_of _ _ _, Nat.le_refl _⟩
    · exact ⟨.refl, Nat.le_refl _⟩
  | done r b' => exact (turn_done h).1.amid

theorem tasks_eq_turn (n : Nat) (c : Cycle) (b : Bridge) :
    (c.turn n b).All fun b' => b'.tasks = b.tasks ∧ b'.nextTask = b.nextTask := by
  cases h : c.turn n b with
  | wait => trivial
  | next c' b' =>
    rcases turn_next h with ⟨hquiet, -⟩ | ⟨results, -, -, rfl⟩ |
      ⟨r, event, status, rest, -, -, rfl⟩
    · exact ⟨hquiet.tasks, hquiet.nextTask⟩
    · exact ⟨rfl, rfl⟩
    · exact ⟨rfl, rfl⟩
  | done r b' =>
    have hquiet := (turn_done h).1
    exact ⟨hquiet.tasks, hquiet.nextTask⟩

/-! The course of a cycle. -/

/-- With a task's number taken out, the rest are those with other numbers. -/
theorem perm_cons_filter {α β : Type} [DecidableEq β] {f : α → β} {xs : List α}
    (h : (xs.map f).Nodup) {x : α} (hx : x ∈ xs) :
    xs.Perm (x :: xs.filter fun y => f y ≠ f x) := by
  induction xs with
  | nil => cases hx
  | cons y ys ih =>
    rw [List.map_cons, List.nodup_cons] at h
    rw [List.filter_cons]
    rcases List.mem_cons.mp hx with rfl | hx
    · have hall : (ys.filter fun z => f z ≠ f x) = ys := by
        refine List.filter_eq_self.mpr fun z hz => decide_eq_true fun he => ?_
        exact h.1 (List.mem_map.mpr ⟨z, hz, he⟩)
      simp only [ne_eq, not_true_eq_false, decide_false, Bool.false_eq_true, if_false]
      simp only [ne_eq] at hall
      rw [hall]
    · have hne : f y ≠ f x := fun he => h.1 (he ▸ List.mem_map_of_mem hx)
      rw [if_pos (decide_eq_true hne)]
      exact ((ih h.2 hx).cons y).trans (.swap _ _ _)

variable {snapshot : List Roster.Entry} {seen : List Sighting}
  {pending : List Roster.Entry} {underway : List (Roster.Entry × Exchange)}
  {results : List Result}

theorem Probing.amid (h : Probing snapshot seen pending underway results b)
    (hb : b.broker.nextStream ≤ b'.broker.nextStream) :
    Probing snapshot seen pending underway results b' :=
  { h with inbox_lt := fun u hu => Nat.lt_of_lt_of_le (h.inbox_lt u hu) hb }

theorem Probing.sent {e : Roster.Entry} {x : Exchange}
    (h : Probing snapshot seen (e :: pending) underway results b)
    (hx : x.inbox = b.broker.nextStream) (hlt : x.inbox < b'.broker.nextStream)
    (hb : b.broker.nextStream ≤ b'.broker.nextStream) :
    Probing snapshot seen pending (underway ++ [(e, x)]) results b' where
  perm := by
    refine .trans ?_ h.perm
    rw [List.map_append, List.map_singleton, ← List.append_assoc, List.cons_append,
      List.cons_append]
    exact (List.perm_append_comm.append_right _)
  results_eq := h.results_eq
  nodup_inboxes := by
    rw [List.map_append, List.map_singleton, List.nodup_append]
    refine ⟨h.nodup_inboxes, List.nodup_singleton _, ?_⟩
    intro i hi j hj he
    obtain ⟨u, hu, rfl⟩ := List.mem_map.mp hi
    rw [List.mem_singleton.mp hj, hx] at he
    exact Nat.ne_of_lt (h.inbox_lt u hu) he
  inbox_lt u hu := by
    rcases List.mem_append.mp hu with hu | hu
    · exact Nat.lt_of_lt_of_le (h.inbox_lt u hu) hb
    · rw [List.mem_singleton.mp hu]
      exact hlt

theorem Probing.refused {o : Sighting}
    (h : Probing snapshot seen (o.entry :: pending) underway results b) :
    Probing snapshot (seen ++ [o]) pending underway (results ++ [o.result]) b where
  perm := by
    refine .trans ?_ h.perm
    rw [List.map_append, List.map_singleton, ← List.append_assoc, List.cons_append,
      List.cons_append]
    exact List.perm_append_singleton _ _
  results_eq := by rw [List.map_append, List.map_singleton, h.results_eq]
  nodup_inboxes := h.nodup_inboxes
  inbox_lt := h.inbox_lt

theorem Probing.ended {u : Roster.Entry × Exchange} {o : Sighting} (hu : u ∈ underway)
    (ho : o.entry = u.1) (h : Probing snapshot seen pending underway results b) :
    Probing snapshot (seen ++ [o]) pending (underway.filter fun v => v.2 ≠ u.2)
      (results ++ [o.result]) b where
  perm := by
    have hnodup : (underway.map Prod.snd).Nodup := by
      refine List.Nodup.of_map Exchange.inbox ?_
      rw [List.map_map]
      exact h.nodup_inboxes
    -- Inboxes tell exchanges apart, so the filter takes out `u` and nothing else.
    have hsplit : (underway.map Prod.fst).Perm
        (u.1 :: (underway.filter fun v => v.2 ≠ u.2).map Prod.fst) :=
      (perm_cons_filter hnodup hu).map Prod.fst
    refine .trans ?_ h.perm
    rw [List.map_append, List.map_singleton, Sighting.result, ho, List.append_assoc,
      List.append_assoc]
    refine List.Perm.append_left _ (.trans ?_ (hsplit.symm.append_right _))
    rw [← List.append_assoc]
    exact List.perm_append_singleton _ _
  results_eq := by rw [List.map_append, List.map_singleton, h.results_eq]
  nodup_inboxes := h.nodup_inboxes.sublist (List.filter_sublist.map _)
  inbox_lt v hv := h.inbox_lt v (List.mem_filter.mp hv).1

/-- A cycle in its course: while it probes, no entry of the snapshot is lost. -/
structure Underway (l : Link) (st : ProbeSettings) (r₀ : Roster) (ts : List (Turn.Taken Cycle))
    (c : Cycle) (b : Bridge) : Prop where
  link : c.link = l
  settings : c.settings = st
  started : c.phase ≠ .starting
  changes : Roster.Changes r₀ b.roster
  probing : ∀ {pending underway results}, c.phase = .probing pending underway results →
    Probing r₀.entries (sightings ts) pending underway results b

theorem sightings_append (ts : List (Turn.Taken Cycle)) (n : Nat) (c : Cycle) (b : Bridge) :
    sightings (ts ++ [⟨n, c, b⟩]) = sightings ts ++ (c.sighting? n b).toList :=
  Turn.filterMap_concat _ _ _

theorem Underway.amid {r₀ : Roster} {ts : List (Turn.Taken Cycle)} (h : Underway l st r₀ ts c b)
    (hb : Bridge.Amid b b') : Underway l st r₀ ts c b' where
  link := h.link
  settings := h.settings
  started := h.started
  changes := h.changes.trans hb.roster
  probing hp := (h.probing hp).amid hb.streams

theorem Underway.turn {r₀ : Roster} {ts : List (Turn.Taken Cycle)}
    (h : Underway l st r₀ ts c b) (ht : c.turn n b = .next c' b') :
    Underway l st r₀ (ts ++ [⟨n, c, b⟩]) c' b' := by
  have hamid := amid_turn n c b
  rw [ht] at hamid
  have hchanges := h.changes.trans hamid.roster
  obtain ⟨l', st', phase⟩ := c
  obtain rfl : l' = l := h.link
  obtain rfl : st' = st := h.settings
  -- Only a turn in which probes are pending or underway leaves the cycle probing.
  cases phase with
  | starting => exact absurd rfl h.started
  | writing r rest =>
    cases rest with
    | nil =>
      cases ht
      exact ⟨rfl, rfl, nofun, hchanges, nofun⟩
    | cons w rest =>
      cases ht
      exact ⟨rfl, rfl, nofun, hchanges, nofun⟩
  | counting r => cases ht
  | probing pending underway results =>
    have hprobing := h.probing rfl
    by_cases hopen : pending = [] ∧ underway = []
    · obtain ⟨rfl, rfl⟩ := hopen
      cases ht
      exact ⟨rfl, rfl, nofun, hchanges, nofun⟩
    · obtain ⟨hquiet, ⟨e, rest, x, rfl, hx, hlt, hs, rfl⟩ | ⟨e, rest, o, rfl, rfl, hs, rfl⟩ |
        ⟨u, hu, o, ho, hs, rfl⟩⟩ := turn_probing hopen ht
      · refine ⟨rfl, rfl, nofun, hchanges, fun hp => ?_⟩
        cases hp
        rw [sightings_append, hs, Option.toList_none, List.append_nil]
        exact hprobing.sent hx hlt hquiet.streams
      · refine ⟨rfl, rfl, nofun, hchanges, fun hp => ?_⟩
        cases hp
        rw [sightings_append, hs, Option.toList_some]
        exact hprobing.refused.amid hquiet.streams
      · refine ⟨rfl, rfl, nofun, hchanges, fun hp => ?_⟩
        cases hp
        rw [sightings_append, hs, Option.toList_some]
        exact (hprobing.ended hu ho).amid hquiet.streams

/-- The results with which a cycle comes to its settlement: one for each entry of its snapshot, in
any order, while others changed the roster as they liked. -/
structure Concluded (r₀ : Roster) (results : List Result) (b : Bridge) : Prop where
  perm : (results.map Prod.fst).Perm r₀.entries
  changes : Roster.Changes r₀ b.roster

theorem course_underway {c₀ : Cycle} {b₀ b₁ : Bridge} {n₀ : Nat}
    {ts : List (Turn.Taken Cycle)} (hstart : (start l st).turn n₀ b₀ = .next c₀ b₁)
    (h : Turn.Course Cycle.turn Bridge.Amid c₀ b₁ ts c b) :
    Underway l st b₀.roster ts c b := by
  obtain ⟨-, rfl, rfl⟩ := turn_start hstart
  refine h.invariant (Underway l st b₁.roster) ?_ ?_ ?_
  · refine ⟨rfl, rfl, nofun, .refl, fun hp => ?_⟩
    cases hp
    exact ⟨by simp, rfl, List.nodup_nil, nofun⟩
  · intro ts c b b' hc hb
    exact hc.amid hb
  · intro ts n c b c' b' hc ht
    exact hc.turn ht

theorem course_concluded {c₀ : Cycle} {b₀ b₁ : Bridge} {n₀ : Nat}
    {ts : List (Turn.Taken Cycle)} (hstart : (start l st).turn n₀ b₀ = .next c₀ b₁)
    (h : Turn.Course Cycle.turn Bridge.Amid c₀ b₁ ts ⟨l, st, .probing [] [] results⟩ b) :
    Concluded b₀.roster results b ∧ results = (sightings ts).map Sighting.result := by
  have hu := course_underway hstart h
  have hp := hu.probing rfl
  exact ⟨⟨hp.perm, hu.changes⟩, hp.results_eq⟩

end Cycle
end FleetBridge
