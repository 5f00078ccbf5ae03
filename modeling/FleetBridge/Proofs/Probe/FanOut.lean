import FleetBridge.Proofs.Bus.Requests
import FleetBridge.Proofs.Probe.Aggregation

/-!
The fan-out of a probe cycle: it asks every unit of its snapshot once, so many at a time and no
more, and shows nothing of what it learns before the last of them has answered or timed out.
-/
namespace FleetBridge

/-- What a request adds to the journal as it is sent. -/
def Request.posts (q : Request) (b : Bridge) : List Message :=
  if b.isConnected q.link then [⟨q.subject, some b.broker.inbox.1, q.payload⟩] else []

theorem Request.journal_send (q : Request) (b : Bridge) :
    (q.send b).2.broker.journal = b.broker.journal ++ q.posts b :=
  Bus.journal_ask q.link q.subject q.payload q.timeout b

namespace Cycle

open Turn (Taken Course Ends forall_mem_concat)

/-- The probes that were sent in the turns of a course, in their order. -/
def asked (ts : List (Taken Cycle)) : List Request := ts.filterMap fun t => t.state.asks?

/-- The entries that are still to be asked. -/
def pending (c : Cycle) : List Roster.Entry :=
  match c.phase with
  | .probing pending _ _ => pending
  | _ => []

/-- The entries whose answers are still to come. -/
def underway (c : Cycle) : List (Roster.Entry × Exchange) :=
  match c.phase with
  | .probing _ underway _ => underway
  | _ => []

/-- The probes of a snapshot: each goes to the unit's own subject and carries its name. -/
def probes (l : Link) (st : ProbeSettings) (entries : List Roster.Entry) : List Request :=
  entries.map fun e =>
    ⟨l, e.unit.unitId ++ ".check_status", Payload.ofText e.unit.unitId, st.timeout, .asking⟩

variable {n : ℕ} {l : Link} {st : ProbeSettings} {b b' : Bridge} {c c' : Cycle}
  {waiting : List Roster.Entry} {out : List (Roster.Entry × Exchange)} {results : List Probe.Result}

/-! One turn. -/

theorem asked_concat (ts : List (Taken Cycle)) (n : ℕ) (c : Cycle) (b : Bridge) :
    asked (ts ++ [⟨n, c, b⟩]) = asked ts ++ c.asks?.toList :=
  Turn.filterMap_concat _ _ _

/-- With probes to send or to end, a turn sends the next one, if there is room, or ends one. -/
theorem turn_fans (hopen : ¬ (waiting = [] ∧ out = []))
    (h : turn n ⟨l, st, .probing waiting out results⟩ b = .next c' b') :
    ∃ waiting' out' results', c' = ⟨l, st, .probing waiting' out' results'⟩ ∧
      ((∃ e, waiting = e :: waiting' ∧ out.length < max st.concurrency 1 ∧
          asks? ⟨l, st, .probing waiting out results⟩ = (probes l st [e]).head? ∧
          out'.length ≤ out.length + 1) ∨
        (asks? ⟨l, st, .probing waiting out results⟩ = none ∧ waiting' = waiting ∧
          out'.length < out.length)) := by
  rw [turn_open_eq n _ rfl hopen] at h
  unfold asks?
  cases hadmitted : admitted ⟨l, st, .probing waiting out results⟩ waiting out.length with
  | cons e rest =>
    have hroom : out.length < max st.concurrency 1 ∧ waiting = e :: rest := by
      unfold admitted at hadmitted
      split at hadmitted
      next hlt => exact ⟨hlt, hadmitted⟩
      next => cases hadmitted
    simp only [hadmitted] at h ⊢
    generalize ask _ e b = answer at h
    obtain ⟨f | x, b₁⟩ := answer
    · cases h
      exact ⟨_, _, _, rfl, .inl ⟨e, hroom.2, hroom.1, rfl, Nat.le_succ _⟩⟩
    · cases h
      exact ⟨_, _, _, rfl, .inl ⟨e, hroom.2, hroom.1, rfl, List.length_append.le⟩⟩
  | nil =>
    simp only [hadmitted] at h ⊢
    cases hpick : pick? n out b with
    | none =>
      rw [hpick] at h
      cases h
    | some u =>
      rw [hpick] at h
      cases h
      refine ⟨_, _, _, rfl, .inr ⟨rfl, rfl, ?_⟩⟩
      refine List.length_filter_lt_length_iff_exists.mpr ⟨u, pick?_mem hpick, ?_⟩
      simp

/-- A cycle waits only for answers, and never with room for another probe. -/
theorem answers_of_wait (h : c.turn n b = .wait) :
    c.underway ≠ [] ∧ (∀ u ∈ c.underway, b.isSettled u.2 = false) ∧
      (c.pending = [] ∨ max c.settings.concurrency 1 ≤ c.underway.length) := by
  obtain ⟨l, st, phase⟩ := c
  cases phase with
  | starting =>
    change (if b.isConnected l = true then Turn.next _ b else Turn.done _ b) = _ at h
    split at h <;> cases h
  | writing r rest => cases rest <;> cases h
  | counting r => cases h
  | probing waiting out results =>
    by_cases hopen : waiting = [] ∧ out = []
    · obtain ⟨rfl, rfl⟩ := hopen
      cases h
    · rw [turn_open_eq n _ rfl hopen] at h
      cases hadmitted : admitted ⟨l, st, .probing waiting out results⟩ waiting out.length with
      | cons e rest =>
        simp only [hadmitted] at h
        generalize ask _ e b = answer at h
        obtain ⟨f | x, b₁⟩ := answer <;> cases h
      | nil =>
        have hfull : waiting = [] ∨ max st.concurrency 1 ≤ out.length := by
          unfold admitted at hadmitted
          split at hadmitted
          next => exact .inl hadmitted
          next hge => exact .inr (Nat.le_of_not_lt hge)
        simp only [hadmitted] at h
        cases hpick : pick? n out b with
        | some u =>
          rw [hpick] at h
          cases h
        | none =>
          -- Chance picks among the settled ones, so there are none.
          have hready : (out.filter fun u => b.isSettled u.2) = [] := by
            have hle := List.getElem?_eq_none_iff.mp hpick
            refine List.length_eq_zero_iff.mp (Nat.eq_zero_of_not_pos fun hpos => ?_)
            exact Nat.not_le_of_lt (Nat.mod_lt n hpos) hle
          refine ⟨?_, fun u hu => ?_, hfull⟩
          · rintro (rfl : out = [])
            rcases hfull with rfl | hle
            · exact hopen ⟨rfl, rfl⟩
            · exact Nat.not_succ_le_zero 0 ((Nat.le_max_right _ _).trans hle)
          · exact Bool.not_eq_true _ ▸ List.filter_eq_nil_iff.mp hready u hu

/-- What a turn adds to the journal. -/
theorem journal_turn (n : ℕ) (c : Cycle) (b : Bridge) : (c.turn n b).All fun b' =>
    b'.broker.journal = b.broker.journal ++ c.asks?.toList.flatMap (·.posts b) := by
  have hsilent (h : c.asks? = none) :
      b.broker.journal = b.broker.journal ++ c.asks?.toList.flatMap (·.posts b) := by
    rw [h]
    exact (List.append_nil _).symm
  obtain ⟨l, st, phase⟩ := c
  cases phase with
  | starting =>
    change (if b.isConnected l = true then Turn.next _ b else Turn.done _ b).All _
    split
    · exact hsilent rfl
    · exact hsilent rfl
  | writing r rest => cases rest <;> exact hsilent rfl
  | counting r => exact hsilent rfl
  | probing waiting out results =>
    by_cases hopen : waiting = [] ∧ out = []
    · obtain ⟨rfl, rfl⟩ := hopen
      refine hsilent ?_
      simp [asks?, admitted]
    · have hasks : asks? ⟨l, st, .probing waiting out results⟩ =
          (admitted ⟨l, st, .probing waiting out results⟩ waiting out.length).head?.map
            (probe ⟨l, st, .probing waiting out results⟩) := rfl
      rw [turn_open_eq n _ rfl hopen, hasks]
      cases admitted ⟨l, st, .probing waiting out results⟩ waiting out.length with
      | cons e rest =>
        have hjournal : (ask ⟨l, st, .probing waiting out results⟩ e b).2.broker.journal = _ :=
          (probe ⟨l, st, .probing waiting out results⟩ e).journal_send b
        rw [List.head?_cons, Option.map_some, Option.toList_some, List.flatMap_singleton]
        dsimp only
        generalize ask _ e b = answer at hjournal ⊢
        obtain ⟨f | x, b₁⟩ := answer
        · exact hjournal
        · exact hjournal
      | nil =>
        dsimp only
        cases pick? n out b with
        | none => trivial
        | some u => exact (Bus.journal_collect u.2 b).trans (List.append_nil _).symm

/-- A turn adds its probe to the journal, if it sends one, and nothing else. -/
def Sends (t : Taken Cycle) : Prop :=
  (t.after turn).broker.journal =
    t.bridge.broker.journal ++ t.state.asks?.toList.flatMap (·.posts t.bridge)

theorem sends_of_next (h : c.turn n b = .next c' b') : Sends ⟨n, c, b⟩ := by
  have hjournal := journal_turn n c b
  rw [h] at hjournal
  unfold Sends
  rw [Taken.after_of_next h]
  exact hjournal

theorem sends_of_done {r : Probe.Report} (h : c.turn n b = .done r b') : Sends ⟨n, c, b⟩ := by
  have hjournal := journal_turn n c b
  rw [h] at hjournal
  unfold Sends
  rw [Taken.after_of_done h]
  exact hjournal

/-! The course of a cycle. -/

/-- How far the probes of a snapshot have got. -/
structure FannedOut (l : Link) (st : ProbeSettings) (snapshot : List Roster.Entry)
    (ts : List (Taken Cycle)) (c : Cycle) : Prop where
  /-- The probes were sent in the order of the snapshot, each once, up to those still to come. -/
  asked : asked ts ++ probes l st c.pending = probes l st snapshot
  /-- Every entry is still to be asked, has its answer still to come, or was seen once. -/
  perm : (c.pending ++ c.underway.map Prod.fst ++ (sightings ts).map Sighting.entry).Perm snapshot
  bounded : c.underway.length ≤ max st.concurrency 1
  sends : ∀ t ∈ ts, Sends t

variable {snapshot : List Roster.Entry} {ts : List (Taken Cycle)} {r₀ : Roster}

theorem FannedOut.length_eq (h : FannedOut l st snapshot ts c) :
    (Cycle.asked ts).length = (sightings ts).length + c.underway.length := by
  have hasked := congrArg List.length h.asked
  have hperm := h.perm.length_eq
  simp only [probes, List.length_append, List.length_map] at hasked hperm
  omega

/-- As long as an answer is missing, the cycle has something to send or to wait for. -/
theorem FannedOut.open_of_lt (h : FannedOut l st snapshot ts c)
    (hlt : (sightings ts).length < snapshot.length) : ¬ (c.pending = [] ∧ c.underway = []) := by
  rintro ⟨hpending, hunderway⟩
  have hperm := h.perm.length_eq
  rw [hpending, hunderway, List.map_nil, List.nil_append, List.nil_append, List.length_map] at hperm
  exact Nat.ne_of_lt hlt hperm

/-- A turn that neither sends nor ends a probe. -/
theorem FannedOut.silent (h : FannedOut l st snapshot ts c) (hsends : Sends ⟨n, c, b⟩)
    (hasks : c.asks? = none) (hsighting : c.sighting? n b = none)
    (hpending : c'.pending = c.pending) (hunderway : c'.underway = c.underway) :
    FannedOut l st snapshot (ts ++ [⟨n, c, b⟩]) c' where
  asked := by
    rw [asked_concat, hasks, hpending, Option.toList_none, List.append_nil]
    exact h.asked
  perm := by
    rw [sightings_append, hsighting, hpending, hunderway, Option.toList_none, List.append_nil]
    exact h.perm
  bounded := hunderway ▸ h.bounded
  sends := forall_mem_concat h.sends hsends

theorem FannedOut.turn (hu : Underway l st r₀ ts c b) (h : FannedOut l st r₀.entries ts c)
    (ht : c.turn n b = .next c' b') : FannedOut l st r₀.entries (ts ++ [⟨n, c, b⟩]) c' := by
  have hsends := sends_of_next ht
  have hu' := hu.turn ht
  obtain ⟨l', st', phase⟩ := c
  obtain rfl : l' = l := hu.link
  obtain rfl : st' = st := hu.settings
  cases phase with
  | starting => exact absurd rfl hu.started
  | writing r rest => cases rest <;> (cases ht; exact h.silent hsends rfl rfl rfl rfl)
  | counting r => cases ht
  | probing waiting out results =>
    by_cases hopen : waiting = [] ∧ out = []
    · obtain ⟨rfl, rfl⟩ := hopen
      cases ht
      refine h.silent hsends ?_ ?_ rfl rfl
      · simp [asks?, admitted]
      · simp [sighting?, admitted, pick?]
    · obtain ⟨waiting', out', results', rfl, hfans⟩ := turn_fans hopen ht
      have hprobing := hu'.probing rfl
      -- The results are those of the probes seen, one for one.
      have hperm := hprobing.perm
      rw [hprobing.results_eq, List.map_map] at hperm
      have hasked : Cycle.asked ts ++ probes l' st' waiting = probes l' st' r₀.entries := h.asked
      have hbounded : out.length ≤ max st'.concurrency 1 := h.bounded
      refine ⟨?_, hperm, ?_, forall_mem_concat h.sends hsends⟩
      · rw [asked_concat, ← hasked]
        rcases hfans with ⟨e, rfl, -, hasks, -⟩ | ⟨hasks, rfl, -⟩
        · rw [hasks, List.append_assoc]
          rfl
        · rw [hasks, Option.toList_none, List.append_nil]
          rfl
      · change out'.length ≤ _
        rcases hfans with ⟨e, -, hroom, -, hle⟩ | ⟨-, -, hlt⟩
        · exact hle.trans hroom
        · exact hlt.le.trans hbounded

theorem fannedOut_of_course {c₀ : Cycle} {b₀ b₁ : Bridge} {n₀ : ℕ}
    (hstart : (start l st).turn n₀ b₀ = .next c₀ b₁)
    (h : Course Cycle.turn Bridge.Amid c₀ b₁ ts c b) :
    Underway l st b₀.roster ts c b ∧ FannedOut l st b₀.roster.entries ts c := by
  have hunderway := course_underway hstart .start
  obtain ⟨-, rfl, rfl⟩ := turn_start hstart
  refine h.invariant
    (fun ts c b => Underway l st b₁.roster ts c b ∧ FannedOut l st b₁.roster.entries ts c) ?_ ?_ ?_
  · refine ⟨hunderway, rfl, ?_, Nat.zero_le _, List.forall_mem_nil _⟩
    exact .of_eq ((List.append_nil _).trans (List.append_nil _))
  · exact fun _ _ _ _ hc hb => ⟨hc.1.amid hb, hc.2⟩
  · exact fun _ _ _ _ _ _ hc ht => ⟨hc.1.turn ht, hc.2.turn hc.1 ht⟩

/-- While there is something to send or to wait for, no turn shows on the roster or in the log. -/
theorem quiet_of_open (hopen : ¬ (c.pending = [] ∧ c.underway = [])) (n : ℕ) (b : Bridge) :
    (c.turn n b).All (Bridge.Quiet b) := by
  obtain ⟨l, st, phase⟩ := c
  cases phase with
  | starting => exact absurd ⟨rfl, rfl⟩ hopen
  | writing r rest => exact absurd ⟨rfl, rfl⟩ hopen
  | counting r => exact absurd ⟨rfl, rfl⟩ hopen
  | probing waiting out results =>
    cases h : turn n ⟨l, st, .probing waiting out results⟩ b with
    | wait => trivial
    | next c' b' => exact (turn_open hopen h).1
    | done r b' => exact (turn_done h).1

/-- Answers come or time out, so a cycle that probes can come to its end. -/
theorem exists_ends_of_probing {c₀ : Cycle} {b₀ : Bridge} (m : ℕ)
    (h : Course Cycle.turn Bridge.Amid c₀ b₀ ts ⟨l, st, .probing waiting out results⟩ b)
    (hm : 2 * waiting.length + out.length ≤ m) :
    ∃ ts' r b', Ends Cycle.turn Bridge.Amid c₀ b₀ ts' r b' := by
  induction m generalizing ts waiting out results b with
  | zero =>
    obtain rfl : waiting = [] := List.length_eq_zero_iff.mp (by omega)
    obtain rfl : out = [] := List.length_eq_zero_iff.mp (by omega)
    obtain ⟨ts', b', hends⟩ := exists_ends Bridge.Amid (h.taken 0 (turn_settle 0 l st results b))
    exact ⟨ts', _, b', hends⟩
  | succ m ih =>
    by_cases hopen : waiting = [] ∧ out = []
    · obtain ⟨rfl, rfl⟩ := hopen
      obtain ⟨ts', b', hends⟩ := exists_ends Bridge.Amid (h.taken 0 (turn_settle 0 l st results b))
      exact ⟨ts', _, b', hends⟩
    · -- A wait is over once a deadline has passed, so some turn can be taken.
      obtain ⟨b₁, h₁, hgoes⟩ := h.exists_going 0 fun hwait => by
        obtain ⟨u, rest, hout⟩ := List.exists_cons_of_ne_nil (answers_of_wait hwait).1
        refine ⟨{ b with now := u.2.deadline }, ⟨.refl, Nat.le_refl _⟩, fun hwait' => ?_⟩
        have hunsettled := (answers_of_wait hwait').2.1 u (hout ▸ List.mem_cons_self)
        simp [Bridge.isSettled] at hunsettled
      cases hturn : turn 0 ⟨l, st, .probing waiting out results⟩ b₁ with
      | wait => exact absurd hturn hgoes
      | done r b' => exact ⟨_, r, b', .done 0 h₁ hturn⟩
      | next c' b' =>
        obtain ⟨waiting', out', results', rfl, hfans⟩ := turn_fans hopen hturn
        refine ih (h₁.taken 0 hturn) ?_
        rcases hfans with ⟨e, rfl, -, -, hle⟩ | ⟨-, rfl, hlt⟩
        · rw [List.length_cons] at hm
          omega
        · omega

theorem exists_ends_of_started (hstarted : c.phase ≠ .starting) :
    ∃ ts r b', Ends Cycle.turn Bridge.Amid c b ts r b' := by
  obtain ⟨l, st, phase⟩ := c
  cases phase with
  | starting => exact absurd rfl hstarted
  | probing waiting out results => exact exists_ends_of_probing _ .start (Nat.le_refl _)
  | writing r rest =>
    have hcourse : Course Cycle.turn Bridge.Amid ⟨l, st, .writing r rest⟩ b [] _ b := .start
    obtain ⟨ts, b', hends⟩ := exists_ends Bridge.Amid hcourse
    exact ⟨ts, r, b', hends⟩
  | counting r => exact ⟨_, r, _, .done 0 .start rfl⟩

/-- At its end a cycle has asked every unit of its snapshot once and seen what came of it. -/
theorem fannedOut_of_ends {c₀ : Cycle} {b₀ b₁ : Bridge} {n₀ : ℕ} {r : Probe.Report}
    (hstart : (start l st).turn n₀ b₀ = .next c₀ b₁)
    (h : Ends Cycle.turn Bridge.Amid c₀ b₁ ts r b) :
    asked ts = probes l st b₀.roster.entries ∧
      ((sightings ts).map Sighting.entry).Perm b₀.roster.entries ∧ ∀ t ∈ ts, Sends t := by
  cases h with
  | @done ts c b b' r n hcourse hdone =>
    obtain ⟨hunderway, hfanned⟩ := fannedOut_of_course hstart hcourse
    have hsends := forall_mem_concat hfanned.sends (sends_of_done hdone)
    obtain ⟨l', st', phase⟩ := c
    obtain rfl : phase = .counting r := by
      rcases (turn_done hdone).2 with hcounting | ⟨hstarting, -⟩
      · exact hcounting
      · exact absurd hstarting hunderway.started
    have hasked := hfanned.asked
    have hperm := hfanned.perm
    refine ⟨?_, ?_, hsends⟩
    · rw [asked_concat, ← hasked]
      rfl
    · have hsighting : sighting? n ⟨l', st', .counting r⟩ b = none := rfl
      rw [sightings_append, hsighting, Option.toList_none, List.append_nil]
      exact hperm

/-- A cycle that is not skipped asks every unit of its snapshot once, on the unit's own subject and
with its name, whoever registers or is removed meanwhile. It never has more probes under way than it
may, and waits only for those; and nothing shows on the roster or in the log before every answer is
in. It can always come to its end, and then everybody was asked and seen. -/
theorem asks_everyone_once {c₀ : Cycle} {b₀ b₁ : Bridge} {n₀ : ℕ}
    (hstart : (start l st).turn n₀ b₀ = .next c₀ b₁) :
    (∀ ts c b, Course Cycle.turn Bridge.Amid c₀ b₁ ts c b →
      FannedOut l st b₀.roster.entries ts c ∧
      (asked ts).length = (sightings ts).length + c.underway.length ∧
      (∀ n, c.turn n b = .wait → c.underway ≠ [] ∧ (∀ u ∈ c.underway, b.isSettled u.2 = false) ∧
        (c.pending = [] ∨ c.underway.length = max st.concurrency 1)) ∧
      ((sightings ts).length < b₀.roster.entries.length → ∀ n,
        (c.turn n b).All fun b' => b'.roster = b.roster ∧ b'.statuses = b.statuses) ∧
      ∃ ts' r b', Ends Cycle.turn Bridge.Amid c b ts' r b') ∧
    ∀ ts r b, Ends Cycle.turn Bridge.Amid c₀ b₁ ts r b →
      asked ts = probes l st b₀.roster.entries ∧
      ((sightings ts).map Sighting.entry).Perm b₀.roster.entries ∧ ∀ t ∈ ts, Sends t := by
  refine ⟨fun ts c b hcourse => ?_, fun ts r b hends => fannedOut_of_ends hstart hends⟩
  obtain ⟨hunderway, hfanned⟩ := fannedOut_of_course hstart hcourse
  refine ⟨hfanned, hfanned.length_eq, fun n hwait => ?_, fun hlt n => ?_,
    exists_ends_of_started hunderway.started⟩
  · obtain ⟨hout, hunsettled, hfull⟩ := answers_of_wait hwait
    rw [hunderway.settings] at hfull
    exact ⟨hout, hunsettled, hfull.imp_right fun hle => Nat.le_antisymm hfanned.bounded hle⟩
  · have hquiet := quiet_of_open (hfanned.open_of_lt hlt) n b
    cases hturn : c.turn n b with
    | wait => trivial
    | next c' b' =>
      rw [hturn] at hquiet
      exact ⟨hquiet.roster, hquiet.statuses⟩
    | done r b' =>
      rw [hturn] at hquiet
      exact ⟨hquiet.roster, hquiet.statuses⟩

/-- Two units, and somebody who receives their probes. -/
def pairAttended : Bridge :=
  .attended "*.check_status" [] ((Roster.empty.register (.bare "U1" 7)).register (.bare "U2" 7))

theorem entries_pairAttended :
    pairAttended.roster.entries = [⟨.bare "U1" 7, 1⟩, ⟨.bare "U2" 7, 2⟩] :=
  Roster.entries_eq_of_pairwise (by decide)

/-- A cycle that is about to probe the two units, with a setting that allows no probe at once. -/
def pairStarted : Cycle :=
  ⟨.working 0, ⟨5000, 2000, 0⟩, .probing [⟨.bare "U1" 7, 1⟩, ⟨.bare "U2" 7, 2⟩] [] []⟩

/-- The second unit is asked when the first has answered; it does not answer in time. -/
theorem pair_asked_in_turn :
    (start (.working 0) ⟨5000, 2000, 0⟩).turn 0 pairAttended = .next pairStarted pairAttended ∧
    (∃ ts c b, Course Cycle.turn Bridge.Amid pairStarted pairAttended ts c b ∧
      FannedOut (.working 0) ⟨5000, 2000, 0⟩ pairAttended.roster.entries ts c ∧
      c.turn 0 b = .wait ∧ c.underway.length = 1 ∧ c.pending.length = 1) ∧
    ∃ ts r b, Ends Cycle.turn Bridge.Amid pairStarted pairAttended ts r b ∧
      asked ts = [⟨.working 0, "U1.check_status", .ofText "U1", 2000, .asking⟩,
        ⟨.working 0, "U2.check_status", .ofText "U2", 2000, .asking⟩] ∧
      (sightings ts).length = 2 ∧ r.healthy = 1 ∧ r.evicted = ["U2"] := by
  have hstart : (start (.working 0) ⟨5000, 2000, 0⟩).turn 0 pairAttended =
      .next pairStarted pairAttended := by
    rw [pairStarted, ← entries_pairAttended]
    rfl
  obtain ⟨hcourses, hends⟩ := asks_everyone_once hstart
  have hnone : Course Cycle.turn Bridge.Amid pairStarted pairAttended [] _ _ := .start
  have hasked := hnone.taken 0 rfl
  have hreplied := hasked.between (Bridge.quiet_deliver ⟨"_INBOX.0", none, .ofText "U1"⟩ _).amid
  have hagain := (hreplied.taken 0 rfl).taken 0 rfl
  have hlate : Course Cycle.turn Bridge.Amid _ _ _ _ { (_ : Bridge) with now := 2000 } :=
    hagain.between ⟨.refl, Nat.le_refl _⟩
  have hseen := hlate.taken 0 rfl
  obtain ⟨ts, b, hend⟩ := exists_ends Bridge.Amid (hseen.taken 0 (turn_settle 0 _ _ _ _))
  obtain ⟨hrequests, hperm, -⟩ := hends ts _ b hend
  refine ⟨hstart, ⟨_, _, _, hasked, (hcourses _ _ _ hasked).1, rfl, rfl, rfl⟩, ts, _, b, hend,
    ?_, ?_, rfl, rfl⟩
  · rw [hrequests, entries_pairAttended]
    rfl
  · have hlength := hperm.length_eq
    rw [List.length_map, entries_pairAttended] at hlength
    exact hlength

end Cycle
end FleetBridge
