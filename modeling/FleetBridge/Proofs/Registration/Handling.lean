import FleetBridge.Proofs.Bridge.Course
import FleetBridge.Proofs.Bridge.Frame

/-!
The handling of an announcement: it marks the unit's event live, then files the unit, and touches
neither the status log nor the roster besides.
-/
namespace FleetBridge.Registration

/-- The unit whose event was marked live. -/
def Phase.marked? : Phase → Option FieldUnit
  | filing u => some u
  | replying u => some u
  | counting (.registered u) => some u
  | _ => none

/-- The unit that was filed. -/
def Phase.filed? : Phase → Option FieldUnit
  | replying u => some u
  | counting (.registered u) => some u
  | _ => none

def Outcome.unit? : Outcome → Option FieldUnit
  | registered u => some u
  | _ => none

/-- The status log once the event of a unit was marked. -/
def mark (u : Option FieldUnit) (l : StatusLog) : StatusLog :=
  match u with
  | some u => l.write u.eventId .live
  | none => l

/-- The roster once a unit was filed. -/
def file (u : Option FieldUnit) (r : Roster) : Roster :=
  match u with
  | some u => r.register u
  | none => r

theorem Phase.eq_filing_iff {p : Phase} {u : FieldUnit} :
    p = .filing u ↔ p.marked? = some u ∧ p.filed? = none := by
  cases p with
  | filing v => simp [marked?, filed?]
  | counting o => cases o <;> simp [marked?, filed?]
  | _ => simp [marked?, filed?]

variable {r r' : Registration} {b b' : Bridge}

/-- What a turn does: it marks an event, files a unit, or neither. -/
theorem turn_next (h : r.turn b = .next r' b') :
    (Bridge.Quiet b b' ∧ r'.phase.marked? = r.phase.marked? ∧
        r'.phase.filed? = r.phase.filed?) ∨
      (∃ u, r.phase = .marking u ∧ r' = { r with phase := .filing u } ∧
        b' = { b with statuses := b.statuses.write u.eventId .live }) ∨
      ∃ u, r.phase = .filing u ∧ r' = { r with phase := .replying u } ∧
        b' = { b with roster := b.roster.register u } := by
  obtain ⟨l, m, phase⟩ := r
  cases phase with
  | reading =>
    unfold turn at h
    dsimp only at h
    split at h
    · cases h
      exact .inl ⟨.refl b, rfl, rfl⟩
    · cases h
      exact .inl ⟨.refl b, rfl, rfl⟩
  | asking a =>
    cases h
    refine .inl ⟨⟨rfl, rfl, rfl, rfl, Nat.le_refl _⟩, ?_, ?_⟩
    · dsimp only [answered]
      split <;> rfl
    · dsimp only [answered]
      split <;> rfl
  | marking u =>
    cases h
    exact .inr (.inl ⟨u, rfl, rfl, rfl⟩)
  | filing u =>
    cases h
    exact .inr (.inr ⟨u, rfl, rfl, rfl⟩)
  | replying u =>
    cases h
    refine .inl ⟨?_, rfl, rfl⟩
    unfold reply
    split
    · exact Bridge.quiet_publish _ _ _ b
    · exact .refl b
  | counting o => cases h

theorem turn_done {o : Outcome} (h : r.turn b = .done o b') :
    r.phase = .counting o ∧ Bridge.Quiet b b' := by
  obtain ⟨l, m, phase⟩ := r
  cases phase with
  | reading =>
    unfold turn at h
    dsimp only at h
    split at h <;> cases h
  | asking a => cases h
  | marking u => cases h
  | filing u => cases h
  | replying u => cases h
  | counting o =>
    cases h
    exact ⟨rfl, (Bridge.quiet_metered _ b).trans (Bridge.quiet_meterRoster _)⟩

theorem amid_turn (r : Registration) (b : Bridge) : (r.turn b).All (Bridge.Amid b) := by
  cases h : r.turn b with
  | wait => trivial
  | next r' b' =>
    rcases turn_next h with ⟨hquiet, -, -⟩ | ⟨u, -, -, rfl⟩ | ⟨u, -, -, rfl⟩
    · exact hquiet.amid
    · exact ⟨.refl, Nat.le_refl _⟩
    · exact ⟨.single (.registered u _), Nat.le_refl _⟩
  | done o b' => exact (turn_done h).2.amid

theorem tasks_eq_turn (r : Registration) (b : Bridge) :
    (r.turn b).All fun b' => b'.tasks = b.tasks ∧ b'.nextTask = b.nextTask := by
  cases h : r.turn b with
  | wait => trivial
  | next r' b' =>
    rcases turn_next h with ⟨hquiet, -, -⟩ | ⟨u, -, -, rfl⟩ | ⟨u, -, -, rfl⟩
    · exact ⟨hquiet.tasks, hquiet.nextTask⟩
    · exact ⟨rfl, rfl⟩
    · exact ⟨rfl, rfl⟩
  | done o b' =>
    have hquiet := (turn_done h).2
    exact ⟨hquiet.tasks, hquiet.nextTask⟩

/-- What a registration that goes on without another showed on the log and the roster so far. -/
structure Progress (b₀ : Bridge) (p : Phase) (b : Bridge) : Prop where
  statuses_eq : b.statuses = mark p.marked? b₀.statuses
  roster_eq : b.roster = file p.filed? b₀.roster

theorem Progress.turn {b₀ : Bridge} (h : Progress b₀ r.phase b) (ht : r.turn b = .next r' b') :
    Progress b₀ r'.phase b' := by
  rcases turn_next ht with ⟨hquiet, hmarked, hfiled⟩ | ⟨u, hphase, rfl, rfl⟩ |
    ⟨u, hphase, rfl, rfl⟩
  · refine ⟨?_, ?_⟩
    · rw [hquiet.statuses, h.statuses_eq, hmarked]
    · rw [hquiet.roster, h.roster_eq, hfiled]
  · have hs := h.statuses_eq
    have hr := h.roster_eq
    rw [hphase] at hs hr
    refine ⟨?_, hr⟩
    change b.statuses.write u.eventId .live = _
    rw [hs]
    rfl
  · have hs := h.statuses_eq
    have hr := h.roster_eq
    rw [hphase] at hs hr
    refine ⟨hs, ?_⟩
    change b.roster.register u = _
    rw [hr]
    rfl

/-- Announcements handled one at a time: those that succeed mark and file their unit, and the others
leave no trace. -/
theorem ends_handled {b₀ : Bridge} {l : Link} {m : Message} {ts : List (Turn.Taken Registration)}
    {o : Outcome}
    (h : Turn.Ends (fun _ r b => turn r b) Bridge.Calm (start l m) b₀ ts o b) :
    b.statuses = mark o.unit? b₀.statuses ∧ b.roster = file o.unit? b₀.roster := by
  obtain ⟨n, hcourse, hdone⟩ := h
  have hp := hcourse.invariant (fun _ r b => Progress b₀ r.phase b) ⟨rfl, rfl⟩
    (fun _ _ _ _ hp hb => ⟨hb.statuses.trans hp.statuses_eq, hb.roster.trans hp.roster_eq⟩)
    (fun _ _ _ _ _ _ hp ht => hp.turn ht)
  obtain ⟨hphase, hquiet⟩ := turn_done hdone
  have hmarked : (Phase.counting o).marked? = o.unit? := by cases o <;> rfl
  have hfiled : (Phase.counting o).filed? = o.unit? := by cases o <;> rfl
  rw [hquiet.statuses, hquiet.roster, hp.statuses_eq, hp.roster_eq, hphase, hmarked, hfiled]
  exact ⟨rfl, rfl⟩

theorem turn_reading {l : Link} {m : Message} {a : Announcement}
    (ha : Announcement.ofPayload m.payload = .ok a) (b : Bridge) :
    turn (start l m) b = .next ⟨l, m, .asking a⟩ b := by
  simp only [turn, start, ha]

/-- A bridge after the announcement of a unit that has an event and wants no reply. -/
def joined (a : Announcement) (e : Event) (b : Bridge) : Bridge :=
  let b := { b with
    directory := b.directory.noted a.unitId
    statuses := b.statuses.write e.id .live
    roster := b.roster.register (a.attach e) }
  (b.metered (·.countRegistration .registered)).meterRoster

/-- Whoever announces itself and has an event gets registered. -/
theorem ends_joined {l : Link} {m : Message} {a : Announcement} {e : Event}
    (ha : Announcement.ofPayload m.payload = .ok a) (hm : m.reply = none)
    (he : b.directory.find a.unitId = .ok (some e)) :
    ∃ ts, Turn.Ends (fun _ r b => turn r b) Bridge.Calm (start l m) b ts
      (.registered (a.attach e)) (joined a e b) := by
  obtain ⟨subject, reply, payload⟩ := m
  obtain rfl : reply = none := hm
  have hask : turn ⟨l, ⟨subject, none, payload⟩, .asking a⟩ b =
      .next ⟨l, ⟨subject, none, payload⟩, .marking (a.attach e)⟩
        { b with directory := b.directory.noted a.unitId } := by
    change Turn.next (⟨l, _, answered a (b.directory.find a.unitId)⟩ : Registration) _ = _
    rw [he]
    rfl
  have hstart : Turn.Course (fun _ r b => turn r b) Bridge.Calm
      (start l ⟨subject, none, payload⟩) b [] (start l ⟨subject, none, payload⟩) b := .start
  have hmarked := ((hstart.taken 0 (turn_reading ha b)).taken 0 hask).taken 0 rfl
  have hreplied := (hmarked.taken 0 rfl).taken 0 rfl
  exact ⟨_, .done 0 hreplied rfl⟩

/-- The announcement of a unit that tells no more than its id and asks for no reply. -/
def bareMessage : Message := ⟨"U1.register_unit", none, .ofText "\x7b\"unit_id\":\"U1\"\x7d"⟩

theorem ofPayload_bareMessage : Announcement.ofPayload bareMessage.payload = .ok ⟨"U1", []⟩ :=
  rfl

end FleetBridge.Registration
