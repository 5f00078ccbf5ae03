import FleetBridge.Proofs.Probe.Aggregation
import FleetBridge.Proofs.Registration.Handling
import FleetBridge.Proofs.StatusLog

/-!
Sessions in which announcements are handled and units are probed one after another. An event can
stay live without a unit, and exactly by losing its last unit to another event.
-/
namespace FleetBridge

namespace Cycle

open Probe

variable {n : Nat} {l : Link} {st : ProbeSettings} {b b' b₀ : Bridge} {c c' : Cycle}

/-- What came of a cycle during which nobody registered or was removed. -/
structure Solo (b₀ : Bridge) (r : Report) (after : Roster) (results : List Result) : Prop where
  perm : (results.map Prod.fst).Perm b₀.roster.entries
  sums : r.Sums results b₀.roster after
  changes : Roster.Changes b₀.roster after
  mem_entries_iff : ∀ e, e ∈ after.entries ↔
    ∃ x ∈ results, x.1 = e ∧ isDismissed b₀.roster x = false

theorem Concluded.solo {results : List Result} (h : Concluded b₀.roster results b)
    (hs : b₀.roster.Sound) (hb : b.roster = b₀.roster) :
    Solo b₀ (reportOf b results) (Settlement.of b.roster b.meters results).roster results where
  perm := h.perm
  sums := hb ▸ h.sums hs
  changes := h.changes.trans (Settlement.changes_of _ _ _)
  mem_entries_iff e := by
    rw [Settlement.of_entries (hs.changes h.changes), List.mem_filter, hb, ← h.perm.mem_iff,
      List.mem_map, Bool.not_eq_true', List.any_eq_false]
    constructor
    · rintro ⟨⟨x, hx, rfl⟩, hnone⟩
      refine ⟨x, hx, rfl, Bool.eq_false_iff.mpr fun hd => hnone x hx ?_⟩
      have hu := ((h.isDismissed_iff hs hx).mp (hb.symm ▸ hd)).1
      simp [hu]
    · rintro ⟨x, hx, rfl, hd⟩
      refine ⟨⟨x, hx, rfl⟩, fun y hy hboth => ?_⟩
      rw [Bool.and_eq_true, decide_eq_true_eq, decide_eq_true_eq] at hboth
      obtain rfl : y = x := (h.apart hs).eq_of_unitId hy hx (congrArg Prod.fst hboth.2)
      have hmem : y.1 ∈ b.roster.entries := hb.symm ▸ h.mem_snapshot hy
      have htrue := (h.isDismissed_iff hs hy).mpr ⟨hboth.1, hmem⟩
      rw [hb, hd] at htrue
      cases htrue

/-- How far a cycle got during which nobody registered or was removed. -/
def Alone (b₀ : Bridge) (b : Bridge) : Phase → Prop
  | .writing r rest => (∃ results, Solo b₀ r b.roster results) ∧
    b.statuses.updates ++ rest = b₀.statuses.updates ++ r.statuses
  | .counting r => (∃ results, Solo b₀ r b.roster results) ∧
    b.statuses.updates = b₀.statuses.updates ++ r.statuses
  | _ => b.roster = b₀.roster ∧ b.statuses = b₀.statuses

theorem Alone.calm {p : Phase} (h : Alone b₀ b p) (hb : Bridge.Calm b b') : Alone b₀ b' p := by
  cases p with
  | starting => exact ⟨hb.roster.trans h.1, hb.statuses.trans h.2⟩
  | probing pending underway results => exact ⟨hb.roster.trans h.1, hb.statuses.trans h.2⟩
  | writing r rest =>
    unfold Alone at h ⊢
    rw [hb.roster, hb.statuses]
    exact h
  | counting r =>
    unfold Alone at h ⊢
    rw [hb.roster, hb.statuses]
    exact h

theorem Alone.turn {ts : List (Turn.Taken Cycle)} (hs : b₀.roster.Sound)
    (hu : Underway l st b₀.roster ts c b) (h : Alone b₀ b c.phase)
    (ht : c.turn n b = .next c' b') : Alone b₀ b' c'.phase := by
  obtain ⟨l', st', phase⟩ := c
  cases phase with
  | starting => exact absurd rfl hu.started
  | counting r => cases ht
  | writing r rest =>
    cases rest with
    | nil =>
      cases ht
      exact ⟨h.1, (List.append_nil _).symm.trans h.2⟩
    | cons w rest =>
      cases ht
      refine ⟨h.1, ?_⟩
      change (b.statuses.updates ++ [w]) ++ rest = _
      rw [List.append_assoc]
      exact h.2
  | probing pending underway results =>
    by_cases hopen : pending = [] ∧ underway = []
    · obtain ⟨rfl, rfl⟩ := hopen
      have hconcluded : Concluded b₀.roster results b := ⟨(hu.probing rfl).perm, hu.changes⟩
      cases ht
      refine ⟨⟨results, hconcluded.solo hs h.1⟩, ?_⟩
      change b.statuses.updates ++ _ = _
      rw [h.2]
    · obtain ⟨hquiet, pending', underway', results', rfl⟩ := turn_open hopen ht
      exact ⟨hquiet.roster.trans h.1, hquiet.statuses.trans h.2⟩

theorem calm_of_reflTransGen (h : Relation.ReflTransGen Bridge.Calm b b') : Bridge.Calm b b' := by
  induction h with
  | refl => exact .refl b
  | tail _ hc ih => exact ih.trans hc

/-- A cycle during which nobody registers or is removed, from its start to its end. -/
theorem ends_alone {ts : List (Turn.Taken Cycle)} {r : Report} (hs : b₀.roster.Sound)
    (h : Turn.Ends Cycle.turn Bridge.Calm (start l st) b₀ ts r b') (hr : r.skipped = false) :
    (∃ results, Solo b₀ r b'.roster results) ∧
      b'.statuses.updates = b₀.statuses.updates ++ r.statuses := by
  obtain ⟨n, hcourse, hdone⟩ := h
  rcases hcourse.head with ⟨rfl, -⟩ | ⟨n', b₁, c₀, b₂, ts', hb, hfirst, hrest⟩
  · rcases (turn_done hdone).2 with hcounting | ⟨-, rfl⟩
    · cases hcounting
    · cases hr
  · have hcalm := calm_of_reflTransGen hb
    obtain ⟨-, rfl, rfl⟩ := turn_start hfirst
    have hfinal := hrest.invariant
      (fun ts c b => Underway l st b₀.roster ts c b ∧ Alone b₀ b c.phase) ?_ ?_ ?_
    · have halone := hfinal.2
      rcases (turn_done hdone).2 with hcounting | ⟨hstarting, -⟩
      · rename_i c b
        obtain ⟨l', st', phase⟩ := c
        obtain rfl : phase = .counting r := hcounting
        cases hdone
        exact halone
      · exact absurd hstarting hfinal.1.started
    · exact ⟨hcalm.roster ▸ course_underway hfirst .start, hcalm.roster, hcalm.statuses⟩
    · intro ts c b b' hc hb
      exact ⟨hc.1.amid hb.amid, hc.2.calm hb⟩
    · intro ts n c b c' b' hc ht
      exact ⟨hc.1.turn ht, hc.2.turn hs hc.1 ht⟩

end Cycle

namespace Roster

/-- Some unit on the roster is attached to an event. -/
def Attends (event : Int) (r : Roster) : Prop := ∃ e ∈ r.entries, e.unit.eventId = event

theorem Sound.attends_register {r : Roster} (h : r.Sound) {u : FieldUnit} {event : Int} :
    (r.register u).Attends event ↔ u.eventId = event ∨
      ∃ e ∈ r.entries, e.unit.eventId = event ∧ e.unit.unitId ≠ u.unitId := by
  constructor
  · rintro ⟨e, he, hevent⟩
    rcases h.mem_register.mp ((h.register u).mem_entries_iff.mp he) with hnew | ⟨hold, hne⟩
    · obtain rfl : e = ⟨u, r.latest + 1⟩ := congrArg Prod.snd hnew
      exact .inl hevent
    · exact .inr ⟨e, h.mem_entries_iff.mpr hold, hevent, hne⟩
  · rintro (hevent | ⟨e, he, hevent, hne⟩)
    · refine ⟨⟨u, r.latest + 1⟩, ?_, hevent⟩
      exact mem_entries.mpr ⟨_, h.mem_register.mpr (.inl rfl), rfl⟩
    · refine ⟨e, ?_, hevent⟩
      rw [(h.register u).mem_entries_iff]
      exact h.mem_register.mpr (.inr ⟨h.mem_entries_iff.mp he, hne⟩)

end Roster

/-- What happened in a session: an announcement was handled, or the units were probed. -/
structure Happening where
  /-- The bridge before it. -/
  before : Bridge
  /-- The unit that registered, if one did. -/
  registered? : Option FieldUnit

/-- One thing happens after another; whatever changes meanwhile, nobody else touches the roster or
the status log. -/
inductive Session (b₀ : Bridge) : List Happening → Bridge → Prop
  | start : Session b₀ [] b₀
  | between {hs : List Happening} {b b' : Bridge} :
    Session b₀ hs b → Bridge.Calm b b' → Session b₀ hs b'
  | handled {hs : List Happening} {b b' : Bridge} {ts : List (Turn.Taken Registration)}
    {o : Registration.Outcome} (l : Link) (m : Message) :
    Session b₀ hs b →
    Turn.Ends (fun _ r b => Registration.turn r b) Bridge.Calm (.start l m) b ts o b' →
    Session b₀ (hs ++ [⟨b, o.unit?⟩]) b'
  | probed {hs : List Happening} {b b' : Bridge} {ts : List (Turn.Taken Cycle)}
    {r : Probe.Report} (l : Link) (st : ProbeSettings) :
    Session b₀ hs b → Turn.Ends Cycle.turn Bridge.Calm (.start l st) b ts r b' →
    r.skipped = false → Session b₀ (hs ++ [⟨b, none⟩]) b'

namespace Happening

/-- A unit registers for an event. -/
def Attaches (event : Int) (h : Happening) : Prop :=
  ∃ u, h.registered? = some u ∧ u.eventId = event

/-- The only unit of an event that is live registers for another one. -/
structure Deserts (event : Int) (h : Happening) (u : FieldUnit) : Prop where
  registered : h.registered? = some u
  ne : u.eventId ≠ event
  live : h.before.statuses.last? event = some .live
  attends : h.before.roster.Attends event
  sole : ∀ e ∈ h.before.roster.entries, e.unit.eventId = event → e.unit.unitId = u.unitId

end Happening

namespace Session

/-- The only unit of an event left it while it was live, and no unit registered for it since. -/
def Deserted (event : Int) (hs : List Happening) : Prop :=
  ∃ past h later u, hs = past ++ h :: later ∧ h.Deserts event u ∧ ∀ h' ∈ later, ¬ h'.Attaches event

/-- An event is live though no unit is attached to it. -/
def Orphaned (event : Int) (b : Bridge) : Prop :=
  b.statuses.last? event = some .live ∧ ¬ b.roster.Attends event

variable {b₀ b b' : Bridge} {hs : List Happening} {event : Int}

theorem reachable (hroster : b₀.roster.Reachable) (h : Session b₀ hs b) : b.roster.Reachable := by
  induction h with
  | start => exact hroster
  | between _ hb ih => exact hb.roster ▸ ih
  | @handled _ _ _ _ o l m _ hends ih =>
    rw [(Registration.ends_handled hends).2]
    cases o.unit? with
    | none => exact ih
    | some u => exact ih.tail (.registered u _)
  | probed l st _ hends hr ih =>
    obtain ⟨⟨results, hsolo⟩, -⟩ := Cycle.ends_alone ih.sound hends hr
    exact ih.trans hsolo.changes

theorem deserted_append {h : Happening} : Deserted event (hs ++ [h]) ↔
    (∃ u, h.Deserts event u) ∨ Deserted event hs ∧ ¬ h.Attaches event := by
  constructor
  · rintro ⟨past, h', later, u, heq, hd, hlater⟩
    rcases List.eq_nil_or_concat later with rfl | ⟨later, h'', rfl⟩
    · obtain ⟨-, hlast⟩ := List.append_inj' heq rfl
      obtain rfl : h = h' := List.head_eq_of_cons_eq hlast
      exact .inl ⟨u, hd⟩
    · rw [List.concat_eq_append, ← List.cons_append, ← List.append_assoc] at heq
      obtain ⟨hpast, hlast⟩ := List.append_inj' heq rfl
      obtain rfl : h = h'' := List.head_eq_of_cons_eq hlast
      rw [List.concat_eq_append] at hlater
      refine .inr ⟨⟨past, h', later, u, hpast, hd, fun x hx => ?_⟩, ?_⟩
      · exact hlater x (List.mem_append_left _ hx)
      · exact hlater h (List.mem_append_right _ (List.mem_singleton_self h))
  · rintro (⟨u, hd⟩ | ⟨⟨past, h', later, u, rfl, hd, hlater⟩, hne⟩)
    · exact ⟨hs, h, [], u, rfl, hd, nofun⟩
    · refine ⟨past, h', later ++ [h], u, by rw [List.append_assoc, List.cons_append], hd, ?_⟩
      intro x hx
      rcases List.mem_append.mp hx with hx | hx
      · exact hlater x hx
      · exact List.mem_singleton.mp hx ▸ hne

/-- What registers nobody neither deserts an event nor attaches a unit to it. -/
theorem deserted_append_none (b : Bridge) :
    Deserted event (hs ++ [⟨b, none⟩]) ↔ Deserted event hs := by
  rw [deserted_append]
  constructor
  · rintro (⟨u, hd⟩ | ⟨hd, -⟩)
    · exact nomatch hd.registered
    · exact hd
  · intro hd
    exact .inr ⟨hd, fun ⟨_, hu, _⟩ => nomatch hu⟩

theorem orphaned_congr (hroster : b'.roster = b.roster) (hstatuses : b'.statuses = b.statuses) :
    Orphaned event b' ↔ Orphaned event b := by
  rw [Orphaned, Orphaned, hroster, hstatuses]

/-- A registration orphans the event that it deserts, and no event that it is for stays orphaned. -/
theorem orphaned_registered {u : FieldUnit} (hs : b.roster.Sound)
    (hstatuses : b'.statuses = b.statuses.write u.eventId .live)
    (hroster : b'.roster = b.roster.register u) :
    Orphaned event b' ↔
      (∃ v, Happening.Deserts event ⟨b, some u⟩ v) ∨
        Orphaned event b ∧ ¬ Happening.Attaches event ⟨b, some u⟩ := by
  rw [Orphaned, hstatuses, hroster, hs.attends_register]
  by_cases hevent : u.eventId = event
  · constructor
    · rintro ⟨-, hnone⟩
      exact absurd (.inl hevent) hnone
    · rintro (⟨v, hd⟩ | ⟨-, hne⟩)
      · obtain rfl : u = v := Option.some.inj hd.registered
        exact absurd hevent hd.ne
      · exact absurd ⟨u, rfl, hevent⟩ hne
  · rw [StatusLog.last?_write_of_ne (Ne.symm hevent)]
    -- The unit left nobody behind: either it was the last one, or there was none before either.
    constructor
    · rintro ⟨hlive, hnone⟩
      have hsole : ∀ e ∈ b.roster.entries, e.unit.eventId = event → e.unit.unitId = u.unitId := by
        intro e he hee
        by_contra hne
        exact hnone (.inr ⟨e, he, hee, hne⟩)
      by_cases ha : b.roster.Attends event
      · exact .inl ⟨u, rfl, hevent, hlive, ha, hsole⟩
      · refine .inr ⟨⟨hlive, ha⟩, ?_⟩
        rintro ⟨v, hv, hve⟩
        obtain rfl : u = v := Option.some.inj hv
        exact hevent hve
    · rintro (⟨v, hd⟩ | ⟨⟨hlive, ha⟩, -⟩)
      · obtain rfl : u = v := Option.some.inj hd.registered
        refine ⟨hd.live, ?_⟩
        rintro (he | ⟨e, he, hee, hne⟩)
        · exact hevent he
        · exact hne (hd.sole e he hee)
      · refine ⟨hlive, ?_⟩
        rintro (he | ⟨e, he, hee, -⟩)
        · exact hevent he
        · exact ha ⟨e, he, hee⟩

theorem attends_of_mem {results : List Probe.Result} {r : Probe.Report} {after : Roster}
    (hsolo : Cycle.Solo b r after results) {x : Probe.Result} (hx : x ∈ results)
    (hevent : x.1.unit.eventId = event) : b.roster.Attends event :=
  ⟨x.1, hsolo.perm.subset (List.mem_map_of_mem hx), hevent⟩

/-- A cycle that nobody interferes with neither orphans an event nor finds it a unit. -/
theorem orphaned_probed {r : Probe.Report} {results : List Probe.Result}
    (hsolo : Cycle.Solo b r b'.roster results)
    (hupdates : b'.statuses.updates = b.statuses.updates ++ r.statuses) :
    Orphaned event b' ↔ Orphaned event b := by
  have hlast := StatusLog.last?_append hsolo.sums.statuses_ordered hupdates event
  rw [hsolo.sums.get?_statuses, Probe.verdict] at hlast
  by_cases hnone : Probe.answered event results + Probe.dismissed b.roster event results = 0
  · -- Nobody was counted for the event, so nobody was evicted from it either.
    rw [if_pos hnone, Option.none_or] at hlast
    have hkept : ∀ x ∈ results, x.1.unit.eventId = event →
        Probe.isDismissed b.roster x = false := by
      intro x hx hevent
      have hzero : Probe.dismissed b.roster event results = 0 := by omega
      have hnot := List.countP_eq_zero.mp hzero x hx
      simpa [hevent] using hnot
    have hattends : b'.roster.Attends event ↔ b.roster.Attends event := by
      constructor
      · rintro ⟨e, he, hevent⟩
        obtain ⟨x, hx, rfl, -⟩ := (hsolo.mem_entries_iff e).mp he
        exact attends_of_mem hsolo hx hevent
      · rintro ⟨e, he, hevent⟩
        obtain ⟨x, hx, rfl⟩ := List.mem_map.mp (hsolo.perm.mem_iff.mpr he)
        exact ⟨x.1, (hsolo.mem_entries_iff x.1).mpr ⟨x, hx, rfl, hkept x hx hevent⟩, hevent⟩
    rw [Orphaned, Orphaned, hlast, hattends]
  · rw [if_neg hnone] at hlast
    -- Somebody was counted, so the event had a unit; if it is live now, one answered and stays.
    have hbefore : b.roster.Attends event := by
      by_cases hanswered : 0 < Probe.answered event results
      · obtain ⟨x, hx, hcounted⟩ := List.countP_pos_iff.mp hanswered
        simp only [Bool.and_eq_true, decide_eq_true_eq] at hcounted
        exact attends_of_mem hsolo hx hcounted.1
      · have hdismissed : 0 < Probe.dismissed b.roster event results := by omega
        obtain ⟨x, hx, hcounted⟩ := List.countP_pos_iff.mp hdismissed
        simp only [Bool.and_eq_true, decide_eq_true_eq] at hcounted
        exact attends_of_mem hsolo hx hcounted.1
    refine iff_of_false ?_ fun ho => ho.2 hbefore
    rintro ⟨hlive, hgone⟩
    by_cases hlt : Probe.dismissed b.roster event results < Probe.answered event results
    · have hanswered : 0 < Probe.answered event results := by omega
      obtain ⟨x, hx, hcounted⟩ := List.countP_pos_iff.mp hanswered
      simp only [Bool.and_eq_true, decide_eq_true_eq] at hcounted
      have hstays : Probe.isDismissed b.roster x = false := by
        rw [Probe.isDismissed, hcounted.2]
        rfl
      exact hgone ⟨x.1, (hsolo.mem_entries_iff x.1).mpr ⟨x, hx, rfl, hstays⟩, hcounted.1⟩
    · rw [if_neg hlt, hlive] at hlast
      cases hlast

/-- In a session that starts with nothing on record, an event is live without a unit exactly if it
was deserted. -/
theorem orphaned_iff_deserted (hroster : b₀.roster = .empty) (hlog : b₀.statuses.updates = [])
    (h : Session b₀ hs b) (event : Int) : Orphaned event b ↔ Deserted event hs := by
  induction h with
  | start =>
    constructor
    · rintro ⟨hlive, -⟩
      rw [StatusLog.last?, hlog] at hlive
      cases hlive
    · rintro ⟨past, h', later, u, heq, -⟩
      exact absurd heq.symm (by simp)
  | between _ hb ih => rw [orphaned_congr hb.roster hb.statuses, ih]
  | @handled hs b b' ts o l m hsession hends ih =>
    obtain ⟨hstatuses, hroster'⟩ := Registration.ends_handled hends
    have hsound := (hsession.reachable (hroster ▸ .refl)).sound
    cases hu : o.unit? with
    | some u =>
      rw [hu] at hstatuses hroster'
      rw [deserted_append, ← ih]
      exact orphaned_registered hsound hstatuses hroster'
    | none =>
      rw [hu] at hstatuses hroster'
      rw [deserted_append_none, ← ih]
      exact orphaned_congr hroster' hstatuses
  | @probed hs b b' ts r l st hsession hends hr ih =>
    have hsound := (hsession.reachable (hroster ▸ .refl)).sound
    obtain ⟨⟨results, hsolo⟩, hupdates⟩ := Cycle.ends_alone hsound hends hr
    rw [deserted_append_none, ← ih]
    exact orphaned_probed hsolo hupdates

/-! A unit registers for event 9, then for event 7, and answers its probe. -/

open Registration

def movedOn : Bridge :=
  joined ⟨"U1", []⟩ ⟨7, "", "", ""⟩
    { joined ⟨"U1", []⟩ ⟨9, "", "", ""⟩
        (.attended "U1.check_status" [("U1", ⟨9, "", "", ""⟩)] .empty) with
      directory := .ofEvents [("U1", ⟨7, "", "", ""⟩)] }

theorem deserted_movedOn : ∃ b₀ hs, b₀.roster = .empty ∧ b₀.statuses = .empty ∧
    Session b₀ hs movedOn ∧ Deserted 9 hs := by
  obtain ⟨ts, hfirst⟩ := ends_joined (l := .working 0)
    (b := .attended "U1.check_status" [("U1", ⟨9, "", "", ""⟩)] .empty)
    ofPayload_bareMessage rfl rfl
  have hmoved (d : Directory) (b : Bridge) : Bridge.Calm b { b with directory := d } :=
    ⟨rfl, rfl, Nat.le_refl _⟩
  have hagain := (Session.start.handled _ _ hfirst).between
    (hmoved (.ofEvents [("U1", ⟨7, "", "", ""⟩)]) _)
  obtain ⟨ts', hsecond⟩ := ends_joined (l := .working 0) (e := ⟨7, "", "", ""⟩)
    (b := { joined ⟨"U1", []⟩ ⟨9, "", "", ""⟩
        (.attended "U1.check_status" [("U1", ⟨9, "", "", ""⟩)] .empty) with
      directory := .ofEvents [("U1", ⟨7, "", "", ""⟩)] })
    ofPayload_bareMessage rfl rfl
  refine ⟨_, _, rfl, rfl, hagain.handled _ _ hsecond, ?_⟩
  refine ⟨_, _, [], .bare "U1" 7, rfl, ⟨rfl, by decide, rfl, ?_, ?_⟩, nofun⟩
  · refine ⟨⟨.bare "U1" 9, 1⟩, ?_, rfl⟩
    exact Roster.mem_entries.mpr ⟨_, List.mem_singleton_self _, rfl⟩
  · intro e he _
    obtain ⟨x, hx, rfl⟩ := Roster.mem_entries.mp he
    rw [List.mem_singleton.mp hx]
    rfl

theorem ends_movedOn :
    ∃ ts r b, Turn.Ends Cycle.turn Bridge.Calm (.start (.working 0) ⟨5000, 2000, 1⟩)
      movedOn ts r b ∧ r.skipped = false ∧ r.healthy = 1 := by
  have hsnapshot : movedOn.roster.entries = [⟨.bare "U1" 7, 2⟩] :=
    Roster.entries_eq_of_pairwise (by decide)
  have hstart : (Cycle.start (.working 0) ⟨5000, 2000, 1⟩).turn 0 movedOn =
      .next ⟨.working 0, ⟨5000, 2000, 1⟩, .probing [⟨.bare "U1" 7, 2⟩] [] []⟩ movedOn := by
    rw [← hsnapshot]
    rfl
  have hprobing : Turn.Course Cycle.turn Bridge.Calm _ movedOn _ _ _ := .taken 0 .start hstart
  have hasked := hprobing.taken 0 rfl
  have hreplied := hasked.between (Bridge.quiet_deliver ⟨"_INBOX.0", none, .ofText "U1"⟩ _).calm
  have hcollected := hreplied.taken 0 rfl
  have hsettled := hcollected.taken 0 rfl
  have hwritten := (hsettled.taken 0 rfl).taken 0 rfl
  exact ⟨_, _, _, .done 0 hwritten rfl, rfl, rfl⟩

/-- An event that was deserted stays live after a cycle. -/
theorem deserted_stays_live :
    ∃ b₀ hs b, b₀.roster = .empty ∧ b₀.statuses.updates = [] ∧ Session b₀ hs b ∧
      Orphaned 9 b := by
  obtain ⟨b₀, hs, hroster, hlog, hsession, hdeserted⟩ := deserted_movedOn
  obtain ⟨ts, r, b, hends, hr, -⟩ := ends_movedOn
  have hlog' : b₀.statuses.updates = [] := hlog ▸ rfl
  have hprobed := hsession.probed _ _ hends hr
  exact ⟨b₀, _, b, hroster, hlog', hprobed,
    (orphaned_iff_deserted hroster hlog' hprobed 9).mpr ((deserted_append_none _).mpr hdeserted)⟩

/-- So it is not true that after a cycle every event that is live has a unit. -/
theorem not_live_only_if_attended :
    ¬ ∀ (b₀ b b' : Bridge) (hs : List Happening) (l : Link) (st : ProbeSettings)
      (ts : List (Turn.Taken Cycle)) (r : Probe.Report) (event : Int),
      b₀.roster = .empty → b₀.statuses = .empty → Session b₀ hs b →
      Turn.Ends Cycle.turn Bridge.Calm (.start l st) b ts r b' → r.skipped = false →
      b'.statuses.last? event = some .live → b'.roster.Attends event := by
  intro hall
  obtain ⟨b₀, hs, hroster, hlog, hsession, -⟩ := deserted_movedOn
  obtain ⟨ts, r, b, hends, hr, -⟩ := ends_movedOn
  have hsound := (hsession.reachable (hroster ▸ .refl)).sound
  obtain ⟨⟨results, hsolo⟩, hupdates⟩ := Cycle.ends_alone hsound hends hr
  have horphaned : Orphaned 9 movedOn := by
    refine ⟨rfl, ?_⟩
    rintro ⟨e, he, hevent⟩
    obtain ⟨x, hx, rfl⟩ := Roster.mem_entries.mp he
    have hx' : x = ("U1", ⟨.bare "U1" 7, 2⟩) := List.mem_singleton.mp hx
    rw [hx'] at hevent
    exact absurd hevent (by decide)
  obtain ⟨hlive, hnone⟩ := (orphaned_probed hsolo hupdates).mpr horphaned
  exact hnone (hall b₀ movedOn b hs _ _ ts r 9 hroster hlog hsession hends hr hlive)

end Session
end FleetBridge
