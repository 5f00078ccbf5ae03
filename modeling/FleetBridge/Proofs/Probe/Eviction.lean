import FleetBridge.Proofs.Probe.Cycle

/-!
Which registrations a cycle evicts: those of its snapshot whose probe met silence while the link was
up, and that are still on the roster then. A registration from after the snapshot is safe.
-/
namespace FleetBridge.Cycle

open Probe

/-- Whether the probe of this very registration spoke against it. -/
def condemned (seen : List Sighting) (e : Roster.Entry) : Bool :=
  seen.any fun o => o.entry.mark = e.mark && o.condemns

/-- A roster after the settlement of a cycle with the snapshot of `r₀`, and before it. -/
structure Evicts (r₀ : Roster) (seen : List Sighting) (r r' : Roster) : Prop where
  /-- All others stay as they are, in their order. -/
  entries_eq : r'.entries = r.entries.filter fun e => !condemned seen e
  /-- Whoever goes was probed with that very entry. -/
  of_snapshot : ∀ e ∈ r.entries, e ∉ r'.entries → ∃ o ∈ seen, o.entry = e ∧ o.condemns = true
  /-- Whoever registered after the snapshot stays. -/
  later_stays : ∀ e ∈ r.entries, r₀.latest < e.stamp → e ∈ r'.entries
  /-- Whoever answered stays, and whoever was not heard of for another reason than silence. -/
  uncondemned_stays : ∀ o ∈ seen, o.condemns = false → o.entry ∈ r.entries → o.entry ∈ r'.entries
  latest_eq : r'.latest = r.latest

variable {r₀ : Roster} {seen : List Sighting} {b : Bridge}

theorem Concluded.apart {results : List Result} (h : Concluded r₀ results b) (hs : r₀.Sound) :
    Apart results := by
  have hp := h.perm.map fun e => e.unit.unitId
  rw [List.map_map] at hp
  exact hp.nodup_iff.mpr hs.nodup_ids

theorem any_unresponsive_eq_condemned (seen : List Sighting) (e : Roster.Entry) :
    ((seen.map Sighting.result).any fun x => x.2 = .unresponsive && x.1.mark = e.mark) =
      condemned seen e := by
  rw [List.any_map, condemned]
  congr 1
  funext o
  have ho : decide (o.outcome = .unresponsive) = o.condemns := by
    rw [Bool.eq_iff_iff, decide_eq_true_eq, o.outcome_eq_unresponsive_iff]
  change (decide (o.outcome = .unresponsive) && decide (o.entry.mark = e.mark)) = _
  rw [ho, Bool.and_comm]

theorem Concluded.mem_snapshot {results : List Result} (h : Concluded r₀ results b) {x : Result}
    (hx : x ∈ results) : x.1 ∈ r₀.entries :=
  h.perm.subset (List.mem_map_of_mem hx)

/-- An entry with the mark of one that was probed is that one: its stamp was never given again. -/
theorem Concluded.eq_of_mark {results : List Result} (h : Concluded r₀ results b) (hs : r₀.Sound)
    {x : Result} (hx : x ∈ results) {e : Roster.Entry} (he : e ∈ b.roster.entries)
    (hm : x.1.mark = e.mark) : x.1 = e := by
  have hfiled := hs.mem_entries_iff.mp (h.mem_snapshot hx)
  have hstamp : x.1.stamp = e.stamp := congrArg Prod.snd hm
  have hle : e.stamp ≤ r₀.latest := hstamp ▸ hs.stamp_le _ hfiled
  -- So `e` was on the roster at the snapshot already, where stamps tell entries apart.
  have hold := h.changes.mem_of_stamp_le hs
    ((hs.changes h.changes).mem_entries_iff.mp he) hle
  exact congrArg Prod.snd (hs.stamp_inj hfiled hold hstamp)

/-- No two probes of a cycle are of the same registration. -/
theorem Concluded.sighting_inj (h : Concluded r₀ (seen.map Sighting.result) b) (hs : r₀.Sound)
    {o o' : Sighting} (ho : o ∈ seen) (ho' : o' ∈ seen) (hm : o.entry.mark = o'.entry.mark) :
    o = o' := by
  have hnodup := h.apart hs
  rw [Apart, List.map_map] at hnodup
  exact List.inj_on_of_nodup_map hnodup ho ho' (congrArg Prod.fst hm)

theorem latest_of (r : Roster) (m : Meters) (results : List Result) :
    (Settlement.of r m results).roster.latest = r.latest := by
  rw [Settlement.of, foldl_take_roster, Settlement.start]
  induction results generalizing r with
  | nil => rfl
  | cons x xs ih =>
    rw [List.foldl_cons, ih]
    unfold dismiss Roster.evict
    split
    · split <;> rfl
    · rfl

theorem Concluded.evicts (h : Concluded r₀ (seen.map Sighting.result) b) (hs : r₀.Sound) :
    Evicts r₀ seen b.roster
      (Settlement.of b.roster b.meters (seen.map Sighting.result)).roster := by
  have hentries : (Settlement.of b.roster b.meters (seen.map Sighting.result)).roster.entries =
      b.roster.entries.filter fun e => !condemned seen e := by
    rw [Settlement.of_entries (hs.changes h.changes)]
    simp only [any_unresponsive_eq_condemned]
  have hstays : ∀ e ∈ b.roster.entries, condemned seen e = false →
      e ∈ (Settlement.of b.roster b.meters (seen.map Sighting.result)).roster.entries := by
    intro e he hc
    rw [hentries, List.mem_filter, hc]
    exact ⟨he, rfl⟩
  refine ⟨hentries, ?_, ?_, ?_, latest_of _ _ _⟩
  · intro e he hgone
    have hc : condemned seen e = true := by
      by_contra hc
      exact hgone (hstays e he (Bool.eq_false_iff.mpr hc))
    obtain ⟨o, ho, hoe⟩ := List.any_eq_true.mp hc
    rw [Bool.and_eq_true, decide_eq_true_eq] at hoe
    exact ⟨o, ho, h.eq_of_mark hs (List.mem_map_of_mem ho) he hoe.1, hoe.2⟩
  · intro e he hlt
    apply hstays e he
    rw [condemned, List.any_eq_false]
    intro o ho hoe
    rw [Bool.and_eq_true, decide_eq_true_eq] at hoe
    have hsnapshot : o.entry ∈ r₀.entries := h.mem_snapshot (List.mem_map_of_mem ho)
    have hle : o.entry.stamp ≤ r₀.latest := hs.stamp_le _ (hs.mem_entries_iff.mp hsnapshot)
    have hstamp : o.entry.stamp = e.stamp := congrArg Prod.snd hoe.1
    omega
  · intro o ho hc he
    apply hstays o.entry he
    rw [condemned, List.any_eq_false]
    intro o' ho' hoe
    rw [Bool.and_eq_true, decide_eq_true_eq] at hoe
    have heq := h.sighting_inj hs ho' ho hoe.1
    rw [heq, hc] at hoe
    exact absurd hoe.2 Bool.false_ne_true

/-- However a cycle goes and whoever registers or is removed meanwhile, it comes to its settlement
with one sighting for each entry of its snapshot; whatever the sightings are, exactly the
registrations go that they speak against; and the cycle does nothing else to the roster. -/
theorem evicts_exactly_condemned (hr : r₀.Reachable) (l : Link) (st : ProbeSettings) :
    (∀ (b₀ b₁ b : Bridge) (n₀ : Nat) (c₀ : Cycle) (ts : List (Turn.Taken Cycle))
        (results : List Result),
      b₀.roster = r₀ → (start l st).turn n₀ b₀ = .next c₀ b₁ →
      Turn.Course Cycle.turn Bridge.Amid c₀ b₁ ts ⟨l, st, .probing [] [] results⟩ b →
      Concluded r₀ results b ∧ results = (sightings ts).map Sighting.result) ∧
    (∀ (seen : List Sighting) (b : Bridge) (n : Nat),
      Concluded r₀ (seen.map Sighting.result) b →
      ∃ r b', turn n ⟨l, st, .probing [] [] (seen.map Sighting.result)⟩ b =
          .next ⟨l, st, .writing r r.statuses⟩ b' ∧
        Evicts r₀ seen b.roster b'.roster) ∧
    ∀ (n : Nat) (c : Cycle) (b : Bridge), (∀ results, c.phase ≠ .probing [] [] results) →
      (c.turn n b).All fun b' => b'.roster = b.roster := by
  refine ⟨?_, ?_, ?_⟩
  · rintro b₀ b₁ b n₀ c₀ ts results rfl hstart hcourse
    exact course_concluded hstart hcourse
  · intro seen b n h
    exact ⟨_, _, turn_settle n l st _ b, h.evicts hr.sound⟩
  · intro n c b hc
    exact roster_eq_turn n hc b

/-- Nobody answers for two units, and one registers again just before it is probed. -/
theorem silent_pair_evicts_one :
    ∃ ts results b r b',
      Turn.Course Cycle.turn Bridge.Amid
        ⟨.working 0, ⟨5000, 2000, 1⟩, .probing [⟨.bare "U1" 7, 1⟩, ⟨.bare "U2" 7, 2⟩] [] []⟩
        (.holding ((Roster.empty.register (.bare "U1" 7)).register (.bare "U2" 7))) ts
        ⟨.working 0, ⟨5000, 2000, 1⟩, .probing [] [] results⟩ b ∧
      turn 0 ⟨.working 0, ⟨5000, 2000, 1⟩, .probing [] [] results⟩ b =
        .next ⟨.working 0, ⟨5000, 2000, 1⟩, .writing r r.statuses⟩ b' ∧
      b'.roster.entries = [⟨.bare "U2" 7, 3⟩] := by
  have hr : ((Roster.empty.register (.bare "U1" 7)).register (.bare "U2" 7)).Reachable :=
    (Relation.ReflTransGen.single (.registered _ _)).tail (.registered _ _)
  have hstart : (start (.working 0) ⟨5000, 2000, 1⟩).turn 0
      (.holding ((Roster.empty.register (.bare "U1" 7)).register (.bare "U2" 7))) =
        .next ⟨.working 0, ⟨5000, 2000, 1⟩,
          .probing [⟨.bare "U1" 7, 1⟩, ⟨.bare "U2" 7, 2⟩] [] []⟩
          (.holding ((Roster.empty.register (.bare "U1" 7)).register (.bare "U2" 7))) := by
    have hsnapshot : ((Roster.empty.register (.bare "U1" 7)).register (.bare "U2" 7)).entries =
        [⟨.bare "U1" 7, 1⟩, ⟨.bare "U2" 7, 2⟩] :=
      Roster.entries_eq_of_pairwise (by decide)
    rw [← hsnapshot]
    rfl
  have hagain (b : Bridge) :
      Bridge.Amid b { b with roster := b.roster.register (.bare "U2" 7) } :=
    ⟨.single (.registered _ _), Nat.le_refl _⟩
  have hbegin : Turn.Course Cycle.turn Bridge.Amid
      ⟨.working 0, ⟨5000, 2000, 1⟩, .probing [⟨.bare "U1" 7, 1⟩, ⟨.bare "U2" 7, 2⟩] [] []⟩
      (.holding ((Roster.empty.register (.bare "U1" 7)).register (.bare "U2" 7))) [] _ _ :=
    .start
  have hfirst := hbegin.taken 0 rfl
  have hsecond : Turn.Course Cycle.turn Bridge.Amid _ _ _
      ⟨.working 0, ⟨5000, 2000, 1⟩, .probing [] []
        [(⟨.bare "U1" 7, 1⟩, .unresponsive), (⟨.bare "U2" 7, 2⟩, .unresponsive)]⟩ _ :=
    (hfirst.between (hagain _)).taken 0 rfl
  have hconcluded := (evicts_exactly_condemned hr (.working 0) ⟨5000, 2000, 1⟩).1
    _ _ _ 0 _ _ _ rfl hstart hsecond
  obtain ⟨r, b', hturn, hevicts⟩ :=
    (evicts_exactly_condemned hr (.working 0) ⟨5000, 2000, 1⟩).2.1
      [⟨⟨.bare "U1" 7, 1⟩, .error (.noResponders "U1.check_status"), true⟩,
        ⟨⟨.bare "U2" 7, 2⟩, .error (.noResponders "U2.check_status"), true⟩] _ 0 hconcluded.1
  refine ⟨_, _, _, r, b', hsecond, hturn, ?_⟩
  have hentries : (((Roster.empty.register (.bare "U1" 7)).register (.bare "U2" 7)).register
      (.bare "U2" 7)).entries = [⟨.bare "U1" 7, 1⟩, ⟨.bare "U2" 7, 3⟩] :=
    Roster.entries_eq_of_pairwise (by decide)
  rw [hevicts.entries_eq]
  change List.filter _ (((Roster.empty.register (.bare "U1" 7)).register (.bare "U2" 7)).register
    (.bare "U2" 7)).entries = _
  rw [hentries]
  rfl

end FleetBridge.Cycle
