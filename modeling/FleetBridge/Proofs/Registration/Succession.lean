import FleetBridge.Proofs.Registration.Listening
import Mathlib.Data.List.Permutation

/-!
Two registrations of one unit. Each announcement is handled by a task of its own, so the order in
which they came in does not decide which of them stays on the roster: the one that is filed last
does.
-/
namespace FleetBridge

open Registration (Call Outcome BuiltFrom)

/-- The unit that a call files. -/
def Registration.Call.filed? : Call → Option FieldUnit
  | .file u => some u
  | _ => none

theorem Roster.unit?_register_self (u : FieldUnit) (r : Roster) :
    (r.register u).unit? u.unitId = some u := by
  rw [unit?, entry?, register, Table.get?_put_self, Option.map_some]

namespace Listener

open Bridge (Calm)

/-- A listener files nobody itself. -/
theorem calm_turn (n : Nat) (l : Listener) (b : Bridge) :
    (l.turn n b).Yields (fun _ b' => Calm b b') (fun _ b' => Calm b b') := by
  unfold turn
  cases l.phase with
  | subscribing =>
    dsimp only
    generalize hsub : b.subscribe l.link Subject.announcements = answer
    obtain ⟨f | s, b'⟩ := answer
    · rcases Bridge.subscribe_cases [] l.link Subject.announcements b with ⟨f', h⟩ | ⟨b₁, h, -, -⟩
      · rw [h] at hsub
        rw [← (Prod.mk.inj hsub).2]
        exact .refl b
      · rw [h] at hsub
        cases (Prod.mk.inj hsub).1
    · obtain ⟨-, connections, rfl⟩ := Forwarding.subscribe_eq_ok hsub
      exact ⟨rfl, rfl, Nat.le_succ _⟩
  | listening s =>
    dsimp only
    split
    next => exact .refl b
    next =>
      cases hread : b.read? s with
      | none =>
        dsimp only
        split
        next => exact .refl b
        next => trivial
      | some x =>
        have hquiet : Bridge.Quiet b x.2 := Bridge.quiet_read hread
        exact hquiet.calm.trans ⟨rfl, rfl, Nat.le_refl _⟩
  | draining s e =>
    dsimp only
    split
    next => trivial
    next => exact (Bridge.quiet_leave s b).calm

end Listener

namespace Bridge

variable {b b' b₀ : Bridge} {i j : TaskId} {l l₀ : Listener} {n : Nat} {ts : List Step} {id : String}
  {g g₁ g₂ : TaskId × Registration} {u u₁ u₂ : FieldUnit}

theorem roster_of_listener (hl : b.program? i = some (.listener l)) (ht : b.turn? n i = some b') :
    b'.roster = b.roster := by
  have hcalm := l.calm_turn n b
  rw [turn?, hl] at ht
  simp only [Program.turn] at ht
  cases hturn : l.turn n b with
  | wait =>
    rw [hturn] at ht
    cases ht
  | next l' b₁ =>
    rw [hturn] at ht hcalm
    cases ht
    exact hcalm.roster
  | done e b₁ =>
    rw [hturn] at ht hcalm
    cases ht
    exact hcalm.roster

/-- The unit that a registration files in a turn. -/
def Step.filed? (t : Step) : Option FieldUnit := t.call?.bind Call.filed?

theorem told_filed (j : TaskId) (ts : List Step) :
    told Step.filed? j ts = (told Step.call? j ts).filterMap Call.filed? := by
  rw [told, told, List.filterMap_filterMap]
  rfl

theorem roster_of_filed? (h : b.turn? n j = some b') {r : Registration}
    (hr : b.handling? j = some r) :
    b'.roster = (Step.filed? ⟨j, n, b, b'⟩).elim b.roster fun u => b.roster.register u := by
  have hroster := congrArg Bridge.roster (turn?_registration hr h).2.1
  have hfiled : Step.filed? ⟨j, n, b, b'⟩ = r.call?.bind Call.filed? := by
    rw [Step.filed?, Step.call?, hr]
    rfl
  rw [hfiled]
  cases hcall : r.call? with
  | none =>
    rw [hcall] at hroster
    exact hroster
  | some c =>
    rw [hcall] at hroster
    cases c with
    | find id => exact hroster
    | mark event s => exact hroster
    | file u => exact hroster
    | publish l subject p => exact hroster.trans (quiet_publish l subject p b).roster

/-- Whoever comes to be registered has filed one unit. -/
theorem filed_of_registered (hbegin : b₀.Unbegun) (h : History (fun _ => True) Apart b₀ ts b)
    (ho : told Step.outcome? j ts = [.registered u]) : told Step.filed? j ts = [u] := by
  have hmem : Outcome.registered u ∈ told Step.outcome? j ts := by
    rw [ho]
    exact List.mem_singleton_self _
  obtain ⟨t, ht, rfl, r, hr, hphase⟩ := handling?_of_mem_told hmem
  obtain ⟨lk, m, phase⟩ := r
  obtain rfl : phase = .counting (.registered u) := hphase
  rw [told_filed, ((kept_of_history hbegin h).ended t ht lk m _ hr).2]
  unfold Outcome.calls
  cases m.reply with
  | none => rfl
  | some subject => rfl

/-- What two tasks file, in the order in which they do. -/
def filings (j k : TaskId) (ts : List Step) : List FieldUnit :=
  (ts.filter fun t => t.task = j ∨ t.task = k).filterMap Step.filed?

theorem filings_append (j k : TaskId) (ts ts' : List Step) :
    filings j k (ts ++ ts') = filings j k ts ++ filings j k ts' := by
  rw [filings, List.filter_append, List.filterMap_append]
  rfl

theorem filings_perm {j k : TaskId} (hjk : j ≠ k) (ts : List Step) :
    (filings j k ts).Perm (told Step.filed? j ts ++ told Step.filed? k ts) := by
  have hfirst : (ts.filter fun t => t.task = j ∨ t.task = k).filter (fun t => t.task = j) =
      ts.filter fun t => t.task = j := by
    rw [List.filter_filter]
    refine List.filter_congr fun t _ => ?_
    by_cases hj : t.task = j <;> simp [hj]
  have hsecond : (ts.filter fun t => t.task = j ∨ t.task = k).filter (fun t => !(t.task = j)) =
      ts.filter fun t => t.task = k := by
    rw [List.filter_filter]
    refine List.filter_congr fun t _ => ?_
    by_cases hj : t.task = j <;> simp [hj, hjk]
  have hperm := List.filter_append_perm (fun t : Step => decide (t.task = j))
    (ts.filter fun t => t.task = j ∨ t.task = k)
  rw [hfirst, hsecond] at hperm
  rw [told, told, ← List.filterMap_append]
  exact hperm.symm.filterMap _

theorem filings_singleton (j k : TaskId) (t : Step) :
    filings j k [t] = if t.task = j ∨ t.task = k then t.filed?.toList else [] := by
  unfold filings
  by_cases h : t.task = j ∨ t.task = k
  · rw [List.filter_cons_of_pos (by simpa using h), if_pos h, List.filter_nil]
    cases hu : t.filed? <;> simp [hu]
  · rw [List.filter_cons_of_neg (by simpa using h), if_neg h]
    rfl

/-- A turn of a task files a unit for all to see, or the task files nothing in it. -/
theorem roster_of_filing {j k : TaskId} (ht : b.turn? n i = some b')
    (htask : i = j ∨ i = k) {r : Registration} (hr : b.handling? i = some r) :
    filings j k [⟨i, n, b, b'⟩] = [] ∧ b'.roster = b.roster ∨
      ∃ u, filings j k [⟨i, n, b, b'⟩] = [u] ∧ b'.roster = b.roster.register u := by
  have hroster := roster_of_filed? ht hr
  rw [filings_singleton, if_pos htask]
  cases hu : Step.filed? ⟨i, n, b, b'⟩ with
  | none =>
    rw [hu] at hroster
    exact .inl ⟨rfl, hroster⟩
  | some u =>
    rw [hu] at hroster
    exact .inr ⟨u, rfl, hroster⟩

theorem filings_of_handling? {j k : TaskId} (h : b.handling? i = none) :
    filings j k [⟨i, n, b, b'⟩] = [] := by
  have hnone : Step.filed? ⟨i, n, b, b'⟩ = none := by
    rw [Step.filed?, Step.call?, h]
    rfl
  rw [filings_singleton, hnone]
  exact ite_self _

/-- Two of a listener's registrations, in the order of their messages, come to be registered as the
same unit, and nobody else touches its entry. -/
structure Rivals (i : TaskId) (ts : List Step) (g₁ g₂ : TaskId × Registration) (u₁ u₂ : FieldUnit) :
    Prop where
  order : [g₁, g₂].Sublist (hired i ts)
  first : told Step.outcome? g₁.1 ts = [.registered u₁]
  second : told Step.outcome? g₂.1 ts = [.registered u₂]
  unitId : u₁.unitId = u₂.unitId
  alone : ∀ t ∈ ts, t.task ≠ i →
    (t.task = g₁.1 ∨ t.task = g₂.1 → t.before.handling? t.task = none) →
    t.after.roster.entry? u₂.unitId = t.before.roster.entry? u₂.unitId

/-- What two registrations of one unit leave on the roster. -/
structure Succeeds (i : TaskId) (ts : List Step) (g₁ g₂ : TaskId × Registration)
    (u₁ u₂ : FieldUnit) (b : Bridge) : Prop where
  read : [g₁.2.message, g₂.2.message].Sublist (told Step.read? i ts)
  first : BuiltFrom g₁.2.message u₁
  second : BuiltFrom g₂.2.message u₂
  filed : filings g₁.1 g₂.1 ts = [u₁, u₂] ∨ filings g₁.1 g₂.1 ts = [u₂, u₁]
  last : b.roster.unit? u₂.unitId = (filings g₁.1 g₂.1 ts).getLast?
  /-- The second stays if the first is done before the second message is read. -/
  inTurn : ∀ ts₁ ts₂, ts = ts₁ ++ ts₂ → told Step.outcome? g₁.1 ts₁ ≠ [] → g₂ ∉ hired i ts₁ →
    b.roster.unit? u₂.unitId = some u₂

/-- Anything else may happen but to the listener, to registrations under way and to the entry. -/
structure Elsewhere (i : TaskId) (id : String) (b b' : Bridge) : Prop extends Aside i b b' where
  entry? : b'.roster.entry? id = b.roster.entry? id

section Filings
variable {lk rl : Link} {tok : Token} (hbegin : b₀.Unbegun)
  (hl : b₀.program? i = some (.listener (.start lk rl tok))) (hi : i < b₀.nextTask)
include hbegin hl hi

theorem listener_of_turn (h : History (fun _ => True) (Aside i) b₀ ts b)
    (ht : b.turn? n i = some b') : ∃ l, b.program? i = some (.listener l) := by
  obtain ⟨l, hr⟩ := (serves_of_history hbegin hl hi h).runs_of_turn? ht
  exact ⟨l, hr.program⟩

/-- Of the filings of two tasks the last one stays. -/
theorem unit?_of_filings {j k : TaskId} (h : History (fun _ => True) (Elsewhere i id) b₀ ts b)
    (hid : ∀ u ∈ filings j k ts, u.unitId = id)
    (halone : ∀ t ∈ ts, t.task ≠ i →
      (t.task = j ∨ t.task = k → t.before.handling? t.task = none) →
      t.after.roster.entry? id = t.before.roster.entry? id) :
    ∀ u, (filings j k ts).getLast? = some u → b.roster.unit? id = some u := by
  induction h with
  | start => exact nofun
  | between _ hb ih =>
    intro u hu
    rw [Roster.unit?, hb.entry?]
    exact ih hid halone u hu
  | @turn ts i' b b' n hbefore _ ht ih =>
    rw [filings_append] at hid ⊢
    have hprior := ih (fun u hu => hid u (List.mem_append_left _ hu))
      fun t hmem => halone t (List.mem_append_left _ hmem)
    have hlast := halone ⟨i', n, b, b'⟩ (List.mem_append_right _ (List.mem_singleton_self _))
    have hstep : filings j k [⟨i', n, b, b'⟩] = [] ∧
          b'.roster.entry? id = b.roster.entry? id ∨
        ∃ u, filings j k [⟨i', n, b, b'⟩] = [u] ∧ b'.roster = b.roster.register u := by
      by_cases hself : i' = i
      · subst hself
        obtain ⟨l, hprogram⟩ := listener_of_turn hbegin hl hi
          (hbefore.mono fun _ _ hb => hb.toAside) ht
        refine .inl ⟨filings_of_handling? (handling?_of_listener hprogram), ?_⟩
        rw [roster_of_listener hprogram ht]
      · cases hr : b.handling? i' with
        | none => exact .inl ⟨filings_of_handling? hr, hlast hself fun _ => hr⟩
        | some r =>
          by_cases htask : i' = j ∨ i' = k
          · exact (roster_of_filing ht htask hr).imp_left fun hnone =>
              ⟨hnone.1, congrArg (Roster.entry? id) hnone.2⟩
          · refine .inl ⟨?_, hlast hself fun hin => absurd hin htask⟩
            rw [filings_singleton, if_neg htask]
    intro u hu
    rcases hstep with ⟨hnone, hentry⟩ | ⟨v, hfiled, hroster⟩
    · rw [hnone, List.append_nil] at hu
      rw [Roster.unit?, hentry]
      exact hprior u hu
    · rw [hfiled] at hid hu
      obtain rfl : v = u := by simpa using hu
      have hv : v.unitId = id := hid v (List.mem_append_right _ (List.mem_singleton_self _))
      rw [hroster, ← hv]
      exact Roster.unit?_register_self v b.roster

/-- What a listener's registration comes to follows from the message that it was started for. -/
theorem builtFrom_of_registered (h : History (fun _ => True) (Aside i) b₀ ts b)
    (hg : g ∈ hired i ts) (ho : told Step.outcome? g.1 ts = [.registered u]) :
    BuiltFrom g.2.message u := by
  have hmem : Outcome.registered u ∈ told Step.outcome? g.1 ts := by
    rw [ho]
    exact List.mem_singleton_self _
  obtain ⟨t, ht, htask, r, hr, hphase⟩ := handling?_of_mem_told hmem
  have hfollows := (follows_of_history hbegin (h.mono fun _ _ ha => ha.toApart)).2 t ht r
    (htask.symm ▸ hr)
  rw [hphase] at hfollows
  have herrand := (serves_of_history hbegin hl hi h).own g hg t ht htask r (htask.symm ▸ hr)
  have hmessage : r.message = g.2.message := congrArg Prod.snd herrand
  rw [← hmessage]
  exact hfollows u rfl

/-- Before a registration is started its task files nothing. -/
theorem told_filed_of_not_hired {ts₁ ts₂ : List Step}
    (h : History (fun _ => True) (Aside i) b₀ (ts₁ ++ ts₂) b) (hg : g ∈ hired i (ts₁ ++ ts₂))
    (hnot : g ∉ hired i ts₁) : told Step.filed? g.1 ts₁ = [] := by
  rw [hired, told_append, List.mem_append] at hg
  obtain ⟨t, ht, rfl, hbegun⟩ := (mem_told _).mp (hg.resolve_left hnot)
  obtain ⟨ts₃, ts₄, rfl⟩ := List.append_of_mem ht
  have hpart : (ts₁ ++ ts₃) ++ [t] <+: ts₁ ++ (ts₃ ++ t :: ts₄) := ⟨ts₄, by simp⟩
  have hbefore := (h.of_prefix hpart).1.mono fun _ _ ha => ha.toApart
  refine told_eq_nil _ fun t' ht' htask => ?_
  rw [Step.filed?, Step.call?]
  cases hr : t'.before.handling? t'.task with
  | none => rfl
  | some r =>
    have hlt := (kept_of_history hbegin hbefore).steps_lt t' (List.mem_append_left _ ht') r hr
    rw [htask, Step.fst_of_begun? hbegun] at hlt
    exact absurd hlt (Nat.lt_irrefl _)

/-- Of two registrations of one unit the one that is filed last stays; it is the one that was read
last wherever the first was done before. -/
theorem last_filed_stays (h : History (fun _ => True) (Elsewhere i u₂.unitId) b₀ ts b)
    (hrivals : Rivals i ts g₁ g₂ u₁ u₂) : Succeeds i ts g₁ g₂ u₁ u₂ b := by
  have haside := h.mono fun _ _ hb => hb.toAside
  have hapart := haside.mono fun _ _ ha => ha.toApart
  have hserves := serves_of_history hbegin hl hi haside
  have hg₁ : g₁ ∈ hired i ts := hrivals.order.subset List.mem_cons_self
  have hg₂ : g₂ ∈ hired i ts := hrivals.order.subset (List.mem_cons_of_mem _ List.mem_cons_self)
  have hne : g₁.1 ≠ g₂.1 := by
    have hnodup := hserves.nodup.sublist (hrivals.order.map Prod.fst)
    simpa using hnodup
  have hfirst := filed_of_registered hbegin hapart hrivals.first
  have hsecond := filed_of_registered hbegin hapart hrivals.second
  have hperm := filings_perm hne ts
  rw [hfirst, hsecond] at hperm
  have hid : ∀ u ∈ filings g₁.1 g₂.1 ts, u.unitId = u₂.unitId := by
    intro u hu
    have hin : u = u₁ ∨ u = u₂ := by simpa using hperm.subset hu
    rcases hin with rfl | rfl
    · exact hrivals.unitId
    · rfl
  have hlast := unit?_of_filings hbegin hl hi h hid hrivals.alone
  have hcases := List.perm_pair.mp hperm
  have hstays : b.roster.unit? u₂.unitId = (filings g₁.1 g₂.1 ts).getLast? := by
    rcases hcases with hfiled | hfiled
    · rw [hfiled] at hlast ⊢
      exact hlast u₂ rfl
    · rw [hfiled] at hlast ⊢
      exact hlast u₁ rfl
  refine ⟨?read, builtFrom_of_registered hbegin hl hi haside hg₁ hrivals.first,
    builtFrom_of_registered hbegin hl hi haside hg₂ hrivals.second, hcases, ?last, ?inTurn⟩
  case read =>
    rw [hserves.handed]
    exact hrivals.order.map fun g => g.2.message
  case last => exact hstays
  case inTurn =>
    rintro ts₁ ts₂ rfl hdone hnot
    -- By then the first is filed and the second is not.
    have hfiled : filings g₁.1 g₂.1 ts₁ = [u₁] := by
      obtain ⟨b₁, h₁⟩ := hapart.exists_of_append
      have houtcome : told Step.outcome? g₁.1 ts₁ = [.registered u₁] := by
        have hall := hrivals.first
        rw [told_append, List.append_eq_singleton_iff] at hall
        exact (hall.resolve_left fun hnone => hdone hnone.1).1
      have hperm₁ := filings_perm hne ts₁
      rw [filed_of_registered hbegin h₁ houtcome,
        told_filed_of_not_hired hbegin hl hi haside hg₂ hnot] at hperm₁
      exact List.perm_singleton.mp hperm₁
    rw [hstays]
    rw [filings_append, hfiled] at hcases ⊢
    rcases hcases with hsecond | hfirst
    · rw [hsecond]
      rfl
    · obtain ⟨rfl, -⟩ := List.cons.inj hfirst
      rw [hfirst]
      rfl

end Filings

/-- An announcement with the given text. -/
def numbered (text : String) : Message := ⟨"U1.register_unit", none, .ofText text⟩

def firstNumbered : Message := numbered "\x7b\"unit_id\":\"U1\",\"read\":1\x7d"

def secondNumbered : Message := numbered "\x7b\"unit_id\":\"U1\",\"read\":2\x7d"

def numberedUnit (n : Int) : FieldUnit :=
  ⟨"U1", 7, "trial", "yard", "endurance", [("read", .number (.int n))]⟩

/-- A listener reads two announcements of one unit, and the second is handled before the first. -/
theorem overtaken : ∃ ts b,
    History (fun _ => True) (Elsewhere 0 "U1") listeningAlone ts b ∧
      Rivals 0 ts (1, .start (.working 0) firstNumbered) (2, .start (.working 0) secondNumbered)
        (numberedUnit 1) (numberedUnit 2) ∧
      filings 1 2 ts = [numberedUnit 2, numberedUnit 1] := by
  have hstart : History (fun _ => True) (Elsewhere 0 "U1") listeningAlone [] _ := .start
  have hsubscribed := hstart.went (i := 0) trivial (by decide +kernel)
  have hdeliver {ts : List Step} {b : Bridge} (m : Message)
      (h : History (fun _ => True) (Elsewhere 0 "U1") listeningAlone ts b) :
      History (fun _ => True) (Elsewhere 0 "U1") listeningAlone ts (b.deliver m) := by
    have hbounded := (kept_of_history unbegun_listeningAlone
      (h.mono fun _ _ hb => hb.toApart)).bounded
    have hquiet := quiet_deliver m b
    exact h.between ⟨.of_tasks hbounded hquiet.tasks hquiet.nextTask 0,
      congrArg (Roster.entry? "U1") hquiet.roster⟩
  have hread := hdeliver secondNumbered (hdeliver firstNumbered hsubscribed)
  have hall := hread.played [0, 0, 2, 2, 2, 2, 2, 2, 1, 1, 1, 1, 1, 1]
    (fun _ _ => trivial) (by decide +kernel)
  refine ⟨_, _, hall, ⟨List.Sublist.refl _, rfl, rfl, rfl, fun t ht hlistener hours => ?_⟩, rfl⟩
  -- All turns are the listener's or the two registrations'.
  have hmine {f : Step → Bool} {ts : List Step} (h : ts.all f = true) : ∀ t ∈ ts, f t = true :=
    List.all_eq_true.mp h
  have hcase := hmine (f := fun t => t.task = 0 || (t.task = 1 || t.task = 2) &&
    (t.before.handling? t.task).isSome) (by decide +kernel) t ht
  simp only [hlistener, decide_false, Bool.false_or, Bool.and_eq_true, Bool.or_eq_true,
    decide_eq_true_eq] at hcase
  rw [hours hcase.1] at hcase
  exact absurd hcase.2 Bool.false_ne_true

/-- The unit stays on the roster as the first announcement tells it, for that is filed last. -/
theorem overtaken_last_filed : ∃ ts b,
    History (fun _ => True) (Elsewhere 0 "U1") listeningAlone ts b ∧
    Rivals 0 ts (1, .start (.working 0) firstNumbered) (2, .start (.working 0) secondNumbered)
      (numberedUnit 1) (numberedUnit 2) ∧
    Succeeds 0 ts (1, .start (.working 0) firstNumbered) (2, .start (.working 0) secondNumbered)
      (numberedUnit 1) (numberedUnit 2) b ∧ b.roster.unit? "U1" = some (numberedUnit 1) := by
  obtain ⟨ts, b, hall, hrivals, hfiled⟩ := overtaken
  have hsucceeds := last_filed_stays unbegun_listeningAlone rfl Nat.zero_lt_one hall hrivals
  refine ⟨ts, b, hall, hrivals, hsucceeds, hsucceeds.last.trans ?_⟩
  rw [hfiled]
  rfl

/-- The announcement that was read last does not always stay. -/
theorem last_read_not_always_stays : ¬ ∀ (i : TaskId) (b₀ b : Bridge) (ts : List Step)
    (lk rl : Link) (tok : Token) (g₁ g₂ : TaskId × Registration) (u₁ u₂ : FieldUnit),
    b₀.Unbegun → b₀.program? i = some (.listener (.start lk rl tok)) → i < b₀.nextTask →
    History (fun _ => True) (Elsewhere i u₂.unitId) b₀ ts b → Rivals i ts g₁ g₂ u₁ u₂ →
    b.roster.unit? u₂.unitId = some u₂ := by
  intro hall
  obtain ⟨ts, b, h, hrivals, hfiled⟩ := overtaken
  have hlast := unit?_of_filings unbegun_listeningAlone rfl Nat.zero_lt_one h
    (j := 1) (k := 2) (by rw [hfiled]; simp [numberedUnit]) hrivals.alone (numberedUnit 1)
    (by rw [hfiled]; rfl)
  have hclaimed := hall 0 _ b ts _ _ _ _ _ _ _ unbegun_listeningAlone rfl Nat.zero_lt_one h hrivals
  have hsame : numberedUnit 1 = numberedUnit 2 := Option.some.inj (hlast.symm.trans hclaimed)
  simp [numberedUnit] at hsame

end Bridge
end FleetBridge
