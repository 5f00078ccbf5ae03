import FleetBridge.Proofs.Meters.Books
import FleetBridge.Proofs.Probe.Cycle
import FleetBridge.Proofs.Registration.Calls

/-!
What registrations and cycles post to the books in their turns. Whoever has touched the roster shows
its size on the meter before he is done.
-/
namespace FleetBridge

open Registration (Outcome)
open Bridge (Step)

namespace Bridge

variable {b b' : Bridge}

/-! The bus leaves the meters alone. -/

theorem meters_deliver (m : Message) (b : Bridge) : (b.deliver m).meters = b.meters := by
  have hfold (ids : List StreamId) (b : Bridge) :
      (ids.foldl (fun b s => b.wake (.arrival s)) b).meters = b.meters := by
    induction ids generalizing b with
    | nil => rfl
    | cons i ids ih => exact ih _
  exact hfold _ _

theorem meters_publish (l : Link) (subject : String) (p : Payload) (b : Bridge) :
    (b.publish l subject p).2.meters = b.meters := by
  unfold publish
  split
  · exact meters_deliver _ b
  · rfl

theorem meters_ask (l : Link) (subject : String) (p : Payload) (timeout : Duration) (b : Bridge) :
    (b.ask l subject p timeout).2.meters = b.meters := by
  unfold ask
  split
  · rfl
  · split
    · rfl
    · dsimp only
      split <;> exact meters_deliver _ _

theorem meters_collect (e : Exchange) (b : Bridge) : (b.collect e).2.meters = b.meters := by
  unfold collect
  split
  next m b' h =>
    obtain ⟨⟨m', k⟩, -, he⟩ := Option.map_eq_some_iff.mp h
    cases he
    rfl
  next => rfl

def books (b : Bridge) : Books := ⟨b.roster, b.meters⟩

theorem Quiet.books (h : Quiet b b') (hm : b'.meters = b.meters) : b'.books = b.books := by
  rw [Bridge.books, h.roster, hm, Bridge.books]

end Bridge

/-- What a registration posts next. -/
def Registration.posting? (b : Bridge) (r : Registration) : Option Posting :=
  match r.phase with
  | .filing u => some (.filed u !b.roster.contains u.unitId)
  | .counting o => some (.concluded o)
  | _ => none

/-- What a cycle posts next. -/
def Cycle.posting? (b : Bridge) (c : Cycle) : Option Posting :=
  match c.phase with
  | .starting => if b.isConnected c.link then none else some .skipped
  | .probing [] [] results => some (.settled results (Cycle.reportOf b results))
  | .counting r => some (.reported r)
  | _ => none

/-- The meter shows the size of the roster. -/
def Books.Shows (k : Books) : Prop := k.meters.registeredUnits = Meters.gauge k.roster.size

/-- The books after a turn. -/
def Books.after (k : Books) (posting? : Option Posting) : Books := posting?.elim k k.post

theorem Registration.posts (r : Registration) (b : Bridge) : (r.turn b).Yields
    (fun _ b' => b'.books = b.books.after (r.posting? b))
    (fun o b' => r.posting? b = some (.concluded o) ∧ b'.books = b.books.after (r.posting? b)) := by
  obtain ⟨l, m, phase⟩ := r
  cases phase with
  | reading =>
    unfold turn
    dsimp only
    split <;> rfl
  | asking a => exact rfl
  | marking u => exact rfl
  | filing u => exact rfl
  | counting o => exact ⟨rfl, rfl⟩
  | replying u =>
    change (Registration.reply ⟨l, m, .replying u⟩ u b).books = b.books
    unfold reply
    split
    next subject _ =>
      exact (Bridge.quiet_publish l subject _ b).books (Bridge.meters_publish l subject _ b)
    next => rfl

namespace Cycle

variable {c : Cycle} {n : Nat} {b b' : Bridge}

/-- Probing leaves the meters alone. -/
theorem meters_turn_open {pending : List Roster.Entry}
    {underway : List (Roster.Entry × Exchange)} {results : List Probe.Result} {l : Link}
    {st : ProbeSettings} (hopen : ¬ (pending = [] ∧ underway = [])) (n : Nat) (b : Bridge) :
    (turn n ⟨l, st, .probing pending underway results⟩ b).All fun b' => b'.meters = b.meters := by
  unfold turn
  split
  next hp => cases hp
  next hp =>
    cases hp
    exact absurd ⟨rfl, rfl⟩ hopen
  next hp =>
    cases hp
    dsimp only
    split
    next e rest _ =>
      have hmeters : (ask ⟨l, st, .probing pending underway results⟩ e b).2.meters = b.meters :=
        Bridge.meters_ask l _ _ st.timeout b
      split
      next hask =>
        rw [hask] at hmeters
        exact hmeters
      next hask =>
        rw [hask] at hmeters
        exact hmeters
    next =>
      split
      next => trivial
      next u _ => exact Bridge.meters_collect u.2 b
  next hp => cases hp
  next hp => cases hp
  next hp => cases hp

/-- Reports that were drawn up before a turn or in it are counted in it or still to be counted. -/
def Carries (posting? : Option Posting) (before after : Option Probe.Report) : Prop :=
  before.toList ++ (posting?.bind Posting.draft?).toList =
    (posting?.bind Posting.counted?).toList ++ after.toList

theorem posting?_open {pending : List Roster.Entry} {underway : List (Roster.Entry × Exchange)}
    {results : List Probe.Result} {l : Link} {st : ProbeSettings}
    (hopen : ¬ (pending = [] ∧ underway = [])) (b : Bridge) :
    posting? b ⟨l, st, .probing pending underway results⟩ = none := by
  unfold posting?
  split
  next hp => cases hp
  next hp =>
    cases hp
    exact absurd ⟨rfl, rfl⟩ hopen
  next hp => cases hp
  next => rfl

/-- What a cycle's turn does to the books and to its report. -/
theorem posts (n : Nat) (c : Cycle) (b : Bridge) : (c.turn n b).Yields
    (fun c' b' => b'.books = b.books.after (c.posting? b) ∧ c'.phase ≠ .starting ∧
      Carries (c.posting? b) c.report? c'.report?)
    (fun r b' => b'.books = b.books.after (c.posting? b) ∧
      Carries (c.posting? b) c.report? none ∧
      (c.posting? b = some (.reported r) ∨
        c.posting? b = some .skipped ∧ c.phase = .starting ∧ r = .skip)) := by
  obtain ⟨l, st, phase⟩ := c
  cases phase with
  | starting =>
    unfold turn posting?
    dsimp only
    split
    next => exact ⟨rfl, nofun, rfl⟩
    next => exact ⟨rfl, rfl, .inr ⟨rfl, rfl, rfl⟩⟩
  | probing pending underway results =>
    by_cases hopen : pending = [] ∧ underway = []
    · obtain ⟨rfl, rfl⟩ := hopen
      exact ⟨rfl, nofun, rfl⟩
    · rw [posting?_open hopen]
      have hmeters : (turn n ⟨l, st, .probing pending underway results⟩ b).All fun b' =>
          b'.meters = b.meters := meters_turn_open hopen n b
      cases hturn : turn n ⟨l, st, .probing pending underway results⟩ b with
      | wait => trivial
      | next c' b' =>
        rw [hturn] at hmeters
        obtain ⟨hquiet, pending', underway', results', rfl⟩ := turn_open hopen hturn
        exact ⟨hquiet.books hmeters, nofun, rfl⟩
      | done r b' =>
        obtain ⟨-, hphase | ⟨hphase, -⟩⟩ := turn_done hturn
        · cases hphase
        · cases hphase
  | writing r rest =>
    cases rest with
    | nil => exact ⟨rfl, nofun, rfl⟩
    | cons w rest => exact ⟨rfl, nofun, rfl⟩
  | counting r => exact ⟨rfl, rfl, .inl rfl⟩

end Cycle

/-- The cycle that is under way in a program. -/
def Program.cycle? : Program → Option Cycle
  | cycle c => some c
  | prober p => match p.phase with
    | .cycling c => some c
    | .resting => none
  | _ => none

namespace Bridge

variable {b b' : Bridge} {j : TaskId} {n : Nat} {r : Registration} {c : Cycle}

/-- The cycle that is under way in a task. -/
def cycling? (j : TaskId) (b : Bridge) : Option Cycle := (b.program? j).bind Program.cycle?

/-- Whether a registration or a cycle is under way in a task. -/
def isAtWork (j : TaskId) (b : Bridge) : Bool := (b.handling? j).isSome || (b.cycling? j).isSome

/-- The report that a task has drawn up and is yet to count. -/
def uncounted? (j : TaskId) (b : Bridge) : Option Probe.Report := (b.cycling? j).bind Cycle.report?

/-- What a task posts in a turn. -/
def Step.posting? (t : Step) : Option Posting :=
  match t.before.handling? t.task with
  | some r => r.posting? t.before
  | none => (t.before.cycling? t.task).bind (Cycle.posting? t.before)

/-- Whether a task will show the size of the roster at its end. -/
def WillShow (j : TaskId) (b : Bridge) : Prop :=
  b.handling? j ≠ none ∨ ∃ c, b.cycling? j = some c ∧ c.phase ≠ .starting

/-- All that a turn of a registration or a cycle does to the books. -/
structure Step.Posts (t : Step) : Prop where
  books : t.after.books = t.before.books.after t.posting?
  others : ∀ k, k ≠ t.task → t.after.program? k = t.before.program? k
  carries : Cycle.Carries t.posting? (t.before.uncounted? t.task) (t.after.uncounted? t.task)
  shows : t.after.WillShow t.task ∨ t.after.books.Shows ∨
    t.after.books = t.before.books ∧ ¬ t.before.WillShow t.task

theorem cycling?_of_handling? (hr : b.handling? j = some r) : b.cycling? j = none := by
  rw [cycling?, handling?_eq_some.mp hr]
  rfl

theorem Step.posting?_of_handling? (hr : b.handling? j = some r) :
    Step.posting? ⟨j, n, b, b'⟩ = r.posting? b := by
  rw [posting?, hr]

theorem Step.posting?_of_cycling? (hc : b.cycling? j = some c) :
    Step.posting? ⟨j, n, b, b'⟩ = c.posting? b := by
  have hnone : b.handling? j = none :=
    Option.eq_none_iff_forall_ne_some.mpr fun r hr =>
      nomatch hc.symm.trans (cycling?_of_handling? hr)
  rw [posting?, hnone, hc, Option.bind_some]

theorem Step.fits {t : Step} {p : Posting} (h : t.posting? = some p) : p.Fits t.before.books := by
  unfold posting? at h
  split at h
  next r _ =>
    unfold Registration.posting? at h
    split at h <;> cases h <;> first | rfl | trivial
  next =>
    obtain ⟨c, -, hc⟩ := Option.bind_eq_some_iff.mp h
    unfold Cycle.posting? at hc
    split at hc
    next =>
      split at hc <;> cases hc
      trivial
    next => cases hc; rfl
    next => cases hc; trivial
    next => cases hc

theorem posts_registration (hr : b.handling? j = some r) (ht : b.turn? n j = some b') :
    Step.Posts ⟨j, n, b, b'⟩ := by
  have hposting : Step.posting? ⟨j, n, b, b'⟩ = r.posting? b := Step.posting?_of_handling? hr
  have hbefore : b.uncounted? j = none := by
    rw [uncounted?, cycling?_of_handling? hr, Option.bind_none]
  have hnone : Cycle.Carries (r.posting? b) none none := by
    obtain ⟨l, m, phase⟩ := r
    cases phase <;> rfl
  have hposts := r.posts b
  have hstill := r.tasks_eq_turn b
  rw [turn?, handling?_eq_some.mp hr] at ht
  simp only [Program.turn] at ht
  cases hturn : r.turn b with
  | wait =>
    rw [hturn] at ht
    cases ht
  | next r' b₁ =>
    rw [hturn] at ht hposts hstill
    cases ht
    have hplaced := placed_become j (.registration r') b₁
    have hself := handling?_eq_some.mpr hplaced.self
    refine ⟨?_, fun k hk => (hplaced.ne k hk).trans (program?_congr hstill.1 k), ?_, .inl (.inl ?_)⟩
    · rw [hposting]
      exact hposts
    · rw [hposting, hbefore]
      dsimp only
      rw [uncounted?, cycling?_of_handling? hself]
      exact hnone
    · rw [hself]
      exact Option.some_ne_none _
  | done o b₁ =>
    rw [hturn] at ht hposts hstill
    cases ht
    have hplaced := placed_finish j (.registered o) b₁
    refine ⟨?_, fun k hk => (hplaced.ne k hk).trans (program?_congr hstill.1 k), ?_,
      .inr (.inl ?_)⟩
    · rw [hposting]
      exact hposts.2
    · rw [hposting, hbefore]
      dsimp only
      rw [uncounted?, cycling?, hplaced.self]
      exact hnone
    · change b₁.books.Shows
      rw [hposts.2, hposts.1]
      rfl

/-- The turn of a program in which a cycle is under way is a turn of the cycle. -/
theorem turn?_cycling (hc : b.cycling? j = some c) (ht : b.turn? n j = some b') :
    (∃ c' b₁ p, c.turn n b = .next c' b₁ ∧ b' = b₁.become j p ∧ p.cycle? = some c') ∨
      ∃ r b₁ p, c.turn n b = .done r b₁ ∧ Placed j p b₁ b' ∧ b'.books = b₁.books ∧
        p.cycle? = none ∧ (p = .finished (.probed r) ∨ ∃ q, p = .prober q) := by
  obtain ⟨p, hp, hcycle⟩ := Option.bind_eq_some_iff.mp hc
  rw [turn?, hp] at ht
  cases p with
  | cycle c₁ =>
    cases hcycle
    simp only [Program.turn] at ht
    cases hturn : c.turn n b with
    | wait =>
      rw [hturn] at ht
      cases ht
    | next c' b₁ =>
      rw [hturn] at ht
      cases ht
      exact .inl ⟨c', b₁, _, rfl, rfl, rfl⟩
    | done r b₁ =>
      rw [hturn] at ht
      cases ht
      exact .inr ⟨r, b₁, _, rfl, placed_finish j _ b₁, rfl, rfl, .inl rfl⟩
  | prober p =>
    obtain ⟨l, st, tok, ticker, phase⟩ := p
    cases phase with
    | resting => cases hcycle
    | cycling c₁ =>
      cases hcycle
      simp only [Program.turn, Prober.turn] at ht
      cases hturn : c.turn n b with
      | wait =>
        rw [hturn] at ht
        cases ht
      | next c' b₁ =>
        rw [hturn] at ht
        cases ht
        exact .inl ⟨c', b₁, _, rfl, rfl, rfl⟩
      | done r b₁ =>
        rw [hturn] at ht
        cases ht
        exact .inr ⟨r, b₁, _, rfl, placed_become j _ b₁, rfl, rfl, .inr ⟨_, rfl⟩⟩
  | _ => cases hcycle

theorem posts_cycle (hc : b.cycling? j = some c) (ht : b.turn? n j = some b') :
    Step.Posts ⟨j, n, b, b'⟩ := by
  have hposting : Step.posting? ⟨j, n, b, b'⟩ = c.posting? b := Step.posting?_of_cycling? hc
  have hbefore : b.uncounted? j = c.report? := by
    rw [uncounted?, hc, Option.bind_some]
  have hposts := c.posts n b
  have hstill := Cycle.tasks_eq_turn n c b
  rcases turn?_cycling hc ht with ⟨c', b₁, p, hturn, rfl, hp⟩ |
    ⟨r, b₁, p, hturn, hplaced, hbooks, hp, -⟩
  · rw [hturn] at hposts hstill
    obtain ⟨hbooks, hphase, hcarries⟩ := hposts
    have hplaced := placed_become j p b₁
    have hself : (b₁.become j p).cycling? j = some c' := by
      rw [cycling?, hplaced.self]
      exact hp
    refine ⟨?_, fun k hk => (hplaced.ne k hk).trans (program?_congr hstill.1 k), ?_,
      .inl (.inr ⟨c', hself, hphase⟩)⟩
    · rw [hposting]
      exact hbooks
    · rw [hposting]
      dsimp only
      rw [hbefore, uncounted?, hself]
      exact hcarries
  · rw [hturn] at hposts hstill
    obtain ⟨hposted, hcarries, hend⟩ := hposts
    refine ⟨?_, fun k hk => (hplaced.ne k hk).trans (program?_congr hstill.1 k), ?_, .inr ?_⟩
    · rw [hposting]
      exact hbooks.trans hposted
    · rw [hposting]
      dsimp only
      rw [hbefore, uncounted?, cycling?, hplaced.self, Option.bind_some, hp]
      exact hcarries
    · rcases hend with hreported | ⟨hskipped, hphase, -⟩
      · left
        rw [hbooks, hposted, hreported]
        rfl
      · right
        refine ⟨?_, ?_⟩
        · rw [hbooks, hposted, hskipped]
          rfl
        · rintro (hhandling | ⟨c₁, hc₁, hne⟩)
          · obtain ⟨r₁, hr₁⟩ := Option.ne_none_iff_exists'.mp hhandling
            exact nomatch hc.symm.trans (cycling?_of_handling? hr₁)
          · rw [hc] at hc₁
            cases hc₁
            exact hne hphase

/-- A cycle posts the report that its task leaves behind. -/
theorem report?_of_probed {report : Probe.Report} (hc : b.cycling? j = some c)
    (ht : b.turn? n j = some b') (he : b'.program? j = some (.finished (.probed report))) :
    (Step.posting? ⟨j, n, b, b'⟩).bind Posting.report? = some report := by
  have hposts := c.posts n b
  rw [Step.posting?_of_cycling? hc]
  rcases turn?_cycling hc ht with ⟨c', b₁, p, -, rfl, hp⟩ |
    ⟨r, b₁, p, hturn, hplaced, -, -, hleft⟩
  · rw [(placed_become j p b₁).self] at he
    cases he
    cases hp
  · rw [hturn] at hposts
    rw [hplaced.self] at he
    cases he
    rcases hleft with he | ⟨q, he⟩
    · cases he
      rcases hposts.2.2 with hreported | ⟨hskipped, -, rfl⟩
      · rw [hreported]
        rfl
      · rw [hskipped]
        rfl
    · cases he

end Bridge
end FleetBridge
