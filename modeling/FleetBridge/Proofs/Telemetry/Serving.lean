import FleetBridge.Bridge.Forwarding
import FleetBridge.Bridge.Schedule
import FleetBridge.Proofs.Bridge.Tasks
import FleetBridge.Proofs.Bus.Feed
import FleetBridge.Proofs.Subject

/-!
The posts of a channel: a pass of the refresher that gets all its subscriptions leaves each unit
with a dispatcher of its own.
-/
namespace FleetBridge.Forwarding

/-- A unit with the task that forwards its messages and the stream on which they come. -/
structure Post where
  unit : String
  task : TaskId
  stream : StreamId
  deriving DecidableEq, Repr

/-- A channel with its sink, the token that stops its dispatchers, and the posts of its units. -/
structure Duty where
  profile : Profile
  sink : SinkId
  token : Token
  posts : List Post

namespace Duty

variable (w : Duty)

def pattern (q : Post) : String := Subject.telemetry q.unit w.profile.subject

/-- The dispatcher of a post. -/
def dispatcher (q : Post) (phase : Dispatcher.Phase) : Dispatcher :=
  ⟨w.profile, w.sink, q.stream, w.token, phase⟩

/-- Each unit of the channel has one post, whose dispatcher runs and has got no message yet. -/
structure Serving (b : Bridge) : Prop where
  units : w.posts.map Post.unit = w.profile.unitIds
  tasks : (w.posts.map Post.task).Nodup
  streams : (w.posts.map Post.stream).Nodup
  programs : ∀ q ∈ w.posts, b.program? q.task = some (.dispatcher (w.dispatcher q .idle))
  feeds : ∀ q ∈ w.posts, b.broker.Feeds q.stream (w.pattern q) b.broker.journal.length []
  calm : b.isFired w.token = false

end Duty

/-- What a refresher does with its posts. -/
def duty (r : Refresher) (posts : List Post) : Duty := ⟨r.profile, r.sink, r.token, posts⟩

/-- The posts that a pass has filled so far. -/
structure Filled (r : Refresher) (posts : List Post) (b : Bridge) : Prop where
  known : ∀ s i, r.dispatchers.get? s = some i → ∃ q ∈ posts, (duty r posts).pattern q = s
  task_lt : ∀ q ∈ posts, q.task < b.nextTask
  stream_lt : ∀ q ∈ posts, q.stream < b.broker.nextStream
  id_lt : ∀ s ∈ b.broker.subscriptions, s.id < b.broker.nextStream
  tasks : (posts.map Post.task).Nodup
  streams : (posts.map Post.stream).Nodup
  programs : ∀ q ∈ posts,
    b.program? q.task = some (.dispatcher ((duty r posts).dispatcher q .idle))
  feeds : ∀ q ∈ posts,
    b.broker.Feeds q.stream ((duty r posts).pattern q) b.broker.journal.length []
  calm : b.isFired r.token = false

theorem subscribe_eq_ok {l : Link} {pattern : String} {i : StreamId} {b b' : Bridge}
    (h : b.subscribe l pattern = (.ok i, b')) : i = b.broker.nextStream ∧ ∃ connections,
      b' = { b with broker := (b.broker.subscribe pattern).2, connections := connections } := by
  unfold Bridge.subscribe at h
  cases hc : b.connection? l with
  | none => simp [hc] at h
  | some c =>
    simp only [hc] at h
    split at h
    · simp at h
    · split at h
      · simp at h
      · cases h
        refine ⟨rfl, ?_⟩
        cases l with
        | working k => exact ⟨_, rfl⟩
        | dead => exact ⟨_, rfl⟩

variable {r : Refresher} {posts : List Post} {b : Bridge} {report : RefreshReport} {u : String}

/-- A visit that gets its subscription fills the post of a unit that had none. -/
theorem Filled.visit (h : Filled r posts b)
    (hfresh : ∀ q ∈ posts, (duty r posts).pattern q ≠ Subject.telemetry u r.profile.subject)
    (hok : (Refresher.visit (Subject.telemetry u r.profile.subject) (r, report, b)).2.1.failed =
      report.failed) :
    ∃ q r' report' b', Refresher.visit (Subject.telemetry u r.profile.subject) (r, report, b) =
        (r', report', b') ∧ q.unit = u ∧ (∀ posts, duty r' posts = duty r posts) ∧
      Filled r' (posts ++ [q]) b' := by
  have hserves : r.serves b (Subject.telemetry u r.profile.subject) = false := by
    rw [Refresher.serves]
    cases hget : r.dispatchers.get? (Subject.telemetry u r.profile.subject) with
    | none => rfl
    | some i =>
      obtain ⟨q, hq, he⟩ := h.known _ i hget
      exact absurd he (hfresh q hq)
  unfold Refresher.visit at hok ⊢
  simp only [hserves, Bool.false_eq_true, if_false] at hok ⊢
  generalize hsub : b.subscribe r.link (Subject.telemetry u r.profile.subject) = answer at hok ⊢
  obtain ⟨f | i, b'⟩ := answer
  · simp at hok
  obtain ⟨rfl, connections, rfl⟩ := subscribe_eq_ok hsub
  refine ⟨⟨u, b.nextTask, b.broker.nextStream⟩, _, _, _, rfl, rfl, fun _ => rfl, ?_⟩
  have hconcat {P : Post → Prop} (hposts : ∀ q ∈ posts, P q)
      (hlast : P ⟨u, b.nextTask, b.broker.nextStream⟩) :
      ∀ q ∈ posts ++ [⟨u, b.nextTask, b.broker.nextStream⟩], P q :=
    List.forall_mem_append.mpr ⟨hposts, List.forall_mem_singleton.mpr hlast⟩
  refine {
    known := ?_
    task_lt := hconcat (fun q hq => Nat.lt_succ_of_lt (h.task_lt q hq)) (Nat.lt_succ_self _)
    stream_lt := hconcat (fun q hq => Nat.lt_succ_of_lt (h.stream_lt q hq)) (Nat.lt_succ_self _)
    id_lt := ?_
    tasks := nodup_map_concat h.tasks h.task_lt
    streams := nodup_map_concat h.streams h.stream_lt
    programs := hconcat (fun q hq => ?_) (Table.get?_put_self _ _ _)
    feeds := hconcat (fun q hq => (h.feeds q hq).other_subscribed _) (.subscribed h.id_lt _)
    calm := h.calm }
  · intro s i hget
    by_cases hs : s = Subject.telemetry u r.profile.subject
    · exact ⟨_, List.mem_append_right _ (List.mem_singleton_self _), hs.symm⟩
    · change Table.get? s (r.dispatchers.put _ _) = some i at hget
      rw [Table.get?_put_of_ne hs] at hget
      obtain ⟨q, hq, he⟩ := h.known s i hget
      exact ⟨q, List.mem_append_left _ hq, he⟩
  · intro s hs
    rcases List.mem_append.mp hs with hs | hs
    · exact Nat.lt_succ_of_lt (h.id_lt s hs)
    · rw [List.mem_singleton.mp hs]
      exact Nat.lt_succ_self _
  · exact (Table.get?_put_of_ne (Nat.ne_of_lt (h.task_lt q hq)) _ _).trans (h.programs q hq)

/-- A visit never takes back that a subscription failed. -/
theorem length_failed_le (subjects : List String) (s : Refresher × RefreshReport × Bridge) :
    s.2.1.failed.length ≤
      (subjects.foldl (fun s subject => Refresher.visit subject s) s).2.1.failed.length := by
  induction subjects generalizing s with
  | nil => exact Nat.le_refl _
  | cons subject subjects ih =>
    refine Nat.le_trans ?_ (ih _)
    obtain ⟨r, report, b⟩ := s
    unfold Refresher.visit
    simp only
    split
    · exact Nat.le_refl _
    · split <;> simp

/-- A pass over some units after the posts of others were filled. -/
theorem Filled.visits (h : Filled r posts b) {us : List String}
    (hnodup : (posts.map Post.unit ++ us).Nodup)
    (htokens : ∀ u ∈ posts.map Post.unit ++ us, Subject.IsToken u) (hok : report.failed = [])
    (hend : ((us.map fun u => Subject.telemetry u r.profile.subject).foldl
      (fun s subject => Refresher.visit subject s) (r, report, b)).2.1.failed = []) :
    ∃ posts' r' report' b', (us.map fun u => Subject.telemetry u r.profile.subject).foldl
        (fun s subject => Refresher.visit subject s) (r, report, b) = (r', report', b') ∧
      posts'.map Post.unit = posts.map Post.unit ++ us ∧ duty r' posts' = duty r posts' ∧
      Filled r' posts' b' := by
  induction us generalizing r posts report b with
  | nil => exact ⟨posts, r, report, b, rfl, (List.append_nil _).symm, rfl, h⟩
  | cons u us ih =>
    rw [List.map_cons, List.foldl_cons] at hend ⊢
    -- Failures are only added, so none in the end means that this visit added none.
    have hfailed : (Refresher.visit (Subject.telemetry u r.profile.subject)
        (r, report, b)).2.1.failed = report.failed := by
      have hle := length_failed_le (us.map fun u => Subject.telemetry u r.profile.subject)
        (Refresher.visit (Subject.telemetry u r.profile.subject) (r, report, b))
      rw [hend] at hle
      rw [hok]
      exact List.length_eq_zero_iff.mp (Nat.le_zero.mp hle)
    have hfresh : ∀ q ∈ posts,
        (duty r posts).pattern q ≠ Subject.telemetry u r.profile.subject := by
      intro q hq he
      have hq' : q.unit ∈ posts.map Post.unit := List.mem_map_of_mem hq
      have hunit := Subject.telemetry_injective (htokens _ (List.mem_append_left _ hq'))
        (htokens u (List.mem_append_right _ List.mem_cons_self)) he
      exact (List.nodup_append.mp hnodup).2.2 _ hq' u List.mem_cons_self hunit
    obtain ⟨q, r', report', b', hvisit, rfl, hduty, hfilled⟩ := h.visit hfresh hfailed
    have hprofile : r'.profile = r.profile := congrArg Duty.profile (hduty posts)
    have hunits : (posts ++ [q]).map Post.unit ++ us = posts.map Post.unit ++ q.unit :: us := by
      simp
    rw [hvisit] at hend hfailed ⊢
    rw [← hprofile] at hend ⊢
    obtain ⟨posts', r'', report'', b'', hfold, hmap, hduty', hfilled'⟩ :=
      ih hfilled (hunits ▸ hnodup) (hunits ▸ htokens) (hfailed.trans hok) hend
    exact ⟨posts', r'', report'', b'', hfold, hmap.trans hunits, hduty'.trans (hduty posts'),
      hfilled'⟩

/-- A pass of a new refresher that gets all its subscriptions leaves each unit served. -/
theorem serving_of_pass (hnew : r.dispatchers = []) (hnodup : r.profile.unitIds.Nodup)
    (htokens : ∀ u ∈ r.profile.unitIds, Subject.IsToken u)
    (hids : ∀ s ∈ b.broker.subscriptions, s.id < b.broker.nextStream)
    (hcalm : b.isFired r.token = false) (hok : (r.pass b).2.1.failed = []) :
    ∃ posts, (duty r posts).Serving (r.pass b).2.2 := by
  have hstart : Filled r [] b := {
    known := by
      intro s i hget
      rw [hnew] at hget
      cases hget
    task_lt := nofun
    stream_lt := nofun
    id_lt := hids
    tasks := List.nodup_nil
    streams := List.nodup_nil
    programs := nofun
    feeds := nofun
    calm := hcalm }
  obtain ⟨posts, r', report, b', hpass, hunits, hduty, hfilled⟩ :=
    hstart.visits hnodup htokens rfl hok
  have hpass' : r.pass b = (r', report, b') := hpass
  have htoken : r'.token = r.token := congrArg Duty.token hduty
  refine ⟨posts, ?_⟩
  rw [hpass', ← hduty]
  exact ⟨hunits.trans (congrArg (fun w => w.profile.unitIds) hduty).symm, hfilled.tasks,
    hfilled.streams, hfilled.programs, hfilled.feeds, hfilled.calm⟩

end FleetBridge.Forwarding
