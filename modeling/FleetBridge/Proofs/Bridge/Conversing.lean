import FleetBridge.Proofs.Bridge.Ownership
import FleetBridge.Proofs.Probe.Cycle

/-!
What a turn does about requests. A task sends requests one by one and ends those that are at their
end, each with the answer that its own inbox gave.
-/
namespace FleetBridge

/-- Sends a request. -/
def Request.send (r : Request) (b : Bridge) : Except BusFault Exchange × Bridge :=
  b.ask r.link r.subject r.payload r.timeout

/-- The request that a task would send now. -/
def Request.asks? (r : Request) : Option Request :=
  match r.phase with
  | .asking => some r
  | .waiting _ => none

namespace Cycle

/-- The probe of an entry as a request. -/
def probe (c : Cycle) (e : Roster.Entry) : Request :=
  ⟨c.link, Subject.probe e.unit.unitId, Payload.ofText e.unit.unitId, c.settings.timeout, .asking⟩

/-- The probe that would be sent now. -/
def asks? (c : Cycle) : Option Request :=
  match c.phase with
  | .probing pending underway _ => (c.admitted pending underway.length).head?.map c.probe
  | _ => none

end Cycle

namespace Prober

def asks? (p : Prober) : Option Request :=
  match p.phase with
  | .cycling c => c.asks?
  | .resting => none

/-- The probe that ends in a turn, if one does. -/
def sighting? (n : Nat) (p : Prober) (b : Bridge) : Option Sighting :=
  match p.phase with
  | .cycling c => c.sighting? n b
  | .resting => none

end Prober

namespace Program

def asks? : Program → Option Request
  | request r => r.asks?
  | cycle c => c.asks?
  | prober p => p.asks?
  | _ => none

/-- The answer that a request gets in a turn, if one gets its answer. -/
def answer? (n : Nat) (b : Bridge) : Program → Option (Except BusFault Payload)
  | request r => match r.turn b with
    | .done answer _ => some answer
    | _ => none
  | cycle c => (c.sighting? n b).map Sighting.answer
  | prober p => (p.sighting? n b).map Sighting.answer
  | _ => none

end Program

namespace Bridge

/-- What happens to the requests under way in a turn: one is sent, one is refused as it is sent, one
ends, or there are none. -/
inductive Converses (asks : Option Request) (es es' : List Exchange)
    (answer : Option (Except BusFault Payload)) (b b' : Bridge) : Prop
  | sent {q : Request} {e : Exchange} : asks = some q → q.send b = (.ok e, b') →
    es' = es ++ [e] → answer = none → Converses asks es es' answer b b'
  | refused {q : Request} {f : BusFault} : asks = some q → q.send b = (.error f, b') → es' = es →
    answer = some (.error f) → Converses asks es es' answer b b'
  | ended {e : Exchange} : asks = none → e ∈ es → b.isSettled e = true → (b.collect e).2 = b' →
    es' = es.filter (· ≠ e) → answer = some (b.collect e).1 → Converses asks es es' answer b b'
  | silent : asks = none → es = [] → es' = [] → answer = none → Steady [] b b' →
    Converses asks es es' answer b b'

variable {asks : Option Request} {es es' : List Exchange} {b b' : Bridge}
  {answer : Option (Except BusFault Payload)}

/-- Inboxes are opened and left, and no other stream is touched. -/
theorem Converses.does (h : Converses asks es es' answer b b') :
    Does (es.map Exchange.inbox) (es'.map Exchange.inbox) [] 0 0 b b' := by
  cases h with
  | @sent q e _ hsend hes _ =>
    rcases ask_cases (es.map Exchange.inbox) q.link q.subject q.payload q.timeout b with
      ⟨f, b₁, hask, -⟩ | ⟨e', b₁, hask, hsteady, hinbox, hlt⟩
    · cases hask.symm.trans hsend
    · cases hask.symm.trans hsend
      have hmap : es'.map Exchange.inbox = es.map Exchange.inbox ++ [b.broker.nextStream] := by
        rw [hes, List.map_append, List.map_singleton, hinbox]
      rw [hmap]
      exact hsteady.opens hlt
  | @refused q f _ hsend hes _ =>
    rcases ask_cases (es.map Exchange.inbox) q.link q.subject q.payload q.timeout b with
      ⟨f', b₁, hask, hsteady⟩ | ⟨e, b₁, hask, -⟩
    · cases hask.symm.trans hsend
      rw [hes]
      exact hsteady.does (List.Sublist.refl _)
    · cases hask.symm.trans hsend
  | @ended e _ hmem _ hcollect hes _ =>
    have hsteady := Steady.collect (List.mem_map_of_mem hmem) b
    rw [hcollect] at hsteady
    refine hsteady.does ?_
    rw [hes]
    exact List.filter_sublist.map _
  | silent _ hes hes' _ hsteady =>
    rw [hes, hes']
    exact hsteady.does (List.Sublist.refl _)

end Bridge

open Bridge (Converses Steady)

theorem Request.converses (r : Request) (b : Bridge) : (r.turn b).Yields
    (fun r' b' => Converses r.asks? r.exchanges r'.exchanges none b b')
    (fun a b' => Converses r.asks? r.exchanges [] (some a) b b') := by
  unfold asks? exchanges turn
  cases hphase : r.phase with
  | asking =>
    dsimp only
    generalize hask : b.ask r.link r.subject r.payload r.timeout = asked
    obtain ⟨f | e, b'⟩ := asked
    · exact .refused rfl hask rfl rfl
    · exact .sent rfl hask rfl rfl
  | waiting e =>
    dsimp only
    split
    next hsettled =>
      refine .ended rfl (List.mem_singleton_self e) hsettled rfl ?_ rfl
      simp
    next => trivial

/-- Settling results does not show on the meter of active subscriptions. -/
theorem Probe.Settlement.of_subscriptions (r : Roster) (m : Meters) (results : List Probe.Result) :
    (of r m results).meters.subscriptions = m.subscriptions := by
  have hfold (m : Meters) : (results.foldl (fun m x => m.countProbe x.2.meter) m).subscriptions =
      m.subscriptions := by
    induction results generalizing m with
    | nil => rfl
    | cons x xs ih => exact ih _
  rw [of, foldl_take_meters]
  exact hfold m

/-- With probes left to send or to end, a turn sends one or ends one. -/
theorem Cycle.turn_open_eq (n : Nat) (c : Cycle) {pending : List Roster.Entry}
    {underway : List (Roster.Entry × Exchange)} {results : List Probe.Result}
    (hphase : c.phase = .probing pending underway results)
    (hopen : ¬ (pending = [] ∧ underway = [])) (b : Bridge) :
    c.turn n b = match c.admitted pending underway.length with
      | e :: rest => match c.ask e b with
        | (.ok x, b) => .next { c with phase := .probing rest (underway ++ [(e, x)]) results } b
        | (.error f, b) => .next
          { c with phase := .probing rest underway (results ++ [(e, outcome c.link b (.error f))]) } b
      | [] => match pick? n underway b with
        | none => .wait
        | some u => .next
          { c with
            phase := .probing pending (underway.filter fun v => v.2 ≠ u.2)
              (results ++ [(u.1, outcome c.link (b.collect u.2).2 (b.collect u.2).1)]) }
          (b.collect u.2).2 := by
  obtain ⟨l, st, phase⟩ := c
  obtain rfl : phase = .probing pending underway results := hphase
  cases pending with
  | cons e rest => rfl
  | nil =>
    cases underway with
    | cons u underway => rfl
    | nil => exact absurd ⟨rfl, rfl⟩ hopen

theorem Cycle.converses_open (n : Nat) (c : Cycle) {pending : List Roster.Entry}
    {underway : List (Roster.Entry × Exchange)} {results : List Probe.Result}
    (hphase : c.phase = .probing pending underway results)
    (hopen : ¬ (pending = [] ∧ underway = [])) (b : Bridge) : (c.turn n b).Yields
      (fun c' b' => Converses c.asks? c.exchanges c'.exchanges
        ((c.sighting? n b).map Sighting.answer) b b')
      (fun _ b' => Converses c.asks? c.exchanges [] ((c.sighting? n b).map Sighting.answer) b b') := by
  rw [c.turn_open_eq n hphase hopen]
  simp only [asks?, sighting?, hphase]
  have hexchanges : c.exchanges = underway.map Prod.snd := by rw [exchanges, hphase]
  rw [hexchanges]
  cases c.admitted pending underway.length with
  | cons e rest =>
    dsimp only
    generalize hask : c.ask e b = asked
    obtain ⟨f | x, b₁⟩ := asked
    · exact .refused rfl hask rfl rfl
    · exact .sent rfl hask (by simp [exchanges]) rfl
  | nil =>
    dsimp only
    cases hpick : pick? n underway b with
    | none => trivial
    | some u =>
      have hmem := List.mem_filter.mp (List.mem_of_getElem? hpick)
      refine .ended rfl (List.mem_map_of_mem hmem.1) hmem.2 rfl ?_ rfl
      change (underway.filter fun v => v.2 ≠ u.2).map Prod.snd = _
      rw [List.filter_map]
      rfl

theorem Cycle.converses (n : Nat) (c : Cycle) (b : Bridge) : (c.turn n b).Yields
    (fun c' b' => Converses c.asks? c.exchanges c'.exchanges
      ((c.sighting? n b).map Sighting.answer) b b')
    (fun _ b' => Converses c.asks? c.exchanges [] ((c.sighting? n b).map Sighting.answer) b b') := by
  obtain ⟨l, st, phase⟩ := c
  cases phase with
  | starting =>
    change (if b.isConnected l = true then Turn.next _ b else Turn.done _ b).Yields _ _
    split
    · exact .silent rfl rfl rfl rfl (.refl [] b)
    · exact .silent rfl rfl rfl rfl (.refl [] b)
  | writing r rest =>
    cases rest with
    | nil => exact .silent rfl rfl rfl rfl (.refl [] b)
    | cons w rest => exact .silent rfl rfl rfl rfl (.of_eq rfl rfl rfl rfl)
  | counting r => exact .silent rfl rfl rfl rfl (.of_eq rfl rfl rfl rfl)
  | probing pending underway results =>
    by_cases hopen : pending = [] ∧ underway = []
    · obtain ⟨rfl, rfl⟩ := hopen
      have hgauge := Probe.Settlement.of_subscriptions b.roster b.meters results
      refine .silent ?_ rfl rfl ?_ (.of_eq rfl rfl hgauge rfl)
      · simp [asks?, admitted]
      · simp [sighting?, admitted, pick?]
    · exact converses_open n _ rfl hopen b

theorem Prober.converses (n : Nat) (p : Prober) (b : Bridge) : (p.turn n b).Yields
    (fun p' b' => Converses p.asks? p.exchanges p'.exchanges
      ((p.sighting? n b).map Sighting.answer) b b')
    (fun _ b' => Converses p.asks? p.exchanges [] ((p.sighting? n b).map Sighting.answer) b b') := by
  unfold turn asks? exchanges sighting?
  cases p.phase with
  | resting =>
    dsimp only
    split
    · exact .silent rfl rfl rfl rfl (.refl [] b)
    · split
      · exact .silent rfl rfl rfl rfl (.refl [] b)
      · trivial
  | cycling c => exact (c.converses n b).andThen

end FleetBridge
