import FleetBridge.Proofs.Bridge.Conversing
import FleetBridge.Proofs.Registration.Reply
import FleetBridge.Proofs.Subject.Language

/-!
Where the probe of a registered unit goes. An announcement may name any unit whose id is not blank,
and the id is put before the dot of the probe's subject as it is; so whether that subject is
concrete, and whether it is one that a unit answers, is decided by the dots and wildcards of the id.
-/
namespace FleetBridge

namespace Subject

variable {u : String}

theorem tokens_probe (u : String) : tokens (probe u) = tokens u ++ ["check_status".toList] := by
  have hdot : probe u = u ++ "." ++ "check_status" := by
    rw [String.append_assoc]
    rfl
  have hsingle : tokens "check_status" = ["check_status".toList] := by decide
  rw [hdot, tokens_append_dot, hsingle]

theorem isConcrete_probe_iff :
    isConcrete (probe u) = true ↔ ∀ t ∈ tokens u, t ≠ [] ∧ t ≠ star ∧ t ≠ rest := by
  have hlast : isConcreteToken "check_status".toList = true := by decide
  rw [isConcrete, tokens_probe, List.all_append, Bool.and_eq_true, List.all_eq_true,
    and_iff_left (List.all_eq_true.mpr (List.forall_mem_singleton.mpr hlast))]
  exact forall₂_congr fun t _ => isConcreteToken_iff

theorem eq_toList_of_tokens {t : Token} (h : tokens u = [t]) : t = u.toList := by
  have hjoin : ['.'].intercalate (tokens u) = u.toList := List.intercalate_splitOn _
  rw [← hjoin, h]
  simp

theorem tokens_eq_singleton_iff : tokens u = [u.toList] ↔ '.' ∉ u.toList := by
  constructor
  · intro h
    exact dot_notMem_of_mem_tokens (h ▸ List.mem_singleton_self _)
  · intro h
    refine List.splitOnP_eq_singleton fun c hc => beq_eq_false_iff_ne.mpr ?_
    rintro rfl
    exact h hc

/-- The pattern takes one token before the last, so an id with a dot has too many. -/
theorem accepts_probe_iff (hu : u ≠ "") :
    accepts "*.check_status" (probe u) = true ↔ '.' ∉ u.toList := by
  have hpattern : tokens "*.check_status" = [star, "check_status".toList] := by decide
  have hcheck : "check_status".toList ≠ rest := by decide
  rw [accepts, hpattern, tokens_probe, ← tokens_eq_singleton_iff]
  constructor
  · intro h
    cases htokens : tokens u with
    | nil => exact absurd htokens (tokens_ne_nil u)
    | cons t ts =>
      rw [htokens, List.cons_append] at h
      have hlater := ((matchTokens_cons star_ne_rest).mp h).2.2
      cases ts with
      | nil =>
        rw [eq_toList_of_tokens htokens]
      | cons t' ts =>
        rw [List.cons_append] at hlater
        have hover := ((matchTokens_cons hcheck).mp hlater).2.2
        cases ts <;> cases hover
  · intro h
    rw [h, List.singleton_append, matchTokens_cons star_ne_rest, matchTokens_cons hcheck]
    exact ⟨mt String.toList_eq_nil_iff.mp hu, .inl rfl, by decide, .inr rfl, rfl⟩

end Subject

/-- What the subject of a unit's probe owes to the id of the unit. -/
structure Request.Addresses (r : Request) (unitId : String) : Prop where
  subject : r.subject = unitId ++ ".check_status"
  /-- No token of the id may be empty or a wildcard. -/
  concrete_iff : Subject.isConcrete r.subject = true ↔
    ∀ t ∈ Subject.tokens unitId, t ≠ [] ∧ t ≠ Subject.star ∧ t ≠ Subject.rest
  /-- Units that answer below one token are reached if the id is no more than one. -/
  answered_iff : Subject.accepts "*.check_status" r.subject = true ↔ '.' ∉ unitId.toList
  both_iff : (Subject.isConcrete r.subject = true ∧
    Subject.accepts "*.check_status" r.subject = true) ↔ Subject.IsToken unitId

namespace Announcement

/-- An id that is no blank text is accepted, whatever its characters. -/
theorem exists_ofPayload_iff (id : String) :
    (∃ p a, ofPayload p = .ok a ∧ a.unitId = id) ↔ ¬ Text.isBlank id := by
  constructor
  · rintro ⟨p, a, h, rfl⟩
    obtain ⟨-, -, -, hid, -⟩ := ofPayload_eq_ok_iff.mp h
    exact hid
  · intro hid
    have hevent : Word.fitsInt64 7 = true := by decide
    have hplain : FieldUnit.Plain ⟨id, 7, "", "", "", []⟩ := ⟨hevent, .nil, nofun, nofun⟩
    have hread := ofPayload_text hplain
    rw [if_neg hid] at hread
    exact ⟨_, _, hread, rfl⟩

/-- The probe of a unit whose announcement was accepted goes to a concrete subject if each token of
the id can stand in one, and to a subject that units answer if the id has no dot; both hold for the
ids that are one concrete token. The other ids are accepted as well, unless they are blank. -/
theorem probe_addressing :
    (∀ (p : Payload) (a : Announcement) (e : Event) (c : Cycle) (stamp : ℕ), ofPayload p = .ok a →
      (c.probe ⟨a.attach e, stamp⟩).Addresses (a.attach e).unitId) ∧
    ∀ id, (∃ p a, ofPayload p = .ok a ∧ a.unitId = id) ↔ ¬ Text.isBlank id := by
  refine ⟨fun p a e c stamp h => ?_, exists_ofPayload_iff⟩
  have hid := (exists_ofPayload_iff a.unitId).mp ⟨p, a, h, rfl⟩
  have hne : a.unitId ≠ "" := by
    intro hempty
    rw [hempty] at hid
    exact hid rfl
  have hanswered := Subject.accepts_probe_iff hne
  refine ⟨rfl, Subject.isConcrete_probe_iff, hanswered, ?_⟩
  change Subject.isConcrete (Subject.probe a.unitId) = true ∧
    Subject.accepts "*.check_status" (Subject.probe a.unitId) = true ↔ Subject.IsToken a.unitId
  rw [Subject.isConcrete_probe_iff, hanswered, ← Subject.tokens_eq_singleton_iff, and_comm,
    Subject.IsToken]
  refine and_congr_right fun hsingle => ?_
  rw [hsingle, List.forall_mem_singleton, Subject.isConcreteToken_iff]

/-- The probe of `U1`, an id of one token. -/
theorem plain_id_probed :
    ofPayload (Payload.ofText "\x7b\"unit_id\":\"U1\"\x7d") = .ok ⟨"U1", []⟩ ∧
      Subject.IsToken "U1" ∧
      (Subject.isConcrete ((Cycle.start (.working 0) ⟨5000, 2000, 1⟩).probe
        ⟨attach ⟨"U1", []⟩ ⟨7, "Spring", "Lot A", "ADS"⟩, 1⟩).subject = true ∧
      Subject.accepts "*.check_status" ((Cycle.start (.working 0) ⟨5000, 2000, 1⟩).probe
        ⟨attach ⟨"U1", []⟩ ⟨7, "Spring", "Lot A", "ADS"⟩, 1⟩).subject = true) := by
  have hread : ofPayload (Payload.ofText "\x7b\"unit_id\":\"U1\"\x7d") = .ok ⟨"U1", []⟩ := rfl
  have htoken : Subject.IsToken "U1" := by decide
  exact ⟨hread, htoken, (probe_addressing.1 _ _ _ _ _ hread).both_iff.mpr htoken⟩

/-- The unit `*` is accepted, and its probe goes to all units at once. -/
theorem wildcard_id_probed :
    ofPayload (Payload.ofText "\x7b\"unit_id\":\"*\"\x7d") = .ok ⟨"*", []⟩ ∧
      ∀ (c : Cycle) (e : Event) (stamp : ℕ),
        (c.probe ⟨attach ⟨"*", []⟩ e, stamp⟩).subject = "*.check_status" ∧
        Subject.isConcrete (c.probe ⟨attach ⟨"*", []⟩ e, stamp⟩).subject = false := by
  refine ⟨rfl, fun c e stamp => ⟨rfl, ?_⟩⟩
  change Subject.isConcrete "*.check_status" = false
  decide

end Announcement
end FleetBridge
