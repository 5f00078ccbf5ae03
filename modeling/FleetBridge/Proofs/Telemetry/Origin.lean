import FleetBridge.Proofs.Settings.Subjects
import FleetBridge.Proofs.Subject.Language
import FleetBridge.Proofs.Telemetry.Decode

/-!
Where a sample comes from: the unit and the topic that it is tagged with make up the subject of its
message, whatever the names of units and topics have in common with each other or with the channel.
-/
namespace FleetBridge

theorem Text.dropLead?_append (lead s : List Char) : dropLead? lead (lead ++ s) = some s := by
  induction lead with
  | nil => rfl
  | cons c lead ih =>
    rw [List.cons_append, dropLead?, if_pos rfl]
    exact ih

namespace Subject

variable {u topicPrefix subject : String} {ps ts : List Token}

/-- Concrete tokens with `>` behind them match just what goes on behind the same tokens. -/
theorem matchTokens_concrete_rest (hps : ∀ x ∈ ps, isConcreteToken x = true)
    (h : matchTokens (ps ++ [rest]) ts = true) : ∃ t r, ts = ps ++ t :: r ∧ t ≠ [] := by
  induction ps generalizing ts with
  | nil => exact (matchTokens_rest [] ts).mp h
  | cons p ps ih =>
    obtain ⟨hp, hps⟩ := List.forall_mem_cons.mp hps
    obtain ⟨-, hstar, hrest⟩ := isConcreteToken_iff.mp hp
    cases ts with
    | nil => cases h
    | cons t ts =>
      obtain ⟨-, hfirst, hlater⟩ := (matchTokens_cons hrest).mp h
      obtain ⟨t', r, rfl, ht'⟩ := ih hps hlater
      obtain rfl := hfirst.resolve_left hstar
      exact ⟨t', r, rfl, ht'⟩

/-- What a unit's pattern accepts is a topic of the unit. -/
theorem exists_topicOf_of_accepts (hu : IsToken u) (hlead : isConcrete topicPrefix = true)
    (h : accepts (telemetry u topicPrefix) subject = true) :
    ∃ t, t ≠ "" ∧ subject = topicOf u topicPrefix t := by
  have hconcrete : ∀ x ∈ u.toList :: tokens topicPrefix, isConcreteToken x = true :=
    List.forall_mem_cons.mpr ⟨hu.2, forall_isConcreteToken hlead⟩
  rw [accepts, tokens_telemetry hu, ← List.cons_append] at h
  obtain ⟨t, r, hsubject, ht⟩ := matchTokens_concrete_rest hconcrete h
  have hdot : ∀ x ∈ t :: r, '.' ∉ x := by
    intro x hx
    apply dot_notMem_of_mem_tokens (s := subject)
    rw [hsubject]
    exact List.mem_append_right _ hx
  have htokens := tokens_ofTokens (List.cons_ne_nil t r) hdot
  refine ⟨ofTokens (t :: r), ?_, ?_⟩
  · intro hempty
    rw [hempty] at htokens
    exact ht (List.cons.inj htokens).1.symm
  · apply tokens_injective
    rw [hsubject, tokens_topicOf hu, htokens]
    rfl

end Subject

/-- The topic that the sample is of. -/
def Sample.topic? (x : Sample) : Option String := x.tags.get? "topic_name"

namespace Telemetry

open Subject

variable {p : Profile} {m m' : Message} {time time' : Int} {x x' : Sample} {u v t : String}

theorem topic_topicOf (u s t : String) : topic (topicOf u s t) u s = t := by
  have hsplit : (topicOf u s t).toList = (u ++ "." ++ s ++ ".").toList ++ t.toList := by
    rw [topicOf, String.toList_append]
  rw [topic, hsplit, Text.dropLead?_append]
  exact String.ofList_toList

theorem topic?_of_sample? (hu : m.unit? = some u) (h : sample? p m time = some x) :
    x.topic? = some (topic m.subject u p.subject) := by
  unfold sample? at h
  obtain ⟨j, -, hj⟩ := Option.bind_eq_some_iff.mp h
  rw [Sample.topic?, Sample.tags_of_ofJson? hj]
  simp [tags, Table.ofList, hu]

/-- What a channel hears of a unit is tagged with the unit and with the topic. -/
theorem tagged_of_accepts (hlead : isConcrete p.subject = true) (hu : IsToken u)
    (haccepts : accepts (telemetry u p.subject) m.subject = true) :
    ∃ t, t ≠ "" ∧ m.subject = topicOf u p.subject t ∧
      ∀ time x, sample? p m time = some x → x.unit? = some u ∧ x.topic? = some t := by
  obtain ⟨t, hne, hsubject⟩ := exists_topicOf_of_accepts hu hlead haccepts
  have hunit : m.unit? = some u := unit?_of_accepts hu haccepts
  refine ⟨t, hne, hsubject, ?_⟩
  intro time x hx
  refine ⟨unit?_of_sample? hunit hx, ?_⟩
  rw [topic?_of_sample? hunit hx, hsubject, topic_topicOf]

/-- Whatever a channel hears of a unit makes a sample if it can be read, and the unit and the topic
of the sample make up the subject; so no other message of the channel has a sample with both. -/
theorem sample_tells_subject (hlead : isConcrete p.subject = true) (hu : IsToken u)
    (haccepts : accepts (telemetry u p.subject) m.subject = true) :
    (∀ time, (sample? p m time).isSome ↔ Readable m) ∧
      (∃ t, t ≠ "" ∧ m.subject = topicOf u p.subject t ∧
        ∀ time x, sample? p m time = some x → x.unit? = some u ∧ x.topic? = some t) ∧
      ∀ v m' time time' x x', IsToken v →
        accepts (telemetry v p.subject) m'.subject = true →
        sample? p m time = some x → sample? p m' time' = some x' →
        x'.unit? = x.unit? → x'.topic? = x.topic? → m'.subject = m.subject := by
  have htagged := tagged_of_accepts hlead hu haccepts
  refine ⟨fun time => sample?_isSome_iff p m time, htagged, ?_⟩
  intro v m' time time' x x' hv haccepts' hx hx' hunits htopics
  obtain ⟨t, -, hsubject, htags⟩ := htagged
  obtain ⟨t', -, hsubject', htags'⟩ := tagged_of_accepts hlead hv haccepts'
  obtain ⟨hunit, htopic⟩ := htags time x hx
  obtain ⟨hunit', htopic'⟩ := htags' time' x' hx'
  rw [hunit', hunit] at hunits
  rw [htopic', htopic] at htopics
  rw [hsubject', hsubject, Option.some.inj hunits, Option.some.inj htopics]

/-- A channel with two tokens of its own, and a unit whose name begins another one's. -/
def roadside : Profile := ⟨.streets, "road.side", ["U1", "U1-2"], "bucket"⟩

/-- A message whose topic repeats the unit and the channel's tokens. -/
def echoing : Message :=
  ⟨"U1.road.side.U1.road.side.imu", none, Payload.ofText "\x7b\"ok\":true\x7d"⟩

theorem echoing_tells_subject : isConcrete roadside.subject = true ∧ IsToken "U1" ∧
    accepts (telemetry "U1" roadside.subject) echoing.subject = true ∧
    ∃ x, sample? roadside echoing 7 = some x ∧ x.unit? = some "U1" ∧
      x.topic? = some "U1.road.side.imu" := by
  have hlead : isConcrete roadside.subject = true := by decide
  have hu : IsToken "U1" := by decide
  have haccepts : accepts (telemetry "U1" roadside.subject) echoing.subject = true := by decide
  obtain ⟨-, ⟨t, -, hsubject, htags⟩, -⟩ := sample_tells_subject hlead hu haccepts
  have ht : topic echoing.subject "U1" roadside.subject = t := by rw [hsubject, topic_topicOf]
  obtain ⟨x, hx⟩ : ∃ x, sample? roadside echoing 7 = some x :=
    Option.isSome_iff_exists.mp (by decide +kernel)
  obtain ⟨hunit, htopic⟩ := htags 7 x hx
  refine ⟨hlead, hu, haccepts, x, hx, hunit, ?_⟩
  rw [htopic, ← ht]
  decide

end Telemetry
end FleetBridge
