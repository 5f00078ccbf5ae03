import FleetBridge.Subject
import Mathlib.Data.List.Basic

/-!
The patterns of a channel. What is published below a unit's prefix is accepted by the pattern of
that unit and of no other.
-/
namespace FleetBridge.Subject

/-- One concrete token. -/
def IsToken (s : String) : Prop := tokens s = [s.toList] ∧ isConcreteToken s.toList = true

instance (s : String) : Decidable (IsToken s) := inferInstanceAs (Decidable (_ ∧ _))

theorem tokens_append_dot (s t : String) : tokens (s ++ "." ++ t) = tokens s ++ tokens t := by
  have hdot : (s ++ "." ++ t).toList = s.toList ++ '.' :: t.toList := by simp
  rw [tokens, hdot, List.splitOn_append_cons_self]
  rfl

theorem tokens_injective {s t : String} (h : tokens s = tokens t) : s = t := by
  have hjoin := congrArg (['.'].intercalate) h
  unfold tokens at hjoin
  rw [List.intercalate_splitOn, List.intercalate_splitOn] at hjoin
  exact String.toList_inj.mp hjoin

/-- Without wildcards only the very same tokens match. -/
theorem matchTokens_concrete {ps ts : List Token} (h : ps.all isConcreteToken = true) :
    matchTokens ps ts = true ↔ ts = ps := by
  induction ps generalizing ts with
  | nil => cases ts <;> simp [matchTokens]
  | cons p ps ih =>
    rw [List.all_cons, Bool.and_eq_true] at h
    obtain ⟨hp, hps⟩ := h
    unfold isConcreteToken at hp
    simp only [Bool.and_eq_true, bne_iff_ne, ne_eq, Bool.not_eq_true'] at hp
    obtain ⟨⟨hempty, hstar⟩, hrest⟩ := hp
    cases ts with
    | nil => simp [matchTokens]
    | cons t ts =>
      rw [matchTokens, if_neg hrest, if_neg hstar, List.cons.injEq]
      simp only [Bool.and_eq_true, decide_eq_true_eq, ih hps, Bool.not_eq_true']
      constructor
      · rintro ⟨⟨rfl, -⟩, rfl⟩
        exact ⟨rfl, rfl⟩
      · rintro ⟨rfl, rfl⟩
        exact ⟨⟨rfl, hempty⟩, rfl⟩

/-- A concrete pattern accepts itself and nothing else. -/
theorem accepts_concrete {p s : String} (h : isConcrete p = true) :
    accepts p s = true ↔ s = p := by
  rw [accepts, matchTokens_concrete h]
  exact ⟨tokens_injective, congrArg tokens⟩

variable {u v subject topicPrefix : String}

theorem tokens_telemetry (hu : IsToken u) (topicPrefix : String) :
    tokens (telemetry u topicPrefix) = u.toList :: (tokens topicPrefix ++ [rest]) := by
  have hsplit : telemetry u topicPrefix = u ++ "." ++ topicPrefix ++ "." ++ ">" := by
    have hdots : ".>" = "." ++ ">" := rfl
    rw [telemetry, hdots, ← String.append_assoc]
  rw [hsplit, tokens_append_dot, tokens_append_dot, hu.1]
  rfl

theorem telemetry_injective (hu : IsToken u) (hv : IsToken v)
    (h : telemetry u topicPrefix = telemetry v topicPrefix) : u = v := by
  have htokens := congrArg tokens h
  rw [tokens_telemetry hu, tokens_telemetry hv] at htokens
  exact String.toList_inj.mp (List.cons.inj htokens).1

/-- Only subjects of a unit itself are accepted by the pattern of the unit. -/
theorem tokens_of_accepts (hu : IsToken u) (h : accepts (telemetry u topicPrefix) subject = true) :
    ∃ ts, tokens subject = u.toList :: ts := by
  rw [accepts, tokens_telemetry hu] at h
  have hconcrete := hu.2
  unfold isConcreteToken at hconcrete
  simp only [Bool.and_eq_true, bne_iff_ne, ne_eq] at hconcrete
  obtain ⟨⟨-, hstar⟩, hrest⟩ := hconcrete
  cases htokens : tokens subject with
  | nil =>
    rw [htokens] at h
    cases h
  | cons t ts =>
    rw [htokens, matchTokens, if_neg hrest, if_neg hstar] at h
    simp only [Bool.and_eq_true, decide_eq_true_eq] at h
    exact ⟨ts, by rw [h.1.1]⟩

theorem unit?_of_accepts (hu : IsToken u) (h : accepts (telemetry u topicPrefix) subject = true) :
    unit? subject = some u := by
  obtain ⟨ts, hts⟩ := tokens_of_accepts hu h
  have hconcrete := hu.2
  unfold isConcreteToken at hconcrete
  simp only [Bool.and_eq_true, Bool.not_eq_true'] at hconcrete
  simp only [unit?, hts, hconcrete.1.1, Bool.false_eq_true, if_false, String.ofList_toList]

/-- No subject is accepted by the patterns of two units. -/
theorem unit_unique (hu : IsToken u) (hv : IsToken v)
    (h : accepts (telemetry u topicPrefix) subject = true)
    (h' : accepts (telemetry v topicPrefix) subject = true) : u = v :=
  Option.some.inj ((unit?_of_accepts hu h).symm.trans (unit?_of_accepts hv h'))

end FleetBridge.Subject
